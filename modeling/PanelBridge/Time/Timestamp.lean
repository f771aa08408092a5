import PanelBridge.Text.Blank
import PanelBridge.Time.Instant

/-!
# Timestamps

Two grammars for a date, a time of day and an offset from UTC. The strict one has fixed widths and no blanks. The
relaxed one allows blanks before numbers and marks, short numbers, years with a sign and any run of colons and blanks
inside the offset. Both demand a real date and a real time of day; second 60 is allowed in every minute.
-/

namespace PanelBridge.Timestamp

/-- The parts of a timestamp. `offset` counts the seconds by which local time is ahead of UTC. -/
structure Fields where
  date : Date
  hour : Nat
  minute : Nat
  second : Nat
  nanos : Nat
  offset : Int
deriving DecidableEq, Repr

/-- The first and the last year of the relaxed grammar. -/
def yearRange : Int × Int := (-262143, 262142)

def isKnownYear (year : Int) : Bool := yearRange.1 ≤ year && year ≤ yearRange.2

/-- Whether the parts are those of a real date, time of day and offset. -/
def Fields.isReal (f : Fields) : Bool :=
  isKnownYear f.date.year && f.date.isReal && f.hour ≤ 23 && f.minute ≤ 59 && f.second ≤ 60
    && f.offset.natAbs < Instant.secondsPerDay

/-- The instant that the parts name. Second 60 is the leap second after second 59. -/
def Fields.instant (f : Fields) : Instant :=
  let second : Nat := f.hour * 3600 + f.minute * 60 + min f.second 59
  { seconds := f.date.toDays * Instant.secondsPerDay + second - f.offset
    nanos := f.nanos + if f.second = 60 then Instant.nanosPerSecond else 0 }

/-- The instant of real parts, unless its date in UTC is out of range. -/
def Fields.toInstant? (f : Fields) : Option Instant :=
  if f.isReal then
    let t := f.instant
    if isKnownYear (Date.ofDays (t.seconds / Instant.secondsPerDay)).year then some t else none
  else none

/-! ## Scanning -/

def digitsValue (ds : List Char) : Nat :=
  ds.foldl (fun n c => n * 10 + (c.toNat - 48)) 0

/-- Takes the digits at the start, at least one and at most `most`. -/
def number (most : Nat) (cs : List Char) : Option (Nat × List Char) :=
  let ds := (cs.take most).takeWhile Char.isDigit
  if ds.isEmpty then none else some (digitsValue ds, cs.drop ds.length)

/-- Takes exactly `width` digits. -/
def fixedNumber (width : Nat) (cs : List Char) : Option (Nat × List Char) :=
  let ds := cs.take width
  if ds.length = width && ds.all Char.isDigit then some (digitsValue ds, cs.drop width) else none

def mark (expected : Char) : List Char → Option (List Char)
  | c :: cs => if c = expected then some cs else none
  | [] => none

/-- Takes the separator of date and time: a letter T or a space. -/
def dateTimeMark : List Char → Option (List Char)
  | c :: cs => if c = 'T' || c = 't' || c = ' ' then some cs else none
  | [] => none

/-- Takes an optional fraction of a second: a point and at least one digit. Digits past the ninth are dropped. -/
def fraction (cs : List Char) : Option (Nat × List Char) :=
  match cs with
  | '.' :: rest =>
    let ds := rest.takeWhile Char.isDigit
    if ds.isEmpty then none
    else
      let kept := ds.take 9
      some (digitsValue kept * Nat.pow 10 (9 - kept.length), rest.drop ds.length)
  | _ => some (0, cs)

/-- Takes the sign of an offset: whether it is negative, and the rest. -/
def offsetSign : List Char → Option (Bool × List Char)
  | c :: cs =>
    if c = '+' then some (false, cs)
    else if c = '-' || c.toNat = 0x2212 then some (true, cs)
    else none
  | [] => none

/-- Takes an offset: the letter Z, or a sign, two digits for hours, what `separator` takes, and two digits for
minutes below 60. -/
def offset (separator : List Char → Option (List Char)) (cs : List Char) :
    Option (Int × List Char) :=
  match cs with
  | 'Z' :: rest => some (0, rest)
  | 'z' :: rest => some (0, rest)
  | _ => do
    let (negative, cs) ← offsetSign cs
    let (hours, cs) ← fixedNumber 2 cs
    let cs ← separator cs
    let (minutes, cs) ← fixedNumber 2 cs
    if minutes < 60 then
      let size : Int := hours * 3600 + minutes * 60
      return (if negative then -size else size, cs)
    else none

/-! ## The strict grammar -/

/-- Reads a timestamp of fixed widths, nothing before or after it. -/
def strictFields (cs : List Char) : Option Fields := do
  let (year, cs) ← fixedNumber 4 cs
  let cs ← mark '-' cs
  let (month, cs) ← fixedNumber 2 cs
  let cs ← mark '-' cs
  let (day, cs) ← fixedNumber 2 cs
  let cs ← dateTimeMark cs
  let (hour, cs) ← fixedNumber 2 cs
  let cs ← mark ':' cs
  let (minute, cs) ← fixedNumber 2 cs
  let cs ← mark ':' cs
  let (second, cs) ← fixedNumber 2 cs
  let (nanos, cs) ← fraction cs
  let (offset, cs) ← offset (mark ':') cs
  if cs.isEmpty then
    some { date := ⟨year, month, day⟩, hour, minute, second, nanos, offset }
  else none

/-- The instant of a strict timestamp. -/
def strict (s : String) : Option Instant := (strictFields s.toList).bind Fields.toInstant?

/-! ## The relaxed grammar -/

/-- Takes a year: up to four digits, or a sign and any number of digits. -/
def relaxedYear (cs : List Char) : Option (Int × List Char) :=
  match cs with
  | '-' :: rest => (number rest.length rest).map fun (n, cs) => (-(n : Int), cs)
  | '+' :: rest => (number rest.length rest).map fun (n, cs) => ((n : Int), cs)
  | _ => (number 4 cs).map fun (n, cs) => ((n : Int), cs)

/-- Takes a number of one or two digits after blanks. -/
def relaxedNumber (cs : List Char) : Option (Nat × List Char) := number 2 (Text.trimStart cs)

/-- Takes a character after blanks. -/
def relaxedMark (expected : Char) (cs : List Char) : Option (List Char) :=
  mark expected (Text.trimStart cs)

/-- Takes the offset: the word UTC in any case, or an offset whose hours and minutes may have colons and blanks
between them. -/
def relaxedOffset (cs : List Char) : Option (Int × List Char) :=
  if (cs.take 3).map Char.toLower = ['u', 't', 'c'] then some (0, cs.drop 3)
  else offset (fun cs => some (cs.dropWhile fun c => c = ':' || Text.isBlank c)) cs

/-- Reads a relaxed timestamp, with blanks allowed after it. -/
def relaxedFields (cs : List Char) : Option Fields := do
  let (year, cs) ← relaxedYear (Text.trimStart cs)
  let cs ← relaxedMark '-' cs
  let (month, cs) ← relaxedNumber cs
  let cs ← relaxedMark '-' cs
  let (day, cs) ← relaxedNumber cs
  let cs ← dateTimeMark cs
  let (hour, cs) ← relaxedNumber cs
  let cs ← relaxedMark ':' cs
  let (minute, cs) ← relaxedNumber cs
  let cs ← relaxedMark ':' cs
  let (second, cs) ← relaxedNumber cs
  let (nanos, cs) ← fraction cs
  let (offset, cs) ← relaxedOffset (Text.trimStart cs)
  if (Text.trimStart cs).isEmpty then
    some { date := ⟨year, month, day⟩, hour, minute, second, nanos, offset }
  else none

/-- The instant of a relaxed timestamp. -/
def relaxed (s : String) : Option Instant := (relaxedFields s.toList).bind Fields.toInstant?

end PanelBridge.Timestamp
