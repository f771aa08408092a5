import PanelBridge.Time.Calendar

/-!
# Instants

A point in time: whole seconds from 1970-01-01T00:00:00 in UTC and nanoseconds. During a leap second the seconds stand
still and the nanoseconds run on beyond one thousand million.
-/

namespace PanelBridge

/-- A point in time in UTC. -/
structure Instant where
  seconds : Int
  nanos : Nat
deriving DecidableEq, Repr, Inhabited

namespace Instant

def nanosPerSecond : Nat := 1000000000

/-- The seconds of a day without leap seconds. -/
def secondsPerDay : Nat := 86400

/-- The instant that lies a number of milliseconds after 1970-01-01T00:00:00. -/
def ofMillis (ms : Int) : Instant := ⟨ms / 1000, (ms % 1000).toNat * 1000000⟩

/-- The milliseconds from 1970-01-01T00:00:00, rounded down. -/
def toMillis (t : Instant) : Int := t.seconds * 1000 + (t.nanos / 1000000 : Nat)

/-- Whether the instant lies in a leap second. -/
def isLeap (t : Instant) : Bool := nanosPerSecond ≤ t.nanos

def secondOfDay (t : Instant) : Int := t.seconds % secondsPerDay

/-- The leap second that the passage between two instants runs through: the one of the earlier time of day. -/
def leapBetween (later earlier : Instant) : Int :=
  if earlier.secondOfDay < later.secondOfDay then if earlier.isLeap then 1 else 0
  else if later.secondOfDay < earlier.secondOfDay then if later.isLeap then -1 else 0
  else 0

/-- The nanoseconds from `earlier` to `later`, negative if `later` is before `earlier`. -/
def elapsed (later earlier : Instant) : Int :=
  (later.seconds - earlier.seconds + leapBetween later earlier) * nanosPerSecond
    + (later.nanos - earlier.nanos : Int)

/-- A number with leading zeros up to a width. -/
def padded (width n : Nat) : String :=
  let ds := Nat.toDigits 10 n
  String.ofList (List.replicate (width - ds.length) '0' ++ ds)

/-- A year: four digits from 0 to 9999, otherwise a sign and at least four digits. -/
def yearText (year : Int) : String :=
  if 0 ≤ year ∧ year ≤ 9999 then padded 4 year.toNat
  else (if year < 0 then "-" else "+") ++ padded 4 year.natAbs

/-- The fraction of a second with the fewest of no, three, six or nine digits that are exact. -/
def fractionText (nanos : Nat) : String :=
  if nanos = 0 then ""
  else if nanos % 1000000 = 0 then "." ++ padded 3 (nanos / 1000000)
  else if nanos % 1000 = 0 then "." ++ padded 6 (nanos / 1000)
  else "." ++ padded 9 nanos

/-- The instant as a UTC timestamp. A leap second is second 60. -/
def text (t : Instant) : String :=
  let date := Date.ofDays (t.seconds / secondsPerDay)
  let second := t.secondOfDay.toNat
  let leap := t.nanos / nanosPerSecond
  yearText date.year ++ "-" ++ padded 2 date.month ++ "-" ++ padded 2 date.day ++ "T"
    ++ padded 2 (second / 3600) ++ ":" ++ padded 2 (second / 60 % 60) ++ ":"
    ++ padded 2 (second % 60 + leap) ++ fractionText (t.nanos % nanosPerSecond) ++ "Z"

end Instant

end PanelBridge
