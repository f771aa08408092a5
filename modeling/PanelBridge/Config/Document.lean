import PanelBridge.Config.Basic
import PanelBridge.Json.Reader.Text
import PanelBridge.Text.Lines

/-!
# Configuration files

A configuration file holds assignments of integers to keys, one a line, with comments and blank lines between them.
Keys are bare or quoted. Integers are decimal, hexadecimal, octal or binary, with underscores between digits, and fit
in 64 bits with a sign. A line of any other form is an error, and so is a repeated key.
-/

namespace PanelBridge.Config

/-- Whether a character separates the parts of a line. -/
def isGap (c : Char) : Bool := c = ' ' || c = '\t'

/-- Drops the gap before a part of a line. -/
def skipGap (cs : List Char) : List Char := cs.dropWhile isGap

/-- Whether a character is a control that may not stand in a line. -/
def isControl (c : Char) : Bool := (c.toNat < 0x20 && c != '\t') || c.toNat = 0x7F

/-- Whether nothing follows but a gap and a comment. -/
def isLineEnd (cs : List Char) : Bool :=
  match skipGap cs with
  | [] => true
  | c :: rest => c = '#' && !rest.any isControl

/-! ## Keys -/

/-- Whether a character may stand in a bare key. -/
def isBare (c : Char) : Bool := c.isAlphanum || c = '_' || c = '-'

def hexNumber? : (acc : Nat) → List Char → Option Nat
  | acc, [] => some acc
  | acc, c :: cs => (Json.hexValue? c).bind fun d => hexNumber? (acc * 16 + d) cs

/-- The character with a code point written in hexadecimal digits. -/
def codePoint? (ds : List Char) : Option Char :=
  (hexNumber? 0 ds).bind fun n => if n.isValidChar then some (Char.ofNat n) else none

/-- The character that a one-letter escape stands for. -/
def letterEscape? (c : Char) : Option Char :=
  if c = '/' then none else Json.letterEscape? c

/-- Reads a key in double quotes after the opening one; `acc` holds its characters so far, last first. -/
def quotedKey : (acc cs : List Char) → Option (String × List Char)
  | _, [] => none
  | acc, c :: cs =>
    if c = '"' then some (String.ofList acc.reverse, cs)
    else if c = '\\' then
      match cs with
      | 'u' :: a :: b :: c :: d :: rest =>
        (codePoint? [a, b, c, d]).bind fun e => quotedKey (e :: acc) rest
      | 'U' :: a :: b :: c :: d :: e :: f :: g :: h :: rest =>
        (codePoint? [a, b, c, d, e, f, g, h]).bind fun e => quotedKey (e :: acc) rest
      | e :: rest => (letterEscape? e).bind fun e => quotedKey (e :: acc) rest
      | [] => none
    else if isControl c then none
    else quotedKey (c :: acc) cs

/-- Reads a key in single quotes after the opening one. -/
def literalKey (cs : List Char) : Option (String × List Char) :=
  let body := cs.takeWhile fun c => c != '\x27' && !isControl c
  match cs.drop body.length with
  | '\x27' :: rest => some (String.ofList body, rest)
  | _ => none

def key (cs : List Char) : Option (String × List Char) :=
  match cs with
  | '"' :: rest => quotedKey [] rest
  | '\x27' :: rest => literalKey rest
  | _ =>
    let name := cs.takeWhile isBare
    if name.isEmpty then none else some (String.ofList name, cs.drop name.length)

/-! ## Integers -/

/-- The value of a digit in a base up to sixteen. -/
def digit? (base : Nat) (c : Char) : Option Nat :=
  (Json.hexValue? c).bind fun d => if d < base then some d else none

/-- Reads further digits, each with at most one underscore before it. -/
def moreDigits (base : Nat) : (acc : Nat) → List Char → Nat × List Char
  | acc, [] => (acc, [])
  | acc, c :: cs =>
    match digit? base c with
    | some d => moreDigits base (acc * base + d) cs
    | none =>
      if c = '_' then
        match cs with
        | e :: rest =>
          match digit? base e with
          | some d => moreDigits base (acc * base + d) rest
          | none => (acc, c :: cs)
        | [] => (acc, [c])
      else (acc, c :: cs)

def digitsIn (base : Nat) (cs : List Char) : Option (Nat × List Char) :=
  match cs with
  | c :: rest => (digit? base c).map fun d => moreDigits base d rest
  | [] => none

/-- Reads a decimal number without a leading zero. -/
def decimal (cs : List Char) : Option (Nat × List Char) :=
  match cs with
  | '0' :: rest => some (0, rest)
  | _ => digitsIn 10 cs

def integer (cs : List Char) : Option (Int × List Char) :=
  match cs with
  | '0' :: 'x' :: rest => (digitsIn 16 rest).map fun (n, cs) => ((n : Int), cs)
  | '0' :: 'o' :: rest => (digitsIn 8 rest).map fun (n, cs) => ((n : Int), cs)
  | '0' :: 'b' :: rest => (digitsIn 2 rest).map fun (n, cs) => ((n : Int), cs)
  | '+' :: rest => (decimal rest).map fun (n, cs) => ((n : Int), cs)
  | '-' :: rest => (decimal rest).map fun (n, cs) => (-(n : Int), cs)
  | _ => (decimal cs).map fun (n, cs) => ((n : Int), cs)

/-! ## Lines and files -/

def assignment (cs : List Char) : Option (String × Int) := do
  let (name, cs) ← key cs
  match skipGap cs with
  | '=' :: cs =>
    let (n, cs) ← integer (skipGap cs)
    if isLineEnd cs && -(Nat.pow 2 63) ≤ n && n < Nat.pow 2 63 then some (name, n) else none
  | _ => none

/-- Reads a line: its assignment, if it has one. -/
def line (cs : List Char) : Option (Option (String × Int)) :=
  if isLineEnd cs then some none else (assignment (skipGap cs)).map some

/-- A line without one carriage return at its end. -/
def withoutReturn (cs : List Char) : List Char :=
  if cs.getLast? = some '\r' then cs.dropLast else cs

/-- The lines without the carriage returns that belong to their ends. The last line has no end. -/
def withoutReturns : List (List Char) → List (List Char)
  | [] => []
  | [last] => [last]
  | cs :: rest => withoutReturn cs :: withoutReturns rest

/-- Reads the lines one after the other; `seen` are the assignments before, last first. -/
def assignments : (seen : List (String × Int)) → List (List Char) → Option (List (String × Int))
  | seen, [] => some seen.reverse
  | seen, cs :: rest =>
    match line cs with
    | none => none
    | some none => assignments seen rest
    | some (some (name, n)) =>
      if seen.any (·.1 == name) then none else assignments ((name, n) :: seen) rest

/-- The assignments of a file. A byte order mark may stand at its start. -/
def document (text : String) : Option (List (String × Int)) :=
  let cs := match text.toList with
    | c :: rest => if c.toNat = 0xFEFF then rest else c :: rest
    | [] => []
  assignments [] (withoutReturns (Text.lines cs))

end PanelBridge.Config

namespace PanelBridge

/-- What stands at the place of a configuration file. -/
inductive ConfigSource where
  | missing
  | unreadable
  | text (text : String)

/-- Why there is no configuration. -/
inductive ConfigError where
  | unreadable
  | malformed
deriving DecidableEq, Repr

/-- The configuration in a file. A missing file stands for the defaults. -/
def PanelConfig.load : ConfigSource → Except ConfigError PanelConfig
  | .missing => .ok {}
  | .unreadable => .error .unreadable
  | .text text =>
    match Config.document text with
    | none => .error .malformed
    | some entries =>
      (PanelConfig.decode (.obj (entries.map fun (name, n) => (name, .int n)))).mapError
        fun _ => .malformed

end PanelBridge
