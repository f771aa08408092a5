import PanelBridge.Decimal.Shortest
import PanelBridge.Json.Basic

/-!
# Compact JSON text

Values are written without blanks. A string escapes the quote, the backslash and the controls below U+0020 and
nothing else. A double has the fewest digits that read back; it is written positionally from 1e-5 up to 1e16, with
at least one digit after the point, and with a signed exponent otherwise.
-/

namespace PanelBridge

namespace Decimal

def natChars (n : Nat) : List Char := Nat.toDigits 10 n

def intChars (n : Int) : List Char :=
  match n with
  | .ofNat n => natChars n
  | .negSucc n => '-' :: natChars (n + 1)

/-- Positional up to this many digits before the point. -/
def positionalDigits : Int := 16

/-- Positional with fewer than this many zeros after the point before the first digit, counting one more. -/
def positionalZeros : Int := 5

/-- A positive decimal, positional or with an exponent. -/
def Scientific.chars (s : Scientific) : List Char :=
  let ds := natChars s.digits
  let point := (ds.length : Int) + s.exponent
  if 0 ≤ s.exponent && point ≤ positionalDigits then
    ds ++ List.replicate s.exponent.toNat '0' ++ ['.', '0']
  else if 0 < point && point ≤ positionalDigits then
    ds.take point.toNat ++ '.' :: ds.drop point.toNat
  else if -positionalZeros < point && point ≤ 0 then
    ['0', '.'] ++ List.replicate (-point).toNat '0' ++ ds
  else
    let exponent := point - 1
    let mantissa := match ds with
      | [d] => [d]
      | d :: rest => d :: '.' :: rest
      | [] => []
    let mark := if exponent < 0 then ['e', '-'] else ['e', '+']
    mantissa ++ mark ++ natChars exponent.natAbs

/-- A finite double. -/
def floatChars (f : Float) : List Char :=
  let bits := f.toBits
  let sign := if bits.toNat / Nat.pow 2 63 = 1 then ['-'] else []
  let b := BinaryFraction.ofBits bits
  sign ++ if b.significand = 0 then ['0', '.', '0'] else (shortest b).chars

end Decimal

def Number.chars : Number → List Char
  | .int n => Decimal.intChars n
  | .float f => Decimal.floatChars f

def Number.text (n : Number) : String := String.ofList n.chars

namespace Json

/-- The lower-case hexadecimal digit of a number below sixteen. -/
def hexDigit (n : Nat) : Char :=
  if n < 10 then Char.ofNat (48 + n) else Char.ofNat (87 + n)

/-- A character as it stands inside a JSON string. -/
def escapeChar (c : Char) : List Char :=
  if c = '"' then ['\\', '"']
  else if c = '\\' then ['\\', '\\']
  else if c.toNat < 0x20 then
    if c.toNat = 0x08 then ['\\', 'b']
    else if c.toNat = 0x09 then ['\\', 't']
    else if c.toNat = 0x0A then ['\\', 'n']
    else if c.toNat = 0x0C then ['\\', 'f']
    else if c.toNat = 0x0D then ['\\', 'r']
    else ['\\', 'u', '0', '0', hexDigit (c.toNat / 16), hexDigit (c.toNat % 16)]
  else [c]

/-- The text of a string, quotes included. -/
def stringChars (s : String) : List Char :=
  '"' :: (s.toList.flatMap escapeChar ++ ['"'])

mutual

def chars : Json → List Char
  | .null => ['n', 'u', 'l', 'l']
  | .bool true => ['t', 'r', 'u', 'e']
  | .bool false => ['f', 'a', 'l', 's', 'e']
  | .num n => n.chars
  | .str s => stringChars s
  | .arr [] => ['[', ']']
  | .arr (v :: rest) => '[' :: (chars v ++ itemChars rest)
  | .obj [] => ['\x7b', '\x7d']
  | .obj ((key, v) :: rest) => '\x7b' :: (stringChars key ++ ':' :: (chars v ++ memberChars rest))

/-- The rest of a list after an item. -/
def itemChars : List Json → List Char
  | [] => [']']
  | v :: rest => ',' :: (chars v ++ itemChars rest)

/-- The rest of an object after a member. -/
def memberChars : List (String × Json) → List Char
  | [] => ['\x7d']
  | (key, v) :: rest => ',' :: (stringChars key ++ ':' :: (chars v ++ memberChars rest))

end

def render (v : Json) : String := String.ofList (chars v)

/-- The number of bytes of the compact text. -/
def byteSize (v : Json) : Nat := (render v).utf8ByteSize

end Json

end PanelBridge
