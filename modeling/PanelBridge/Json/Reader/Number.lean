import PanelBridge.Json.Basic
import PanelBridge.Json.Syntax

/-!
# Reading numbers

A number without point and exponent is an integer if it fits in 64 bits, signed or not. Every other number is a
double: its digits are collected into a 64-bit significand, further digits only move the exponent, and the result
is the significand multiplied or divided by a power of ten. A result beyond the doubles is an error.
-/

namespace PanelBridge.Json

def digitValue (c : Char) : Nat := c.toNat - 48

/-- Whether the next character is a digit. -/
def startsWithDigit : List Char → Bool
  | c :: _ => c.isDigit
  | [] => false

/-- Appends digits to `significand` as long as it stays in 64 bits. Gives the significand, the number of digits
taken on top of `count`, and the rest. -/
def absorb : (significand count : Nat) → List Char → Nat × Nat × List Char
  | significand, count, [] => (significand, count, [])
  | significand, count, c :: cs =>
    if c.isDigit && significand * 10 + digitValue c < UInt64.size then
      absorb (significand * 10 + digitValue c) (count + 1) cs
    else (significand, count, c :: cs)

/-- The double nearest to a power of ten. -/
def powerOfTen (n : Nat) : Float := Float.ofScientific 1 false n

/-- The largest power of ten that is a double. -/
def largestPower : Nat := 308

/-- Divides by `10 ^ n`, in steps when the power is no double. -/
def scaleDown (f : Float) (n : Nat) : Float :=
  if n ≤ largestPower then f / powerOfTen n
  else if f == 0.0 then f
  else scaleDown (f / powerOfTen largestPower) (n - largestPower)
termination_by n
decreasing_by simp only [largestPower] at *; omega

/-- The size of the double `significand * 10 ^ exponent`, unless it is too large. -/
def scale (significand : Nat) : (exponent : Int) → Option Float
  | .negSucc n => some (scaleDown (Float.ofNat significand) (n + 1))
  | .ofNat n =>
    if n ≤ largestPower then
      let f := Float.ofNat significand * powerOfTen n
      if f.isInf then none else some f
    else if significand = 0 then some 0.0
    else none

def signed (negative : Bool) (f : Float) : Number := .float (if negative then -f else f)

/-- Ends a number with a point or an exponent in front of `rest`. -/
def finishFloat (negative : Bool) (significand : Nat) (exponent : Int) (rest : List Char) :
    Except Stop (Number × List Char) :=
  match scale significand exponent with
  | some f => .ok (signed negative f, rest)
  | none => .error (stopBefore .numberOutOfRange rest)

/-- The largest exponent that is read exactly. -/
def largestExponent : Nat := Nat.pow 2 31 - 1

/-- Reads the digits of an exponent: the exponent and the rest, or what follows the digit that made it too
large. -/
def exponentDigits : (exponent : Nat) → List Char → Except (List Char) (Nat × List Char)
  | exponent, [] => .ok (exponent, [])
  | exponent, c :: cs =>
    if c.isDigit then
      if exponent * 10 + digitValue c ≤ largestExponent then
        exponentDigits (exponent * 10 + digitValue c) cs
      else .error cs
    else .ok (exponent, c :: cs)

/-- Takes the sign of an exponent: whether it is positive, and the rest. -/
def exponentSign : List Char → Bool × List Char
  | '+' :: cs => (true, cs)
  | '-' :: cs => (false, cs)
  | cs => (true, cs)

/-- Reads an exponent after its mark and ends the number. -/
def exponentPart (negative : Bool) (significand : Nat) (exponent : Int) (cs : List Char) :
    Except Stop (Number × List Char) :=
  let (positive, cs) := exponentSign cs
  match cs with
  | [] => .error (stopOn .endInValue [])
  | c :: _ =>
    if c.isDigit then
      match exponentDigits 0 cs with
      | .ok (n, rest) =>
        finishFloat negative significand (if positive then exponent + n else exponent - n) rest
      | .error rest =>
        if significand ≠ 0 && positive then .error (stopBefore .numberOutOfRange rest)
        else .ok (signed negative 0.0, rest.dropWhile Char.isDigit)
    else .error (stopOn .invalidNumber cs)

/-- Reads an exponent if there is one and ends the number. -/
def exponentOrEnd (negative : Bool) (significand : Nat) (exponent : Int) (cs : List Char) :
    Except Stop (Number × List Char) :=
  match cs with
  | c :: rest =>
    if c = 'e' || c = 'E' then exponentPart negative significand exponent rest
    else finishFloat negative significand exponent cs
  | [] => finishFloat negative significand exponent []

/-- Reads the digits after a point and what follows them. -/
def fractionPart (negative : Bool) (significand : Nat) (exponent : Int) (cs : List Char) :
    Except Stop (Number × List Char) :=
  let (significand, count, rest) := absorb significand 0 cs
  if startsWithDigit rest then
    exponentOrEnd negative significand (exponent - count) (rest.dropWhile Char.isDigit)
  else if count = 0 then
    match rest with
    | [] => .error (stopOn .endInValue [])
    | _ :: _ => .error (stopOn .invalidNumber rest)
  else exponentOrEnd negative significand (exponent - count) rest

/-- The integer with the given sign and size, or the double if it does not fit; minus zero is a double. -/
def integer (negative : Bool) (significand : Nat) : Number :=
  if !negative then .int significand
  else if 0 < significand && significand ≤ Nat.pow 2 63 then .int (-(significand : Int))
  else .float (-(Float.ofNat significand))

/-- Ends a number whose integer digits fit in 64 bits. -/
def afterInteger (negative : Bool) (significand : Nat) (cs : List Char) :
    Except Stop (Number × List Char) :=
  match cs with
  | c :: rest =>
    if c = '.' then fractionPart negative significand 0 rest
    else if c = 'e' || c = 'E' then exponentPart negative significand 0 rest
    else .ok (integer negative significand, cs)
  | [] => .ok (integer negative significand, [])

/-- Ends a number with more integer digits than fit in 64 bits; `cs` starts with the first of these. -/
def afterLongInteger (negative : Bool) (significand : Nat) (cs : List Char) :
    Except Stop (Number × List Char) :=
  let exponent : Int := (cs.takeWhile Char.isDigit).length
  match cs.dropWhile Char.isDigit with
  | '.' :: rest => fractionPart negative significand exponent rest
  | rest => exponentOrEnd negative significand exponent rest

def number (negative : Bool) (cs : List Char) : Except Stop (Number × List Char) :=
  match cs with
  | [] => .error (stopOn .endInValue [])
  | c :: rest =>
    if c = '0' then
      if startsWithDigit rest then .error (stopOn .invalidNumber rest)
      else afterInteger negative 0 rest
    else if c.isDigit then
      let (significand, _, rest) := absorb 0 0 cs
      if startsWithDigit rest then afterLongInteger negative significand rest
      else afterInteger negative significand rest
    else .error (stopOn .invalidNumber cs)

end PanelBridge.Json
