import PanelBridge.Json.Syntax

/-!
# Reading strings

The text of a string after its opening quote. A code point beyond U+FFFF may be escaped as a pair of surrogates; a
surrogate outside such a pair is an error.
-/

namespace PanelBridge.Json

def hexValue? (c : Char) : Option Nat :=
  if c.isDigit then some (c.toNat - 48)
  else if 'a' ≤ c && c ≤ 'f' then some (c.toNat - 87)
  else if 'A' ≤ c && c ≤ 'F' then some (c.toNat - 55)
  else none

/-- The value of four hexadecimal digits. -/
def hexUnit? (a b c d : Char) : Option Nat := do
  let a ← hexValue? a
  let b ← hexValue? b
  let c ← hexValue? c
  let d ← hexValue? d
  return ((a * 16 + b) * 16 + c) * 16 + d

/-- Stops in a hexadecimal escape whose digits should start `cs`. With fewer than four bytes left the text has ended,
otherwise the four bytes are no digits. -/
def stopInHex (cs : List Char) : Stop :=
  if byteCount (cs.take 4) < 4 then stopOn .endInString []
  else ⟨.invalidEscape, byteCount cs - 4⟩

/-- The character that a one-letter escape stands for. -/
def letterEscape? (c : Char) : Option Char :=
  if c = '"' then some '"'
  else if c = '\\' then some '\\'
  else if c = '/' then some '/'
  else if c = 'b' then some (Char.ofNat 0x08)
  else if c = 'f' then some (Char.ofNat 0x0C)
  else if c = 'n' then some '\n'
  else if c = 'r' then some '\r'
  else if c = 't' then some '\t'
  else none

/-- Whether a unit is the first of a surrogate pair. -/
def isHighSurrogate (n : Nat) : Bool := 0xD800 ≤ n && n ≤ 0xDBFF

/-- Whether a unit is the second of a surrogate pair. -/
def isLowSurrogate (n : Nat) : Bool := 0xDC00 ≤ n && n ≤ 0xDFFF

/-- The character that a surrogate pair stands for. -/
def pairChar (high low : Nat) : Char :=
  Char.ofNat (0x10000 + (high - 0xD800) * 0x400 + (low - 0xDC00))

/-- Reads a string after its opening quote; `acc` holds the characters so far, last first. Gives the characters and
what follows the closing quote. -/
def stringBody : (acc cs : List Char) → Except Stop (List Char × List Char)
  | _, [] => .error (stopOn .endInString [])
  | acc, c :: cs =>
    if c = '"' then .ok (acc.reverse, cs)
    else if c = '\\' then
      match cs with
      | [] => .error (stopOn .endInString [])
      | e :: cs =>
        if e = 'u' then
          match cs with
          | h₁ :: h₂ :: h₃ :: h₄ :: rest =>
            match hexUnit? h₁ h₂ h₃ h₄ with
            | none => .error (stopInHex (h₁ :: h₂ :: h₃ :: h₄ :: rest))
            | some unit =>
              if isLowSurrogate unit then .error (stopBefore .loneSurrogate rest)
              else if isHighSurrogate unit then
                match rest with
                | [] => .error (stopOn .endInString [])
                | b :: rest =>
                  if b ≠ '\\' then .error (stopOn .unfinishedSurrogate (b :: rest))
                  else match rest with
                  | [] => .error (stopOn .endInString [])
                  | u :: rest =>
                    if u ≠ 'u' then .error (stopOn .unfinishedSurrogate (u :: rest))
                    else match rest with
                    | l₁ :: l₂ :: l₃ :: l₄ :: rest =>
                      match hexUnit? l₁ l₂ l₃ l₄ with
                      | none => .error (stopInHex (l₁ :: l₂ :: l₃ :: l₄ :: rest))
                      | some low =>
                        if isLowSurrogate low then stringBody (pairChar unit low :: acc) rest
                        else .error (stopBefore .loneSurrogate rest)
                    | short => .error (stopInHex short)
              else stringBody (Char.ofNat unit :: acc) rest
          | short => .error (stopInHex short)
        else
          match letterEscape? e with
          | some d => stringBody (d :: acc) cs
          | none => .error (stopOn .invalidEscape (e :: cs))
    else if c.toNat < 0x20 then .error (stopOn .controlCharacter (c :: cs))
    else stringBody (c :: acc) cs

/-- Reads a string after its opening quote. -/
def string (cs : List Char) : Except Stop (String × List Char) :=
  match stringBody [] cs with
  | .ok (body, rest) => .ok (String.ofList body, rest)
  | .error stop => .error stop

end PanelBridge.Json
