import PanelBridge.Text.Hidden

/-!
# Quoted text

A text between double quotes, as error messages show it. Quotes and backslashes are escaped, the usual controls
have a letter, and every other hidden character is written by its code point.
-/

namespace PanelBridge.Text

/-- A character as it stands inside a quoted text. -/
def quotedChar (c : Char) : List Char :=
  if c = '"' then ['\\', '"']
  else if c = '\\' then ['\\', '\\']
  else if c = '\n' then ['\\', 'n']
  else if c = '\r' then ['\\', 'r']
  else if c = '\t' then ['\\', 't']
  else if c.toNat = 0 then ['\\', '0']
  else if isHidden c then ['\\', 'u', '\x7b'] ++ Nat.toDigits 16 c.toNat ++ ['\x7d']
  else [c]

def quoted (s : String) : String :=
  String.ofList (['"'] ++ s.toList.flatMap quotedChar ++ ['"'])

end PanelBridge.Text
