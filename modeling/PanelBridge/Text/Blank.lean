import PanelBridge.Text.Range

/-!
# Blank characters

The White_Space class of Unicode, and trimming by it. The information separators U+001C to U+001F, the
Mongolian vowel separator U+180E, the zero width space U+200B and the byte order mark U+FEFF are not in the
class.
-/

namespace PanelBridge.Text

/-- The code points with the White_Space property. -/
def blankRanges : List (Nat × Nat) :=
  [(0x0009, 0x000D), (0x0020, 0x0020), (0x0085, 0x0085), (0x00A0, 0x00A0), (0x1680, 0x1680),
   (0x2000, 0x200A), (0x2028, 0x2029), (0x202F, 0x202F), (0x205F, 0x205F), (0x3000, 0x3000)]

/-- Whether a character has the White_Space property. -/
def isBlank (c : Char) : Bool := inRanges blankRanges c

def trimStart (cs : List Char) : List Char := cs.dropWhile isBlank

def trimEnd (cs : List Char) : List Char := (cs.reverse.dropWhile isBlank).reverse

def trimChars (cs : List Char) : List Char := trimEnd (trimStart cs)

/-- The text without the blanks at both ends. -/
def trim (s : String) : String := String.ofList (trimChars s.toList)

/-- Whether a text holds nothing but blanks. -/
def isBlankText (s : String) : Bool := s.toList.all isBlank

end PanelBridge.Text
