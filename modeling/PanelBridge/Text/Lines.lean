/-!
# Lines of a text

A text is split at its line feeds, so joining two texts with a line feed joins their lines.
-/

namespace PanelBridge.Text

/-- The lines of the characters; `acc` holds the current line so far, last character first. -/
def linesAfter : (acc cs : List Char) → List (List Char)
  | acc, [] => [acc.reverse]
  | acc, c :: cs => if c = '\n' then acc.reverse :: linesAfter [] cs else linesAfter (c :: acc) cs

/-- The lines of the characters. What follows the last line feed is a line too. -/
def lines (cs : List Char) : List (List Char) := linesAfter [] cs

theorem linesAfter_append (acc a b : List Char) :
    linesAfter acc (a ++ '\n' :: b) = linesAfter acc a ++ lines b := by
  induction a generalizing acc with
  | nil => simp [linesAfter, lines]
  | cons c a ih => by_cases h : c = '\n' <;> simp [linesAfter, h, ih]

/-- The lines of two texts that a line feed joins are the lines of one and then those of the other. -/
theorem lines_append (a b : List Char) : lines (a ++ '\n' :: b) = lines a ++ lines b :=
  linesAfter_append [] a b

end PanelBridge.Text
