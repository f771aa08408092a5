/-!
# Ranges of code points

A class of characters is given by a list of closed ranges of code points.
-/

namespace PanelBridge.Text

/-- Whether a character lies in one of the closed ranges. -/
def inRanges (ranges : List (Nat × Nat)) (c : Char) : Bool :=
  ranges.any fun r => r.1 ≤ c.toNat && c.toNat ≤ r.2

end PanelBridge.Text
