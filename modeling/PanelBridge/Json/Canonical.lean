import PanelBridge.Table
import PanelBridge.Json.Basic

/-!
# Canonical JSON

Objects with ascending keys. `Json.canonical` sorts the members of every object; of several members with the same
key the last one stays.
-/

namespace PanelBridge.Json

mutual

/-- The value with the members of every object sorted by key, the last of equal keys winning. -/
def canonical : Json → Json
  | .arr items => .arr (canonicalItems items)
  | .obj members => .obj (canonicalMembers members [])
  | v => v

def canonicalItems : List Json → List Json
  | [] => []
  | v :: rest => canonical v :: canonicalItems rest

/-- Inserts the members, each with its value in canonical form, into a sorted list. -/
def canonicalMembers : List (String × Json) → List (String × Json) → List (String × Json)
  | [], sorted => sorted
  | (key, v) :: rest, sorted => canonicalMembers rest (Table.insertEntry key (canonical v) sorted)

end

mutual

/-- Whether the keys of every object in the value strictly ascend. -/
def Canonical : Json → Prop
  | .arr items => CanonicalItems items
  | .obj members => Ascending members ∧ CanonicalMembers members
  | _ => True

def CanonicalItems : List Json → Prop
  | [] => True
  | v :: rest => Canonical v ∧ CanonicalItems rest

/-- Whether every member's value is canonical. -/
def CanonicalMembers : List (String × Json) → Prop
  | [] => True
  | (_, v) :: rest => Canonical v ∧ CanonicalMembers rest

end

end PanelBridge.Json
