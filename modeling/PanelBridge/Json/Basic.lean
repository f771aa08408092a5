/-!
# JSON values

A value holds its numbers as 64-bit integers or as doubles, and its objects as lists of members in the order of
the text. An object is *canonical* when its keys ascend, so that every key occurs once; `Json.canonical` brings a
value into that form, the last of several members with one key winning.
-/

namespace PanelBridge

/-- A number of a document: an integer in the range of 64 bits, signed or not, or a double. -/
inductive Number where
  | int (value : Int)
  | float (value : Float)

instance : Inhabited Number := ⟨.int 0⟩

/-- A JSON value. -/
inductive Json where
  | null
  | bool (value : Bool)
  | num (value : Number)
  | str (value : String)
  | arr (items : List Json)
  | obj (members : List (String × Json))
deriving Inhabited

namespace Json

def int (n : Int) : Json := .num (.int n)

def nat (n : Nat) : Json := .num (.int n)

def ofOption {α : Type} (encode : α → Json) : Option α → Json
  | some a => encode a
  | none => .null

def ofList {α : Type} (encode : α → Json) (items : List α) : Json := .arr (items.map encode)

def isNull : Json → Bool
  | .null => true
  | _ => false

def members? : Json → Option (List (String × Json))
  | .obj members => some members
  | _ => none

/-- The value of the first member with a key. -/
def member (members : List (String × Json)) (key : String) : Option Json :=
  members.lookup key

def get? (v : Json) (key : String) : Option Json :=
  v.members?.bind (member · key)

end Json

end PanelBridge
