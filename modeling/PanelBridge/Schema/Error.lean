import PanelBridge.Json.Printer
import PanelBridge.Text.Quoted

/-!
# Schema errors

Why a JSON value does not have the shape that a message asks for, and the wording of each reason.
-/

namespace PanelBridge

/-- What was found where something else was expected. -/
inductive Found where
  | null
  | bool (value : Bool)
  | num (value : Number)
  | str (value : String)
  | sequence
  | map

/-- The kind of a value, with the value itself if it is a scalar. -/
def Json.found : Json → Found
  | .null => .null
  | .bool b => .bool b
  | .num n => .num n
  | .str s => .str s
  | .arr _ => .sequence
  | .obj _ => .map

def Found.message : Found → String
  | .null => "null"
  | .bool b => "boolean `" ++ toString b ++ "`"
  | .num (.int n) => "integer `" ++ (Number.int n).text ++ "`"
  | .num (.float f) => "floating point `" ++ (Number.float f).text ++ "`"
  | .str s => "string " ++ Text.quoted s
  | .sequence => "sequence"
  | .map => "map"

/-- Why a value does not have the expected shape. -/
inductive SchemaError where
  | missingField (name : String)
  | duplicateField (name : String)
  | unknownField (name : String) (expected : List String)
  | unknownVariant (name : String) (expected : List String)
  | invalidType (found : Found) (expected : String)
  | outOfRange (value : Int) (expected : String)
  | invalidLength (length : Nat) (expected : String)
  | severalKeys

def ticked (name : String) : String := "`" ++ name ++ "`"

/-- The wording of a list of names to choose from. -/
def oneOf : List String → String
  | [] => "there are no fields"
  | [a] => ticked a
  | [a, b] => ticked a ++ " or " ++ ticked b
  | names => "one of " ++ ", ".intercalate (names.map ticked)

def SchemaError.message : SchemaError → String
  | .missingField name => "missing field " ++ ticked name
  | .duplicateField name => "duplicate field " ++ ticked name
  | .unknownField name expected => "unknown field " ++ ticked name ++ ", expected " ++ oneOf expected
  | .unknownVariant name expected =>
    "unknown variant " ++ ticked name ++ ", expected " ++ oneOf expected
  | .invalidType found expected => "invalid type: " ++ found.message ++ ", expected " ++ expected
  | .outOfRange n expected =>
    "invalid value: " ++ (Found.num (.int n)).message ++ ", expected " ++ expected
  | .invalidLength length expected =>
    "invalid length " ++ toString length ++ ", expected " ++ expected
  | .severalKeys => "invalid value: map, expected map with a single key"

end PanelBridge
