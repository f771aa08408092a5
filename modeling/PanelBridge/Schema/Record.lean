import PanelBridge.Schema.Decoder

/-!
# Decoders for records

A record is written as an object with named members, or as a list of its fields in declaration order. The members
of an object are looked at in the order in which they stand, and the first one that is unknown, repeated or of the
wrong shape is reported; a missing field is reported only when all members are in order. In the list form a field
at the end may be left out if it has a default.
-/

namespace PanelBridge

namespace Schema

/-- A field of a record: its name, whether it may be left out, and what its value must look like. -/
structure Field where
  name : String
  required : Bool
  check : Json → Except SchemaError Unit

def field {α : Type} (name : String) (d : Decoder α) : Field :=
  ⟨name, true, fun v => (d v).map fun _ => ()⟩

def fieldOr {α : Type} (name : String) (d : Decoder α) : Field :=
  ⟨name, false, fun v => (d v).map fun _ => ()⟩

/-- The shape of a record. An open record lets members pass that it does not know. -/
structure Shape where
  name : String
  fields : List Field
  isOpen : Bool

namespace Shape

/-- The names of the fields in declaration order. -/
def names (shape : Shape) : List String := shape.fields.map (·.name)

/-- Looks at the members one after the other; `seen` are the names met before. -/
def scan (shape : Shape) : (seen : List String) → List (String × Json) → Except SchemaError Unit
  | _, [] => .ok ()
  | seen, (key, v) :: rest =>
    match shape.fields.find? (fun f => f.name == key) with
    | none => if shape.isOpen then shape.scan seen rest else .error (.unknownField key shape.names)
    | some f =>
      if seen.contains key then .error (.duplicateField key)
      else
        match f.check v with
        | .error e => .error e
        | .ok () => shape.scan (key :: seen) rest

/-- The index of the first required field from `index` on. -/
def firstRequired : (index : Nat) → List Field → Option Nat
  | _, [] => none
  | index, f :: rest => if f.required then some index else firstRequired (index + 1) rest

def sizeMessage (shape : Shape) : String :=
  let n := shape.fields.length
  "struct " ++ shape.name ++ " with " ++ toString n ++ if n = 1 then " element" else " elements"

/-- Names the items of the list form and checks them. -/
def ofItems (shape : Shape) (items : List Json) : Except SchemaError (List (String × Json)) :=
  let named := shape.names.zip items
  match shape.scan [] named with
  | .error e => .error e
  | .ok () =>
    match firstRequired items.length (shape.fields.drop items.length) with
    | some index => .error (.invalidLength index shape.sizeMessage)
    | none =>
      if shape.fields.length < items.length then
        .error (.invalidLength items.length "fewer elements in array")
      else .ok named

/-- The members of a value of the record's shape, every one of them checked. -/
def open? (shape : Shape) : Decoder (List (String × Json))
  | .obj ms => (shape.scan [] ms).map fun _ => ms
  | .arr items => shape.ofItems items
  | v => .error (.invalidType v.found ("struct " ++ shape.name))

end Shape

/-- The value of a field that must be present. -/
def required {α : Type} (ms : List (String × Json)) (name : String) (d : Decoder α) :
    Except SchemaError α :=
  match ms.lookup name with
  | some v => d v
  | none => .error (.missingField name)

/-- The value of a field that may be left out. -/
def defaulted {α : Type} (ms : List (String × Json)) (name : String) (d : Decoder α) (default : α) :
    Except SchemaError α :=
  match ms.lookup name with
  | some v => d v
  | none => .ok default

/-- The value of a field that may be left out or null. -/
def optional {α : Type} (ms : List (String × Json)) (name : String) (d : Decoder α) :
    Except SchemaError (Option α) :=
  defaulted ms name (nullable d) none

end Schema

/-- Members that are present, in the given order. -/
def Json.record (members : List (Option (String × Json))) : Json :=
  .obj (members.filterMap id)

def Schema.always (name : String) (v : Json) : Option (String × Json) := some (name, v)

/-- A member that is written when there is a value. -/
def Schema.whenSome {α : Type} (name : String) (encode : α → Json) (a : Option α) :
    Option (String × Json) :=
  a.map fun a => (name, encode a)

/-- A member that is written when a condition holds. -/
def Schema.whenTrue (condition : Bool) (name : String) (v : Json) : Option (String × Json) :=
  if condition then some (name, v) else none

end PanelBridge
