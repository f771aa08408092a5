import PanelBridge.Schema.Error

/-!
# Decoders for scalars, lists and named choices

A decoder turns a JSON value into a value of the domain or says why it has the wrong shape.
-/

namespace PanelBridge

/-- Reads a domain value off a JSON value. -/
abbrev Decoder (α : Type) : Type := Json → Except SchemaError α

namespace Schema

def string : Decoder String
  | .str s => .ok s
  | v => .error (.invalidType v.found "a string")

def boolean : Decoder Bool
  | .bool b => .ok b
  | v => .error (.invalidType v.found "a boolean")

/-- A natural number below `limit`; `expected` names the range. -/
def natural (limit : Nat) (expected : String) : Decoder Nat
  | .num (.int n) =>
    if 0 ≤ n ∧ n < limit then .ok n.toNat else .error (.outOfRange n expected)
  | v => .error (.invalidType v.found expected)

def word64 : Decoder Nat := natural UInt64.size "u64"

def word32 : Decoder Nat := natural UInt32.size "u32"

/-- A count: a natural number of 64 bits. -/
def count : Decoder Nat := natural UInt64.size "usize"

/-- Any value at all. -/
def anything : Decoder Json := .ok

/-- An object with any members. -/
def members : Decoder (List (String × Json))
  | .obj ms => .ok ms
  | v => .error (.invalidType v.found "a map")

/-- Decodes the items in order, up to the first that fails. -/
def decodeItems {α : Type} (item : Decoder α) : List Json → Except SchemaError (List α)
  | [] => .ok []
  | v :: rest =>
    match item v with
    | .error e => .error e
    | .ok a =>
      match decodeItems item rest with
      | .error e => .error e
      | .ok as => .ok (a :: as)

def listOf {α : Type} (item : Decoder α) : Decoder (List α)
  | .arr items => decodeItems item items
  | v => .error (.invalidType v.found "a sequence")

def nullable {α : Type} (d : Decoder α) : Decoder (Option α)
  | .null => .ok none
  | v => (d v).map some

def choiceNamed {α : Type} (choices : List α) (name : α → String) (key : String) :
    Except SchemaError α :=
  match choices.find? (fun a => name a == key) with
  | some a => .ok a
  | none => .error (.unknownVariant key (choices.map name))

/-- One of several named choices: its name, or an object whose only key is the name and whose value is null. -/
def choice {α : Type} (choices : List α) (name : α → String) : Decoder α
  | .str key => choiceNamed choices name key
  | .obj [(key, v)] =>
    match choiceNamed choices name key with
    | .error e => .error e
    | .ok a => if v.isNull then .ok a else .error (.invalidType v.found "unit")
  | .obj _ => .error .severalKeys
  | v => .error (.invalidType v.found "string or map")

end Schema

/-- One reading after another gives what the second makes of the first. -/
theorem bind_eq_ok_iff {ε α β : Type} {x : Except ε α} {f : α → Except ε β} {b : β} :
    (x >>= f) = .ok b ↔ ∃ a, x = .ok a ∧ f a = .ok b := by
  cases x with
  | error e => exact ⟨nofun, nofun⟩
  | ok a =>
    constructor
    · exact fun h => ⟨a, rfl, h⟩
    · rintro ⟨_, ⟨⟩, h⟩
      exact h

end PanelBridge
