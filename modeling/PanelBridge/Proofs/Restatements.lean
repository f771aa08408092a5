import Mathlib.Data.List.Forall2
import PanelBridge.Proofs.JsonValues

/-!
# What is written restates what was given

A value on the wire may be given in several ways and is written in one. What the two have to do with each other is said here
about the JSON alone, with no reader between them: nothing that was given is lost or altered, and nothing is made up.

* **`Restatement`**: how a written value restates a given one: it is the same, it has the same items, or it has the same name.
* **`Part`**: a field of a record on the wire. **`Part.Holds`**: what is written for it. A field that was given is there; it is
  left out only if it has the value that a missing field stands for, and only such a field may be put in.
* **`Restatement.record`**: an object or a list of fields, restated by an object in the order of the fields.
* **`Restatement.unique_record`**: a given value has one restatement at most, so the relation leaves no choice.
-/

namespace PanelBridge

/-- How a written value restates a given one. -/
abbrev Restatement : Type := (given written : Json) → Prop

/-- What becomes of a field that is not given, or that is given with the value it has by default. -/
inductive Presence where
  /-- The field has to be given. -/
  | required
  /-- The default is put in when the field is not given. -/
  | filled (default : Json)
  /-- The field is left out when it is not given or has its default. -/
  | skipped (default : Json)

/-- A field of a record on the wire. -/
structure Part where
  name : String
  presence : Presence
  restates : Restatement

namespace Part

def required (name : String) (r : Restatement) : Part := ⟨name, .required, r⟩

def filled (name : String) (default : Json) (r : Restatement) : Part := ⟨name, .filled default, r⟩

def skipped (name : String) (default : Json) (r : Restatement) : Part := ⟨name, .skipped default, r⟩

@[simp] theorem required_restates (name : String) (r : Restatement) : (required name r).restates = r := rfl

@[simp] theorem filled_restates (name : String) (default : Json) (r : Restatement) : (filled name default r).restates = r := rfl

@[simp] theorem skipped_restates (name : String) (default : Json) (r : Restatement) : (skipped name default r).restates = r := rfl

/-- What is given for a field, if anything, and what is written for it, if anything. -/
inductive Holds (p : Part) : (given written : Option Json) → Prop where
  | kept {v w : Json} (restated : p.restates v w) (matters : p.presence ≠ .skipped v) : Holds p (some v) (some w)
  | filled {w : Json} (standsFor : p.presence = .filled w) : Holds p none (some w)
  | skipped {given : Option Json} {default : Json} (standsFor : p.presence = .skipped default)
      (idle : given = none ∨ given = some default) : Holds p given none

end Part

namespace Restatement

/-- The value stands as it was given. -/
def same : Restatement := fun given written => written = given

/-- A list with as many items, each of them restated in its place. -/
def each (r : Restatement) : Restatement := fun given written =>
  ∃ items items', given = .arr items ∧ written = .arr items' ∧ List.Forall₂ r items items'

/-- One of several names. It may also be given as the only key of an object, with null under it. -/
def oneOf (names : List String) : Restatement := fun given written =>
  ∃ name ∈ names, (given = .str name ∨ given = .obj [(name, .null)]) ∧ written = .str name

/-- What a value has for a field: the member with its name, or the item in its place. -/
def fieldOf (given : Json) (name : String) (place : Nat) : Option Json :=
  match given with
  | .obj members => members.lookup name
  | .arr items => items[place]?
  | _ => none

/-- The members of an object are fields, none of them given twice, or the items of a list are no more than there are fields. An
open record may have other members. -/
def OnlyFields (isOpen : Bool) (names : List String) : Json → Prop
  | .obj members => ((members.map (·.1)).filter (· ∈ names)).Nodup ∧ (isOpen = false → ∀ m ∈ members, m.1 ∈ names)
  | .arr items => items.length ≤ names.length
  | _ => False

/-- A record is given as an object or as a list of its fields. It is written as an object, in the order of the fields. -/
def record (isOpen : Bool) (parts : List Part) : Restatement := fun given written =>
  OnlyFields isOpen (parts.map (·.name)) given
    ∧ ∃ members, written = .obj members ∧ (members.map (·.1)).Sublist (parts.map (·.name))
      ∧ ∀ (place : Nat) (p : Part), parts[place]? = some p → p.Holds (fieldOf given p.name place) (members.lookup p.name)

/-! ## There is no choice -/

theorem unique_same : Relator.RightUnique same := fun _ _ _ h h' => h.trans h'.symm

theorem unique_each {r : Restatement} (hr : Relator.RightUnique r) : Relator.RightUnique (each r) := by
  rintro _ _ _ ⟨items, written, rfl, rfl, h⟩ ⟨_, other, hitems, rfl, h'⟩
  cases hitems
  exact congrArg Json.arr (List.right_unique_forall₂' hr h h')

theorem unique_oneOf (names : List String) : Relator.RightUnique (oneOf names) := by
  rintro given _ _ ⟨name, -, hgiven, rfl⟩ ⟨other, -, hother, rfl⟩
  rcases hgiven with rfl | rfl
  · rcases hother with h | h
    · exact h
    · cases h
  · rcases hother with h | h
    · cases h
    · cases h
      rfl

end Restatement

/-- What is given for a field determines what is written for it. -/
theorem Part.Holds.unique {p : Part} (hp : Relator.RightUnique p.restates) {given written other : Option Json}
    (h : p.Holds given written) (h' : p.Holds given other) : written = other := by
  cases h with
  | kept restated matters =>
    cases h' with
    | kept restated' => rw [hp restated restated']
    | skipped standsFor idle =>
      -- a field that was given is left out only with its default, and then it is not kept
      rcases idle with idle | idle
      · cases idle
      · cases idle
        exact absurd standsFor matters
  | filled standsFor =>
    cases h' with
    | filled standsFor' => rw [Presence.filled.inj (standsFor.symm.trans standsFor')]
    | skipped standsFor' => cases standsFor.symm.trans standsFor'
  | skipped standsFor idle =>
    cases h' with
    | kept _ matters =>
      rcases idle with idle | idle
      · cases idle
      · cases idle
        exact absurd standsFor matters
    | filled standsFor' => cases standsFor.symm.trans standsFor'
    | skipped => rfl

namespace Restatement

/-- Members in the order of distinct names are those that stand under the names. -/
theorem members_eq_filterMap {names keys : List String} (h : keys.Sublist names) (hnames : names.Nodup)
    {members : List (String × Json)} (hkeys : members.map (·.1) = keys) :
    members = names.filterMap fun name => (members.lookup name).map (name, ·) := by
  induction h generalizing members with
  | slnil =>
    rw [List.map_eq_nil_iff.1 hkeys]
    rfl
  | @cons keys names name h ih =>
    obtain ⟨hname, hnames⟩ := List.nodup_cons.1 hnames
    have habsent : members.lookup name = none := by
      refine List.lookup_eq_none_iff.2 fun m hm => bne_iff_ne.2 fun heq => hname ?_
      rw [heq]
      exact h.subset (hkeys ▸ List.mem_map_of_mem hm)
    rw [List.filterMap_cons, habsent]
    exact ih hnames hkeys
  | @cons_cons keys names name h ih =>
    obtain ⟨hname, hdistinct⟩ := List.nodup_cons.1 hnames
    cases members with
    | nil => cases hkeys
    | cons m rest =>
      obtain ⟨rfl, hothers⟩ := List.cons.inj hkeys
      have hrest : names.filterMap (fun name => ((m :: rest).lookup name).map (name, ·)) = rest := by
        refine Eq.trans (List.filterMap_congr fun name hmem => ?_) (ih hdistinct hothers).symm
        have hne : name ≠ m.1 := by
          rintro rfl
          exact hname hmem
        rw [List.lookup_cons, beq_eq_false_iff_ne.2 hne]
      rw [List.filterMap_cons, List.lookup_cons_self]
      exact congrArg (m :: ·) hrest.symm

theorem unique_record (isOpen : Bool) {parts : List Part} (hnames : (parts.map (·.name)).Nodup)
    (hparts : ∀ p ∈ parts, Relator.RightUnique p.restates) : Relator.RightUnique (record isOpen parts) := by
  rintro given _ _ ⟨-, members, rfl, hmembers, hholds⟩ ⟨-, others, rfl, hothers, hholds'⟩
  -- both lists of members are in the order of the names, so it is enough to look the names up
  rw [members_eq_filterMap hmembers hnames rfl, members_eq_filterMap hothers hnames rfl]
  refine congrArg Json.obj (List.filterMap_congr fun name hname => congrArg (Option.map (name, ·)) ?_)
  obtain ⟨p, hp, rfl⟩ := List.mem_map.1 hname
  obtain ⟨place, hplace⟩ := List.mem_iff_getElem?.1 hp
  exact (hholds place p hplace).unique (hparts p hp) (hholds' place p hplace)

end Restatement

end PanelBridge
