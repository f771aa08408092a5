/-!
# Slices of the state

The state of the panel falls into seven slices. Each has a revision that grows when the slice changes, so that what is
derived from some slices need only be derived anew when one of them has changed.
-/

namespace PanelBridge

/-- A part of the state. -/
inductive Slice where
  | readiness
  | snapshot
  | diagnostics
  | selection
  | filter
  | runs
  | discards
deriving DecidableEq, Repr

namespace Slice

def all : List Slice := [.readiness, .snapshot, .diagnostics, .selection, .filter, .runs, .discards]

def name : Slice → String
  | .readiness => "readiness"
  | .snapshot => "snapshot"
  | .diagnostics => "diagnostics"
  | .selection => "selection"
  | .filter => "filter"
  | .runs => "runs"
  | .discards => "discards"

def ofName? (s : String) : Option Slice := all.find? fun slice => slice.name == s

end Slice

/-- One value for each slice. -/
structure PerSlice (α : Type) where
  readiness : α
  snapshot : α
  diagnostics : α
  selection : α
  filter : α
  runs : α
  discards : α
deriving DecidableEq, Repr

namespace PerSlice

variable {α : Type}

def ofFn (f : Slice → α) : PerSlice α :=
  ⟨f .readiness, f .snapshot, f .diagnostics, f .selection, f .filter, f .runs, f .discards⟩

def get (p : PerSlice α) : Slice → α
  | .readiness => p.readiness
  | .snapshot => p.snapshot
  | .diagnostics => p.diagnostics
  | .selection => p.selection
  | .filter => p.filter
  | .runs => p.runs
  | .discards => p.discards

@[simp]
theorem get_ofFn (f : Slice → α) (s : Slice) : (ofFn f).get s = f s := by
  cases s <;> rfl

/-- Values that agree on every slice are equal. -/
theorem ext_get {p q : PerSlice α} (h : ∀ s, p.get s = q.get s) : p = q := by
  cases p
  cases q
  have h₁ := h .readiness
  have h₂ := h .snapshot
  have h₃ := h .diagnostics
  have h₄ := h .selection
  have h₅ := h .filter
  have h₆ := h .runs
  have h₇ := h .discards
  simp only [get] at h₁ h₂ h₃ h₄ h₅ h₆ h₇
  subst h₁ h₂ h₃ h₄ h₅ h₆ h₇
  rfl

end PerSlice

/-- A set of slices. -/
abbrev SliceSet : Type := PerSlice Bool

namespace SliceSet

def empty : SliceSet := .ofFn fun _ => false

def contains (set : SliceSet) (s : Slice) : Bool := set.get s

def insert (set : SliceSet) (s : Slice) : SliceSet := .ofFn fun t => set.get t || t = s

def union (a b : SliceSet) : SliceSet := .ofFn fun s => a.get s || b.get s

def ofList (slices : List Slice) : SliceSet := .ofFn fun s => slices.contains s

/-- The slices of the set in their order. -/
def toList (set : SliceSet) : List Slice := Slice.all.filter set.get

def isEmpty (set : SliceSet) : Bool := set.toList.isEmpty

end SliceSet

/-- The revision of each slice. -/
abbrev Revisions : Type := PerSlice Nat

namespace Revisions

/-- The revisions before the first change. -/
def zero : Revisions := .ofFn fun _ => 0

/-- Raises the revisions of the slices in a set by one. -/
def bump (r : Revisions) (touched : SliceSet) : Revisions :=
  .ofFn fun s => if touched.get s then r.get s + 1 else r.get s

def key (r : Revisions) (slices : List Slice) : List Nat := slices.map r.get

end Revisions

end PanelBridge
