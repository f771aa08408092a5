import PanelBridge.Wire.Event

/-!
# Listeners

Listeners are registered for one kind of event and are called for the applied events of that kind, in the order of
their registration.

Ids are given out without bound; where they have 64 bits, this is exact below `2 ^ 64`.
-/

namespace PanelBridge

/-- A registered listener. -/
structure Listener where
  id : Nat
  kind : EventKind
  label : String
deriving DecidableEq, Repr

/-- All listeners in the order of their registration, and the number given last. -/
structure Listeners where
  entries : List Listener
  lastId : Nat
deriving DecidableEq, Repr

namespace Listeners

/-- No listener was ever registered. -/
def new : Listeners := ⟨[], 0⟩

/-- Registers a listener; its number is given back. -/
def register (l : Listeners) (kind : EventKind) (label : String) : Nat × Listeners :=
  (l.lastId + 1, ⟨l.entries ++ [⟨l.lastId + 1, kind, label⟩], l.lastId + 1⟩)

/-- Removes a listener, and says whether there was one. -/
def remove (l : Listeners) (id : Nat) : Bool × Listeners :=
  let rest := l.entries.filter fun entry => entry.id != id
  (rest.length != l.entries.length, { l with entries := rest })

def forKind (l : Listeners) (kind : EventKind) : List Listener :=
  l.entries.filter fun entry => entry.kind = kind

def count (l : Listeners) (kind : EventKind) : Nat := (l.forKind kind).length

/-- Removes all listeners; numbers go on. -/
def clear (l : Listeners) : Listeners := { l with entries := [] }

end Listeners

end PanelBridge
