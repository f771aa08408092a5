import PanelBridge.Proofs.Likeness
import PanelBridge.Proofs.Queue

/-!
# Messages that are handled alike

A report tells the outcome of the last message only when a delivery has the messages before it handled too. So that nothing
hides there, sessions are also compared by all the messages that they handle:

* **`Panel.handlings`**: every message that a session handles, with its outcome, in the order in which they are handled.
* **`Panel.Like.momentHandlings`**: panels that are alike handle the same messages in an operation, with outcomes that are alike.
* **`Panel.Like.handlings`**: the same for a session and what is left of it, if the operations that are left out handle nothing.
-/

namespace PanelBridge

/-! Neither the clock nor the view has to do with messages. -/

theorem Operation.single_of_isOnClock {op : Operation} (h : op.isOnClock = true) : op.isSingle = true := by
  cases op with
  | pump | deliver => cases h
  | _ => rfl

theorem Operation.single_of_isOnView {op : Operation} (h : op.isOnView = true) : op.isSingle = true := by
  cases op with
  | pump | deliver => cases h
  | _ => rfl

/-- The same message with outcomes that are alike. -/
def HandledAlike (R : Likeness) (handling handling' : Message × Outcome) : Prop :=
  handling.1 = handling'.1 ∧ Outcome.Like R handling.2 handling'.2

theorem handledAlike_zip {R : Likeness} {outcomes outcomes' : List Outcome}
    (h : List.Forall₂ (Outcome.Like R) outcomes outcomes') (messages : List Message) :
    List.Forall₂ (HandledAlike R) (messages.zip outcomes) (messages.zip outcomes') := by
  induction h generalizing messages with
  | nil => simp
  | cons hfirst _ ih =>
    cases messages with
    | nil => exact .nil
    | cons m rest => exact .cons ⟨rfl, hfirst⟩ (ih rest)

/-- Handlings that are alike are the same if reasons that are alike are. -/
theorem handlings_eq {R : Likeness} (hreason : ∀ {r r'}, R.reason r r' → r = r')
    {handlings handlings' : List (Message × Outcome)} (h : List.Forall₂ (HandledAlike R) handlings handlings') :
    handlings = handlings' := by
  have heq : List.Forall₂ Eq handlings handlings' :=
    h.imp fun _ _ halike => Prod.ext halike.1 (halike.2.eq hreason)
  rwa [List.forall₂_eq_eq_eq] at heq

namespace Panel

/-- The messages that a session handles, with their outcomes. -/
def handlings (p : Panel) (ops : List Operation) : List (Message × Outcome) := handledIn (p.history ops)

theorem handlings_cons (p : Panel) (op : Operation) (rest : List Operation) :
    p.handlings (op :: rest) = handledIn (p.moments op) ++ (p.perform op).2.handlings rest :=
  List.filterMap_append

/-- Only pumps and deliveries handle messages. -/
theorem handledIn_of_single (p : Panel) {op : Operation} (h : op.isSingle = true) : handledIn (p.moments op) = [] := by
  cases op with
  | pump | deliver => cases h
  | _ => rfl

variable {R : Likeness} {p q : Panel} (law : R.Lawful)
include law

theorem Like.pumpHandlings (h : p.Like R q) :
    List.Forall₂ (HandledAlike R) (handledIn p.pumpMoments) (handledIn q.pumpMoments) := by
  rw [handledIn, handledIn, pumpMoments_handled?, pumpMoments_handled?, law.inbound h.transport]
  exact handledAlike_zip (h.pump law).1 _

theorem Like.momentHandlings (h : p.Like R q) (op : Operation) :
    List.Forall₂ (HandledAlike R) (handledIn (p.moments op)) (handledIn (q.moments op)) := by
  cases hsingle : op.isSingle with
  | true =>
    rw [handledIn_of_single p hsingle, handledIn_of_single q hsingle]
    exact .nil
  | false =>
    cases op with
    | pump => exact h.pumpHandlings law
    | deliver m => exact (h.receive law m).pumpHandlings law
    | _ => cases hsingle

/-- **All messages of a session are handled alike** when operations are left out of it that handle none. -/
theorem Like.handlings {keep : Operation → Bool} (steps : Lockstep R keep)
    (single : ∀ op, keep op = false → op.isSingle = true) (h : p.Like R q) (ops : List Operation) :
    List.Forall₂ (HandledAlike R) (p.handlings ops) (q.handlings (ops.filter keep)) := by
  induction ops generalizing p q with
  | nil => exact .nil
  | cons op rest ih =>
    rw [handlings_cons, List.filter_cons]
    cases hkeep : keep op with
    | true =>
      -- both panels get the operation
      rw [if_pos rfl, handlings_cons]
      exact List.rel_append (h.momentHandlings law op) (ih (steps.kept hkeep h).2)
    | false =>
      rw [handledIn_of_single p (single op hkeep)]
      exact ih (steps.skipped hkeep h)

end Panel

end PanelBridge
