/-!
# Bounded logs

A log that keeps only its most recent entries.
-/

namespace PanelBridge

/-- The last `capacity` entries of a history. -/
def recent {α : Type} (capacity : Nat) (history : List α) : List α :=
  history.drop (history.length - capacity)

/-- Adds an entry to a log and forgets the oldest ones beyond the capacity. -/
def pushRecent {α : Type} (capacity : Nat) (log : List α) (entry : α) : List α :=
  recent capacity (log ++ [entry])

theorem length_recent {α : Type} (capacity : Nat) (history : List α) :
    (recent capacity history).length = min capacity history.length := by
  simp only [recent, List.length_drop]
  omega

/-- A log that holds the last entries of a history goes on to do so. -/
theorem pushRecent_recent {α : Type} (capacity : Nat) (history : List α) (entry : α) :
    pushRecent capacity (recent capacity history) entry = recent capacity (history ++ [entry]) := by
  simp only [pushRecent, recent, List.length_append, List.length_drop, List.length_singleton]
  by_cases h : history.length ≤ capacity
  · rw [Nat.sub_eq_zero_of_le h]
    simp
  · rw [← List.drop_append_of_le_length (by omega), List.drop_drop]
    congr 1
    omega

end PanelBridge
