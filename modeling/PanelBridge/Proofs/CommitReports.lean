import Mathlib.Data.List.Forall2
import PanelBridge.Proofs.Views

/-!
# A commit reports what it changed

A commit either does nothing at all or is one change: it has a number of its own, it names the slices it touched, and every
subscriber hears of it once. Thirteen kinds of mutations can stand in a batch in any order, and settling may add slices of its
own, so this rests on one fact about each of them:

* **`apply_self_or_touches`**: a mutation that names no slice has left the store as it was. So has a batch
  (`batch_eq_self`).
* **`lookAll_eq`, `notifyAll_eq`**: subscribers look at the store, which changes what the views remember and nothing else.
  Each of them therefore sees the store that the commit leaves.
* **`Store.Committed`**: what one change is. A commit that reports a change is one (`commit_committed`).
-/

namespace PanelBridge

theorem SliceSet.exists_contains {set : SliceSet} (h : set.isEmpty = false) : ∃ slice, set.contains slice = true := by
  have hne : set.toList ≠ [] := by
    intro hnil
    rw [isEmpty, hnil] at h
    cases h
  obtain ⟨slice, hslice⟩ := List.exists_mem_of_ne_nil _ hne
  exact ⟨slice, (List.mem_filter.1 hslice).2⟩

namespace Store

variable (s : Store)

/-! ## A batch that names no slice -/

/-- What is set to the value it has is not touched; otherwise its slice is. -/
theorem self_or_touches_ite {c : Prop} [Decidable c] (t : Store) (slice : Slice) :
    (if c then (s, SliceSet.empty) else (t, .ofList [slice])) = (s, .empty)
      ∨ ∃ touched, (if c then (s, SliceSet.empty) else (t, .ofList [slice])).2.contains touched = true := by
  by_cases h : c
  · rw [if_pos h]
    exact .inl rfl
  · rw [if_neg h]
    exact .inr ⟨slice, by simp⟩

/-- **A mutation that names no slice has done nothing.** -/
theorem apply_self_or_touches (m : Mutation) :
    s.apply m = (s, .empty) ∨ ∃ slice, (s.apply m).2.contains slice = true := by
  cases m with
  | setReadiness | select | setFilter | clearPending => exact self_or_touches_ite s _ _
  | replaceSnapshot snapshot => exact .inr ⟨.snapshot, by simp [apply]⟩
  | mergeSnapshot sequence payload =>
    cases hs : s.snapshot with
    | none => exact .inl (by simp only [apply, hs])
    | some snapshot =>
      refine .inr ⟨.snapshot, ?_⟩
      simp only [apply, hs]
      split <;> simp
  | clearSnapshot =>
    cases hs : s.snapshot with
    | none => exact .inl (by simp only [apply, hs])
    | some snapshot => exact .inr ⟨.snapshot, by simp [apply, hs]⟩
  | mergeDiagnostics payload =>
    cases hs : s.snapshot with
    | none => exact .inl (by simp only [apply, hs])
    | some snapshot => exact .inr ⟨.diagnostics, by simp [apply, hs]⟩
  | runStalled intent =>
    cases howns : s.ownsPending intent with
    | true =>
      obtain ⟨run, hget, hid⟩ := exists_of_ownsPending howns
      rw [apply_runStalled_of_owns s hget hid]
      exact .inr ⟨.runs, by simp⟩
    | false => exact .inl (apply_runStalled_of_not_owns s howns)
  | runCleared intent =>
    by_cases howns : s.ownsPending intent
    · rw [apply, if_pos howns]
      exact .inr ⟨.runs, by simp⟩
    · rw [apply, if_neg howns]
      exact .inl rfl
  | runPending | runCompleted => exact .inr ⟨.runs, by simp [apply]⟩
  | recordDiscard record => exact .inr ⟨.discards, by simp [apply]⟩

theorem applyAll_eq_self (touched : SliceSet) (mutations : List Mutation)
    (h : ∀ slice, (s.applyAll touched mutations).2.contains slice = false) :
    (s.applyAll touched mutations).1 = s := by
  induction mutations generalizing touched with
  | nil => rfl
  | cons m rest ih =>
    rw [applyAll_cons] at h ⊢
    -- a slice that the first mutation touched would still be there at the end
    have hm : ∀ slice, (s.apply m).2.contains slice = false := by
      intro slice
      have hunion := (applyAll_part (s.apply m).1 _ rest (h slice)).1
      simp only [SliceSet.contains_union, Bool.or_eq_false_iff] at hunion
      exact hunion.2
    rcases apply_self_or_touches s m with hself | ⟨slice, htouches⟩
    · rw [hself] at h ⊢
      exact ih _ h
    · rw [hm slice] at htouches
      cases htouches

theorem batch_eq_self (mutations : List Mutation) (h : (s.batch mutations).2.isEmpty = true) :
    (s.batch mutations).1 = s := by
  have huntouched : ∀ slice, (s.applyAll .empty mutations).2.contains slice = false := by
    intro slice
    have hslice := SliceSet.contains_of_isEmpty h slice
    rw [batch_eq] at hslice
    exact (settle_part _ _ hslice).1
  rw [batch_eq, settle_of_untouched _ (huntouched .snapshot)]
  exact applyAll_eq_self s .empty mutations huntouched

/-! ## Telling the subscribers -/

theorem look_eq (reading : Reading) : (s.look reading).2 = { s with views := (s.look reading).2.views } := by
  cases reading <;> rfl

theorem lookAll_eq (readings : List Reading) :
    (s.lookAll readings).2 = { s with views := (s.lookAll readings).2.views } := by
  induction readings generalizing s with
  | nil => rfl
  | cons reading rest ih =>
    show ((s.look reading).2.lookAll rest).2 = { s with views := ((s.look reading).2.lookAll rest).2.views }
    rw [ih, look_eq]

/-- The notice that a store gives to a subscriber. -/
def noticeTo (change : StoreChange) (subscriber : Subscriber) : Notice :=
  { label := subscriber.label
    change
    sequence := s.sequence
    readiness := s.readiness
    sights := (s.lookAll (subscriber.reads change)).1 }

theorem notify_eq (change : StoreChange) (subscriber : Subscriber) :
    s.notify change subscriber =
      { s with
        views := (s.lookAll (subscriber.reads change)).2.views
        outbox := s.outbox ++ [s.noticeTo change subscriber] } := by
  unfold notify
  simp only
  rw [lookAll_eq]
  rfl

/-- A notice was given by a store, up to what the views remembered then and the notices that others were given. -/
def Tells (change : StoreChange) (subscriber : Subscriber) (notice : Notice) : Prop :=
  ∃ views outbox, notice = { s with views, outbox }.noticeTo change subscriber

theorem notifyAll_eq (change : StoreChange) (subscribers : List Subscriber) :
    ∃ views notices, s.notifyAll change subscribers = { s with views, outbox := s.outbox ++ notices }
      ∧ List.Forall₂ (s.Tells change) subscribers notices := by
  induction subscribers generalizing s with
  | nil => exact ⟨s.views, [], by simp [notifyAll], .nil⟩
  | cons subscriber rest ih =>
    obtain ⟨views, notices, hrest, htold⟩ := ih (s.notify change subscriber)
    refine ⟨views, s.noticeTo change subscriber :: notices, ?_, .cons ⟨s.views, s.outbox, rfl⟩ ?_⟩
    · show (s.notify change subscriber).notifyAll change rest = _
      rw [hrest, notify_eq]
      simp
    · -- what the first one looked at is remembered, which the notices of the others may not depend on
      rw [notify_eq] at htold
      exact htold

/-! ## One change -/

/-- A store comes from another by one change, which reports its slices and is told to every subscriber. -/
structure Committed (change : StoreChange) (t : Store) : Prop where
  something : ∃ slice, change.slices.contains slice = true
  number : change.revision = t.revision
  revision : t.revision = s.revision + 1
  revisions : ∀ slice, t.revisions.get slice =
    if change.slices.contains slice then s.revisions.get slice + 1 else s.revisions.get slice
  told : ∃ notices, t.outbox = s.outbox ++ notices ∧ List.Forall₂ (t.Tells change) s.subscribers notices
  parts : ∀ slice, change.slices.contains slice = false → t.part slice = s.part slice
  subscribers : t.subscribers = s.subscribers
  nextSubscription : t.nextSubscription = s.nextSubscription

theorem commit_eq_none (mutations : List Mutation) (h : (s.batch mutations).2.isEmpty = true) :
    s.commit mutations = (none, s) := by
  unfold commit
  simp only [h, if_true, batch_eq_self s mutations h]

theorem commit_eq_some (mutations : List Mutation) (h : (s.batch mutations).2.isEmpty = false) :
    s.commit mutations =
      (some ⟨s.revision + 1, (s.batch mutations).2⟩,
       ((s.batch mutations).1.bump (s.batch mutations).2).notifyAll ⟨s.revision + 1, (s.batch mutations).2⟩
         s.subscribers) := by
  have hbook := s.batch_bookkeeping mutations
  have hrevision : (s.batch mutations).1.revision = s.revision := congrArg Bookkeeping.revision hbook
  have hsubscribers : (s.batch mutations).1.subscribers = s.subscribers := congrArg Bookkeeping.subscribers hbook
  simp only [commit, h, bump, hrevision, hsubscribers, Bool.false_eq_true, if_false]

/-- **A commit whose batch names a slice is one change.** -/
theorem commit_committed (mutations : List Mutation) (h : (s.batch mutations).2.isEmpty = false) :
    s.Committed ⟨s.revision + 1, (s.batch mutations).2⟩ (s.commit mutations).2 := by
  have hbook := s.batch_bookkeeping mutations
  have hrevision : (s.batch mutations).1.revision = s.revision := congrArg Bookkeeping.revision hbook
  have hrevisions : (s.batch mutations).1.revisions = s.revisions := congrArg Bookkeeping.revisions hbook
  have hsubscribers : (s.batch mutations).1.subscribers = s.subscribers := congrArg Bookkeeping.subscribers hbook
  have hnext : (s.batch mutations).1.nextSubscription = s.nextSubscription :=
    congrArg Bookkeeping.nextSubscription hbook
  have houtbox : (s.batch mutations).1.outbox = s.outbox := congrArg Bookkeeping.outbox hbook
  rw [commit_eq_some s mutations h]
  obtain ⟨views, notices, hnotified, htold⟩ := notifyAll_eq
    ((s.batch mutations).1.bump (s.batch mutations).2) ⟨s.revision + 1, (s.batch mutations).2⟩ s.subscribers
  rw [hnotified]
  refine ⟨SliceSet.exists_contains h, ?_, ?_, fun slice => ?_, ⟨notices, ?_, htold⟩, fun slice hslice => ?_,
    hsubscribers, hnext⟩
  · show s.revision + 1 = (s.batch mutations).1.revision + 1
    rw [hrevision]
  · show (s.batch mutations).1.revision + 1 = s.revision + 1
    rw [hrevision]
  · show ((s.batch mutations).1.revisions.bump _).get slice = _
    rw [hrevisions, Revisions.get_bump]
  · show (s.batch mutations).1.outbox ++ notices = _
    rw [houtbox]
  · rw [← s.batch_part mutations hslice]
    cases slice <;> rfl

/-! ## The order of registration -/

/-- The store after a run of moves. -/
def moveAll (moves : List StoreMove) : Store := moves.foldl move s

/-- Subscribers are listed in the order in which they were entered. -/
structure Enrolled : Prop where
  ascending : (s.subscribers.map (·.id)).Pairwise (· < ·)
  below : ∀ subscriber ∈ s.subscribers, subscriber.id < s.nextSubscription

theorem Enrolled.of_same {s t : Store} (h : s.Enrolled) (hsubscribers : t.subscribers = s.subscribers)
    (hnext : t.nextSubscription = s.nextSubscription) : t.Enrolled := by
  obtain ⟨hascending, hbelow⟩ := h
  refine ⟨?_, ?_⟩
  · rw [hsubscribers]
    exact hascending
  · rw [hsubscribers, hnext]
    exact hbelow

theorem Enrolled.commit {s : Store} (h : s.Enrolled) (mutations : List Mutation) : (s.commit mutations).2.Enrolled := by
  cases hempty : (s.batch mutations).2.isEmpty with
  | true =>
    rw [commit_eq_none s mutations hempty]
    exact h
  | false =>
    have hcommitted := commit_committed s mutations hempty
    exact h.of_same hcommitted.subscribers hcommitted.nextSubscription

theorem Enrolled.subscribe {s : Store} (h : s.Enrolled) (label : String) (reads : StoreChange → List Reading) :
    (s.subscribe label reads).2.Enrolled := by
  obtain ⟨hascending, hbelow⟩ := h
  refine ⟨?_, fun subscriber hmem => ?_⟩
  · show ((s.subscribers ++ [_]).map Subscriber.id).Pairwise (· < ·)
    rw [List.map_append, List.pairwise_append]
    refine ⟨hascending, List.pairwise_singleton .., ?_⟩
    intro a ha b hb
    obtain ⟨subscriber, hmem, rfl⟩ := List.mem_map.1 ha
    obtain rfl : b = s.nextSubscription := by simpa using hb
    exact hbelow subscriber hmem
  · show subscriber.id < s.nextSubscription + 1
    rcases List.mem_append.1 hmem with hold | hnew
    · have hlt := hbelow subscriber hold
      omega
    · rw [List.mem_singleton.1 hnew]
      exact Nat.lt_succ_self _

theorem Enrolled.unsubscribe {s : Store} (h : s.Enrolled) (id : Nat) : (s.unsubscribe id).2.Enrolled := by
  obtain ⟨hascending, hbelow⟩ := h
  refine ⟨?_, fun subscriber hmem => hbelow subscriber (List.mem_filter.1 hmem).1⟩
  exact hascending.sublist (List.filter_sublist.map _)

theorem Enrolled.move {s : Store} (h : s.Enrolled) (m : StoreMove) : (s.move m).Enrolled := by
  cases m with
  | commit mutations => exact h.commit mutations
  | look reading =>
    show (s.look reading).2.Enrolled
    rw [look_eq]
    exact h.of_same rfl rfl
  | subscribe label reads => exact h.subscribe label reads
  | unsubscribe id => exact h.unsubscribe id

theorem Enrolled.moveAll {s : Store} (h : s.Enrolled) (moves : List StoreMove) : (s.moveAll moves).Enrolled := by
  induction moves generalizing s with
  | nil => exact h
  | cons m rest ih => exact ih (h.move m)

theorem new_enrolled (capacity : Nat) : (new capacity).Enrolled :=
  ⟨List.Pairwise.nil, fun _ hmem => absurd hmem List.not_mem_nil⟩

end Store

/-- **A commit reports exactly what it touched.** For every store and every batch:

* a commit that reports no change leaves the store as it is, with all revisions, and tells nobody;
* otherwise it is one change: the number of changes and the revisions of the slices it names grow by one, the other revisions
  stay, every subscriber is told of this change once, in the order of the list, by the store that the commit leaves, and
  the part of every slice that it does not name is as before.

The list of subscribers is in the order of registration, whatever was done to a store since it was new. -/
theorem commit_reports_touched_slices (s : Store) (mutations : List Mutation) :
    (match s.commit mutations with
      | (none, t) => t = s
      | (some change, t) => s.Committed change t)
    ∧ ∀ capacity moves, (((Store.new capacity).moveAll moves).subscribers.map (·.id)).Pairwise (· < ·) := by
  refine ⟨?_, fun capacity moves => ((Store.new_enrolled capacity).moveAll moves).ascending⟩
  cases hempty : (s.batch mutations).2.isEmpty with
  | true => rw [Store.commit_eq_none s mutations hempty]
  | false =>
    have hcommitted := s.commit_committed mutations hempty
    rw [Store.commit_eq_some s mutations hempty] at hcommitted ⊢
    exact hcommitted

end PanelBridge
