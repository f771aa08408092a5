import PanelBridge.Run.Ledger

/-!
# The ledger keeps its two tables in step

The ledger lists its live runs twice: by id, and the id by target. Every operation writes to both tables. This module
states what holds of them at all times and what each operation does to the live run of a target.

* **`Ledger.WellFormed`**: runs are listed under their own ids, the table by target is the inverse of the table by id, and
  the number of the next run is beyond all of them.
* **`liveIntent_…`**: one look-up equation for each operation.
-/

namespace PanelBridge

/-- The reason to discard a result for a run that is not live, by what is remembered of the run. -/
def DiscardReason.ofTombstone (text : String) (id : CorrelationId) : Option RunState → DiscardReason
  | some .cancelled => .cancelled id.text
  | some .stale => .superseded id.text
  | _ => .unknownCorrelation text

namespace Ledger

/-- What holds of the tables of a ledger at all times. -/
structure WellFormed (l : Ledger) : Prop where
  live_id : ∀ id intent, l.live.get? id = some intent → intent.id = id
  live_state : ∀ id intent, l.live.get? id = some intent → intent.state.isLive = true
  live_lt : ∀ id intent, l.live.get? id = some intent → id.number < l.nextNumber
  byTarget_iff : ∀ target id, l.liveByTarget.get? target = some id ↔
    ∃ intent, l.live.get? id = some intent ∧ intent.target = target

theorem new_wellFormed (config : PanelConfig) : (new config).WellFormed where
  live_id := by intro id intent h; simp [new] at h
  live_state := by intro id intent h; simp [new] at h
  live_lt := by intro id intent h; simp [new] at h
  byTarget_iff := by intro target id; simp [new]

variable {l : Ledger}

theorem WellFormed.live_self (h : l.WellFormed) {id : CorrelationId} {intent : Intent}
    (hlive : l.live.get? id = some intent) : l.live.get? intent.id = some intent := by
  rw [h.live_id id intent hlive]
  exact hlive

/-! ## The live run of a target -/

theorem liveIntent_eq_some_iff (h : l.WellFormed) {target : Target} {intent : Intent} :
    l.liveIntent target = some intent ↔ l.live.get? intent.id = some intent ∧ intent.target = target := by
  unfold liveIntent
  rw [Option.bind_eq_some_iff]
  constructor
  · rintro ⟨id, hby, hlive⟩
    obtain ⟨intent', hlive', htarget⟩ := (h.byTarget_iff target id).1 hby
    have heq : intent' = intent := Option.some.inj (hlive'.symm.trans hlive)
    subst heq
    rw [h.live_id id intent' hlive]
    exact ⟨hlive, htarget⟩
  · rintro ⟨hlive, htarget⟩
    exact ⟨intent.id, (h.byTarget_iff target intent.id).2 ⟨intent, hlive, htarget⟩, hlive⟩

theorem mem_intents_iff (h : l.WellFormed) {intent : Intent} :
    intent ∈ l.intents ↔ l.live.get? intent.id = some intent := by
  unfold intents
  rw [Table.mem_values_iff]
  constructor
  · rintro ⟨id, hget⟩
    exact h.live_self hget
  · intro hget
    exact ⟨intent.id, hget⟩

/-- Two live runs of one target are the same run. -/
theorem live_unique (h : l.WellFormed) {id id' : CorrelationId} {intent intent' : Intent}
    (hget : l.live.get? id = some intent) (hget' : l.live.get? id' = some intent')
    (htarget : intent.target = intent'.target) : id = id' := by
  -- the second table gives a target one id only
  have hby := (h.byTarget_iff intent.target id).2 ⟨intent, hget, rfl⟩
  have hby' := (h.byTarget_iff intent.target id').2 ⟨intent', hget', htarget.symm⟩
  exact Option.some.inj (hby.symm.trans hby')

theorem id_ne_of_target_ne {intent other : Intent} {id : CorrelationId}
    (hlive : l.live.get? intent.id = some intent) (hother : l.live.get? id = some other)
    (hne : other.target ≠ intent.target) : id ≠ intent.id := by
  rintro rfl
  rw [hlive] at hother
  cases hother
  exact hne rfl

/-- A target without a live run is the target of no live run. -/
theorem target_ne_of_free (h : l.WellFormed) {target : Target} (hfree : l.liveIntent target = none)
    {id : CorrelationId} {intent : Intent} (hlive : l.live.get? id = some intent) :
    intent.target ≠ target := by
  intro htarget
  have hsome := (liveIntent_eq_some_iff h).2 ⟨h.live_self hlive, htarget⟩
  rw [hfree] at hsome
  cases hsome

/-! ## Taking a run out -/

theorem remove_live (l : Ledger) (intent : Intent) (id : CorrelationId) :
    (l.remove intent).live.get? id = if id = intent.id then none else l.live.get? id :=
  Table.get?_erase_eq l.live intent.id id

theorem remove_byTarget (l : Ledger) (intent : Intent) (target : Target) :
    (l.remove intent).liveByTarget.get? target =
      if target = intent.target then none else l.liveByTarget.get? target :=
  Table.get?_erase_eq l.liveByTarget intent.target target

theorem remove_wellFormed (h : l.WellFormed) {intent : Intent}
    (hlive : l.live.get? intent.id = some intent) : (l.remove intent).WellFormed := by
  have hold : ∀ id i, (l.remove intent).live.get? id = some i → l.live.get? id = some i := by
    intro id i hget
    rw [remove_live] at hget
    split at hget
    · cases hget
    · exact hget
  refine ⟨fun id i hget => h.live_id id i (hold id i hget),
    fun id i hget => h.live_state id i (hold id i hget),
    fun id i hget => h.live_lt id i (hold id i hget), fun target id => ?_⟩
  rw [remove_byTarget]
  constructor
  · intro hby
    split at hby
    · cases hby
    · rename_i hne
      obtain ⟨i, hget, htarget⟩ := (h.byTarget_iff target id).1 hby
      have hid : id ≠ intent.id := id_ne_of_target_ne hlive hget (htarget ▸ hne)
      exact ⟨i, by rw [remove_live, if_neg hid]; exact hget, htarget⟩
  · rintro ⟨i, hget, htarget⟩
    have hget' := hold id i hget
    have hne : target ≠ intent.target := by
      intro heq
      -- the run of that target is the one that was taken out
      have hid : id = intent.id := live_unique h hget' hlive (htarget.trans heq)
      rw [hid, remove_live, if_pos rfl] at hget
      cases hget
    rw [if_neg hne]
    exact (h.byTarget_iff target id).2 ⟨i, hget', htarget⟩

/-- Taking a live run out leaves its target without one and the other targets as they were. -/
theorem liveIntent_remove (h : l.WellFormed) {intent : Intent}
    (hlive : l.live.get? intent.id = some intent) (target : Target) :
    (l.remove intent).liveIntent target =
      if target = intent.target then none else l.liveIntent target := by
  unfold liveIntent
  rw [remove_byTarget]
  split
  · rfl
  · rename_i hne
    cases hby : l.liveByTarget.get? target with
    | none => rfl
    | some id =>
      obtain ⟨i, hget, htarget⟩ := (h.byTarget_iff target id).1 hby
      have hid : id ≠ intent.id := id_ne_of_target_ne hlive hget (htarget ▸ hne)
      show (l.remove intent).live.get? id = l.live.get? id
      rw [remove_live, if_neg hid]

/-! ## Retiring a run -/

theorem retire_of_not_live {id : CorrelationId} (hlive : l.live.get? id = none) (state : RunState) :
    l.retire id state = (none, l) := by
  unfold retire
  rw [hlive]

theorem retire_of_live {id : CorrelationId} {intent : Intent} (hlive : l.live.get? id = some intent)
    (state : RunState) :
    l.retire id state =
      (some { intent with state },
       { l.remove intent with
         tombstones := pushRecent l.tombstoneCapacity l.tombstones (id, state) }) := by
  unfold retire
  rw [hlive]

/-- Well-formedness is about the two tables and the next number only. -/
theorem WellFormed.of_tables (h : l.WellFormed) {l' : Ledger} (hlive : l'.live = l.live)
    (hby : l'.liveByTarget = l.liveByTarget) (hnext : l.nextNumber ≤ l'.nextNumber) :
    l'.WellFormed where
  live_id := by rw [hlive]; exact h.live_id
  live_state := by rw [hlive]; exact h.live_state
  live_lt := by
    intro id intent hget
    rw [hlive] at hget
    exact Nat.lt_of_lt_of_le (h.live_lt id intent hget) hnext
  byTarget_iff := by rw [hlive, hby]; exact h.byTarget_iff

theorem retire_wellFormed (h : l.WellFormed) (id : CorrelationId) (state : RunState) :
    (l.retire id state).2.WellFormed := by
  cases hlive : l.live.get? id with
  | none => rw [retire_of_not_live hlive]; exact h
  | some intent =>
    -- the tombstone is not part of the invariant
    rw [retire_of_live hlive]
    exact (remove_wellFormed h (h.live_self hlive)).of_tables rfl rfl (Nat.le_refl _)

theorem retire_live (h : l.WellFormed) (id n : CorrelationId) (state : RunState) :
    (l.retire id state).2.live.get? n = if n = id then none else l.live.get? n := by
  cases hlive : l.live.get? id with
  | none =>
    rw [retire_of_not_live hlive]
    split
    · rename_i heq
      rw [heq, hlive]
    · rfl
  | some intent =>
    rw [retire_of_live hlive]
    show (l.remove intent).live.get? n = _
    rw [remove_live, h.live_id id intent hlive]

theorem retire_nextNumber (l : Ledger) (id : CorrelationId) (state : RunState) :
    (l.retire id state).2.nextNumber = l.nextNumber := by
  cases hlive : l.live.get? id with
  | none => rw [retire_of_not_live hlive]
  | some intent => rw [retire_of_live hlive]; rfl

theorem liveIntent_retire (h : l.WellFormed) {id : CorrelationId} {intent : Intent}
    (hlive : l.live.get? id = some intent) (state : RunState) (target : Target) :
    (l.retire id state).2.liveIntent target =
      if target = intent.target then none else l.liveIntent target := by
  rw [retire_of_live hlive]
  show (l.remove intent).liveIntent target = _
  exact liveIntent_remove h (h.live_self hlive) target

/-! ## Retiring all runs -/

theorem retireAll_cons (l : Ledger) (id : CorrelationId) (rest : List CorrelationId) :
    (l.retireAll (id :: rest)).2 = ((l.retire id .stale).2.retireAll rest).2 := rfl

theorem retireAll_wellFormed (h : l.WellFormed) (ids : List CorrelationId) :
    (l.retireAll ids).2.WellFormed := by
  induction ids generalizing l with
  | nil => exact h
  | cons id rest ih =>
    rw [retireAll_cons]
    exact ih (retire_wellFormed h id .stale)

theorem retireAll_live (h : l.WellFormed) (ids : List CorrelationId) (n : CorrelationId) :
    (l.retireAll ids).2.live.get? n = if n ∈ ids then none else l.live.get? n := by
  induction ids generalizing l with
  | nil => rfl
  | cons id rest ih =>
    rw [retireAll_cons, ih (retire_wellFormed h id .stale), retire_live h]
    by_cases hid : n = id
    · simp [hid]
    · simp [hid]

theorem retireAll_nextNumber (l : Ledger) (ids : List CorrelationId) :
    (l.retireAll ids).2.nextNumber = l.nextNumber := by
  induction ids generalizing l with
  | nil => rfl
  | cons id rest ih => rw [retireAll_cons, ih, retire_nextNumber]

/-- No run is live after all were replaced. -/
theorem supersedeAll_live (h : l.WellFormed) (n : CorrelationId) :
    l.supersedeAll.2.live.get? n = none := by
  unfold supersedeAll
  rw [retireAll_live h]
  split
  · rfl
  · -- every live run is among the keys
    rename_i hnot
    cases hget : l.live.get? n with
    | none => rfl
    | some intent => exact absurd (Table.mem_keys_iff.2 ⟨intent, hget⟩) hnot

theorem supersedeAll_wellFormed (h : l.WellFormed) : l.supersedeAll.2.WellFormed :=
  retireAll_wellFormed h l.live.keys

theorem liveIntent_supersedeAll (h : l.WellFormed) (target : Target) :
    l.supersedeAll.2.liveIntent target = none := by
  cases hintent : l.supersedeAll.2.liveIntent target with
  | none => rfl
  | some intent =>
    have hlive := ((liveIntent_eq_some_iff (supersedeAll_wellFormed h)).1 hintent).1
    rw [supersedeAll_live h] at hlive
    cases hlive

/-! ## Starting a run

A run is started in two steps: the live run of its target is retired (`vacate`), and the new one is put in (`enter`). -/

/-- Either the target has no live run, or vacating it retires that run. -/
theorem vacate_cases (h : l.WellFormed) (target : Target) :
    (l.liveIntent target = none ∧ l.vacate target = (none, l)) ∨
      ∃ id intent, l.live.get? id = some intent ∧ intent.target = target
        ∧ l.liveIntent target = some intent
        ∧ l.vacate target = (some { intent with state := .stale }, (l.retire id .stale).2) := by
  unfold vacate liveIntent
  cases hby : l.liveByTarget.get? target with
  | none => exact Or.inl ⟨rfl, rfl⟩
  | some id =>
    obtain ⟨intent, hlive, htarget⟩ := (h.byTarget_iff target id).1 hby
    refine Or.inr ⟨id, intent, hlive, htarget, hlive, ?_⟩
    show l.retire id .stale = _
    rw [retire_of_live hlive]

theorem vacate_wellFormed (h : l.WellFormed) (target : Target) : (l.vacate target).2.WellFormed := by
  rcases vacate_cases h target with ⟨_, heq⟩ | ⟨id, intent, _, _, _, heq⟩
  · rw [heq]; exact h
  · rw [heq]; exact retire_wellFormed h id .stale

theorem vacate_nextNumber (h : l.WellFormed) (target : Target) :
    (l.vacate target).2.nextNumber = l.nextNumber := by
  rcases vacate_cases h target with ⟨_, heq⟩ | ⟨id, intent, _, _, _, heq⟩
  · rw [heq]
  · rw [heq]; exact retire_nextNumber l id .stale

theorem vacate_fst (h : l.WellFormed) (target : Target) :
    (l.vacate target).1 = (l.liveIntent target).map fun intent => { intent with state := .stale } := by
  rcases vacate_cases h target with ⟨hnone, heq⟩ | ⟨id, intent, _, _, hsome, heq⟩
  · rw [heq, hnone]; rfl
  · rw [heq, hsome]; rfl

theorem vacate_live (h : l.WellFormed) (target : Target) (n : CorrelationId) :
    (l.vacate target).2.live.get? n =
      (l.live.get? n).filter fun intent => intent.target ≠ target := by
  rcases vacate_cases h target with ⟨hnone, heq⟩ | ⟨id, intent, hlive, htarget, _, heq⟩
  · rw [heq]
    cases hget : l.live.get? n with
    | none => rfl
    | some i =>
      have hne : i.target ≠ target := target_ne_of_free h hnone hget
      simp [Option.filter_some, hne]
  · rw [heq, retire_live h]
    split
    · rename_i hn
      simp [Option.filter_some, hn, hlive, htarget]
    · rename_i hn
      cases hget : l.live.get? n with
      | none => rfl
      | some i =>
        -- a target has one live run, and that one is retired
        have hne : i.target ≠ target := fun hi =>
          hn (live_unique h hget hlive (hi.trans htarget.symm))
        simp [Option.filter_some, hne]

theorem liveIntent_vacate (h : l.WellFormed) (target t : Target) :
    (l.vacate target).2.liveIntent t = if t = target then none else l.liveIntent t := by
  rcases vacate_cases h target with ⟨hnone, heq⟩ | ⟨id, intent, hlive, htarget, _, heq⟩
  · rw [heq]
    split
    · rename_i ht
      rw [ht, hnone]
    · rfl
  · rw [heq, liveIntent_retire h hlive, htarget]

theorem enter_live (l : Ledger) (intent : Intent) (n : CorrelationId) :
    (l.enter intent).live.get? n = if n = intent.id then some intent else l.live.get? n :=
  Table.get?_insert_eq l.live intent.id n intent

theorem enter_byTarget (l : Ledger) (intent : Intent) (target : Target) :
    (l.enter intent).liveByTarget.get? target =
      if target = intent.target then some intent.id else l.liveByTarget.get? target :=
  Table.get?_insert_eq l.liveByTarget intent.target target intent.id

/-- A run with an unused id, for a target without a live run, can be put in. -/
theorem enter_wellFormed (h : l.WellFormed) {intent : Intent} (hid : l.live.get? intent.id = none)
    (hfree : l.liveIntent intent.target = none) (hstate : intent.state.isLive = true)
    (hlt : intent.id.number < l.nextNumber) : (l.enter intent).WellFormed := by
  have hold : ∀ n i, (l.enter intent).live.get? n = some i →
      (n = intent.id ∧ i = intent) ∨ (n ≠ intent.id ∧ l.live.get? n = some i) := by
    intro n i hget
    rw [enter_live] at hget
    split at hget
    · rename_i hn
      exact Or.inl ⟨hn, (Option.some.inj hget).symm⟩
    · rename_i hn
      exact Or.inr ⟨hn, hget⟩
  refine ⟨fun n i hget => ?_, fun n i hget => ?_, fun n i hget => ?_, fun target n => ?_⟩
  · rcases hold n i hget with ⟨hn, hi⟩ | ⟨_, hget'⟩
    · rw [hn, hi]
    · exact h.live_id n i hget'
  · rcases hold n i hget with ⟨_, hi⟩ | ⟨_, hget'⟩
    · rw [hi]; exact hstate
    · exact h.live_state n i hget'
  · rcases hold n i hget with ⟨hn, _⟩ | ⟨_, hget'⟩
    · rw [hn]; exact hlt
    · exact h.live_lt n i hget'
  · rw [enter_byTarget]
    constructor
    · intro hby
      split at hby
      · rename_i ht
        obtain rfl := Option.some.inj hby
        exact ⟨intent, by rw [enter_live, if_pos rfl], ht.symm⟩
      · obtain ⟨i, hget, htarget⟩ := (h.byTarget_iff target n).1 hby
        have hn : n ≠ intent.id := by
          rintro rfl
          rw [hid] at hget
          cases hget
        exact ⟨i, by rw [enter_live, if_neg hn]; exact hget, htarget⟩
    · rintro ⟨i, hget, htarget⟩
      rcases hold n i hget with ⟨hn, hi⟩ | ⟨_, hget'⟩
      · rw [if_pos (by rw [← htarget, hi]), hn]
      · have hne : target ≠ intent.target := htarget ▸ target_ne_of_free h hfree hget'
        rw [if_neg hne]
        exact (h.byTarget_iff target n).2 ⟨i, hget', htarget⟩

theorem liveIntent_enter (h : l.WellFormed) {intent : Intent} (hid : l.live.get? intent.id = none)
    (target : Target) :
    (l.enter intent).liveIntent target =
      if target = intent.target then some intent else l.liveIntent target := by
  unfold liveIntent
  rw [enter_byTarget]
  split
  · show (l.enter intent).live.get? intent.id = some intent
    rw [enter_live, if_pos rfl]
  · cases hby : l.liveByTarget.get? target with
    | none => rfl
    | some n =>
      obtain ⟨i, hget, _⟩ := (h.byTarget_iff target n).1 hby
      have hn : n ≠ intent.id := by
        rintro rfl
        rw [hid] at hget
        cases hget
      show (l.enter intent).live.get? n = l.live.get? n
      rw [enter_live, if_neg hn]

theorem issueRun_snd (l : Ledger) (target : Target) (now : Instant) :
    (l.issueRun target now).2 = (l.advance.vacate target).2.enter ⟨⟨l.nextNumber⟩, target, .pending, now⟩ :=
  rfl

theorem advance_wellFormed (h : l.WellFormed) : l.advance.WellFormed :=
  h.of_tables rfl rfl (Nat.le_succ _)

section Issue

variable (h : l.WellFormed) (target : Target) (now : Instant)
include h

/-- The number of the next run is not in use. -/
theorem vacate_fresh : (l.advance.vacate target).2.live.get? ⟨l.nextNumber⟩ = none := by
  rw [vacate_live (advance_wellFormed h)]
  cases hget : l.live.get? ⟨l.nextNumber⟩ with
  | none =>
    show Option.filter _ (l.live.get? _) = none
    rw [hget]
    rfl
  | some intent =>
    -- live runs have numbers below the next one
    exact absurd (h.live_lt _ intent hget) (Nat.lt_irrefl _)

theorem issueRun_wellFormed : (l.issueRun target now).2.WellFormed := by
  have hbase := advance_wellFormed h
  refine enter_wellFormed (vacate_wellFormed hbase target) (vacate_fresh h target) ?_ rfl ?_
  · rw [liveIntent_vacate hbase, if_pos rfl]
  · rw [vacate_nextNumber hbase]
    exact Nat.lt_succ_self _

theorem issueRun_nextNumber : (l.issueRun target now).2.nextNumber = l.nextNumber + 1 :=
  vacate_nextNumber (advance_wellFormed h) target

theorem issueRun_superseded :
    (l.issueRun target now).1.superseded =
      (l.liveIntent target).map fun intent => { intent with state := .stale } :=
  vacate_fst (advance_wellFormed h) target

/-- After a start the new run is live, and so is every earlier one of another target. -/
theorem issueRun_live (n : CorrelationId) :
    (l.issueRun target now).2.live.get? n =
      if n = ⟨l.nextNumber⟩ then some ⟨⟨l.nextNumber⟩, target, .pending, now⟩
      else (l.live.get? n).filter fun intent => intent.target ≠ target := by
  rw [issueRun_snd, enter_live, vacate_live (advance_wellFormed h)]
  rfl

theorem liveIntent_issueRun (t : Target) :
    (l.issueRun target now).2.liveIntent t =
      if t = target then some ⟨⟨l.nextNumber⟩, target, .pending, now⟩ else l.liveIntent t := by
  have hbase := advance_wellFormed h
  rw [issueRun_snd, liveIntent_enter (vacate_wellFormed hbase target) (vacate_fresh h target)]
  split
  · rfl
  · rename_i ht
    rw [liveIntent_vacate hbase, if_neg ht]
    rfl

end Issue

/-! ## Results and sweeps -/

/-- A result is admitted for a live run only, and the run is taken out. -/
theorem admitResult_live {correlationId : String} {intent : Intent} {l' : Ledger}
    (h : l.admitResult correlationId = (.live intent, l')) :
    ∃ id run, CorrelationId.ofText? correlationId = some id ∧ l.live.get? id = some run
      ∧ intent = { run with state := .completed } ∧ l' = l.remove run := by
  unfold admitResult at h
  cases hid : CorrelationId.ofText? correlationId with
  | none => simp [hid] at h
  | some id =>
    cases hget : l.live.get? id with
    | some run =>
      simp only [hid, hget, Prod.mk.injEq, Admission.live.injEq] at h
      exact ⟨id, run, rfl, hget, h.1.symm, h.2.symm⟩
    | none =>
      simp only [hid, hget] at h
      split at h <;> simp at h

/-- A result that is set aside leaves the ledger alone. -/
theorem admitResult_discard {correlationId : String} {reason : DiscardReason} {l' : Ledger}
    (h : l.admitResult correlationId = (.discard reason, l')) : l' = l := by
  unfold admitResult at h
  cases hid : CorrelationId.ofText? correlationId with
  | none => simp only [hid, Prod.mk.injEq] at h; exact h.2.symm
  | some id =>
    cases hget : l.live.get? id with
    | some run => simp [hid, hget] at h
    | none =>
      simp only [hid, hget] at h
      split at h <;> simp only [Prod.mk.injEq] at h <;> exact h.2.symm

theorem admitResult_of_live {text : String} {id : CorrelationId} {run : Intent} (hid : CorrelationId.ofText? text = some id)
    (hlive : l.live.get? id = some run) : l.admitResult text = (.live { run with state := .completed }, l.remove run) := by
  simp only [admitResult, hid, hlive]

theorem admitResult_of_not_live {text : String} {id : CorrelationId} (hid : CorrelationId.ofText? text = some id)
    (hlive : l.live.get? id = none) :
    l.admitResult text = (.discard (.ofTombstone text id (l.tombstoneState id)), l) := by
  simp only [admitResult, hid, hlive, DiscardReason.ofTombstone]
  cases l.tombstoneState id with
  | none => rfl
  | some state => cases state <;> rfl

section Sweep

variable (l) (now : Instant)

@[simp]
theorem swept_id (intent : Intent) : (l.swept now intent).id = intent.id := by
  unfold swept
  split <;> rfl

@[simp]
theorem swept_target (intent : Intent) : (l.swept now intent).target = intent.target := by
  unfold swept
  split <;> rfl

theorem swept_isLive {intent : Intent} (h : intent.state.isLive = true) :
    (l.swept now intent).state.isLive = true := by
  unfold swept
  split
  · rfl
  · exact h

theorem sweepStalled_live (n : CorrelationId) :
    (l.sweepStalled now).2.live.get? n = (l.live.get? n).map (l.swept now) := by
  show (l.live.mapValues _).get? n = _
  rw [Table.get?_mapValues]

theorem liveIntent_sweepStalled (target : Target) :
    (l.sweepStalled now).2.liveIntent target = (l.liveIntent target).map (l.swept now) := by
  unfold liveIntent
  show (l.liveByTarget.get? target).bind (l.sweepStalled now).2.live.get? = _
  rw [funext (sweepStalled_live l now)]
  cases l.liveByTarget.get? target <;> rfl

theorem sweepStalled_wellFormed {l : Ledger} (h : l.WellFormed) : (l.sweepStalled now).2.WellFormed := by
  have hold : ∀ n i, (l.sweepStalled now).2.live.get? n = some i →
      ∃ run, l.live.get? n = some run ∧ l.swept now run = i := by
    intro n i hget
    rw [sweepStalled_live] at hget
    exact Option.map_eq_some_iff.1 hget
  refine ⟨fun n i hget => ?_, fun n i hget => ?_, fun n i hget => ?_, fun target n => ?_⟩
  · obtain ⟨run, hrun, rfl⟩ := hold n i hget
    rw [swept_id]
    exact h.live_id n run hrun
  · obtain ⟨run, hrun, rfl⟩ := hold n i hget
    exact swept_isLive l now (h.live_state n run hrun)
  · obtain ⟨run, hrun, rfl⟩ := hold n i hget
    exact h.live_lt n run hrun
  · show l.liveByTarget.get? target = some n ↔ _
    rw [h.byTarget_iff]
    constructor
    · rintro ⟨run, hrun, htarget⟩
      exact ⟨l.swept now run, by rw [sweepStalled_live, hrun]; rfl, by rw [swept_target]; exact htarget⟩
    · rintro ⟨i, hget, htarget⟩
      obtain ⟨run, hrun, rfl⟩ := hold n i hget
      exact ⟨run, hrun, by rw [swept_target] at htarget; exact htarget⟩

/-- A sweep gives back the overdue runs, as it has marked them. -/
theorem mem_sweepStalled {l : Ledger} {intent : Intent} :
    intent ∈ (l.sweepStalled now).1 ↔
      ∃ run ∈ l.intents, l.isOverdue now run = true ∧ { run with state := .stalled } = intent := by
  show intent ∈ (l.intents.filter _).map _ ↔ _
  simp only [List.mem_map, List.mem_filter]
  constructor
  · rintro ⟨run, ⟨hrun, hoverdue⟩, rfl⟩
    exact ⟨run, hrun, hoverdue, by rw [swept, if_pos hoverdue]⟩
  · rintro ⟨run, hrun, hoverdue, rfl⟩
    exact ⟨run, ⟨hrun, hoverdue⟩, by rw [swept, if_pos hoverdue]⟩

end Sweep

end Ledger

end PanelBridge
