import PanelBridge.Proofs.Agreement
import PanelBridge.Proofs.HandledAlike
import PanelBridge.Proofs.OrphanedResults
import PanelBridge.Proofs.Views

/-!
# Time is only observed

The clock says when a run was started, and a sweep marks the runs that have waited too long. A marked run is still live: its
result is taken, it can be called off, and a newer run replaces it, all as before. So neither the clock nor the sweeps have
a say in what a panel does.

* **`Content.Timeless`, `Ledger.Timeless`**: the state up to how a live run stands and when it was started. Every mutation keeps
  stores so related (`Mutation.Like.parallel`), and the mutations of a sweep do not lead out of the relation
  (`Mutation.runStalled_keeps`).
* **`timeless`**: the likeness of panels whose clocks and sweeps differ.
* **`Panel.Like.sweepLeft`**: a sweep on one side only keeps it.
* **`time_is_only_observed`**: two sessions that differ in what is done with the clock.
-/

namespace PanelBridge

/-! ## Tables of runs -/

namespace Table

open Std

variable {κ α β : Type} [Ord κ] [DecidableEq κ] [TransOrd κ] [LawfulEqOrd κ]

theorem mapValues_insert (t : Table κ α) (k : κ) (v : α) (f : κ → α → β) :
    (t.insert k v).mapValues f = (t.mapValues f).insert k (f k v) := by
  apply ext_get?
  intro k'
  rw [get?_mapValues, get?_insert_eq, get?_insert_eq, get?_mapValues]
  split
  · rename_i heq
    rw [heq]
    rfl
  · rfl

theorem mapValues_erase (t : Table κ α) (k : κ) (f : κ → α → β) :
    (t.erase k).mapValues f = (t.mapValues f).erase k := by
  apply ext_get?
  intro k'
  rw [get?_mapValues, get?_erase_eq, get?_erase_eq, get?_mapValues]
  split <;> rfl

end Table

/-- Two runs are the same but for how they stand and when they were started. -/
structure Intent.SameRun (run run' : Intent) : Prop where
  id : run.id = run'.id
  target : run.target = run'.target

theorem Intent.SameRun.refl (run : Intent) : run.SameRun run := ⟨rfl, rfl⟩

/-! ## The store -/

/-- The pending runs of the targets, by their ids. -/
def pendingIds (pending : Table Target PendingRun) : Table Target CorrelationId := pending.mapValues fun _ run => run.id

/-- Contents that are the same but for how pending runs stand and when they were started. -/
structure Content.Timeless (c d : Content) : Prop where
  readiness : c.readiness = d.readiness
  snapshot : c.snapshot = d.snapshot
  selection : c.selection = d.selection
  filter : c.filter = d.filter
  pending : pendingIds c.pending = pendingIds d.pending
  results : c.results = d.results
  discards : c.discards = d.discards
  discardCapacity : c.discardCapacity = d.discardCapacity
  discardedTotal : c.discardedTotal = d.discardedTotal

theorem Content.Timeless.of_pending {readiness : Readiness} {snapshot : Option Snapshot} {selection : Selection} {filter : String}
    {pending pending' : Table Target PendingRun} {results : Table Target CompletedRun} {discards : List DiscardRecord}
    {capacity total : Nat} (h : pendingIds pending = pendingIds pending') :
    Timeless ⟨readiness, snapshot, selection, filter, pending, results, discards, capacity, total⟩
      ⟨readiness, snapshot, selection, filter, pending', results, discards, capacity, total⟩ :=
  ⟨rfl, rfl, rfl, rfl, h, rfl, rfl, rfl, rfl⟩

theorem pendingIds_get? (pending : Table Target PendingRun) (target : Target) :
    (pendingIds pending).get? target = (pending.get? target).map (·.id) :=
  Table.get?_mapValues pending _ target

namespace Store

variable (s : Store)

theorem ownsPending_iff (run : Intent) :
    s.ownsPending run = true ↔ (pendingIds s.pending).get? run.target = some run.id := by
  rw [ownsPending, pendingIds_get?]
  cases s.pending.get? run.target with
  | none => simp
  | some pending => simp

/-- Whose pending run is dropped depends on the ids only. -/
theorem pendingIds_dropPending (run : Intent) :
    pendingIds (s.dropPending run) =
      if (pendingIds s.pending).get? run.target = some run.id then (pendingIds s.pending).erase run.target
      else pendingIds s.pending := by
  by_cases howns : s.ownsPending run = true
  · rw [dropPending, if_pos howns, if_pos ((s.ownsPending_iff run).1 howns)]
    exact Table.mapValues_erase s.pending run.target _
  · rw [dropPending, if_neg howns, if_neg (mt (s.ownsPending_iff run).2 howns)]

/-- A run that is marked as stalled keeps its id. -/
theorem pendingIds_runStalled (run : Intent) :
    pendingIds (s.apply (.runStalled run)).1.pending = pendingIds s.pending := by
  cases howns : s.ownsPending run with
  | false => rw [apply_runStalled_of_not_owns s howns]
  | true =>
    obtain ⟨pending, hget, hid⟩ := exists_of_ownsPending howns
    rw [apply_runStalled_of_owns s hget hid]
    apply Table.ext_get?
    intro target
    rw [pendingIds_get?, pendingIds_get?]
    show ((s.pending.insert _ _).get? target).map _ = _
    rw [Table.get?_insert_eq]
    split
    · rename_i heq
      rw [heq, hget]
      rfl
    · rfl

/-- A sweep marks pending runs and does nothing else. -/
theorem apply_runStalled_content (run : Intent) :
    (s.apply (.runStalled run)).1.content =
      { s.content with pending := (s.apply (.runStalled run)).1.pending } := by
  cases howns : s.ownsPending run with
  | false =>
    rw [apply_runStalled_of_not_owns s howns]
    rfl
  | true =>
    obtain ⟨pending, hget, hid⟩ := exists_of_ownsPending howns
    rw [apply_runStalled_of_owns s hget hid]
    rfl

/-- Clearing a run drops it if it is the target's, which is what dropping does. -/
theorem apply_runCleared_content (run : Intent) :
    (s.apply (.runCleared run)).1.content = { s.content with pending := s.dropPending run } := by
  rw [apply, dropPending]
  split <;> rfl

theorem apply_clearPending_content : (s.apply .clearPending).1.content = { s.content with pending := .empty } := by
  rw [apply]
  split
  · rename_i hempty
    rw [← Table.eq_empty_of_isEmpty hempty]
    rfl
  · rfl

end Store

theorem Content.Timeless.settled {c d : Content} (h : c.Timeless d) : c.settled.Timeless d.settled := by
  refine ⟨h.readiness, h.snapshot, ?_, h.filter, h.pending, ?_, h.discards, h.discardCapacity, h.discardedTotal⟩
  · show Store.fittingSelection c.selection c.snapshot = Store.fittingSelection d.selection d.snapshot
    rw [h.selection, h.snapshot]
  · simp only [Content.settled, h.results, h.snapshot]

namespace Mutation

variable {run run' : Intent}

theorem runPending_parallel (h : run.SameRun run') : Parallel Content.Timeless (.runPending run) (.runPending run') := by
  intro s t hst
  refine ⟨{ hst with pending := ?_ }, rfl⟩
  show pendingIds (s.pending.insert run.target _) = pendingIds (t.pending.insert run'.target _)
  have hids : pendingIds s.pending = pendingIds t.pending := hst.pending
  unfold pendingIds at hids ⊢
  rw [Table.mapValues_insert, Table.mapValues_insert, hids, h.id, h.target]

theorem dropPending_parallel (h : run.SameRun run') {s t : Store} (hst : s.content.Timeless t.content) :
    pendingIds (s.dropPending run) = pendingIds (t.dropPending run') := by
  have hids : pendingIds s.pending = pendingIds t.pending := hst.pending
  rw [Store.pendingIds_dropPending, Store.pendingIds_dropPending, hids, h.id, h.target]

theorem runCleared_parallel (h : run.SameRun run') : Parallel Content.Timeless (.runCleared run) (.runCleared run') := by
  intro s t hst
  refine ⟨?_, ?_⟩
  · rw [s.apply_runCleared_content, t.apply_runCleared_content]
    exact { hst with pending := dropPending_parallel h hst }
  · rw [s.apply_untouched (by simp [scope]), t.apply_untouched (by simp [scope])]

theorem runCompleted_parallel (h : run.SameRun run') (result : TestResult) :
    Parallel Content.Timeless (.runCompleted run result) (.runCompleted run' result) := by
  intro s t hst
  refine ⟨{ hst with pending := dropPending_parallel h hst, results := ?_ }, rfl⟩
  show s.results.insert run.target ⟨run.id, result⟩ = t.results.insert run'.target ⟨run'.id, result⟩
  have hresults : s.results = t.results := hst.results
  rw [hresults, h.id, h.target]

theorem runStalled_keeps (run : Intent) {s : Store} {d : Content} (h : s.content.Timeless d) :
    (s.apply (.runStalled run)).1.content.Timeless d := by
  rw [s.apply_runStalled_content run]
  exact { h with pending := (s.pendingIds_runStalled run).trans h.pending }

/-- What is not about runs does not look at the pending ones. -/
theorem parallel_of_scope {m : Mutation} (hscope : .runs ∉ m.scope) : Parallel Content.Timeless m m := by
  intro s t h
  obtain ⟨_, snapshot, _, _, _, _, _, _, _⟩ := s
  obtain ⟨_, _, _, _, _, _, _, _, _⟩ := t
  obtain ⟨rfl, rfl, rfl, rfl, hpending, rfl, rfl, rfl, rfl⟩ := h
  cases m with
  | setReadiness | select | setFilter =>
    exact .ite ⟨.of_pending hpending, rfl⟩ ⟨.of_pending hpending, rfl⟩
  | mergeSnapshot | clearSnapshot | mergeDiagnostics =>
    cases snapshot <;> exact ⟨.of_pending hpending, rfl⟩
  | replaceSnapshot | recordDiscard => exact ⟨.of_pending hpending, rfl⟩
  | runPending | runStalled | runCleared | clearPending | runCompleted => exact absurd (.head _) hscope

/-- **A mutation does the same to stores that differ in times and in how runs stand.** -/
theorem parallel_timeless (m : Mutation) : Parallel Content.Timeless m m := by
  cases m with
  | runPending run => exact runPending_parallel (.refl run)
  | runCleared run => exact runCleared_parallel (.refl run)
  | runCompleted run result => exact runCompleted_parallel (.refl run) result
  | runStalled run =>
    intro s t h
    refine ⟨?_, ?_⟩
    · -- neither side leaves the relation
      have hleft := runStalled_keeps run h
      rw [t.apply_runStalled_content run]
      exact { hleft with pending := hleft.pending.trans (t.pendingIds_runStalled run).symm }
    · rw [s.apply_untouched (by simp [scope]), t.apply_untouched (by simp [scope])]
  | clearPending =>
    intro s t h
    refine ⟨?_, ?_⟩
    · rw [s.apply_clearPending_content, t.apply_clearPending_content]
      exact { h with pending := rfl }
    · rw [s.apply_untouched (by simp [scope]), t.apply_untouched (by simp [scope])]
  | setReadiness | select | setFilter | mergeSnapshot | clearSnapshot | mergeDiagnostics | replaceSnapshot | recordDiscard =>
    exact parallel_of_scope (by simp [scope])

end Mutation

/-! ## The ledger -/

/-- The live runs by id, each with its id and target. -/
def Ledger.runs (l : Ledger) : Table CorrelationId (CorrelationId × Target) :=
  l.live.mapValues fun _ run => (run.id, run.target)

/-- Ledgers that are the same but for how live runs stand and when they were started. -/
structure Ledger.Timeless (l k : Ledger) : Prop where
  nextNumber : l.nextNumber = k.nextNumber
  runs : l.runs = k.runs
  liveByTarget : l.liveByTarget = k.liveByTarget
  tombstones : l.tombstones = k.tombstones
  tombstoneCapacity : l.tombstoneCapacity = k.tombstoneCapacity

namespace Ledger.Timeless

variable {l k : Ledger} (h : l.Timeless k)
include h

/-- A run is live on both sides or on neither. -/
theorem live_cases (id : CorrelationId) :
    (l.live.get? id = none ∧ k.live.get? id = none)
      ∨ ∃ run run', l.live.get? id = some run ∧ k.live.get? id = some run' ∧ run.SameRun run' := by
  have hget : l.runs.get? id = k.runs.get? id := by rw [h.runs]
  simp only [Ledger.runs, Table.get?_mapValues] at hget
  cases hl : l.live.get? id with
  | none =>
    rw [hl] at hget
    exact .inl ⟨rfl, Option.map_eq_none_iff.1 hget.symm⟩
  | some run =>
    rw [hl] at hget
    obtain ⟨run', hk, hpair⟩ := Option.map_eq_some_iff.1 hget.symm
    obtain ⟨hid, htarget⟩ := Prod.mk.inj hpair
    exact .inr ⟨run, run', rfl, hk, hid.symm, htarget.symm⟩

theorem keys : l.live.keys = k.live.keys := by
  calc l.live.keys
    _ = l.runs.keys := (Table.keys_mapValues l.live _).symm
    _ = k.runs.keys := by rw [h.runs]
    _ = k.live.keys := Table.keys_mapValues k.live _

theorem remove {run run' : Intent} (hrun : run.SameRun run') : (l.remove run).Timeless (k.remove run') := by
  refine ⟨h.nextNumber, ?_, ?_, h.tombstones, h.tombstoneCapacity⟩
  · show (l.live.erase run.id).mapValues _ = (k.live.erase run'.id).mapValues _
    have hruns := h.runs
    unfold Ledger.runs at hruns
    rw [Table.mapValues_erase, Table.mapValues_erase, hruns, hrun.id]
  · show l.liveByTarget.erase run.target = k.liveByTarget.erase run'.target
    rw [h.liveByTarget, hrun.target]

theorem enter {run run' : Intent} (hrun : run.SameRun run') : (l.enter run).Timeless (k.enter run') := by
  refine ⟨h.nextNumber, ?_, ?_, h.tombstones, h.tombstoneCapacity⟩
  · show (l.live.insert run.id run).mapValues _ = (k.live.insert run'.id run').mapValues _
    have hruns := h.runs
    unfold Ledger.runs at hruns
    rw [Table.mapValues_insert, Table.mapValues_insert, hruns, hrun.id, hrun.target]
  · show l.liveByTarget.insert run.target run.id = k.liveByTarget.insert run'.target run'.id
    rw [h.liveByTarget, hrun.target, hrun.id]

/-- A run ends the same way whether it was marked or not. -/
theorem retire (id : CorrelationId) (state : RunState) :
    Option.Rel Intent.SameRun (l.retire id state).1 (k.retire id state).1
      ∧ (l.retire id state).2.Timeless (k.retire id state).2 := by
  rcases h.live_cases id with ⟨hl, hk⟩ | ⟨run, run', hl, hk, hrun⟩
  · rw [retire_of_not_live hl, retire_of_not_live hk]
    exact ⟨.none, h⟩
  · rw [retire_of_live hl, retire_of_live hk]
    have hremoved := h.remove hrun
    refine ⟨.some ⟨hrun.id, hrun.target⟩, hremoved.nextNumber, hremoved.runs, hremoved.liveByTarget, ?_, h.tombstoneCapacity⟩
    show pushRecent l.tombstoneCapacity l.tombstones _ = pushRecent k.tombstoneCapacity k.tombstones _
    rw [h.tombstones, h.tombstoneCapacity]

/-- A sweep only marks runs. -/
theorem sweepLeft (now : Instant) : (l.sweepStalled now).2.Timeless k := by
  refine ⟨h.nextNumber, ?_, h.liveByTarget, h.tombstones, h.tombstoneCapacity⟩
  rw [← h.runs]
  apply Table.ext_get?
  intro id
  show ((l.live.mapValues fun _ run => l.swept now run).mapValues _).get? id = (l.live.mapValues _).get? id
  rw [Table.get?_mapValues, Table.get?_mapValues, Table.get?_mapValues, Option.map_map]
  congr 1
  funext run
  show ((l.swept now run).id, (l.swept now run).target) = (run.id, run.target)
  rw [swept_id, swept_target]

end Ledger.Timeless

/-! ## The overview -/

/-- How a run stands, with marked runs as pending ones. -/
def RunStatus.unmarked : RunStatus → RunStatus
  | .stalled id => .pending id
  | status => status

/-- The overview with marked runs as pending ones. -/
def PanelView.unmarked (v : PanelView) : PanelView :=
  { v with runs := v.runs.map fun run => { run with status := run.status.unmarked } }

namespace Store

variable {s t : Store}

theorem completedStatus_unmarked (run : CompletedRun) : (completedStatus run).unmarked = completedStatus run := by
  unfold completedStatus
  split <;> rfl

/-- Up to marks, how a target's runs stand depends on the ids of pending runs and on the results. -/
theorem runStatus_unmarked (s : Store) (target : Target) :
    (s.runStatus target).unmarked = match (pendingIds s.pending).get? target with
      | some id => .pending id
      | none => match s.results.get? target with
        | some completed => completedStatus completed
        | none => .unset := by
  rw [pendingIds_get?, runStatus]
  cases s.pending.get? target with
  | some run =>
    cases hstate : run.state <;> simp only [hstate, Option.map_some] <;> rfl
  | none =>
    cases s.results.get? target with
    | some completed => exact completedStatus_unmarked completed
    | none => rfl

theorem runTargets_timeless (h : s.content.Timeless t.content) : s.runTargets = t.runTargets := by
  have hkeys : s.pending.keys = t.pending.keys := by
    rw [← Table.keys_mapValues s.pending fun _ run => run.id, ← Table.keys_mapValues t.pending fun _ run => run.id]
    exact congrArg Table.keys h.pending
  have hresults : s.results = t.results := h.results
  simp only [runTargets, hkeys, hresults]

theorem overview_timeless (h : s.content.Timeless t.content) (functions : List FunctionDefinition) :
    (s.overview functions).unmarked = (t.overview functions).unmarked := by
  have hsnapshot : s.snapshot = t.snapshot := h.snapshot
  have hreadiness : s.readiness = t.readiness := h.readiness
  have hselection : s.selection = t.selection := h.selection
  have hfilter : s.filter = t.filter := h.filter
  have hresults : s.results = t.results := h.results
  have hpending : pendingIds s.pending = pendingIds t.pending := h.pending
  have hdiscarded : s.discardedTotal = t.discardedTotal := h.discardedTotal
  have hsummary : s.summary = t.summary := by
    funext f
    simp only [summary, functionErrors, hsnapshot]
  have hstatus (target : Target) : (s.runStatus target).unmarked = (t.runStatus target).unmarked := by
    rw [runStatus_unmarked, runStatus_unmarked, hpending, hresults]
  simp only [overview, PanelView.unmarked, sequence, List.map_map, Function.comp_def, hstatus, runTargets_timeless h,
    hsummary, hsnapshot, hreadiness, hselection, hfilter, hdiscarded]

/-- The views of a store are remembered as they should be. -/
def Mindful (s : Store) : Prop := ∃ past, ∀ v, Remembered past s v

theorem Mindful.move (h : s.Mindful) (m : StoreMove) : (s.move m).Mindful := by
  obtain ⟨past, hremembered⟩ := h
  exact ⟨_, (continues_move hremembered m).remembered⟩

/-- What is remembered of the functions is what the state shows. -/
theorem Mindful.read (h : s.Mindful) : s.read.1 = s.overview s.computeFilteredFunctions := by
  obtain ⟨past, hremembered⟩ := h
  have hright := (readView_right (hremembered .filteredFunctions)).1
  show s.overview (s.readView .filteredFunctions).1 = _
  exact congrArg s.overview hright

theorem Mindful.collected (h : s.Mindful) : Mindful { s with outbox := [] } := by
  obtain ⟨past, hremembered⟩ := h
  refine ⟨past, fun v => (hremembered v).of_same rfl rfl fun slice => ?_⟩
  cases slice <;> rfl

end Store

/-! ## Panels with other clocks -/

/-- Panels whose clocks and sweeps may differ. -/
def timeless : Likeness where
  store s t := s.AlikeIn Content.Timeless t ∧ s.Mindful ∧ t.Mindful
  ledger := Ledger.Timeless
  transport := Eq
  clock _ _ := True
  intent := Intent.SameRun
  reason := Eq
  view v v' := v.unmarked = v'.unmarked

theorem Mutation.Like.parallel {m m' : Mutation} (h : Mutation.Like timeless m m') : Parallel Content.Timeless m m' := by
  cases h with
  | same => exact parallel_timeless m
  | runPending hrun => exact runPending_parallel hrun
  | runCleared hrun => exact runCleared_parallel hrun
  | runCompleted hrun result => exact runCompleted_parallel hrun result
  | recordDiscard ordinal kind hreason =>
    obtain rfl : _ = _ := hreason
    exact parallel_timeless _

theorem Ledger.Timeless.admitResult {l k : Ledger} (h : l.Timeless k) (text : String) :
    Admission.Like timeless (l.admitResult text).1 (k.admitResult text).1
      ∧ (l.admitResult text).2.Timeless (k.admitResult text).2 := by
  cases hid : CorrelationId.ofText? text with
  | none =>
    simp only [Ledger.admitResult, hid]
    exact ⟨.discard rfl, h⟩
  | some id =>
    rcases h.live_cases id with ⟨hl, hk⟩ | ⟨run, run', hl, hk, hrun⟩
    · have htombstone : l.tombstoneState id = k.tombstoneState id := by rw [tombstoneState, tombstoneState, h.tombstones]
      rw [admitResult_of_not_live hid hl, admitResult_of_not_live hid hk, htombstone]
      exact ⟨.discard rfl, h⟩
    · rw [admitResult_of_live hid hl, admitResult_of_live hid hk]
      exact ⟨.live ⟨hrun.id, hrun.target⟩, h.remove hrun⟩

theorem timeless_lawful : timeless.Lawful where
  readiness h := h.1.content.readiness
  snapshot h := h.1.content.snapshot
  commit {s t mutations mutations'} h hm := by
    obtain ⟨halike, hs, ht⟩ := h
    refine ⟨halike.commit (fun _ _ => Content.Timeless.settled) (hm.imp fun _ _ => Mutation.Like.parallel), ?_, ?_⟩
    · exact hs.move (.commit mutations)
    · exact ht.move (.commit mutations')
  collected h := ⟨h.1.collected, h.2.1.collected, h.2.2.collected⟩
  subscribe label reads h :=
    ⟨(h.1.subscribe label reads).1, (h.1.subscribe label reads).2, h.2.1.move (.subscribe label reads),
      h.2.2.move (.subscribe label reads)⟩
  unsubscribe id h :=
    ⟨(h.1.unsubscribe id).1, (h.1.unsubscribe id).2, h.2.1.move (.unsubscribe id), h.2.2.move (.unsubscribe id)⟩
  read {s t} h := by
    obtain ⟨halike, hs, ht⟩ := h
    refine ⟨?_, halike.read, hs.move (.look .overview), ht.move (.look .overview)⟩
    have hfunctions : s.computeFilteredFunctions = t.computeFilteredFunctions := by
      have hsnapshot : s.snapshot = t.snapshot := halike.content.snapshot
      have hfilter : s.filter = t.filter := halike.content.filter
      simp only [Store.computeFilteredFunctions, hsnapshot, hfilter]
    show s.read.1.unmarked = t.read.1.unmarked
    rw [hs.read, ht.read, hfunctions]
    exact Store.overview_timeless halike.content _
  sameReason _ := rfl
  nextNumber h := h.nextNumber
  byTarget h := h.liveByTarget
  keys h := h.keys
  advance h := ⟨congrArg (· + 1) h.nextNumber, h.runs, h.liveByTarget, h.tombstones, h.tombstoneCapacity⟩
  retire id state h := h.retire id state
  enter h hrun := h.enter hrun
  admitResult text h := h.admitResult text
  newRun _ _ _ := ⟨rfl, rfl⟩
  inbound := by
    rintro t _ rfl
    rfl
  queued := by
    rintro t _ queue rfl
    rfl
  send := by
    rintro t _ c rfl -
    exact ⟨rfl, rfl⟩

theorem timeless_onView : timeless.OnView where
  selection h := h.1.content.selection
  send := by
    rintro t _ function rfl
    exact ⟨rfl, rfl⟩

namespace Panel

variable {p q : Panel}

/-- **A sweep on one side keeps panels alike**: the runs it marks stay what they are. -/
theorem Like.sweepLeft (h : p.Like timeless q) (now : Instant) : (p.tickAt now).2.Like timeless q := by
  refine h.updatedLeft (fun hst => ⟨hst.1.collectedLeft, hst.2.1.collected, hst.2.2⟩) (h.ledger.sweepLeft now) ?_
  obtain ⟨halike, hs, ht⟩ := h.dispatcher.store
  unfold Dispatcher.recordRunsStalled
  split
  · exact h.dispatcher
  · refine ⟨⟨halike.commitLeft ?_ ?_, hs.move (.commit _), ht⟩, h.dispatcher.limit, h.dispatcher.received⟩
    · intro m hm
      obtain ⟨run, -, rfl⟩ := List.mem_map.1 hm
      simp [Mutation.scope]
    · intro m hm s hcontent
      obtain ⟨run, -, rfl⟩ := List.mem_map.1 hm
      exact Mutation.runStalled_keeps run hcontent

theorem Like.performClockLeft (h : p.Like timeless q) {op : Operation} (hclock : op.isOnClock = true) :
    (p.perform op).2.Like timeless q := by
  cases op with
  | setClock now => exact ⟨h.dispatcher, h.ledger, h.transport, trivial, h.listeners⟩
  | tick => exact h.sweepLeft p.now
  | tickAt now => exact h.sweepLeft now
  | _ => cases hclock

theorem Like.performUnclocked (h : p.Like timeless q) {op : Operation} (hclock : op.isOnClock = false) :
    Report.Like timeless (p.perform op).1 (q.perform op).1 ∧ (p.perform op).2.Like timeless (q.perform op).2 := by
  cases hview : op.isOnView with
  | true => exact h.performOnView timeless_lawful timeless_onView hview
  | false => exact h.perform timeless_lawful hclock hview

theorem timeless_lockstep : Lockstep timeless (!·.isOnClock) where
  kept hkept h := h.performUnclocked (by simpa using hkept)
  skipped hskipped h := h.performClockLeft (by simpa using hskipped)

theorem new_like_timeless (config : PanelConfig) (channel : MemoryChannel) (now now' : Instant) :
    (new config channel now).Like timeless (new config channel now') := by
  have hmindful : (Store.new config.discardLogCapacity).Mindful := ⟨[], remembered_new _⟩
  exact ⟨⟨⟨⟨.of_pending rfl, rfl, rfl⟩, hmindful, hmindful⟩, rfl, rfl⟩, ⟨rfl, rfl, rfl, rfl, rfl⟩, rfl, trivial, rfl⟩

/-- What two panels have in common when they differ in time only. -/
structure SameButTimes (p q : Panel) : Prop where
  readiness : p.store.readiness = q.store.readiness
  snapshot : p.store.snapshot = q.store.snapshot
  selection : p.store.selection = q.store.selection
  filter : p.store.filter = q.store.filter
  results : p.store.results = q.store.results
  discards : p.store.discards = q.store.discards
  discardedTotal : p.store.discardedTotal = q.store.discardedTotal
  tombstones : p.ledger.tombstones = q.ledger.tombstones
  nextNumber : p.ledger.nextNumber = q.ledger.nextNumber
  liveByTarget : p.ledger.liveByTarget = q.ledger.liveByTarget
  transport : p.transport = q.transport
  received : p.dispatcher.received = q.dispatcher.received
  pending : pendingIds p.store.pending = pendingIds q.store.pending
  live : p.ledger.intents.map (fun run => (run.id, run.target)) = q.ledger.intents.map fun run => (run.id, run.target)

theorem Like.sameButTimes (h : p.Like timeless q) : p.SameButTimes q where
  readiness := h.store.1.content.readiness
  snapshot := h.store.1.content.snapshot
  selection := h.store.1.content.selection
  filter := h.store.1.content.filter
  results := h.store.1.content.results
  discards := h.store.1.content.discards
  discardedTotal := h.store.1.content.discardedTotal
  tombstones := h.ledger.tombstones
  nextNumber := h.ledger.nextNumber
  liveByTarget := h.ledger.liveByTarget
  transport := h.transport
  received := h.dispatcher.received
  pending := h.store.1.content.pending
  live := by
    have hvalues (l : Ledger) : l.runs.values = l.intents.map fun run => (run.id, run.target) :=
      Table.values_mapValues l.live _
    rw [← hvalues, ← hvalues, h.ledger.runs]

/-- Panels that have all this in common with a third one have it in common with each other. -/
theorem SameButTimes.join {r : Panel} (h : p.SameButTimes r) (h' : q.SameButTimes r) : p.SameButTimes q where
  readiness := h.readiness.trans h'.readiness.symm
  snapshot := h.snapshot.trans h'.snapshot.symm
  selection := h.selection.trans h'.selection.symm
  filter := h.filter.trans h'.filter.symm
  results := h.results.trans h'.results.symm
  discards := h.discards.trans h'.discards.symm
  discardedTotal := h.discardedTotal.trans h'.discardedTotal.symm
  tombstones := h.tombstones.trans h'.tombstones.symm
  nextNumber := h.nextNumber.trans h'.nextNumber.symm
  liveByTarget := h.liveByTarget.trans h'.liveByTarget.symm
  transport := h.transport.trans h'.transport.symm
  received := h.received.trans h'.received.symm
  pending := h.pending.trans h'.pending.symm
  live := h.live.trans h'.live.symm

/-- A run that waits is pending or marked as stalled, in the ledger and in the store. -/
structure Waits (p : Panel) : Prop where
  live : ∀ run ∈ p.ledger.intents, run.state = .pending ∨ run.state = .stalled
  pending : ∀ target run, p.store.pending.get? target = some run → run.state = .pending ∨ run.state = .stalled

theorem Agrees.waits (h : p.Agrees) : p.Waits := by
  have hstate {state : RunState} (hlive : state.isLive = true) : state = .pending ∨ state = .stalled := by
    cases state with
    | pending => exact .inl rfl
    | stalled => exact .inr rfl
    | cancelled | completed | stale => cases hlive
  constructor
  · intro run hrun
    exact hstate (h.wellFormed.live_state _ run ((Ledger.mem_intents_iff h.wellFormed).1 hrun))
  · intro target run hrun
    -- a pending run is shown as it stands in the ledger
    rw [h.shown target] at hrun
    obtain ⟨intent, hintent, rfl⟩ := Option.map_eq_some_iff.1 hrun
    have hlive := ((Ledger.liveIntent_eq_some_iff h.wellFormed).1 hintent).1
    exact hstate (h.wellFormed.live_state _ intent hlive)

end Panel

/-- A session is like what is left of it when the clock is left alone, whenever that is started. -/
theorem Panel.session_like (config : PanelConfig) (channel : MemoryChannel) (now now' : Instant) (ops : List Operation) :
    List.Forall₂ (Report.Like timeless) ((new config channel now).reportsOf (!·.isOnClock) ops)
        ((new config channel now').performAll (ops.filter (!·.isOnClock))).1
      ∧ ((new config channel now).performAll ops).2.Like timeless
          ((new config channel now').performAll (ops.filter (!·.isOnClock))).2 :=
  (new_like_timeless config channel now now').performAll timeless_lockstep ops

theorem Panel.session_handlings (config : PanelConfig) (channel : MemoryChannel) (now now' : Instant) (ops : List Operation) :
    (new config channel now).handlings ops = (new config channel now').handlings (ops.filter (!·.isOnClock)) :=
  handlings_eq id ((new_like_timeless config channel now now').handlings timeless_lawful timeless_lockstep
    (fun _ hskipped => Operation.single_of_isOnClock (by simpa using hskipped)) ops)

theorem Panel.session_timeless (config : PanelConfig) (channel : MemoryChannel) (now now' : Instant) (ops : List Operation) :
    ((new config channel now).reportsOf (!·.isOnClock) ops).map (Report.mapView .unmarked)
        = ((new config channel now').performAll (ops.filter (!·.isOnClock))).1.map (Report.mapView .unmarked)
      ∧ ((new config channel now).performAll ops).2.SameButTimes
          ((new config channel now').performAll (ops.filter (!·.isOnClock))).2 := by
  obtain ⟨hreports, hlast⟩ := session_like config channel now now' ops
  exact ⟨Report.mapView_eq_of_like id id hreports, hlast.sameButTimes⟩

/-- At the end of every session the views are remembered as they should be. -/
theorem Panel.session_mindful (config : PanelConfig) (channel : MemoryChannel) (now : Instant) (ops : List Operation) :
    ((new config channel now).performAll ops).2.store.Mindful :=
  (session_like config channel now now ops).2.dispatcher.store.2.1

/-- **Time is only observed.** Two sessions over the same channel that differ in when they start and in what is done with the
clock, which may be set to any time, and swept by, at any point: the other operations give the same reports, up to the marks in
overviews, the same messages are handled with the same outcomes, and the panels end in the same state, up to how live runs stand
and when they were started. -/
theorem time_is_only_observed (config : PanelConfig) (channel : MemoryChannel) (now now' : Instant) (ops ops' : List Operation)
    (hsame : ops.filter (!·.isOnClock) = ops'.filter (!·.isOnClock)) :
    let p := Panel.new config channel now
    let q := Panel.new config channel now'
    (p.reportsOf (!·.isOnClock) ops).map (Report.mapView .unmarked)
        = (q.reportsOf (!·.isOnClock) ops').map (Report.mapView .unmarked)
      ∧ p.handlings ops = q.handlings ops'
      ∧ (p.performAll ops).2.SameButTimes (q.performAll ops').2
      ∧ (p.performAll ops).2.Waits ∧ (q.performAll ops').2.Waits := by
  intro p q
  -- both sessions are compared with what is left of them
  obtain ⟨hreports, hlast⟩ := Panel.session_timeless config channel now now ops
  obtain ⟨hreports', hlast'⟩ := Panel.session_timeless config channel now' now ops'
  rw [← hsame] at hreports' hlast'
  have hhandled := Panel.session_handlings config channel now now ops
  have hhandled' := Panel.session_handlings config channel now' now ops'
  rw [← hsame] at hhandled'
  have hagrees (now : Instant) (ops : List Operation) : ((Panel.new config channel now).performAll ops).2.Agrees :=
    (Panel.history_path _ ops).agrees (Panel.new_agrees config channel now)
  exact ⟨hreports.trans hreports'.symm, hhandled.trans hhandled'.symm, hlast.join hlast', (hagrees now ops).waits,
    (hagrees now' ops').waits⟩

/-- A run is started and shown. -/
def hastySession : List Operation :=
  [.mount, .deliver (projectMessage .ready 1 "f1" "c1"), .act (.runTest "f1" "c1"), .read]

/-- The same, but the clock goes back before the run is started, and a sweep marks the run before it is shown. -/
def patientSession : List Operation :=
  [.mount, .tick, .deliver (projectMessage .ready 1 "f1" "c1"), .setClock ⟨1600000000, 0⟩, .act (.runTest "f1" "c1"),
    .tickAt ⟨1700000000, 0⟩, .read]

/-- The run is pending after the one session and stalled after the other, and that is all. -/
theorem patientSession_only_observed :
    let p := ((Panel.new {} .accepting ⟨1700000000, 0⟩).performAll hastySession).2
    let q := ((Panel.new {} .accepting ⟨1700000000, 0⟩).performAll patientSession).2
    hastySession.filter (!·.isOnClock) = patientSession.filter (!·.isOnClock)
      ∧ p.ledger.intents.map (·.state) = [.pending] ∧ q.ledger.intents.map (·.state) = [.stalled]
      ∧ p.SameButTimes q := by
  intro p q
  have hstates : p.ledger.intents.map (·.state) = [.pending] ∧ q.ledger.intents.map (·.state) = [.stalled] := by
    decide +kernel
  have hkept : hastySession.filter (!·.isOnClock) = patientSession.filter (!·.isOnClock) := rfl
  obtain ⟨-, -, hsame, -, -⟩ :=
    time_is_only_observed {} .accepting ⟨1700000000, 0⟩ ⟨1700000000, 0⟩ hastySession patientSession hkept
  exact ⟨hkept, hstates.1, hstates.2, hsame⟩

end PanelBridge
