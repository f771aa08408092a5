import PanelBridge.Proofs.DiagnosticsByFile
import PanelBridge.Proofs.Outcomes
import PanelBridge.Proofs.SnapshotRules
import PanelBridge.Proofs.Timeless

/-!
# The overview agrees with the state

The overview puts together what the store holds in several places: the runs of two tables, a list of functions that may have been
remembered, and counts of diagnostics that are made anew.

* **`RunStatus.Tells`**: how the runs of a target stand, by its pending run and its result. Every run of an overview is shown so
  (`runStatus_tells`), and the targets that are shown are those of the two tables (`mem_runTargets`), each once and in order.
* **`listedErrors_le`**: the errors of the listed functions are no more than all errors. A diagnostic belongs to one function at
  most, and no function is listed twice.
* **`overview_agrees_with_state`**: the whole overview, after any session.
-/

namespace PanelBridge

/-! ## Runs -/

namespace Table

open Std

variable {κ : Type} [Ord κ] [TransOrd κ] [LawfulEqOrd κ]

/-- Keys put into a table one after the other, in any order. -/
theorem mem_keys_insertAll {keys : List κ} {t : Table κ Unit} {k : κ} :
    k ∈ (keys.foldl (fun t k => t.insert k ()) t).keys ↔ k ∈ keys ∨ k ∈ t.keys := by
  induction keys generalizing t with
  | nil => simp
  | cons first rest ih =>
    have hfirst : k ∈ (t.insert first ()).keys ↔ k = first ∨ k ∈ t.keys := by
      rw [mem_keys_iff, mem_keys_iff, get?_insert]
      by_cases hk : compare k first = .eq
      · simp [LawfulEqCmp.eq_of_compare hk]
      · have hne : k ≠ first := fun heq => hk (heq ▸ ReflCmp.compare_self)
        simp [hk, hne]
    rw [List.foldl_cons, ih, hfirst, List.mem_cons, or_left_comm, or_assoc]

end Table

/-- Targets are in ascending order by function, then by test case. -/
theorem Target.lt_of_compare {a b : Target} (h : compare a b = .lt) :
    a.function < b.function ∨ a.function = b.function ∧ a.testCase < b.testCase := by
  change (compare a.function b.function).then (compare a.testCase b.testCase) = .lt at h
  rcases Ordering.then_eq_lt.1 h with hfunction | ⟨hfunction, htestCase⟩
  · exact .inl (compareOfLessAndEq_eq_lt.1 hfunction)
  · exact .inr ⟨Std.LawfulEqCmp.eq_of_compare hfunction, compareOfLessAndEq_eq_lt.1 htestCase⟩

/-- How the runs of a target stand that has a pending run or a result. A pending run goes before a result. -/
inductive RunStatus.Tells : Option PendingRun → Option CompletedRun → RunStatus → Prop where
  | pending {run : PendingRun} {done : Option CompletedRun} (state : run.state = .pending) :
      Tells (some run) done (.pending run.id)
  | stalled {run : PendingRun} {done : Option CompletedRun} (state : run.state = .stalled) :
      Tells (some run) done (.stalled run.id)
  | passed {done : CompletedRun} (status : done.result.status = .success) :
      Tells none (some done) (.passed done.id done.result.output done.result.durationMs)
  | failed {done : CompletedRun} (status : done.result.status = .failure) :
      Tells none (some done) (.failed done.id done.result.error done.result.durationMs)

theorem RunStatus.Tells.ne_unset {status : RunStatus} {run : Option PendingRun} {done : Option CompletedRun}
    (h : status.Tells run done) : status ≠ .unset := by
  rintro rfl
  cases h

namespace Store

variable {s : Store}

theorem mem_runTargets {target : Target} :
    target ∈ s.runTargets ↔ s.pending.get? target ≠ none ∨ s.results.get? target ≠ none := by
  unfold runTargets
  rw [Table.mem_keys_insertAll, List.mem_append, Table.mem_keys_iff, Table.mem_keys_iff, Option.ne_none_iff_exists',
    Option.ne_none_iff_exists']
  exact or_iff_left List.not_mem_nil

theorem runTargets_ascending (s : Store) :
    s.runTargets.Pairwise fun a b => a.function < b.function ∨ a.function = b.function ∧ a.testCase < b.testCase :=
  List.pairwise_map.2 ((Table.ascending _).imp Target.lt_of_compare)

theorem runStatus_tells {target : Target} (hshown : target ∈ s.runTargets)
    (hwaits : ∀ run, s.pending.get? target = some run → run.state = .pending ∨ run.state = .stalled) :
    (s.runStatus target).Tells (s.pending.get? target) (s.results.get? target) := by
  unfold runStatus
  cases hpending : s.pending.get? target with
  | some run =>
    rcases hwaits run hpending with hstate | hstate
    · simp only [hstate]
      exact .pending hstate
    · simp only [hstate]
      exact .stalled hstate
  | none =>
    -- a target is shown for one of the two
    obtain ⟨done, hdone⟩ := Option.ne_none_iff_exists'.1 ((mem_runTargets.1 hshown).resolve_left fun h => h hpending)
    rw [hdone]
    show (completedStatus done).Tells none (some done)
    unfold completedStatus
    cases hstatus : done.result.status with
    | success => exact .passed hstatus
    | failure => exact .failed hstatus

end Store

/-! ## Functions and their errors -/

/-- The function that a summary is about. -/
def FunctionSummary.definition (f : FunctionSummary) : FunctionDefinition := ⟨f.id, f.signature, f.testCases⟩

/-- The errors of the listed functions, added up. -/
def PanelView.listedErrors (v : PanelView) : Nat := v.functions.foldr (fun f n => f.errorCount + n) 0

namespace DiagnosticIndex

/-- **Errors that are counted by the function they belong to are counted once**, if no function is listed twice. -/
theorem errors_by_function_le (ds : List Diagnostic) {ids : List String} (hids : ids.Nodup) :
    ids.foldr (fun id n => (ds.filter fun d => d.function == some id).countP isError + n) 0 ≤ ds.countP isError := by
  induction ids generalizing ds with
  | nil => exact Nat.zero_le _
  | cons id rest ih =>
    obtain ⟨hid, hrest⟩ := List.nodup_cons.1 hids
    -- the other functions find their diagnostics among those that are not of this one
    let others := ds.filter fun d => !(d.function == some id)
    have hothers : ∀ id' ∈ rest, (ds.filter fun d => d.function == some id') = others.filter fun d => d.function == some id' := by
      intro id' hid'
      rw [List.filter_filter]
      refine List.filter_congr fun d _ => ?_
      by_cases hd : d.function = some id'
      · have hne : id' ≠ id := fun heq => hid (heq ▸ hid')
        simp [hd, hne]
      · simp [hd]
    have hcounts : rest.foldr (fun id n => (ds.filter fun d => d.function == some id).countP isError + n) 0 =
        rest.foldr (fun id n => (others.filter fun d => d.function == some id).countP isError + n) 0 :=
      List.foldr_ext _ _ _ fun id' hid' n => by rw [hothers id' hid']
    have hsplit : ds.countP isError = (ds.filter fun d => d.function == some id).countP isError + others.countP isError := by
      rw [← List.countP_append]
      exact (List.filter_append_perm ..).symm.countP_eq isError
    rw [List.foldr_cons, hcounts, hsplit]
    exact Nat.add_le_add_left (ih others hrest) _

end DiagnosticIndex

namespace Store

/-- The functions of the project; none without a snapshot. -/
def allFunctions (s : Store) : List FunctionDefinition := (s.snapshot.map (·.functions)).getD []

/-- The diagnostics of the project; none without a snapshot. -/
def allDiagnostics (s : Store) : List Diagnostic := (s.snapshot.map (·.diagnostics.toList)).getD []

variable (s : Store) (functions : List FunctionDefinition)

theorem computeFilteredFunctions_sublist : s.computeFilteredFunctions.Sublist s.allFunctions := by
  unfold computeFilteredFunctions allFunctions
  cases s.snapshot with
  | none => exact List.Sublist.refl []
  | some snapshot => exact List.filter_sublist

theorem functionErrors_eq (id : String) :
    s.functionErrors id = (s.allDiagnostics.filter fun d => d.function == some id).countP DiagnosticIndex.isError := by
  unfold functionErrors allDiagnostics
  cases s.snapshot <;> rfl

theorem overview_targets : (s.overview functions).runs.map (·.target) = s.runTargets := by
  show (s.runTargets.map fun target => (⟨target, s.runStatus target⟩ : RunView)).map (·.target) = s.runTargets
  rw [List.map_map]
  exact List.map_id s.runTargets

theorem overview_tells
    (hwaits : ∀ target run, s.pending.get? target = some run → run.state = .pending ∨ run.state = .stalled) :
    ∀ run ∈ (s.overview functions).runs,
      run.status.Tells (s.pending.get? run.target) (s.results.get? run.target) := by
  intro run hrun
  obtain ⟨target, htarget, rfl⟩ := List.mem_map.1 hrun
  exact runStatus_tells htarget (hwaits target)

theorem overview_totalFunctions : (s.overview functions).totalFunctions = s.allFunctions.length := by
  unfold overview allFunctions
  cases s.snapshot <;> rfl

theorem overview_diagnosticCount : (s.overview functions).diagnosticCount = s.allDiagnostics.length := by
  unfold overview allDiagnostics
  cases s.snapshot with
  | none => rfl
  | some snapshot => exact snapshot.diagnostics.size_eq_length

theorem overview_errorCount : (s.overview functions).errorCount = s.allDiagnostics.countP DiagnosticIndex.isError := by
  unfold overview allDiagnostics
  cases s.snapshot <;> rfl

/-- What is listed is the given functions, each with the number of its errors. -/
theorem overview_definitions : (s.overview functions).functions.map FunctionSummary.definition = functions := by
  show (functions.map s.summary).map FunctionSummary.definition = functions
  rw [List.map_map]
  exact List.map_id functions

/-- A function is listed with the number of the errors that belong to it. -/
theorem overview_functionErrors : ∀ f ∈ (s.overview functions).functions,
    f.errorCount = (s.allDiagnostics.filter fun d => d.severity = .error ∧ d.function = some f.id).length := by
  intro f hf
  obtain ⟨g, -, rfl⟩ := List.mem_map.1 hf
  show s.functionErrors g.id = (s.allDiagnostics.filter fun d => d.severity = .error ∧ d.function = some g.id).length
  rw [functionErrors_eq, List.countP_eq_length_filter, List.filter_filter]
  congr 1
  refine List.filter_congr fun d _ => ?_
  simp [DiagnosticIndex.isError, Bool.decide_and, beq_eq_decide]

/-- No function of a sound store has the id of another. -/
theorem Sound.allFunctions_nodup {s : Store} (h : s.Sound) : (s.allFunctions.map (·.id)).Nodup := by
  unfold allFunctions
  cases hsnapshot : s.snapshot with
  | none => exact List.nodup_nil
  | some snapshot => exact (h snapshot hsnapshot).distinct

variable {functions}

/-- The errors of functions without repeats are no more than all errors. -/
theorem listedErrors_le (hdistinct : (functions.map (·.id)).Nodup) :
    (s.overview functions).listedErrors ≤ (s.overview functions).errorCount := by
  have hlisted : (s.overview functions).listedErrors = (functions.map (·.id)).foldr
      (fun id n => (s.allDiagnostics.filter fun d => d.function == some id).countP DiagnosticIndex.isError + n) 0 := by
    show (functions.map s.summary).foldr (fun f n => f.errorCount + n) 0 = _
    rw [List.foldr_map, List.foldr_map]
    simp only [summary, functionErrors_eq]
  rw [hlisted, overview_errorCount]
  exact DiagnosticIndex.errors_by_function_le s.allDiagnostics hdistinct

end Store

/-- **The overview agrees with the state.** After every session, what the panel shows is this:

* *runs*: in ascending order by function and test case, one for each target that has a pending run or a result and none for any
  other. A pending run shows as pending or stalled, with its id; else the result shows as passed or failed, as it is stored. No
  run shows as unset.
* *functions*: some functions of the snapshot in their order, and the number of all of them.
* *errors*: each listed function with the number of error diagnostics that belong to it; the sum of these numbers is at most
  the number of all errors, which is at most the number of diagnostics.
* *discarded*: the number of messages that were discarded so far. -/
theorem overview_agrees_with_state (config : PanelConfig) (channel : MemoryChannel) (now : Instant) (ops : List Operation) :
    let start := Panel.new config channel now
    let p := (start.performAll ops).2
    let view := p.read.1
    ((view.runs.map (·.target)).Pairwise
          (fun a b => a.function < b.function ∨ a.function = b.function ∧ a.testCase < b.testCase)
        ∧ (∀ target, target ∈ view.runs.map (·.target)
            ↔ p.store.pending.get? target ≠ none ∨ p.store.results.get? target ≠ none)
        ∧ ∀ run ∈ view.runs, run.status ≠ .unset
            ∧ run.status.Tells (p.store.pending.get? run.target) (p.store.results.get? run.target))
      ∧ ((view.functions.map FunctionSummary.definition).Sublist p.store.allFunctions
        ∧ view.totalFunctions = p.store.allFunctions.length)
      ∧ ((∀ f ∈ view.functions, f.errorCount =
            (p.store.allDiagnostics.filter fun d => d.severity = .error ∧ d.function = some f.id).length)
        ∧ view.errorCount = (p.store.allDiagnostics.filter (·.severity = .error)).length
        ∧ view.diagnosticCount = p.store.allDiagnostics.length
        ∧ view.listedErrors ≤ view.errorCount ∧ view.errorCount ≤ view.diagnosticCount)
      ∧ view.discarded = (start.history ops).countP Moment.discards := by
  intro start p view
  have path : Path start (start.history ops) p := Panel.history_path start ops
  have hwaits := (path.agrees (Panel.new_agrees config channel now)).waits
  have hsound : p.store.Sound := path.sound fun snapshot hsnapshot => by cases hsnapshot
  -- what is remembered of the functions is what the filter selects now
  have hview : view = p.store.overview p.store.computeFilteredFunctions := (Panel.session_mindful config channel now ops).read
  have hlisted := p.store.computeFilteredFunctions_sublist
  have hdistinct : (p.store.computeFilteredFunctions.map (·.id)).Nodup :=
    List.Nodup.sublist (hlisted.map _) hsound.allFunctions_nodup
  have htells := p.store.overview_tells p.store.computeFilteredFunctions hwaits.pending
  rw [hview]
  refine ⟨⟨?_, fun target => ?_, fun run hrun => ⟨(htells run hrun).ne_unset, htells run hrun⟩⟩, ⟨?_, ?_⟩,
    ⟨p.store.overview_functionErrors _, ?_, ?_, p.store.listedErrors_le hdistinct, ?_⟩, ?_⟩
  · rw [Store.overview_targets]
    exact p.store.runTargets_ascending
  · rw [Store.overview_targets]
    exact Store.mem_runTargets
  · rw [Store.overview_definitions]
    exact hlisted
  · rw [Store.overview_totalFunctions]
  · rw [Store.overview_errorCount, List.countP_eq_length_filter]
    rfl
  · rw [Store.overview_diagnosticCount]
  · rw [Store.overview_errorCount, Store.overview_diagnosticCount]
    exact List.countP_le_length
  · show p.store.discardedTotal = _
    rw [path.discardedTotal]
    exact Nat.zero_add _

end PanelBridge
