import PanelBridge.Store.Commit

/-!
# What a commit does to the state

A commit applies its mutations, settles selection and results if the snapshot was touched, raises revisions and tells the
subscribers. The subscribers may look at anything, so the store that comes out differs from the settled one in what the
views remember and in the outbox. This module says once what of a store that leaves alone:

* **`Content`**: the part of a store that is neither revision nor view nor subscription. Looking keeps it
  (`lookAll_content`), so a commit has the content of its batch (`commit_content`).
* **`settle_of_touched`, `settle_of_untouched`**: settling, in its two cases.
* **`Store.part`**: what a slice stands for. A batch keeps the part of every slice that it does not report
  (`batch_part`), which is what the views rely on.
* **`Mutation.scope`**: the slices that a mutation may touch. What is in no scope is kept (`applyAll_untouched`).
* The `pending_…` lemmas look a target up in the pending runs after each mutation that is about runs.
-/

namespace PanelBridge

/-! ## Slices of a set -/

namespace SliceSet

@[simp]
theorem contains_empty (s : Slice) : empty.contains s = false := by
  simp [empty, contains]

@[simp]
theorem contains_union (a b : SliceSet) (s : Slice) :
    (a.union b).contains s = (a.contains s || b.contains s) := by
  simp [union, contains]

@[simp]
theorem contains_ofList (slices : List Slice) (s : Slice) :
    (ofList slices).contains s = slices.contains s := by
  simp [ofList, contains]

theorem contains_of_isEmpty {set : SliceSet} (h : set.isEmpty) (s : Slice) :
    set.contains s = false := by
  have hnil : Slice.all.filter set.get = [] := by simpa [isEmpty, toList] using h
  have hs : s ∈ Slice.all := by cases s <;> decide
  simpa [contains] using List.filter_eq_nil_iff.1 hnil s hs

end SliceSet

theorem Revisions.get_bump (r : Revisions) (touched : SliceSet) (s : Slice) :
    (r.bump touched).get s = if touched.contains s then r.get s + 1 else r.get s := by
  unfold bump
  rw [PerSlice.get_ofFn]
  rfl

/-! ## Content -/

/-- The part of a store that only mutations change. -/
structure Content where
  readiness : Readiness
  snapshot : Option Snapshot
  selection : Selection
  filter : String
  pending : Table Target PendingRun
  results : Table Target CompletedRun
  discards : List DiscardRecord
  discardCapacity : Nat
  discardedTotal : Nat

/-- The part of a store that no mutation changes: how often it changed, what the views remember and who is told. -/
structure Bookkeeping where
  revisions : Revisions
  revision : Nat
  views : Views
  subscribers : List Subscriber
  nextSubscription : Nat
  outbox : List Notice

namespace Store

/-- The content of a store. -/
def content (s : Store) : Content :=
  { readiness := s.readiness
    snapshot := s.snapshot
    selection := s.selection
    filter := s.filter
    pending := s.pending
    results := s.results
    discards := s.discards
    discardCapacity := s.discardCapacity
    discardedTotal := s.discardedTotal }

/-- The bookkeeping of a store. -/
def bookkeeping (s : Store) : Bookkeeping :=
  { revisions := s.revisions
    revision := s.revision
    views := s.views
    subscribers := s.subscribers
    nextSubscription := s.nextSubscription
    outbox := s.outbox }

theorem look_content (s : Store) (reading : Reading) : (s.look reading).2.content = s.content := by
  cases reading <;> rfl

theorem lookAll_content (s : Store) (readings : List Reading) :
    (s.lookAll readings).2.content = s.content := by
  induction readings generalizing s with
  | nil => rfl
  | cons reading rest ih =>
    show ((s.look reading).2.lookAll rest).2.content = s.content
    rw [ih, look_content]

theorem notify_content (s : Store) (change : StoreChange) (subscriber : Subscriber) :
    (s.notify change subscriber).content = s.content := by
  show (s.lookAll (subscriber.reads change)).2.content = s.content
  exact lookAll_content s _

theorem notifyAll_content (s : Store) (change : StoreChange) (subscribers : List Subscriber) :
    (s.notifyAll change subscribers).content = s.content := by
  induction subscribers generalizing s with
  | nil => rfl
  | cons subscriber rest ih =>
    show ((s.notify change subscriber).notifyAll change rest).content = s.content
    rw [ih, notify_content]

/-- **The content of a commit is that of its batch**: revisions and subscribers do not count. -/
theorem commit_content (s : Store) (mutations : List Mutation) :
    (s.commit mutations).2.content = (s.batch mutations).1.content := by
  unfold commit
  split
  rename_i settled touched hbatch
  rw [hbatch]
  split
  · rfl
  · -- raising revisions is no change of the content, and neither is what the subscribers do
    show (notifyAll _ _ _).content = settled.content
    rw [notifyAll_content]
    rfl

/-! ## Settling -/

theorem reconcileSelection_fst (s : Store) :
    s.reconcileSelection.1 = { s with selection := fittingSelection s.selection s.snapshot } := by
  simp only [reconcileSelection]
  split
  · rename_i h
    rw [h]
  · rfl

/-- Settling after the snapshot was touched: the selection fits it, and only results of its test cases stay. -/
theorem settle_of_touched (s : Store) {touched : SliceSet} (h : touched.contains .snapshot) :
    (s.settle touched).1 =
      { s with
        selection := fittingSelection s.selection s.snapshot
        results := s.results.filter fun target _ => s.hasTestCase target.function target.testCase } := by
  unfold settle
  rw [if_pos h]
  show s.reconcileSelection.1.pruneResults.1 = _
  rw [reconcileSelection_fst]
  rfl

/-- Settling when the snapshot was not touched changes nothing. -/
theorem settle_of_untouched (s : Store) {touched : SliceSet}
    (h : touched.contains .snapshot = false) : s.settle touched = (s, touched) := by
  unfold settle
  rw [h]
  rfl

theorem applyAll_cons (s : Store) (touched : SliceSet) (m : Mutation) (rest : List Mutation) :
    s.applyAll touched (m :: rest) =
      (s.apply m).1.applyAll (touched.union (s.apply m).2) rest := rfl

theorem batch_eq (s : Store) (mutations : List Mutation) :
    s.batch mutations = (s.applyAll .empty mutations).1.settle (s.applyAll .empty mutations).2 := rfl

theorem apply_bookkeeping (s : Store) (m : Mutation) : (s.apply m).1.bookkeeping = s.bookkeeping := by
  cases m <;> simp only [apply] <;> (repeat' split) <;> rfl

theorem applyAll_bookkeeping (s : Store) (touched : SliceSet) (mutations : List Mutation) :
    (s.applyAll touched mutations).1.bookkeeping = s.bookkeeping := by
  induction mutations generalizing s touched with
  | nil => rfl
  | cons m rest ih => rw [applyAll_cons, ih, apply_bookkeeping]

theorem settle_bookkeeping (s : Store) (touched : SliceSet) :
    (s.settle touched).1.bookkeeping = s.bookkeeping := by
  cases h : touched.contains .snapshot with
  | true => rw [settle_of_touched s h]; rfl
  | false => rw [settle_of_untouched s h]

theorem batch_bookkeeping (s : Store) (mutations : List Mutation) :
    (s.batch mutations).1.bookkeeping = s.bookkeeping := by
  rw [batch_eq, settle_bookkeeping, applyAll_bookkeeping]

end Store

/-! ## The parts that slices stand for

One lemma for each way in which a mutation writes to the store: the parts of the other slices stay. -/

/-- The type of the part of the state that a slice stands for. -/
abbrev Slice.Part : Slice → Type
  | .readiness => Readiness
  | .snapshot => Option (Nat × List FunctionDefinition × Option Settings)
  | .diagnostics => Option DiagnosticIndex
  | .selection => Selection
  | .filter => String
  | .runs => Table Target PendingRun × Table Target CompletedRun
  | .discards => List DiscardRecord × Nat

namespace Store

/-- The part of the state that a slice stands for. The diagnostics of a snapshot are a slice of their own. -/
def part (s : Store) : (slice : Slice) → slice.Part
  | .readiness => s.readiness
  | .snapshot => s.snapshot.map fun x => (x.sequence, x.functions, x.settings)
  | .diagnostics => s.snapshot.map (·.diagnostics)
  | .selection => s.selection
  | .filter => s.filter
  | .runs => (s.pending, s.results)
  | .discards => (s.discards, s.discardedTotal)

section SameFunctions

variable {s t : Store}

/-- Stores with the same part for the snapshot slice list the same functions. -/
theorem functions_of_part (h : s.part .snapshot = t.part .snapshot) :
    s.snapshot.map (·.functions) = t.snapshot.map (·.functions) := by
  have hmap := congrArg (Option.map fun part => part.2.1) h
  simpa [part, Function.comp_def] using hmap

theorem function?_of_part (h : s.part .snapshot = t.part .snapshot) (id : String) :
    s.function? id = t.function? id := by
  have hbind (u : Store) :
      u.function? id = (u.snapshot.map (·.functions)).bind fun functions =>
        functions.find? fun f => f.id == id := by
    cases hu : u.snapshot <;> simp [function?, Snapshot.function?, hu]
  rw [hbind s, hbind t, functions_of_part h]

/-- Whether there is a test case depends on the function that is found under the id. -/
theorem hasTestCase_eq_any (s : Store) (function testCase : String) :
    s.hasTestCase function testCase = (s.function? function).any (·.testCases.contains testCase) := by
  cases hs : s.snapshot with
  | none => simp [hasTestCase, function?, hs]
  | some x => cases hf : x.function? function <;> simp [hasTestCase, function?, Snapshot.hasTestCase, hs, hf]

theorem hasTestCase_of_part (h : s.part .snapshot = t.part .snapshot) (function testCase : String) :
    s.hasTestCase function testCase = t.hasTestCase function testCase := by
  rw [hasTestCase_eq_any, hasTestCase_eq_any, function?_of_part h]

end SameFunctions

variable (s : Store) {slice : Slice}

theorem part_withReadiness (readiness : Readiness) (h : slice ≠ .readiness) :
    { s with readiness }.part slice = s.part slice := by
  cases slice with
  | readiness => exact absurd rfl h
  | _ => rfl

theorem part_withSnapshot (snapshot : Option Snapshot) (h₁ : slice ≠ .snapshot)
    (h₂ : slice ≠ .diagnostics) : { s with snapshot }.part slice = s.part slice := by
  cases slice with
  | snapshot => exact absurd rfl h₁
  | diagnostics => exact absurd rfl h₂
  | _ => rfl

/-- A new snapshot with the old diagnostics is a change of one slice only. -/
theorem part_withProject {old new : Snapshot} (hold : s.snapshot = some old)
    (hd : new.diagnostics = old.diagnostics) (h : slice ≠ .snapshot) :
    { s with snapshot := some new }.part slice = s.part slice := by
  cases slice with
  | snapshot => exact absurd rfl h
  | diagnostics => show some new.diagnostics = s.snapshot.map _; rw [hold, hd]; rfl
  | _ => rfl

/-- So is an old snapshot with new diagnostics. -/
theorem part_withDiagnostics {old : Snapshot} (diagnostics : DiagnosticIndex)
    (hold : s.snapshot = some old) (h : slice ≠ .diagnostics) :
    { s with snapshot := some { old with diagnostics } }.part slice = s.part slice := by
  cases slice with
  | snapshot => show some _ = s.snapshot.map _; rw [hold]; rfl
  | diagnostics => exact absurd rfl h
  | _ => rfl

theorem part_withSelection (selection : Selection) (h : slice ≠ .selection) :
    { s with selection }.part slice = s.part slice := by
  cases slice with
  | selection => exact absurd rfl h
  | _ => rfl

theorem part_withFilter (filter : String) (h : slice ≠ .filter) :
    { s with filter }.part slice = s.part slice := by
  cases slice with
  | filter => exact absurd rfl h
  | _ => rfl

theorem part_withRuns (pending : Table Target PendingRun) (results : Table Target CompletedRun)
    (h : slice ≠ .runs) : { s with pending, results }.part slice = s.part slice := by
  cases slice with
  | runs => exact absurd rfl h
  | _ => rfl

theorem part_withDiscards (discards : List DiscardRecord) (discardedTotal : Nat)
    (h : slice ≠ .discards) : { s with discards, discardedTotal }.part slice = s.part slice := by
  cases slice with
  | discards => exact absurd rfl h
  | _ => rfl

/-! ## Mutations report what they touch -/

theorem exists_of_ownsPending {s : Store} {intent : Intent} (h : s.ownsPending intent) :
    ∃ run, s.pending.get? intent.target = some run ∧ run.id = intent.id := by
  simpa [ownsPending, Option.any_eq_true] using h

theorem apply_runStalled_of_owns {intent : Intent} {run : PendingRun}
    (hget : s.pending.get? intent.target = some run) (hid : run.id = intent.id) :
    s.apply (.runStalled intent) =
      ({ s with pending := s.pending.insert intent.target { run with state := .stalled } },
       .ofList [.runs]) := by
  simp only [apply, hget]
  rw [if_pos hid]

theorem apply_runStalled_of_not_owns {intent : Intent} (h : s.ownsPending intent = false) :
    s.apply (.runStalled intent) = (s, .empty) := by
  cases hget : s.pending.get? intent.target with
  | none => simp only [apply, hget]
  | some run =>
    have hne : run.id ≠ intent.id := by simpa [ownsPending, hget] using h
    simp only [apply, hget]
    rw [if_neg hne]

/-- A mutation of the snapshot reports both of its slices unless the diagnostics stay as they are. -/
theorem apply_part_mergeSnapshot (sequence : Nat) (payload : ProjectPayload)
    (h : (s.apply (.mergeSnapshot sequence payload)).2.contains slice = false) :
    (s.apply (.mergeSnapshot sequence payload)).1.part slice = s.part slice := by
  unfold apply at h ⊢
  cases hs : s.snapshot with
  | none => rfl
  | some snapshot =>
    simp only [hs] at h ⊢
    cases hd : payload.diagnostics.isEmpty with
    | true =>
      refine part_withProject s hs ?_ (by simpa [hd] using h)
      simp [Snapshot.merge, hd]
    | false =>
      have hne : slice ≠ .snapshot ∧ slice ≠ .diagnostics := by simpa [hd] using h
      exact part_withSnapshot s _ hne.1 hne.2

/-- **A mutation keeps the parts it does not report.** One case for each mutation. -/
theorem apply_part (m : Mutation) (h : (s.apply m).2.contains slice = false) :
    (s.apply m).1.part slice = s.part slice := by
  cases m with
  | setReadiness readiness =>
    by_cases heq : s.readiness = readiness
    · rw [apply, if_pos heq]
    · rw [apply, if_neg heq] at h ⊢
      exact part_withReadiness s readiness (by simpa using h)
  | replaceSnapshot snapshot =>
    have hne : slice ≠ .snapshot ∧ slice ≠ .diagnostics := by simpa [apply] using h
    exact part_withSnapshot s (some snapshot) hne.1 hne.2
  | mergeSnapshot sequence payload => exact apply_part_mergeSnapshot s sequence payload h
  | clearSnapshot =>
    unfold apply at h ⊢
    cases hs : s.snapshot with
    | none => rfl
    | some snapshot =>
      have hne : slice ≠ .snapshot ∧ slice ≠ .diagnostics := by simpa [hs] using h
      exact part_withSnapshot s none hne.1 hne.2
  | mergeDiagnostics payload =>
    unfold apply at h ⊢
    cases hs : s.snapshot with
    | none => rfl
    | some snapshot =>
      exact part_withDiagnostics s (snapshot.diagnostics.merge payload) hs (by simpa [hs] using h)
  | select selection =>
    by_cases heq : s.selection = selection
    · rw [apply, if_pos heq]
    · rw [apply, if_neg heq] at h ⊢
      exact part_withSelection s selection (by simpa using h)
  | setFilter filter =>
    by_cases heq : s.filter = filter
    · rw [apply, if_pos heq]
    · rw [apply, if_neg heq] at h ⊢
      exact part_withFilter s filter (by simpa using h)
  | runPending intent => exact part_withRuns s _ s.results (by simpa [apply] using h)
  | runStalled intent =>
    cases howns : s.ownsPending intent with
    | true =>
      obtain ⟨run, hget, hid⟩ := exists_of_ownsPending howns
      rw [apply_runStalled_of_owns s hget hid] at h ⊢
      exact part_withRuns s _ s.results (by simpa using h)
    | false => rw [apply_runStalled_of_not_owns s howns]
  | runCleared intent =>
    by_cases howns : s.ownsPending intent
    · rw [apply, if_pos howns] at h ⊢
      exact part_withRuns s _ s.results (by simpa using h)
    · rw [apply, if_neg howns]
  | clearPending =>
    by_cases hempty : s.pending.isEmpty
    · rw [apply, if_pos hempty]
    · rw [apply, if_neg hempty] at h ⊢
      exact part_withRuns s .empty s.results (by simpa using h)
  | runCompleted intent result => exact part_withRuns s _ _ (by simpa [apply] using h)
  | recordDiscard record => exact part_withDiscards s _ _ (by simpa [apply] using h)

/-- Slices once touched stay touched, and what is not touched in the end was kept all along. -/
theorem applyAll_part (touched : SliceSet) (mutations : List Mutation)
    (h : (s.applyAll touched mutations).2.contains slice = false) :
    touched.contains slice = false ∧ (s.applyAll touched mutations).1.part slice = s.part slice := by
  induction mutations generalizing s touched with
  | nil => exact ⟨h, rfl⟩
  | cons m rest ih =>
    rw [applyAll_cons] at h ⊢
    have hrest := ih (s.apply m).1 (touched.union (s.apply m).2) h
    have hunion : touched.contains slice = false ∧ (s.apply m).2.contains slice = false := by
      simpa using hrest.1
    refine ⟨hunion.1, ?_⟩
    rw [hrest.2, apply_part s m hunion.2]

theorem reconcileSelection_part (h : s.reconcileSelection.2.contains slice = false) :
    s.reconcileSelection.1.part slice = s.part slice := by
  simp only [reconcileSelection] at h ⊢
  by_cases heq : fittingSelection s.selection s.snapshot = s.selection
  · rw [if_pos heq]
  · rw [if_neg heq] at h ⊢
    exact part_withSelection s _ (by simpa using h)

theorem pruneResults_part (h : s.pruneResults.2.contains slice = false) :
    s.pruneResults.1.part slice = s.part slice := by
  simp only [pruneResults] at h ⊢
  split at h
  · rename_i hsize
    -- as many results as before are the same results
    rw [Table.filter_eq_self_of_size hsize]
  · exact part_withRuns s s.pending _ (by simpa using h)

theorem settle_part (touched : SliceSet) (h : (s.settle touched).2.contains slice = false) :
    touched.contains slice = false ∧ (s.settle touched).1.part slice = s.part slice := by
  by_cases ht : touched.contains .snapshot = true
  · unfold settle at h ⊢
    rw [if_pos ht] at h ⊢
    have hall : (touched.contains slice = false ∧ s.reconcileSelection.2.contains slice = false)
        ∧ s.reconcileSelection.1.pruneResults.2.contains slice = false := by
      simpa using h
    refine ⟨hall.1.1, ?_⟩
    show s.reconcileSelection.1.pruneResults.1.part slice = s.part slice
    rw [pruneResults_part _ hall.2, reconcileSelection_part s hall.1.2]
  · rw [settle_of_untouched s (by simpa using ht)] at h ⊢
    exact ⟨h, rfl⟩

/-- **A batch keeps the parts it does not report.** -/
theorem batch_part (mutations : List Mutation)
    (h : (s.batch mutations).2.contains slice = false) :
    (s.batch mutations).1.part slice = s.part slice := by
  rw [batch_eq] at h ⊢
  have hsettle := settle_part (s.applyAll .empty mutations).1 _ h
  rw [hsettle.2, (applyAll_part s .empty mutations hsettle.1).2]

/-! ## Pending runs

Settling leaves them alone, and a mutation changes a pending run only if the run is the very one it names. -/

theorem batch_pending (mutations : List Mutation) :
    (s.batch mutations).1.pending = (s.applyAll .empty mutations).1.pending := by
  rw [batch_eq]
  cases h : (s.applyAll .empty mutations).2.contains .snapshot with
  | true => rw [settle_of_touched _ h]
  | false => rw [settle_of_untouched _ h]

theorem batch_pending_single (m : Mutation) : (s.batch [m]).1.pending = (s.apply m).1.pending :=
  batch_pending s [m]

theorem dropPending_get? (intent : Intent) (target : Target) :
    (s.dropPending intent).get? target =
      (s.pending.get? target).filter fun run => ¬(target = intent.target ∧ run.id = intent.id) := by
  by_cases htarget : target = intent.target
  · subst htarget
    cases hget : s.pending.get? intent.target with
    | none => simp [dropPending, ownsPending, hget]
    | some run =>
      by_cases hid : run.id = intent.id <;>
        simp [dropPending, ownsPending, hget, hid, Option.filter_some]
  · have hkept : (s.dropPending intent).get? target = s.pending.get? target := by
      unfold dropPending
      split
      · exact Table.get?_erase_of_ne _ htarget
      · rfl
    rw [hkept]
    cases s.pending.get? target <;> simp [Option.filter_some, htarget]

theorem pending_runCleared (intent : Intent) :
    (s.apply (.runCleared intent)).1.pending = s.dropPending intent := by
  simp only [apply, dropPending]
  split <;> rfl

theorem pending_runCompleted (intent : Intent) (result : TestResult) :
    (s.apply (.runCompleted intent result)).1.pending = s.dropPending intent := rfl

/-- A new run of a target takes the place of the one it replaces; other targets keep theirs. -/
theorem pending_replaced (touched : SliceSet) (old : Option Intent) (intent : Intent)
    (hold : ∀ run ∈ old, run.target = intent.target) (target : Target) :
    (s.applyAll touched (old.toList.map .runCleared ++ [.runPending intent])).1.pending.get? target =
      if target = intent.target then some ⟨intent.id, intent.state, intent.issuedAt⟩
      else s.pending.get? target := by
  split
  · rename_i htarget
    subst htarget
    cases old <;> exact Table.get?_insert_self ..
  · rename_i htarget
    cases old with
    | none => exact Table.get?_insert_of_ne _ _ htarget
    | some run =>
      -- the run that is cleared is of the same target, so the others do not notice
      have hrun : target ≠ run.target := hold run rfl ▸ htarget
      show ((s.apply (.runCleared run)).1.pending.insert _ _).get? target = _
      rw [Table.get?_insert_of_ne _ _ htarget, pending_runCleared, dropPending_get?]
      cases s.pending.get? target <;> simp [Option.filter_some, hrun]

theorem pending_clearPending (target : Target) :
    (s.apply .clearPending).1.pending.get? target = none := by
  simp only [apply]
  split
  · rename_i hempty
    show s.pending.get? target = none
    rw [Table.eq_empty_of_isEmpty hempty]
    rfl
  · rfl

theorem pending_runStalled (intent : Intent) (target : Target) :
    (s.apply (.runStalled intent)).1.pending.get? target =
      (s.pending.get? target).map fun run =>
        if intent.target = target ∧ intent.id = run.id then { run with state := .stalled } else run := by
  cases howns : s.ownsPending intent with
  | true =>
    obtain ⟨run, hget, hid⟩ := exists_of_ownsPending howns
    rw [apply_runStalled_of_owns s hget hid]
    by_cases htarget : target = intent.target
    · subst htarget
      simp [hget, hid]
    · have hne : ¬intent.target = target := fun h => htarget h.symm
      simp [Table.get?_insert_of_ne _ _ htarget, hne]
  | false =>
    rw [apply_runStalled_of_not_owns s howns]
    cases hget : s.pending.get? target with
    | none => rfl
    | some run =>
      have hnot : ¬(intent.target = target ∧ intent.id = run.id) := by
        rintro ⟨rfl, hid⟩
        simp [ownsPending, hget, hid] at howns
      simp [hnot]

/-- Marking runs as stalled changes no id, so the marks do not depend on their order. -/
theorem pending_allStalled (touched : SliceSet) (intents : List Intent) (target : Target) :
    (s.applyAll touched (intents.map .runStalled)).1.pending.get? target =
      (s.pending.get? target).map fun run =>
        if ∃ intent ∈ intents, intent.target = target ∧ intent.id = run.id
        then { run with state := .stalled } else run := by
  induction intents generalizing s touched with
  | nil => simp [applyAll]
  | cons intent rest ih =>
    -- the first mark leaves the ids alone, so the others find what they would have found before it
    rw [List.map_cons, applyAll_cons, ih, pending_runStalled, Option.map_map]
    congr 1
    funext run
    by_cases hhead : intent.target = target ∧ intent.id = run.id
    · simp [hhead]
    · simp [hhead]

end Store

/-! ## What a batch leaves alone -/

/-- The slices that a mutation may touch. -/
def Mutation.scope : Mutation → List Slice
  | .setReadiness _ => [.readiness]
  | .replaceSnapshot _ | .mergeSnapshot .. | .clearSnapshot => [.snapshot, .diagnostics]
  | .mergeDiagnostics _ => [.diagnostics]
  | .select _ => [.selection]
  | .setFilter _ => [.filter]
  | .runPending _ | .runStalled _ | .runCleared _ | .clearPending | .runCompleted .. => [.runs]
  | .recordDiscard _ => [.discards]

/-- Whether a mutation brings a result. -/
def Mutation.completes : Mutation → Bool
  | .runCompleted .. => true
  | _ => false

namespace Store

variable (s : Store) {slice : Slice} {mutations : List Mutation}

theorem apply_untouched {m : Mutation} (h : slice ∉ m.scope) :
    (s.apply m).2.contains slice = false := by
  cases m <;> simp only [Mutation.scope, List.mem_cons, List.not_mem_nil, or_false, not_or] at h <;>
    simp only [apply] <;> (repeat' split) <;> simp [h]

/-- What is in the scope of no mutation is neither touched nor changed, up to settling. -/
theorem applyAll_untouched (touched : SliceSet) (h : ∀ m ∈ mutations, slice ∉ m.scope) :
    (s.applyAll touched mutations).2.contains slice = touched.contains slice
      ∧ (s.applyAll touched mutations).1.part slice = s.part slice := by
  induction mutations generalizing s touched with
  | nil => exact ⟨rfl, rfl⟩
  | cons m rest ih =>
    have hm := apply_untouched s (h m (.head _))
    have hrest := ih (s.apply m).1 (touched.union (s.apply m).2) fun m' hm' => h m' (.tail _ hm')
    rw [applyAll_cons, hrest.1, hrest.2, apply_part s m hm]
    simp [hm]

theorem applyAll_pending_of_scope (touched : SliceSet) (h : ∀ m ∈ mutations, .runs ∉ m.scope) :
    (s.applyAll touched mutations).1.pending = s.pending :=
  congrArg Prod.fst (applyAll_untouched s touched h).2

theorem batch_pending_of_scope (h : ∀ m ∈ mutations, .runs ∉ m.scope) :
    (s.batch mutations).1.pending = s.pending := by
  rw [batch_pending, applyAll_pending_of_scope s .empty h]

/-- Nothing is settled unless the snapshot is in the scope of a mutation. -/
theorem batch_of_scope (h : ∀ m ∈ mutations, .snapshot ∉ m.scope) :
    s.batch mutations = s.applyAll .empty mutations := by
  rw [batch_eq]
  refine settle_of_untouched _ ?_
  rw [(applyAll_untouched s .empty h).1]
  simp

theorem apply_results {m : Mutation} (h : m.completes = false) :
    (s.apply m).1.results = s.results := by
  cases m with
  | runCompleted => cases h
  | _ => simp only [apply] <;> (repeat' split) <;> rfl

theorem applyAll_results (touched : SliceSet) (h : ∀ m ∈ mutations, m.completes = false) :
    (s.applyAll touched mutations).1.results = s.results := by
  induction mutations generalizing s touched with
  | nil => rfl
  | cons m rest ih =>
    rw [applyAll_cons, ih _ _ fun m' hm => h m' (.tail _ hm), apply_results s (h m (.head _))]

end Store

end PanelBridge
