import PanelBridge.Proofs.FreshStart
import PanelBridge.Proofs.Likeness

/-!
# Messages that commute

The host may send the result of a run and some other message in either order. If the other message does not concern the run, the
order does not show: both are applied, and the panel ends in the same state, down to the revisions of the slices.

* **`Store.version`**: the state with its revisions. A commit depends on nothing else of a store (`commit_of_version`).
* **`Store.Commute`**: two batches that touch the same slices and lead to the same content in either order. Their commits then
  lead to the same version (`Commute.commit`).
* **`Store.complete`**: what a result does to the store. A batch that is not about runs does the same after a result as before it,
  unless it removes the result's test case (`batch_complete`); results of different targets commute (`complete_comm`).
* **`Panel.Takes`**: a message that a panel will apply. `Takes.commute` puts two of them together.
* **`independent_messages_commute`**: the kinds of messages that this holds for.
-/

namespace PanelBridge

/-! ## Tables -/

namespace Table

open Std

variable {κ α : Type} [Ord κ]

/-- A filter drops no entry exactly if all keys pass it. -/
theorem size_filter_eq_iff (t : Table κ α) (keep : κ → Bool) :
    (t.filter fun k _ => keep k).size = t.size ↔ ∀ k ∈ t.keys, keep k = true := by
  unfold size keys
  show (t.entries.filter fun e => keep e.1).length = t.entries.length ↔ _
  rw [List.length_filter_eq_length_iff]
  simp

variable [DecidableEq κ] [TransOrd κ] [LawfulEqOrd κ]

theorem erase_comm (t : Table κ α) (k k' : κ) : (t.erase k).erase k' = (t.erase k').erase k := by
  apply ext_get?
  intro key
  simp only [get?_erase_eq]
  split <;> split <;> rfl

theorem insert_comm (t : Table κ α) {k k' : κ} (h : k ≠ k') (v v' : α) :
    (t.insert k v).insert k' v' = (t.insert k' v').insert k v := by
  apply ext_get?
  intro key
  simp only [get?_insert_eq]
  by_cases hk : key = k
  · rw [if_pos hk, if_pos hk, if_neg (hk ▸ h)]
  · rw [if_neg hk, if_neg hk]

/-- An entry that passes the filter may be entered before or after it. -/
theorem filter_insert (t : Table κ α) {k : κ} (v : α) (keep : κ → Bool) (hk : keep k = true) :
    (t.insert k v).filter (fun k _ => keep k) = (t.filter fun k _ => keep k).insert k v := by
  apply ext_get?
  intro key
  rw [get?_filter, get?_insert_eq, get?_insert_eq, get?_filter]
  split
  · rename_i heq
    rw [heq, Option.filter_some, if_pos hk]
  · rfl

theorem mem_keys_insert (t : Table κ α) (k k' : κ) (v : α) : k' ∈ (t.insert k v).keys ↔ k' = k ∨ k' ∈ t.keys := by
  rw [mem_keys_iff, mem_keys_iff, get?_insert_eq]
  by_cases hk : k' = k
  · simp [hk]
  · simp [hk]

/-- Nor does it matter for whether the filter drops anything. -/
theorem size_filter_insert_iff (t : Table κ α) {k : κ} (v : α) (keep : κ → Bool) (hk : keep k = true) :
    ((t.insert k v).filter fun k _ => keep k).size = (t.insert k v).size ↔ (t.filter fun k _ => keep k).size = t.size := by
  rw [size_filter_eq_iff, size_filter_eq_iff]
  constructor
  · intro h k' hk'
    exact h k' ((mem_keys_insert t k k' v).2 (.inr hk'))
  · intro h k' hk'
    rcases (mem_keys_insert t k k' v).1 hk' with rfl | hold
    · exact hk
    · exact h k' hold

end Table

/-! ## Versions of a store -/

/-- The state with its revisions. -/
structure Version where
  content : Content
  revisions : Revisions
  revision : Nat

namespace Store

def version (s : Store) : Version := ⟨s.content, s.revisions, s.revision⟩

variable {s t : Store}

theorem applied_ite {c : Prop} [Decidable c] {x x' y y' : Store × SliceSet} (hx : x.1.content = x'.1.content ∧ x.2 = x'.2)
    (hy : y.1.content = y'.1.content ∧ y.2 = y'.2) :
    (if c then x else y).1.content = (if c then x' else y').1.content ∧ (if c then x else y).2 = (if c then x' else y').2 := by
  split
  · exact hx
  · exact hy

/-- A mutation depends on the content of a store only. -/
theorem apply_of_content (h : s.content = t.content) (m : Mutation) :
    (s.apply m).1.content = (t.apply m).1.content ∧ (s.apply m).2 = (t.apply m).2 := by
  obtain ⟨readiness, snapshot, selection, filter, pending, _, _, _, _⟩ := s
  obtain ⟨_, _, _, _, _, _, _, _, _⟩ := t
  obtain ⟨rfl, rfl, rfl, rfl, rfl, rfl, rfl, rfl, rfl⟩ := Content.mk.inj h
  cases m with
  | setReadiness | select | setFilter | runCleared | clearPending => exact applied_ite ⟨rfl, rfl⟩ ⟨rfl, rfl⟩
  | mergeSnapshot | clearSnapshot | mergeDiagnostics => cases snapshot <;> exact ⟨rfl, rfl⟩
  | runStalled run =>
    simp only [apply]
    cases pending.get? run.target with
    | none => exact ⟨rfl, rfl⟩
    | some waiting => exact applied_ite ⟨rfl, rfl⟩ ⟨rfl, rfl⟩
  | replaceSnapshot | runPending | runCompleted | recordDiscard => exact ⟨rfl, rfl⟩

theorem applyAll_of_content (h : s.content = t.content) (touched : SliceSet) (mutations : List Mutation) :
    (s.applyAll touched mutations).1.content = (t.applyAll touched mutations).1.content
      ∧ (s.applyAll touched mutations).2 = (t.applyAll touched mutations).2 := by
  induction mutations generalizing s t touched with
  | nil => exact ⟨h, rfl⟩
  | cons m rest ih =>
    obtain ⟨hcontent, hslices⟩ := apply_of_content h m
    rw [applyAll_cons, applyAll_cons, hslices]
    exact ih hcontent _

theorem settle_of_content (h : s.content = t.content) (touched : SliceSet) :
    (s.settle touched).1.content = (t.settle touched).1.content ∧ (s.settle touched).2 = (t.settle touched).2 := by
  refine ⟨by rw [settle_content, settle_content, h], ?_⟩
  obtain ⟨_, snapshot, selection, _, _, results, _, _, _⟩ := s
  obtain ⟨_, _, _, _, _, _, _, _, _⟩ := t
  obtain ⟨rfl, rfl, rfl, rfl, rfl, rfl, rfl, rfl, rfl⟩ := Content.mk.inj h
  unfold settle reconcileSelection
  by_cases hfits : fittingSelection selection snapshot = selection
  · simp only [hfits, if_true]
    split <;> rfl
  · simp only [hfits, if_false]
    split <;> rfl

/-- **So does a batch.** -/
theorem batch_of_content (h : s.content = t.content) (mutations : List Mutation) :
    (s.batch mutations).1.content = (t.batch mutations).1.content ∧ (s.batch mutations).2 = (t.batch mutations).2 := by
  obtain ⟨hcontent, htouched⟩ := applyAll_of_content h .empty mutations
  rw [batch_eq, batch_eq, htouched]
  exact settle_of_content hcontent _

/-- The version after a commit: that of its batch, with the touched slices counted. -/
theorem commit_version (s : Store) (mutations : List Mutation) :
    (s.commit mutations).2.version =
      ⟨(s.batch mutations).1.content, s.revisions.bump (s.batch mutations).2,
        if (s.batch mutations).2.isEmpty then s.revision else s.revision + 1⟩ := by
  have hcontent := commit_content s mutations
  cases hempty : (s.batch mutations).2.isEmpty with
  | true =>
    have huncounted : s.revisions.bump (s.batch mutations).2 = s.revisions := by
      apply PerSlice.ext_get
      intro slice
      rw [Revisions.get_bump, SliceSet.contains_of_isEmpty hempty]
      rfl
    rw [huncounted, batch_eq_self s mutations hempty, commit_eq_none s mutations hempty]
    rfl
  | false =>
    have hcommitted := commit_committed s mutations hempty
    have hrevisions : (s.commit mutations).2.revisions = s.revisions.bump (s.batch mutations).2 := by
      apply PerSlice.ext_get
      intro slice
      rw [hcommitted.revisions, Revisions.get_bump]
    rw [version, hcontent, hrevisions, hcommitted.revision]
    rfl

theorem commit_of_version (h : s.version = t.version) (mutations : List Mutation) :
    (s.commit mutations).2.version = (t.commit mutations).2.version := by
  obtain ⟨hcontent, hrevisions, hrevision⟩ := Version.mk.inj h
  obtain ⟨hbatch, htouched⟩ := batch_of_content hcontent mutations
  rw [commit_version, commit_version, hbatch, htouched, hrevisions, hrevision]

/-! ## Batches that commute -/

/-- Two batches lead to the same content in either order, and each touches the same slices after the other one as before it. -/
structure Commute (s : Store) (first second : List Mutation) : Prop where
  content : ((s.batch first).1.batch second).1.content = ((s.batch second).1.batch first).1.content
  touchedFirst : ((s.batch second).1.batch first).2 = (s.batch first).2
  touchedSecond : ((s.batch first).1.batch second).2 = (s.batch second).2

theorem bump_comm (r : Revisions) (a b : SliceSet) : (r.bump a).bump b = (r.bump b).bump a := by
  apply PerSlice.ext_get
  intro slice
  simp only [Revisions.get_bump]
  split <;> split <;> rfl

/-- **Batches that commute make commits that commute**, revisions included. -/
theorem Commute.commit {first second : List Mutation} (h : s.Commute first second) :
    ((s.commit first).2.commit second).2.version = ((s.commit second).2.commit first).2.version := by
  have hversion (a b : List Mutation) :
      ((s.commit a).2.commit b).2.version =
        ⟨((s.batch a).1.batch b).1.content, (s.revisions.bump (s.batch a).2).bump ((s.batch a).1.batch b).2,
          if ((s.batch a).1.batch b).2.isEmpty then (if (s.batch a).2.isEmpty then s.revision else s.revision + 1)
          else (if (s.batch a).2.isEmpty then s.revision else s.revision + 1) + 1⟩ := by
    obtain ⟨hcontent, hrevisions, hrevision⟩ := Version.mk.inj (s.commit_version a)
    obtain ⟨hbatch, htouched⟩ := batch_of_content hcontent b
    rw [commit_version, hbatch, htouched, hrevisions, hrevision]
  rw [hversion, hversion, h.content, h.touchedFirst, h.touchedSecond, bump_comm]
  congr 1
  split <;> split <;> rfl

/-! ## Results -/

/-- The store after a result. -/
def complete (s : Store) (run : Intent) (result : TestResult) : Store := (s.apply (.runCompleted run result)).1

variable (run : Intent) (result : TestResult)

theorem batch_runCompleted (s : Store) :
    s.batch [.runCompleted run result] = (s.complete run result, .ofList [.runs]) := by
  rw [batch_single s (by simp [Mutation.scope])]
  rfl

/-- What is not about runs is not concerned by a result. -/
theorem apply_complete (s : Store) {m : Mutation} (h : .runs ∉ m.scope) :
    (s.complete run result).apply m = Prod.map (complete · run result) id (s.apply m) := by
  cases m with
  | setReadiness | select | setFilter =>
    rw [apply, apply, apply_ite (Prod.map _ _)]
    rfl
  | mergeSnapshot | clearSnapshot | mergeDiagnostics =>
    obtain ⟨_, snapshot⟩ := s
    cases snapshot <;> rfl
  | replaceSnapshot | recordDiscard => rfl
  | runPending | runStalled | runCleared | clearPending | runCompleted => exact absurd (.head _) h

theorem applyAll_complete (s : Store) (touched : SliceSet) {mutations : List Mutation}
    (h : ∀ m ∈ mutations, .runs ∉ m.scope) :
    (s.complete run result).applyAll touched mutations =
      Prod.map (complete · run result) id (s.applyAll touched mutations) := by
  induction mutations generalizing s touched with
  | nil => rfl
  | cons m rest ih =>
    rw [applyAll_cons, applyAll_cons, apply_complete run result s (h m (.head _))]
    exact ih _ _ fun m' hm' => h m' (.tail _ hm')

/-- A result whose test case is in the snapshot stays, and the others are dropped as without it. -/
theorem pruneResults_complete (s : Store) (hstays : s.hasTestCase run.target.function run.target.testCase = true) :
    (s.complete run result).pruneResults = Prod.map (complete · run result) id s.pruneResults := by
  let keep (target : Target) : Bool := s.hasTestCase target.function target.testCase
  have hfilter := Table.filter_insert s.results ⟨run.id, result⟩ keep hstays
  have hsize := Table.size_filter_insert_iff s.results ⟨run.id, result⟩ keep hstays
  show ({ s.complete run result with
        results := (s.results.insert run.target ⟨run.id, result⟩).filter fun target _ => keep target },
      if ((s.results.insert run.target ⟨run.id, result⟩).filter fun target _ => keep target).size
        = (s.results.insert run.target ⟨run.id, result⟩).size then SliceSet.empty else .ofList [.runs])
    = (complete { s with results := s.results.filter fun target _ => keep target } run result,
      if (s.results.filter fun target _ => keep target).size = s.results.size then SliceSet.empty else .ofList [.runs])
  rw [if_congr hsize rfl rfl, hfilter]
  rfl

theorem reconcileSelection_complete (s : Store) :
    (s.complete run result).reconcileSelection = Prod.map (complete · run result) id s.reconcileSelection := by
  rw [reconcileSelection, reconcileSelection, apply_ite (Prod.map _ _)]
  rfl

theorem settle_complete (s : Store) (touched : SliceSet)
    (hstays : touched.contains .snapshot = true → s.hasTestCase run.target.function run.target.testCase = true) :
    (s.complete run result).settle touched = Prod.map (complete · run result) id (s.settle touched) := by
  cases htouched : touched.contains .snapshot with
  | false =>
    rw [settle_of_untouched _ htouched, settle_of_untouched _ htouched]
    rfl
  | true =>
    have hreconciled : s.reconcileSelection.1.hasTestCase run.target.function run.target.testCase = true := by
      rw [reconcileSelection_fst]
      exact hstays htouched
    unfold settle
    rw [if_pos htouched, if_pos htouched, reconcileSelection_complete]
    simp only [Prod.map_fst, Prod.map_snd, id, pruneResults_complete run result _ hreconciled]
    rfl

/-- **A batch that is not about runs does the same after a result**, unless it removes the result's test case. -/
theorem batch_complete (s : Store) {mutations : List Mutation} (hscope : ∀ m ∈ mutations, .runs ∉ m.scope)
    (hstays : (∃ m ∈ mutations, .snapshot ∈ m.scope) →
      (s.batch mutations).1.hasTestCase run.target.function run.target.testCase = true) :
    (s.complete run result).batch mutations = Prod.map (complete · run result) id (s.batch mutations) := by
  rw [batch_eq, batch_eq, applyAll_complete run result s .empty hscope]
  refine settle_complete run result _ _ ?_
  intro (htouched : (s.applyAll .empty mutations).2.contains .snapshot = true)
  -- settling looks at the snapshot, and does not change it
  have hsnapshot : (s.batch mutations).1.snapshot = (s.applyAll .empty mutations).1.snapshot := by
    rw [batch_eq, settle_of_touched _ htouched]
  have hmutation : ∃ m ∈ mutations, .snapshot ∈ m.scope := by
    by_contra hnone
    have huntouched := (applyAll_untouched s .empty fun m hm hin => hnone ⟨m, hm, hin⟩).1
    rw [htouched] at huntouched
    simp at huntouched
  have hafter := hstays hmutation
  unfold hasTestCase at hafter ⊢
  rwa [hsnapshot] at hafter

theorem commute_result (s : Store) {mutations : List Mutation} (hscope : ∀ m ∈ mutations, .runs ∉ m.scope)
    (hstays : (∃ m ∈ mutations, .snapshot ∈ m.scope) →
      (s.batch mutations).1.hasTestCase run.target.function run.target.testCase = true) :
    s.Commute [.runCompleted run result] mutations := by
  have hbatch := batch_complete run result s hscope hstays
  constructor
  · rw [batch_runCompleted, batch_runCompleted, hbatch]
    rfl
  · simp only [batch_runCompleted]
  · rw [batch_runCompleted, hbatch]
    rfl

/-- Results of different targets do not get in each other's way. -/
theorem complete_comm (s : Store) {run run' : Intent} (htarget : run.target ≠ run'.target) (result result' : TestResult) :
    (s.complete run result).complete run' result' = (s.complete run' result').complete run result := by
  have hpending : (s.complete run result).dropPending run' = (s.complete run' result').dropPending run := by
    apply Table.ext_get?
    intro target
    show ((s.complete run result).dropPending run').get? target = ((s.complete run' result').dropPending run).get? target
    rw [dropPending_get?, dropPending_get?]
    show ((s.dropPending run).get? target).filter _ = ((s.dropPending run').get? target).filter _
    rw [dropPending_get?, dropPending_get?, Option.filter_filter, Option.filter_filter]
    congr 1
    funext waiting
    rw [Bool.and_comm]
  have hresults : (s.results.insert run.target ⟨run.id, result⟩).insert run'.target ⟨run'.id, result'⟩
      = (s.results.insert run'.target ⟨run'.id, result'⟩).insert run.target ⟨run.id, result⟩ :=
    Table.insert_comm s.results htarget _ _
  show { s.complete run result with
      pending := (s.complete run result).dropPending run'
      results := (s.results.insert run.target ⟨run.id, result⟩).insert run'.target ⟨run'.id, result'⟩ }
    = { s.complete run' result' with
      pending := (s.complete run' result').dropPending run
      results := (s.results.insert run'.target ⟨run'.id, result'⟩).insert run.target ⟨run.id, result⟩ }
  rw [hpending, hresults]
  rfl

theorem commute_results (s : Store) {run run' : Intent} (htarget : run.target ≠ run'.target) (result result' : TestResult) :
    s.Commute [.runCompleted run result] [.runCompleted run' result'] := by
  constructor
  · simp only [batch_runCompleted, complete_comm s htarget]
  · simp only [batch_runCompleted]
  · simp only [batch_runCompleted]

end Store

theorem Ledger.remove_comm (l : Ledger) (run run' : Intent) : (l.remove run).remove run' = (l.remove run').remove run := by
  show { l with
      live := (l.live.erase run.id).erase run'.id
      liveByTarget := (l.liveByTarget.erase run.target).erase run'.target }
    = { l with
      live := (l.live.erase run'.id).erase run.id
      liveByTarget := (l.liveByTarget.erase run'.target).erase run.target }
  rw [Table.erase_comm l.live, Table.erase_comm l.liveByTarget]

/-! ## Plans -/

namespace Dispatcher

variable {s t : Store} {l : Ledger}

/-- What is planned depends on readiness and snapshot, besides the ledger. -/
theorem plan_congr (hreadiness : s.readiness = t.readiness) (hsnapshot : s.snapshot = t.snapshot) (event : Event) :
    plan s l event = plan t l event := by
  have hproject (sequence : Nat) (project : ProjectPayload) : planProject s sequence project = planProject t sequence project := by
    simp only [planProject, becomeReady, hreadiness, hsnapshot]
  simp only [plan, hreadiness, hsnapshot, hproject]

theorem plan_testResult (hready : s.readiness = .ready) {text : String} {run : Intent} (result : TestResult)
    (hnames : CorrelationId.ofText? text = some run.id) (hlive : l.live.get? run.id = some run) :
    plan s l (.testResult text result) = (.commit [.runCompleted { run with state := .completed } result], l.remove run) := by
  simp only [plan, hready, Ledger.admitResult_of_live hnames hlive]
  rfl

theorem plan_diagnostics (hready : s.readiness = .ready) (hsnapshot : s.snapshot ≠ none) (sequence : Option Nat)
    (payload : DiagnosticsPayload) : plan s l (.diagnostics sequence payload) = (.commit [.mergeDiagnostics payload], l) := by
  have hsome : s.snapshot.isNone = false := Option.isNone_eq_false_iff.2 (Option.isSome_iff_ne_none.2 hsnapshot)
  simp only [plan, hready, hsome]
  rfl

theorem plan_project (hready : s.readiness = .ready) {event : Event} {sequence : Nat} {project : ProjectPayload}
    (hevent : event.project? = some (sequence, project)) : plan s l event = (planProject s sequence project, l) := by
  cases event with
  | ready | projectUpdated =>
    cases hevent
    simp only [plan, hready]
    rfl
  | diagnostics | testResult | hostError => cases hevent

end Dispatcher

/-! ## Messages that are applied -/

namespace Panel

/-- A ready panel with an empty queue will apply a message: it commits these mutations and is left with this ledger. -/
structure Takes (p : Panel) (m : Message) (event : Event) (mutations : List Mutation) (ledger : Ledger) : Prop where
  ready : p.store.readiness = .ready
  unqueued : p.transport.inbound = []
  decodes : m.decode p.dispatcher.maxMessageBytes = .ok event
  plans : Dispatcher.plan p.store p.ledger event = (.commit mutations, ledger)

variable {p : Panel} {m m' : Message} {event event' : Event} {first second : List Mutation} {ledger ledger' final : Ledger}

/-- What becomes of a message that is applied. -/
theorem Takes.deliver (h : p.Takes m event first ledger) :
    (p.deliver m).1 = .applied event
      ∧ (p.deliver m).2.dispatcher
        = { p.dispatcher with
            store := { (p.store.commit first).2 with outbox := [] }, received := p.dispatcher.received + 1 }
      ∧ (p.deliver m).2.ledger = ledger ∧ (p.deliver m).2.transport = p.transport := by
  have hready : p.dispatcher.store.readiness = .ready := h.ready
  have hplans : Dispatcher.plan p.dispatcher.store p.ledger event = (.commit first, ledger) := h.plans
  have hdispatch : p.dispatcher.dispatch p.ledger m
      = (.applied event, { p.dispatcher with received := p.dispatcher.received + 1 }.commit first, ledger) := by
    simp only [Dispatcher.dispatch, hready, h.decodes, hplans]
  rw [deliver_of_unqueued h.unqueued]
  unfold handle
  rw [hdispatch]
  exact ⟨rfl, rfl, rfl, rfl⟩

theorem Takes.version (h : p.Takes m event first ledger) :
    (p.deliver m).2.store.version = (p.store.commit first).2.version := by
  rw [store, h.deliver.2.1]
  rfl

theorem Takes.content (h : p.Takes m event first ledger) :
    (p.deliver m).2.store.content = (p.store.batch first).1.content :=
  (congrArg Version.content h.version).trans (Store.commit_content p.store first)

/-- A message is taken after another one if it is planned for in the state that the other one leaves. -/
theorem Takes.next (h : p.Takes m event first ledger) (hdecodes : m'.decode p.dispatcher.maxMessageBytes = .ok event')
    (hready : (p.store.batch first).1.readiness = .ready)
    (hplans : Dispatcher.plan (p.store.batch first).1 ledger event' = (.commit second, final)) :
    (p.deliver m).2.Takes m' event' second final := by
  have hreadiness : (p.deliver m).2.store.readiness = (p.store.batch first).1.readiness := congrArg Content.readiness h.content
  have hsnapshot : (p.deliver m).2.store.snapshot = (p.store.batch first).1.snapshot := congrArg Content.snapshot h.content
  obtain ⟨-, hdispatcher, hledger, htransport⟩ := h.deliver
  refine ⟨hreadiness.trans hready, ?_, ?_, ?_⟩
  · rw [htransport, h.unqueued]
  · rw [hdispatcher]
    exact hdecodes
  · rw [hledger, Dispatcher.plan_congr hreadiness hsnapshot, hplans]

/-- Two messages are applied in either order and lead to the same state. -/
structure Commute (p : Panel) (m m' : Message) (event event' : Event) : Prop where
  first : (p.deliver m).1 = .applied event
  second : ((p.deliver m).2.deliver m').1 = .applied event'
  first' : (p.deliver m').1 = .applied event'
  second' : ((p.deliver m').2.deliver m).1 = .applied event
  sameState : ((p.deliver m).2.deliver m').2.SameState ((p.deliver m').2.deliver m).2
  received : ((p.deliver m).2.deliver m').2.dispatcher.received = ((p.deliver m').2.deliver m).2.dispatcher.received

/-- **Messages whose batches commute commute.** -/
theorem Takes.commute (h : p.Takes m event first ledger) (h' : p.Takes m' event' second ledger')
    (hnext : (p.deliver m).2.Takes m' event' second final) (hnext' : (p.deliver m').2.Takes m event first final)
    (hcommute : p.store.Commute first second) : p.Commute m m' event event' := by
  have hversion : ((p.deliver m).2.deliver m').2.store.version = ((p.deliver m').2.deliver m).2.store.version := by
    calc ((p.deliver m).2.deliver m').2.store.version
      _ = ((p.deliver m).2.store.commit second).2.version := hnext.version
      _ = ((p.store.commit first).2.commit second).2.version := Store.commit_of_version h.version second
      _ = ((p.store.commit second).2.commit first).2.version := hcommute.commit
      _ = ((p.deliver m').2.store.commit first).2.version := (Store.commit_of_version h'.version first).symm
      _ = ((p.deliver m').2.deliver m).2.store.version := hnext'.version.symm
  obtain ⟨hcontent, hrevisions, hrevision⟩ := Version.mk.inj hversion
  refine ⟨h.deliver.1, hnext.deliver.1, h'.deliver.1, hnext'.deliver.1,
    ⟨hcontent.symm, hrevisions.symm, hrevision.symm, ?_⟩, ?_⟩
  · rw [hnext.deliver.2.2.1, hnext'.deliver.2.2.1]
  · rw [hnext.deliver.2.1, hnext'.deliver.2.1, h.deliver.2.1, h'.deliver.2.1]

/-- A message brings the result of a live run. -/
def Answers (p : Panel) (m : Message) (run : Intent) (event : Event) : Prop :=
  ∃ text result, event = .testResult text result ∧ m.decode p.dispatcher.maxMessageBytes = .ok event
    ∧ CorrelationId.ofText? text = some run.id ∧ p.ledger.live.get? run.id = some run

/-- The messages that do not get in the way of a result: the result of another live run, diagnostics, and an event about the
project that is applied and leaves the result's test case in the snapshot. -/
inductive Independent (p : Panel) (m m' : Message) (event event' : Event) : Prop where
  | results {run run' : Intent} (answers : p.Answers m run event) (answers' : p.Answers m' run' event')
      (different : run.id ≠ run'.id)
  | diagnostics {run : Intent} {sequence : Option Nat} {payload : DiagnosticsPayload} (answers : p.Answers m run event)
      (decodes : m'.decode p.dispatcher.maxMessageBytes = .ok event') (isDiagnostics : event' = .diagnostics sequence payload)
  | project {run : Intent} {sequence : Nat} {payload : ProjectPayload} (answers : p.Answers m run event)
      (decodes : m'.decode p.dispatcher.maxMessageBytes = .ok event') (isProject : event'.project? = some (sequence, payload))
      (applied : (p.deliver m').1 = .applied event')
      (stays : (p.deliver m').2.store.hasTestCase run.target.function run.target.testCase = true)

section Ready

variable (hready : p.store.readiness = .ready) (hqueue : p.transport.inbound = [])
include hready hqueue

/-- A result commutes with a message that is not about runs, whose plan does not depend on the ledger. -/
theorem Answers.commute {run : Intent} (h : p.Answers m run event)
    (hdecodes' : m'.decode p.dispatcher.maxMessageBytes = .ok event')
    (hplans : ∀ l, Dispatcher.plan p.store l event' = (.commit second, l)) (hscope : ∀ m ∈ second, .runs ∉ m.scope)
    (hafter : (p.store.batch second).1.readiness = .ready)
    (hstays : (∃ m ∈ second, .snapshot ∈ m.scope) →
      (p.store.batch second).1.hasTestCase run.target.function run.target.testCase = true) :
    p.Commute m m' event event' := by
  obtain ⟨text, result, rfl, hdecodes, hnames, hlive⟩ := h
  have htakes : p.Takes m _ _ _ := ⟨hready, hqueue, hdecodes, Dispatcher.plan_testResult hready result hnames hlive⟩
  have htakes' : p.Takes m' event' second p.ledger := ⟨hready, hqueue, hdecodes', hplans p.ledger⟩
  have hnext : (p.deliver m).2.Takes m' event' second (p.ledger.remove run) := by
    refine htakes.next hdecodes' ?_ ?_
    · rw [Store.batch_runCompleted]
      exact hready
    · -- the result changes neither readiness nor snapshot
      rw [Store.batch_runCompleted, ← hplans (p.ledger.remove run)]
      exact Dispatcher.plan_congr rfl rfl event'
  have hnext' := htakes'.next hdecodes hafter (Dispatcher.plan_testResult hafter result hnames hlive)
  exact htakes.commute htakes' hnext hnext' (Store.commute_result { run with state := .completed } result p.store hscope hstays)

/-- Results of different live runs commute: they have different targets. -/
theorem Answers.commute_answers {run run' : Intent} (hagrees : p.Agrees) (h : p.Answers m run event)
    (h' : p.Answers m' run' event') (hne : run.id ≠ run'.id) : p.Commute m m' event event' := by
  obtain ⟨text, result, rfl, hdecodes, hnames, hlive⟩ := h
  obtain ⟨text', result', rfl, hdecodes', hnames', hlive'⟩ := h'
  have htarget : run.target ≠ run'.target := fun heq => hne (Ledger.live_unique hagrees.wellFormed hlive hlive' heq)
  -- each run is still live when the other one is gone
  have hleft : (p.ledger.remove run).live.get? run'.id = some run' := by
    rw [Ledger.remove_live, if_neg (Ne.symm hne), hlive']
  have hleft' : (p.ledger.remove run').live.get? run.id = some run := by
    rw [Ledger.remove_live, if_neg hne, hlive]
  have htakes : p.Takes m _ _ _ := ⟨hready, hqueue, hdecodes, Dispatcher.plan_testResult hready result hnames hlive⟩
  have htakes' : p.Takes m' _ _ _ := ⟨hready, hqueue, hdecodes', Dispatcher.plan_testResult hready result' hnames' hlive'⟩
  have hstill (run : Intent) (result : TestResult) : (p.store.batch [.runCompleted run result]).1.readiness = .ready := by
    rw [Store.batch_runCompleted]
    exact hready
  have hnext := htakes.next hdecodes' (hstill _ _) (Dispatcher.plan_testResult (hstill _ _) result' hnames' hleft)
  have hnext' := htakes'.next hdecodes (hstill _ _) (Dispatcher.plan_testResult (hstill _ _) result hnames hleft')
  rw [Ledger.remove_comm] at hnext'
  refine htakes.commute htakes' hnext hnext' (Store.commute_results p.store ?_ result result')
  exact htarget

/-- An event about the project that is applied was planned for as such. -/
theorem planned_of_applied {sequence : Nat} {payload : ProjectPayload}
    (hdecodes : m.decode p.dispatcher.maxMessageBytes = .ok event)
    (hproject : event.project? = some (sequence, payload)) (happlied : (p.deliver m).1 = .applied event) :
    ∃ mutations, Dispatcher.planProject p.store sequence payload = .commit mutations := by
  have hready' : p.dispatcher.store.readiness = .ready := hready
  have hplan : Dispatcher.plan p.dispatcher.store p.ledger event = (Dispatcher.planProject p.store sequence payload, p.ledger) :=
    Dispatcher.plan_project hready hproject
  rw [deliver_of_unqueued hqueue, handle_fst] at happlied
  simp only [Dispatcher.dispatch, hready', hdecodes, hplan] at happlied
  cases hdecided : Dispatcher.planProject p.store sequence payload with
  | commit mutations => exact ⟨mutations, rfl⟩
  | discard | fault =>
    rw [hdecided] at happlied
    cases happlied

end Ready

end Panel

/-- **Independent messages commute.** In every state that a session can reach, if the panel is ready and no message waits, two
messages that are independent are both applied in either order, and the panel ends in the same state: content, revisions,
ledger and count of messages. -/
theorem independent_messages_commute (config : PanelConfig) (channel : MemoryChannel) (now : Instant) (ops : List Operation)
    (m m' : Message) (event event' : Event) :
    let p := ((Panel.new config channel now).performAll ops).2
    p.store.readiness = .ready → p.transport.inbound = [] → p.Independent m m' event event' →
      p.Commute m m' event event' := by
  intro p hready hqueue hindependent
  have hcoupled : p.Coupled := (Panel.history_path _ ops).coupled (Panel.new_coupled config channel now)
  cases hindependent with
  | results answers answers' different => exact answers.commute_answers hready hqueue hcoupled.agrees answers' different
  | @diagnostics run sequence payload answers decodes isDiagnostics =>
    subst isDiagnostics
    refine answers.commute hready hqueue decodes
      (fun l => Dispatcher.plan_diagnostics hready (hcoupled.loaded hready) sequence payload) ?_ ?_ ?_
    · simp [Mutation.scope]
    · rw [Store.batch_readiness_of_scope p.store (by simp [Mutation.scope])]
      exact hready
    · simp [Mutation.scope]
  | @project run sequence payload answers decodes isProject applied stays =>
    obtain ⟨mutations, hplan⟩ := Panel.planned_of_applied hready hqueue decodes isProject applied
    have hplans (l : Ledger) : Dispatcher.plan p.store l event' = (.commit mutations, l) := by
      rw [Dispatcher.plan_project hready isProject, hplan]
    have hdecides := Dispatcher.planProject_decides p.store sequence payload
    rw [hplan] at hdecides
    have hafter : (p.store.batch mutations).1.readiness = .ready := by
      rw [(hdecides.batch (.inr hready)).2, hready, ite_self]
    have htakes : p.Takes m' event' mutations p.ledger := ⟨hready, hqueue, decodes, hplans p.ledger⟩
    refine answers.commute hready hqueue decodes hplans (Dispatcher.planProject_scope hplan) hafter fun _ => ?_
    have hsnapshot : (p.deliver m').2.store.snapshot = (p.store.batch mutations).1.snapshot :=
      congrArg Content.snapshot htakes.content
    unfold Store.hasTestCase at stays ⊢
    rwa [hsnapshot] at stays

/-- A run is started. -/
def startedSession : List Operation :=
  [.mount, .deliver (projectMessage .ready 1 "f1" "c1"), .act (.runTest "f1" "c1")]

/-- The result of that run. -/
def resultMessage : Message :=
  .json (.obj [("correlationId", .str "corr-1"), ("kind", .str "test-result"), ("payload", .obj [("status", .str "success")])])

/-- A newer project with the same test case. -/
def updateMessage : Message := projectMessage .projectUpdated 2 "f1" "c1"

/-- That project as it is read. -/
def updatedProject : ProjectPayload :=
  { functions := [⟨"f1", "fn f1()", ["c1"]⟩], diagnostics := [], settings := none, incremental := false, removed := [] }

/-- The result may come before or after the project is replaced. -/
theorem result_commutes_with_update :
    let p := ((Panel.new {} .accepting ⟨1700000000, 0⟩).performAll startedSession).2
    p.store.readiness = .ready ∧ p.transport.inbound = []
      ∧ ∃ event event', p.Independent resultMessage updateMessage event event'
        ∧ p.Commute resultMessage updateMessage event event' := by
  intro p
  have hready : p.store.readiness = .ready := by decide +kernel
  have hqueue : p.transport.inbound = [] := rfl
  have hlive : p.ledger.live.get? ⟨1⟩ = some ⟨⟨1⟩, ⟨"f1", "c1"⟩, .pending, ⟨1700000000, 0⟩⟩ := by decide +kernel
  have hnames : CorrelationId.ofText? "corr-1" = some ⟨1⟩ := by decide +kernel
  have hstays : (p.deliver updateMessage).2.store.hasTestCase "f1" "c1" = true := by decide +kernel
  have hresult : resultMessage.decode 1048576 = .ok (.testResult "corr-1" ⟨.success, none, none, none, none⟩) := rfl
  have hupdate : updateMessage.decode 1048576 = .ok (.projectUpdated 2 updatedProject) := rfl
  have hplan : Dispatcher.planProject p.store 2 updatedProject
      = .commit [.replaceSnapshot (.ofPayload 2 updatedProject)] := rfl
  have hlimit : p.dispatcher.maxMessageBytes = 1048576 := Panel.performAll_limit _ startedSession
  rw [← hlimit] at hresult hupdate
  have hanswers : p.Answers resultMessage ⟨⟨1⟩, ⟨"f1", "c1"⟩, .pending, ⟨1700000000, 0⟩⟩ _ :=
    ⟨_, _, rfl, hresult, hnames, hlive⟩
  have hplans : Dispatcher.plan p.store p.ledger (.projectUpdated 2 updatedProject)
      = (.commit [.replaceSnapshot (.ofPayload 2 updatedProject)], p.ledger) := by
    rw [Dispatcher.plan_project hready rfl, hplan]
  have htakes : p.Takes updateMessage _ _ _ := ⟨hready, hqueue, hupdate, hplans⟩
  have hindependent : p.Independent resultMessage updateMessage _ _ := .project hanswers hupdate rfl htakes.deliver.1 hstays
  exact ⟨hready, hqueue, _, _, hindependent,
    independent_messages_commute {} .accepting ⟨1700000000, 0⟩ startedSession _ _ _ _ hready hqueue hindependent⟩

end PanelBridge
