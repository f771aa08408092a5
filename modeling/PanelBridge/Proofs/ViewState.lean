import PanelBridge.Proofs.HandledAlike
import PanelBridge.Proofs.SentCommands

/-!
# Selection and filter are for the eye only

The user selects a function and a test case and types a filter. That is kept in the same store as the project and the runs, is
changed by the same commits, and is brought in line with every new snapshot. What the panel does for the host depends on none
of it.

* **`Content.SameBridge`**: the state without selection and filter. Every mutation keeps it (`Mutation.parallel_sameBridge`), and
  those of selection and filter do not change it (`Mutation.keeps_sameBridge`).
* **`Transport.Unselected`**: a channel that takes everything, and the same channel without the lines that tell of selections.
* **`viewless`**: the likeness of panels that differ in what the user looks at.
* **`view_never_influences_bridge`**: a session, and the session without the actions that are about the view.
-/

namespace PanelBridge

/-! ## The store -/

/-- Contents that are the same but for selection and filter. -/
structure Content.SameBridge (c d : Content) : Prop where
  readiness : c.readiness = d.readiness
  snapshot : c.snapshot = d.snapshot
  pending : c.pending = d.pending
  results : c.results = d.results
  discards : c.discards = d.discards
  discardCapacity : c.discardCapacity = d.discardCapacity
  discardedTotal : c.discardedTotal = d.discardedTotal

theorem Content.SameBridge.of_view {readiness : Readiness} {snapshot : Option Snapshot} {selection selection' : Selection}
    {filter filter' : String} {pending : Table Target PendingRun} {results : Table Target CompletedRun}
    {discards : List DiscardRecord} {capacity total : Nat} :
    SameBridge ⟨readiness, snapshot, selection, filter, pending, results, discards, capacity, total⟩
      ⟨readiness, snapshot, selection', filter', pending, results, discards, capacity, total⟩ :=
  ⟨rfl, rfl, rfl, rfl, rfl, rfl, rfl⟩

/-- Settling drops results by the snapshot alone, wherever the selection goes. -/
theorem Content.SameBridge.settled {c d : Content} (h : c.SameBridge d) : c.settled.SameBridge d.settled := by
  refine ⟨h.readiness, h.snapshot, h.pending, ?_, h.discards, h.discardCapacity, h.discardedTotal⟩
  simp only [Content.settled, h.results, h.snapshot]

namespace Mutation

/-- Whether a mutation is about selection or filter. -/
def isOnView : Mutation → Bool
  | .select _ | .setFilter _ => true
  | _ => false

/-- Selecting and filtering changes nothing else. -/
theorem keeps_sameBridge {m : Mutation} (hm : m.isOnView = true) {s : Store} {d : Content} (h : s.content.SameBridge d) :
    (s.apply m).1.content.SameBridge d := by
  cases m with
  | select | setFilter =>
    simp only [Store.apply]
    split
    · exact h
    · exact ⟨h.readiness, h.snapshot, h.pending, h.results, h.discards, h.discardCapacity, h.discardedTotal⟩
  | _ => cases hm

/-- **A mutation does the same whatever is selected.** -/
theorem parallel_sameBridge (m : Mutation) : Parallel Content.SameBridge m m := by
  intro s t h
  obtain ⟨_, snapshot, _, _, pending, _, _, _, _⟩ := s
  obtain ⟨_, _, _, _, _, _, _, _, _⟩ := t
  obtain ⟨rfl, rfl, rfl, rfl, rfl, rfl, rfl⟩ := h
  cases m with
  | select | setFilter =>
    -- one side may have what is selected already, and the other not
    simp only [Store.apply]
    split <;> split <;> exact ⟨.of_view, rfl⟩
  | setReadiness | runCleared | clearPending =>
    exact .ite ⟨.of_view, rfl⟩ ⟨.of_view, rfl⟩
  | mergeSnapshot | clearSnapshot | mergeDiagnostics => cases snapshot <;> exact ⟨.of_view, rfl⟩
  | runStalled run =>
    simp only [Store.apply, Store.content]
    cases pending.get? run.target with
    | none => exact ⟨.of_view, rfl⟩
    | some waiting => exact .ite ⟨.of_view, rfl⟩ ⟨.of_view, rfl⟩
  | replaceSnapshot | runPending | runCompleted | recordDiscard => exact ⟨.of_view, rfl⟩

end Mutation

/-! ## The channel -/

namespace Transport

/-- Every line is taken. -/
def Accepts (t : Transport MemoryChannel) : Prop := ∀ attempts line, t.channel.refusal attempts line = none

theorem send_of_accepts {t : Transport MemoryChannel} (h : t.Accepts) (c : Command) : t.send c = (.ok (), t.taken c.line) :=
  send_of_taken (h t.channel.attempts c.line)

/-- Two transports that take everything. The second one has the lines of the first without those that tell of selections. -/
structure Unselected (t u : Transport MemoryChannel) : Prop where
  inbound : t.inbound = u.inbound
  accepts : t.Accepts
  accepts' : u.Accepts
  lines : t.channel.lines.filter (!CommandKind.selectFunction.opens ·) = u.channel.lines

variable {t u : Transport MemoryChannel} (h : t.Unselected u)
include h

/-- Any other command is sent on both sides. -/
theorem Unselected.send {c : Command} (hc : c.kind ≠ .selectFunction) :
    (t.send c).1 = (u.send c).1 ∧ (t.send c).2.Unselected (u.send c).2 := by
  rw [send_of_accepts h.accepts, send_of_accepts h.accepts']
  refine ⟨rfl, h.inbound, h.accepts, h.accepts', ?_⟩
  show (t.channel.lines ++ [c.line]).filter _ = u.channel.lines ++ [c.line]
  have hkept : CommandKind.selectFunction.opens c.line = false := by
    rw [CommandKind.opens_line]
    simpa using hc
  rw [List.filter_append, h.lines, List.filter_cons_of_pos (by simp [hkept]), List.filter_nil]

/-- The line of a selection is left out on the second side. -/
theorem Unselected.selectLeft (function : String) : (t.send (.selectFunction function)).2.Unselected u := by
  rw [send_of_accepts h.accepts]
  refine ⟨h.inbound, h.accepts, h.accepts', ?_⟩
  show (t.channel.lines ++ [(Command.selectFunction function).line]).filter _ = u.channel.lines
  have hdropped : CommandKind.selectFunction.opens (Command.selectFunction function).line = true := by
    rw [CommandKind.opens_line]
    rfl
  rw [List.filter_append, h.lines, List.filter_cons_of_neg (by simp [hdropped]), List.filter_nil, List.append_nil]

end Transport

/-! ## Panels with other views -/

/-- The overview without what the user chose to see. -/
def PanelView.unviewed (v : PanelView) : PanelView := { v with functions := [], selection := .none, filter := "" }

/-- Panels that may differ in selection and filter. -/
def viewless : Likeness where
  store := Store.AlikeIn Content.SameBridge
  ledger := Eq
  transport := Transport.Unselected
  clock := Eq
  intent := Eq
  reason := Eq
  view v v' := v.unviewed = v'.unviewed

theorem Mutation.Like.eq_of_viewless {m m' : Mutation} (h : Mutation.Like viewless m m') : m = m' := by
  cases h with
  | same => rfl
  | runPending hrun => exact congrArg Mutation.runPending hrun
  | runCleared hrun => exact congrArg Mutation.runCleared hrun
  | runCompleted hrun result => exact congrArg (Mutation.runCompleted · result) hrun
  | recordDiscard ordinal kind hreason => exact congrArg (fun reason => Mutation.recordDiscard ⟨ordinal, kind, reason⟩) hreason

theorem Store.overview_unviewed {s t : Store} (h : s.content.SameBridge t.content)
    (functions functions' : List FunctionDefinition) :
    (s.overview functions).unviewed = (t.overview functions').unviewed := by
  have hreadiness : s.readiness = t.readiness := h.readiness
  have hsnapshot : s.snapshot = t.snapshot := h.snapshot
  have hpending : s.pending = t.pending := h.pending
  have hresults : s.results = t.results := h.results
  have hdiscarded : s.discardedTotal = t.discardedTotal := h.discardedTotal
  have hstatus : s.runStatus = t.runStatus := by
    funext target
    simp only [runStatus, hpending, hresults]
  have htargets : s.runTargets = t.runTargets := by simp only [runTargets, hpending, hresults]
  simp only [PanelView.unviewed, overview, sequence, hreadiness, hsnapshot, hdiscarded, hstatus, htargets]

theorem viewless_lawful : viewless.Lawful where
  readiness h := h.content.readiness
  snapshot h := h.content.snapshot
  commit {s t mutations mutations'} h hm := by
    refine Store.AlikeIn.commit h (fun _ _ => Content.SameBridge.settled) (hm.imp ?_)
    intro m m' hlike
    rw [hlike.eq_of_viewless]
    exact Mutation.parallel_sameBridge m'
  collected h := h.collected
  subscribe label reads h := h.subscribe label reads
  unsubscribe id h := h.unsubscribe id
  read h := ⟨Store.overview_unviewed h.content _ _, h.read⟩
  sameReason _ := rfl
  nextNumber := by
    rintro l _ rfl
    rfl
  byTarget := by
    rintro l _ rfl
    rfl
  keys := by
    rintro l _ rfl
    rfl
  advance := by
    rintro l _ rfl
    rfl
  retire := by
    rintro l _ id state rfl
    refine ⟨?_, rfl⟩
    cases (l.retire id state).1 with
    | none => exact .none
    | some run => exact .some rfl
  enter := by
    rintro l _ run _ rfl rfl
    rfl
  admitResult := by
    rintro l _ text rfl
    refine ⟨?_, rfl⟩
    cases (l.admitResult text).1 with
    | live run => exact .live rfl
    | discard reason => exact .discard rfl
  newRun := by
    rintro now _ id target rfl
    rfl
  inbound h := h.inbound
  queued _ h := ⟨rfl, h.accepts, h.accepts', h.lines⟩
  send h hc := h.send hc

theorem viewless_onClock : viewless.OnClock where
  clock_iff := Iff.rfl
  sweepStalled := by
    rintro l _ now rfl
    exact ⟨rfl, rfl⟩

namespace Panel

variable {p q : Panel}

/-- A commit about the view is made on one side only. -/
theorem Like.viewLeft (h : p.Like viewless q) {m : Mutation} (hm : m.isOnView = true) :
    (p.update (p.dispatcher.commit [m])).Like viewless q := by
  refine h.updatedLeft (fun hst => hst.collectedLeft) h.ledger ⟨?_, h.dispatcher.limit, h.dispatcher.received⟩
  refine Store.AlikeIn.commitLeft h.dispatcher.store ?_ ?_
  · intro m' hm'
    obtain rfl := List.mem_singleton.1 hm'
    cases m' with
    | select | setFilter => simp [Mutation.scope]
    | _ => cases hm
  · intro m' hm' s hcontent
    obtain rfl := List.mem_singleton.1 hm'
    exact Mutation.keeps_sameBridge hm hcontent

/-- **An action about the view leaves the rest as it is**, in every state of the panel. -/
theorem Like.performViewLeft (h : p.Like viewless q) {op : Operation} (hview : op.isOnView = true) :
    (p.perform op).2.Like viewless q := by
  cases op with
  | act action =>
    cases action with
    | selectFunction function =>
      show (p.selectFunction function).2.Like viewless q
      unfold Panel.selectFunction Dispatcher.selectFunction
      cases p.dispatcher.store.function? function with
      | none => exact h
      | some f =>
        have hselected := h.viewLeft (m := .select ⟨some f.id, f.testCases.head?⟩) rfl
        exact ⟨hselected.dispatcher, hselected.ledger, h.transport.selectLeft function, h.clock, h.listeners⟩
    | selectTestCase testCase =>
      have hunchanged : (p.update p.dispatcher).Like viewless q :=
        h.updatedLeft (fun hst => hst.collectedLeft) h.ledger h.dispatcher
      show (p.selectTestCase testCase).2.Like viewless q
      unfold Panel.selectTestCase Dispatcher.selectTestCase
      cases p.dispatcher.store.selection.function with
      | none => exact hunchanged
      | some function =>
        simp only
        split
        · exact h.viewLeft rfl
        · exact hunchanged
    | setFilter filter => exact h.viewLeft rfl
    | _ => cases hview
  | _ => cases hview

theorem Like.performUnviewed (h : p.Like viewless q) {op : Operation} (hview : op.isOnView = false) :
    Report.Like viewless (p.perform op).1 (q.perform op).1 ∧ (p.perform op).2.Like viewless (q.perform op).2 := by
  cases hclock : op.isOnClock with
  | true => exact h.performOnClock viewless_lawful viewless_onClock hclock
  | false => exact h.perform viewless_lawful hclock hview

theorem viewless_lockstep : Lockstep viewless (!·.isOnView) where
  kept hkept h := h.performUnviewed (by simpa using hkept)
  skipped hskipped h := h.performViewLeft (by simpa using hskipped)

theorem new_like_viewless (config : PanelConfig) (now : Instant) :
    (new config .accepting now).Like viewless (new config .accepting now) where
  dispatcher := ⟨⟨.of_view, rfl, rfl⟩, rfl, rfl⟩
  ledger := rfl
  transport := ⟨rfl, fun _ _ => rfl, fun _ _ => rfl, rfl⟩
  clock := rfl
  listeners := rfl

/-- What a panel keeps when actions about the view are left out of its session. -/
structure SameBridge (p q : Panel) : Prop where
  readiness : p.store.readiness = q.store.readiness
  snapshot : p.store.snapshot = q.store.snapshot
  pending : p.store.pending = q.store.pending
  results : p.store.results = q.store.results
  discards : p.store.discards = q.store.discards
  discardedTotal : p.store.discardedTotal = q.store.discardedTotal
  ledger : p.ledger = q.ledger
  inbound : p.transport.inbound = q.transport.inbound
  received : p.dispatcher.received = q.dispatcher.received
  lines : p.transport.channel.lines.filter (!CommandKind.selectFunction.opens ·) = q.transport.channel.lines

theorem Like.sameBridge (h : p.Like viewless q) : p.SameBridge q where
  readiness := h.store.content.readiness
  snapshot := h.store.content.snapshot
  pending := h.store.content.pending
  results := h.store.content.results
  discards := h.store.content.discards
  discardedTotal := h.store.content.discardedTotal
  ledger := h.ledger
  inbound := h.transport.inbound
  received := h.dispatcher.received
  lines := h.transport.lines

end Panel

/-- **Selection and filter never influence the bridge.** A session over a channel that takes every line, and what is left of it
without the actions that select or filter: the operations that are left give the same reports, up to what overviews show of
selection and filter, the same messages are handled with the same outcomes, and the panels end in the same state, up to
selection and filter. The lines that were posted differ by those that tell of selections. -/
theorem view_never_influences_bridge (config : PanelConfig) (now : Instant) (ops : List Operation) :
    let p := Panel.new config .accepting now
    (p.reportsOf (!·.isOnView) ops).map (Report.mapView .unviewed)
        = (p.performAll (ops.filter (!·.isOnView))).1.map (Report.mapView .unviewed)
      ∧ p.handlings ops = p.handlings (ops.filter (!·.isOnView))
      ∧ (p.performAll ops).2.SameBridge (p.performAll (ops.filter (!·.isOnView))).2 := by
  intro p
  have hnew : p.Like viewless p := Panel.new_like_viewless config now
  obtain ⟨hreports, hlast⟩ := hnew.performAll Panel.viewless_lockstep ops
  have hhandled := hnew.handlings viewless_lawful Panel.viewless_lockstep
    (fun _ hskipped => Operation.single_of_isOnView (by simpa using hskipped)) ops
  exact ⟨Report.mapView_eq_of_like id id hreports, handlings_eq id hhandled, hlast.sameBridge⟩

end PanelBridge
