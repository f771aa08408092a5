import PanelBridge.Proofs.CommitReports
import PanelBridge.Proofs.Turns

/-!
# The outcome of a message tells what changed

A message may be decoded or not, planned for or set aside, and a result has gone through the ledger before anything is
committed. What the host is answered is only the outcome. This module says, for each outcome, everything that the message
has changed:

* **`Panel.Changed`**: the statement, outcome by outcome.
* **`batch_single`, `batch_part_of_scope`**: a batch of one mutation is that mutation, and settling reaches the selection and the
  results only.
* **`Path.received`**: the panel counts its messages, so that the note of a discarded one holds its place in the stream.
* **`Path.discardedTotal`**: the store counts those that were discarded.
-/

namespace PanelBridge

/-! ## Small batches -/

theorem SliceSet.empty_union (set : SliceSet) : SliceSet.empty.union set = set :=
  PerSlice.ext_get fun s => by simp [union, empty]

namespace Store

variable (s : Store)

theorem batch_single {m : Mutation} (h : .snapshot ∉ m.scope) : s.batch [m] = s.apply m := by
  rw [batch_of_scope s (by simpa using h)]
  show ((s.apply m).1, SliceSet.empty.union (s.apply m).2) = s.apply m
  rw [SliceSet.empty_union]

/-- Settling reaches the selection and the results only. -/
theorem batch_part_of_scope {mutations : List Mutation} {slice : Slice} (h : ∀ m ∈ mutations, slice ∉ m.scope)
    (hselection : slice ≠ .selection) (hruns : slice ≠ .runs) :
    (s.batch mutations).1.part slice = s.part slice := by
  have happlied := (applyAll_untouched s .empty h).2
  rw [batch_eq]
  cases ht : (s.applyAll .empty mutations).2.contains .snapshot with
  | true =>
    rw [settle_of_touched _ ht, ← happlied]
    cases slice with
    | selection => exact absurd rfl hselection
    | runs => exact absurd rfl hruns
    | _ => rfl
  | false =>
    rw [settle_of_untouched _ ht]
    exact happlied

/-- A slice that a mutation touched is reported, whatever settling adds. -/
theorem batch_isEmpty_of_touched {s : Store} {mutations : List Mutation} {slice : Slice}
    (h : (s.applyAll .empty mutations).2.contains slice = true) : (s.batch mutations).2.isEmpty = false := by
  cases hempty : (s.batch mutations).2.isEmpty with
  | false => rfl
  | true =>
    have huntouched := (settle_part _ _ (SliceSet.contains_of_isEmpty hempty slice)).1
    rw [h] at huntouched
    cases huntouched

/-- A commit of one mutation that touches a slice is one change, with the content that the mutation gives. -/
theorem commit_single {m : Mutation} {t : Store} {slices : SliceSet} (happly : s.apply m = (t, slices))
    (hscope : .snapshot ∉ m.scope) (hslices : slices.isEmpty = false) :
    s.Committed ⟨s.revision + 1, slices⟩ (s.commit [m]).2 ∧ (s.commit [m]).2.content = t.content := by
  have hbatch : s.batch [m] = (t, slices) := (batch_single s hscope).trans happly
  have hcommitted := commit_committed s [m] (by rw [hbatch]; exact hslices)
  rw [hbatch] at hcommitted
  refine ⟨hcommitted, ?_⟩
  rw [commit_content, hbatch]

end Store

/-! ## The count of messages -/

/-- Whether a moment is about a message. -/
def Moment.handles (m : Moment) : Bool :=
  match m.cause with
  | .handled .. => true
  | _ => false

/-- The panel that some moments lead to. -/
def Panel.reached (p : Panel) (past : List Moment) : Panel := (past.getLast?.map Moment.after).getD p

theorem Panel.reached_cons (p : Panel) (m : Moment) (rest : List Moment) : p.reached (m :: rest) = m.after.reached rest := by
  unfold reached
  rw [List.getLast?_cons]
  cases rest.getLast? <;> rfl

theorem Path.reached_eq {p q : Panel} {moments : List Moment} (path : Path p moments q) : p.reached moments = q := by
  induction path with
  | nil => rfl
  | cons _ _ ih => rw [Panel.reached_cons, ih]

namespace Panel

variable (p : Panel)

/-- An action changes nothing of the dispatcher but the store. -/
theorem act_dispatcher (action : Action) : ∃ store, (p.act action).2.dispatcher = { p.dispatcher with store } := by
  cases action with
  | runTest function testCase =>
    show ∃ store, (p.runTest function testCase).2.dispatcher = _
    unfold runTest
    split
    · exact ⟨_, rfl⟩
    · split
      · exact ⟨_, rfl⟩
      · cases hsend : p.send (p.ledger.prepareRun ⟨function, testCase⟩) with
        | mk result q =>
          have hq : q = (p.send (p.ledger.prepareRun ⟨function, testCase⟩)).2 := by rw [hsend]
          simp only [hsend]
          subst hq
          cases result <;> exact ⟨_, rfl⟩
  | cancelRun text =>
    show ∃ store, (p.cancelRun text).2.dispatcher = _
    unfold cancelRun
    split
    · exact ⟨_, rfl⟩
    · split <;> exact ⟨_, rfl⟩
  | selectFunction function =>
    show ∃ store, (p.selectFunction function).2.dispatcher = _
    unfold selectFunction Dispatcher.selectFunction
    cases p.dispatcher.store.function? function <;> exact ⟨_, rfl⟩
  | selectTestCase testCase =>
    show ∃ store, (p.update (p.dispatcher.selectTestCase testCase).2).dispatcher = _
    unfold Dispatcher.selectTestCase
    split
    · exact ⟨_, rfl⟩
    · split <;> exact ⟨_, rfl⟩
  | setFilter | requestSettings => exact ⟨_, rfl⟩
  | reload =>
    show ∃ store, p.reload.2.dispatcher = _
    unfold reload Dispatcher.reload
    cases p.dispatcher.store.readiness.next .reload <;> exact ⟨_, rfl⟩

theorem mount_dispatcher : ∃ store, p.mount.2.dispatcher = { p.dispatcher with store } := by
  show ∃ store, (p.update p.dispatcher.mount.2).dispatcher = _
  unfold Dispatcher.mount Dispatcher.transition
  split <;> exact ⟨_, rfl⟩

theorem tickAt_dispatcher (now : Instant) : ∃ store, (p.tickAt now).2.dispatcher = { p.dispatcher with store } := by
  show ∃ store, (p.update (p.dispatcher.recordRunsStalled (p.ledger.sweepStalled now).1)).dispatcher = _
  unfold Dispatcher.recordRunsStalled
  split <;> exact ⟨_, rfl⟩

/-- Nor does any other operation that handles no message. -/
theorem perform_dispatcher {op : Operation} (h : op.isSingle = true) :
    ∃ store, (p.perform op).2.dispatcher = { p.dispatcher with store } := by
  cases op with
  | pump | deliver => cases h
  | mount => exact mount_dispatcher p
  | act action => exact act_dispatcher p action
  | tick => exact tickAt_dispatcher p p.now
  | tickAt now => exact tickAt_dispatcher p now
  | receive | setClock | subscribe | unsubscribe | on | off | read => exact ⟨_, rfl⟩

/-- A message is also counted. -/
theorem handle_dispatcher (m : Message) :
    ∃ store, (p.handle m).2.dispatcher = { p.dispatcher with store, received := p.dispatcher.received + 1 } := by
  obtain ⟨mutations, -, hdispatcher⟩ := p.dispatcher.dispatch_ends p.ledger m
  unfold handle
  cases hd : p.dispatcher.dispatch p.ledger m with
  | mk outcome rest =>
    rw [hd] at hdispatcher
    obtain ⟨d, ledger⟩ := rest
    obtain rfl : d = _ := hdispatcher
    cases outcome <;> exact ⟨_, rfl⟩

end Panel

/-- A moment changes nothing of the dispatcher but the store and, if it is about a message, the count. -/
theorem Moment.Performed.dispatcher {m : Moment} (h : m.Performed) :
    ∃ store, m.after.dispatcher =
      { m.before.dispatcher with store, received := m.before.dispatcher.received + if m.handles then 1 else 0 } := by
  cases h with
  | operated p hsingle => exact Panel.perform_dispatcher p hsingle
  | queueTaken p => exact ⟨_, rfl⟩
  | handled p message => exact Panel.handle_dispatcher p message

theorem Moment.Performed.received {m : Moment} (h : m.Performed) :
    m.after.dispatcher.received = m.before.dispatcher.received + if m.handles then 1 else 0 := by
  obtain ⟨store, hdispatcher⟩ := h.dispatcher
  rw [hdispatcher]

/-- The panel has counted the messages of its history. -/
theorem Path.received {p q : Panel} {moments : List Moment} (path : Path p moments q)
    (hperformed : ∀ m ∈ moments, m.Performed) :
    q.dispatcher.received = p.dispatcher.received + moments.countP Moment.handles := by
  refine path.invariant_of (I := fun past q => q.dispatcher.received = p.dispatcher.received + past.countP Moment.handles)
    ?_ hperformed rfl
  intro past r cause q h _ hperformed
  rw [hperformed.received, h, List.countP_append, List.countP_singleton, Nat.add_assoc]

/-! ## The count of discarded messages -/

/-- Whether a message is discarded. -/
def Moment.discards (m : Moment) : Bool :=
  match m.cause with
  | .handled _ (.discarded _) => true
  | _ => false

theorem Moment.discards_iff {m : Moment} : m.discards = true ↔ ∃ message reason, m.cause = .handled message (.discarded reason) := by
  unfold discards
  split
  · rename_i message reason hcause
    exact ⟨fun _ => ⟨message, reason, hcause⟩, fun _ => rfl⟩
  · rename_i hcause
    exact iff_of_false Bool.false_ne_true fun ⟨message, reason, h⟩ => hcause message reason h

/-- Only a message that is discarded reaches the log and the count. -/
theorem Turn.discards_kept {p q : Panel} {cause : Cause} (turn : Turn p cause q)
    (h : (⟨p, cause, q⟩ : Moment).discards = false) : q.store.part .discards = p.store.part .discards := by
  obtain ⟨mutations, ledger, heffect, hcontent, -⟩ := turn
  have hpart : q.store.part .discards = (p.store.batch mutations).1.part .discards :=
    congrArg (fun c : Content => (c.discards, c.discardedTotal)) hcontent
  rw [hpart]
  cases heffect with
  | discarded => cases h
  | idle => rw [Store.batch_nil]
  | projectChanged _ _ hplan =>
    refine p.store.batch_part_of_scope ?_ (by decide) (by decide)
    rcases (Dispatcher.planProject_commit hplan).2 with ⟨_, _, rfl⟩ | rfl
    · simp [Mutation.scope]
    · simp [Mutation.scope, Dispatcher.becomeReady]
  | started | ticked | tickedAt =>
    refine p.store.batch_part_of_scope ?_ (by decide) (by decide)
    simp [Mutation.scope, or_imp, forall_and]
  | mounted | functionSelected | testCaseSelected | filtered | calledOff | reloaded | diagnosed | answered | faulted =>
    exact p.store.batch_part_of_scope (by simp [Mutation.scope]) (by decide) (by decide)

theorem Turn.discardedTotal {p q : Panel} {cause : Cause} (turn : Turn p cause q) :
    q.store.discardedTotal = p.store.discardedTotal + if (⟨p, cause, q⟩ : Moment).discards then 1 else 0 := by
  cases hdiscards : (⟨p, cause, q⟩ : Moment).discards with
  | false => exact (Prod.mk.inj (turn.discards_kept hdiscards)).2
  | true =>
    obtain ⟨message, reason, hcause⟩ := Moment.discards_iff.1 hdiscards
    obtain rfl : cause = _ := hcause
    obtain ⟨mutations, ledger, heffect, hcontent, -⟩ := turn
    have htotal : q.store.discardedTotal = (p.store.batch mutations).1.discardedTotal :=
      congrArg Content.discardedTotal hcontent
    rw [htotal]
    cases heffect with
    | idle hidle => exact hidle.elim
    | @discarded _ _ _ record =>
      rw [Store.batch_single _ (m := .recordDiscard record) (by simp [Mutation.scope])]
      rfl

/-- **The store has counted the messages that were discarded.** -/
theorem Path.discardedTotal {p q : Panel} {moments : List Moment} (path : Path p moments q) :
    q.store.discardedTotal = p.store.discardedTotal + moments.countP Moment.discards := by
  have hinvariant := path.invariant
    (I := fun past q => q.store.discardedTotal = p.store.discardedTotal + past.countP Moment.discards) ?_ [] rfl
  · simpa using hinvariant
  · intro past r cause q h turn
    rw [turn.discardedTotal, h, List.countP_append, List.countP_singleton, Nat.add_assoc]

/-! ## What each outcome tells -/

/-- Everything that a message has changed, by its outcome; `place` is the place of the message among all messages. -/
def Panel.Changed (p : Panel) (place : Nat) (message : Message) (d : Dispatcher) (ledger : Ledger) : Outcome → Prop
  | .ignored => d.store = p.store ∧ ledger = p.ledger
  | .discarded reason => ledger = p.ledger
      ∧ p.store.Committed ⟨p.store.revision + 1, .ofList [.discards]⟩ d.store
      ∧ ∃ event, message.decode p.dispatcher.maxMessageBytes = .ok event
        ∧ d.store.content =
            { p.store.content with
              discards := pushRecent p.store.discardCapacity p.store.discards ⟨place, some event.kind, reason⟩
              discardedTotal := p.store.discardedTotal + 1 }
  | .faulted fault => ledger = p.ledger
      ∧ p.store.Committed ⟨p.store.revision + 1, .ofList [.readiness]⟩ d.store
      ∧ d.store.content = { p.store.content with readiness := .error fault }
  | .applied (.diagnostics _ payload) => ledger = p.ledger
      ∧ p.store.Committed ⟨p.store.revision + 1, .ofList [.diagnostics]⟩ d.store
      ∧ ∃ snapshot, p.store.snapshot = some snapshot
        ∧ d.store.content =
            { p.store.content with
              snapshot := some { snapshot with diagnostics := snapshot.diagnostics.merge payload } }
  | .applied (.testResult text result) => ∃ id run, CorrelationId.ofText? text = some id
      ∧ p.ledger.live.get? id = some run
      ∧ ledger =
          { p.ledger with
            live := p.ledger.live.erase id
            liveByTarget := p.ledger.liveByTarget.erase run.target }
      ∧ p.store.Committed ⟨p.store.revision + 1, .ofList [.runs]⟩ d.store
      ∧ d.store.content =
          { p.store.content with
            pending := p.store.pending.erase run.target
            results := p.store.results.insert run.target ⟨id, result⟩ }
  | .applied (.ready ..) | .applied (.projectUpdated ..) => ledger = p.ledger
      ∧ (∃ change, p.store.Committed change d.store)
      ∧ d.store.pending = p.store.pending ∧ d.store.filter = p.store.filter
      ∧ d.store.discards = p.store.discards ∧ d.store.discardedTotal = p.store.discardedTotal
  | .applied (.hostError _) => False

namespace Panel

variable {p : Panel} {place : Nat} {message : Message} {d : Dispatcher}

theorem changed_discarded {event : Event} {reason : DiscardReason} (hplace : place = p.dispatcher.received + 1)
    (hdecode : message.decode p.dispatcher.maxMessageBytes = .ok event)
    (hd : d.store = (p.store.commit [.recordDiscard ⟨p.dispatcher.received + 1, some event.kind, reason⟩]).2) :
    p.Changed place message d p.ledger (.discarded reason) := by
  obtain ⟨hcommitted, hcontent⟩ := p.store.commit_single
    (m := .recordDiscard ⟨p.dispatcher.received + 1, some event.kind, reason⟩) rfl (by simp [Mutation.scope]) (by decide)
  rw [← hd] at hcommitted hcontent
  subst hplace
  exact ⟨rfl, hcommitted, event, hdecode, hcontent⟩

theorem changed_faulted {fault : Fault} (noError : ∀ fault, p.store.readiness ≠ .error fault)
    (hd : d.store = (p.store.commit [.setReadiness (.error fault)]).2) :
    p.Changed place message d p.ledger (.faulted fault) := by
  have happly : p.store.apply (.setReadiness (.error fault)) =
      ({ p.store with readiness := .error fault }, .ofList [.readiness]) := by
    rw [Store.apply, if_neg (noError fault)]
  obtain ⟨hcommitted, hcontent⟩ := p.store.commit_single happly (by simp [Mutation.scope]) (by decide)
  rw [← hd] at hcommitted hcontent
  exact ⟨rfl, hcommitted, hcontent⟩

theorem changed_diagnostics {sequence : Option Nat} {payload : DiagnosticsPayload} {snapshot : Snapshot}
    (base : p.store.snapshot = some snapshot) (hd : d.store = (p.store.commit [.mergeDiagnostics payload]).2) :
    p.Changed place message d p.ledger (.applied (.diagnostics sequence payload)) := by
  have happly : p.store.apply (.mergeDiagnostics payload) =
      ({ p.store with snapshot := some (snapshot.mergeDiagnostics payload) }, .ofList [.diagnostics]) := by
    simp only [Store.apply, base]
  obtain ⟨hcommitted, hcontent⟩ := p.store.commit_single happly (by simp [Mutation.scope]) (by decide)
  rw [← hd] at hcommitted hcontent
  exact ⟨rfl, hcommitted, snapshot, base, hcontent⟩

/-- The run that a result completes is the pending run of its target, since the store shows the live runs. -/
theorem changed_testResult (hp : p.Agrees) {text : String} {result : TestResult} {id : CorrelationId} {run : Intent}
    (names : CorrelationId.ofText? text = some id) (live : p.ledger.live.get? id = some run)
    (hd : d.store = (p.store.commit [.runCompleted { run with state := .completed } result]).2) :
    p.Changed place message d (p.ledger.remove run) (.applied (.testResult text result)) := by
  obtain rfl : run.id = id := hp.wellFormed.live_id id run live
  have hpending : p.store.pending.get? run.target = some run.pendingRun := hp.shown.live hp.wellFormed live
  have hdropped : p.store.dropPending { run with state := .completed } = p.store.pending.erase run.target := by
    unfold Store.dropPending Store.ownsPending
    rw [hpending]
    simp [Intent.pendingRun]
  have happly : p.store.apply (.runCompleted { run with state := .completed } result) =
      ({ p.store with
         pending := p.store.pending.erase run.target
         results := p.store.results.insert run.target ⟨run.id, result⟩ }, .ofList [.runs]) := by
    simp only [Store.apply, hdropped]
  obtain ⟨hcommitted, hcontent⟩ := p.store.commit_single happly (by simp [Mutation.scope]) (by decide)
  rw [← hd] at hcommitted hcontent
  exact ⟨run.id, run, names, live, rfl, hcommitted, hcontent⟩

theorem changed_project {event : Event} {sequence : Nat} {project : ProjectPayload} {mutations : List Mutation}
    (kind : event = .ready sequence project ∨ event = .projectUpdated sequence project)
    (plan : Dispatcher.planProject p.store sequence project = .commit mutations)
    (hd : d.store = (p.store.commit mutations).2) : p.Changed place message d p.ledger (.applied event) := by
  have hcontent : d.store.content = (p.store.batch mutations).1.content := by
    rw [hd]
    exact Store.commit_content ..
  -- the snapshot and the readiness are in the scope of the plan, and nothing else is
  have hscope : ∀ m ∈ mutations, .runs ∉ m.scope ∧ .filter ∉ m.scope ∧ .discards ∉ m.scope := by
    rcases (Dispatcher.planProject_commit plan).2 with ⟨_, _, rfl⟩ | rfl
    · simp [Mutation.scope]
    · simp [Mutation.scope, Dispatcher.becomeReady]
  have hchange : ∃ change, p.store.Committed change d.store := by
    rw [hd]
    exact ⟨_, p.store.commit_committed mutations (Store.batch_isEmpty_of_touched (Dispatcher.planProject_touches plan).1)⟩
  have hpending : d.store.pending = p.store.pending :=
    (congrArg Content.pending hcontent).trans (p.store.batch_pending_of_scope fun m hm => (hscope m hm).1)
  have hkept : (p.store.batch mutations).1.part .filter = p.store.part .filter :=
    p.store.batch_part_of_scope (fun m hm => (hscope m hm).2.1) (by decide) (by decide)
  have hfilter : d.store.filter = p.store.filter := (congrArg Content.filter hcontent).trans hkept
  have hdiscards : (p.store.batch mutations).1.part .discards = p.store.part .discards :=
    p.store.batch_part_of_scope (fun m hm => (hscope m hm).2.2) (by decide) (by decide)
  have hlog : d.store.discards = p.store.discards :=
    (congrArg Content.discards hcontent).trans (Prod.mk.inj hdiscards).1
  have htotal : d.store.discardedTotal = p.store.discardedTotal :=
    (congrArg Content.discardedTotal hcontent).trans (Prod.mk.inj hdiscards).2
  rcases kind with rfl | rfl <;> exact ⟨rfl, hchange, hpending, hfilter, hlog, htotal⟩

/-- **What a message changes**, at every panel whose store shows the live runs. -/
theorem dispatch_changed (hp : p.Agrees) (hplace : place = p.dispatcher.received + 1) :
    p.Changed place message (p.dispatcher.dispatch p.ledger message).2.1 (p.dispatcher.dispatch p.ledger message).2.2
      (p.dispatcher.dispatch p.ledger message).1 := by
  obtain ⟨mutations, hends, hdispatcher⟩ := p.dispatcher.dispatch_ends p.ledger message
  have hd : (p.dispatcher.dispatch p.ledger message).2.1.store = (p.store.commit mutations).2 := by
    rw [hdispatcher]
    rfl
  generalize (p.dispatcher.dispatch p.ledger message).2.1 = d, (p.dispatcher.dispatch p.ledger message).1 = outcome,
    (p.dispatcher.dispatch p.ledger message).2.2 = ledger at hends hd ⊢
  cases hends with
  | ignored => exact ⟨hd, rfl⟩
  | faulted noError => exact changed_faulted noError hd
  | discarded noError hdecode => exact changed_discarded hplace hdecode hd
  | applied noError hdecode hplan =>
    cases effect_of_plan p noError hdecode hplan with
    | idle hidle => exact hidle.elim
    | projectChanged _ kind hproject => exact changed_project kind hproject hd
    | diagnosed _ base => exact changed_diagnostics base hd
    | answered _ names live => exact changed_testResult hp names live hd

end Panel

/-- **The outcome of a message tells exactly what changed.** At every panel that a session passes through, and for every
message whatsoever:

* *ignored*: store and ledger are as before;
* *discarded*: the ledger and the content of the store are as before but for the log of discarded events. One change of that
  slice puts the note of the message into the log, with its place among all messages, the kind of its event and the reason. The
  log keeps its last notes up to its capacity; the total counts them all;
* *faulted*: one change of the readiness, to the error state with this fault, and nothing else;
* *applied*: diagnostics change the diagnostics of the snapshot only; a result takes one run out of the pending and the live runs
  and puts itself among the results; an event about the project leaves the pending runs, the filter, the discarded events and
  the ledger alone. -/
theorem outcome_tells_what_changed (config : PanelConfig) (channel : MemoryChannel) (now : Instant)
    (ops : List Operation) (n : Nat) (message : Message) :
    let start := Panel.new config channel now
    let past := (start.history ops).take n
    let p := start.reached past
    let handled := p.dispatcher.dispatch p.ledger message
    p.Changed (past.countP Moment.handles + 1) message handled.2.1 handled.2.2 handled.1 := by
  intro start past p handled
  have whole : Path start (past ++ (start.history ops).drop n) (start.performAll ops).2 := by
    rw [List.take_append_drop]
    exact Panel.history_path start ops
  obtain ⟨q, path, -⟩ := whole.divide
  obtain rfl : p = q := path.reached_eq
  have hreceived := path.received fun m hm => Panel.history_performed start ops m (List.mem_of_mem_take hm)
  refine Panel.dispatch_changed (path.agrees (Panel.new_agrees config channel now)) ?_
  rw [hreceived]
  show _ = 0 + past.countP Moment.handles + 1
  omega

/-- A log without capacity keeps no note: the message is discarded and counted, and the log stays empty. -/
theorem discarded_without_note :
    let p := Panel.new { discardLogCapacity := 0 } .accepting ⟨1700000000, 0⟩
    let handled := p.dispatcher.dispatch p.ledger (.json (.obj [("kind", .str "diagnostics"), ("payload", .obj [])]))
    handled.1 = .discarded .notMounted ∧ handled.2.1.store.discards = [] ∧ handled.2.1.store.discardedTotal = 1 := by
  intro p handled
  exact ⟨rfl, by decide +kernel, by decide +kernel⟩

end PanelBridge
