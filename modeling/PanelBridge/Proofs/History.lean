import PanelBridge.Panel.Operation
import PanelBridge.Proofs.Commit
import PanelBridge.Proofs.Ledger

/-!
# The history of a panel

A session is a list of operations. Some of them do several things one after the other: a pump takes the queue and handles
each message in it. The history of a session cuts it into moments, each of which is one operation or one message, with the
panel before and after it. Whatever holds along sessions is proved about moments:

* **`Effect`**: everything a moment can do. Each case gives the mutations it commits and the ledger it leaves, with the
  guards it passed.
* **`Turn`**: the panel after a moment has the content of such a batch and such a ledger. Every operation and every
  message is a turn (`perform_turn`, `handle_turn`).
* **`Path`**: moments that follow one another by turns. The history of a session is a path to its last panel
  (`history_path`), and what every turn preserves holds at the end of a path (`Path.invariant`).
* **`Moment.Performed`**: the moment is what the panel before it does. All moments of a history are (`history_performed`), so what
  is in neither content nor ledger, such as the channel, can be followed too (`history_invariant`).
-/

namespace PanelBridge

/-- What brings a moment about: an operation with its report, the queue being taken, or a message with its outcome. -/
inductive Cause where
  | operated (operation : Operation) (report : Report)
  | queueTaken
  | handled (message : Message) (outcome : Outcome)

/-- A piece of a session, with the panel before and after it. -/
structure Moment where
  before : Panel
  cause : Cause
  after : Panel

namespace Panel

/-- The panel after its queue was taken. -/
def takeQueue (p : Panel) : Panel := { p with transport := p.transport.clearInbound }

/-- The moments of handling messages one after the other. -/
def handleMoments (p : Panel) : List Message → List Moment
  | [] => []
  | m :: rest => ⟨p, .handled m (p.handle m).1, (p.handle m).2⟩ :: (p.handle m).2.handleMoments rest

/-- The moments of a pump. -/
def pumpMoments (p : Panel) : List Moment :=
  ⟨p, .queueTaken, p.takeQueue⟩ :: p.takeQueue.handleMoments p.transport.inbound

/-- The moment of an operation that does one thing. -/
def moment (p : Panel) (op : Operation) : Moment :=
  ⟨p, .operated op (p.perform op).1, (p.perform op).2⟩

/-- The moments of an operation. -/
def moments (p : Panel) : Operation → List Moment
  | .pump => p.pumpMoments
  | .deliver m => p.moment (.receive m) :: (p.receive m).pumpMoments
  | op => [p.moment op]

/-- The moments of a session. -/
def history (p : Panel) : List Operation → List Moment
  | [] => []
  | op :: rest => p.moments op ++ (p.perform op).2.history rest

end Panel

/-- Whether an operation does one thing only. -/
def Operation.isSingle : Operation → Bool
  | .pump | .deliver _ => false
  | _ => true

/-- What comes after a moment, with its report or outcome, is what the panel before it does. -/
inductive Moment.Performed : Moment → Prop where
  | operated (p : Panel) {op : Operation} (single : op.isSingle = true) : Performed (p.moment op)
  | queueTaken (p : Panel) : Performed ⟨p, .queueTaken, p.takeQueue⟩
  | handled (p : Panel) (message : Message) :
      Performed ⟨p, .handled message (p.handle message).1, (p.handle message).2⟩

/-! ## What a moment can do -/

/-- The panel takes part in the exchange: it is mounted and not in error, and the message says the given thing. -/
structure Panel.Hears (p : Panel) (m : Message) (event : Event) : Prop where
  noError : ∀ fault, p.store.readiness ≠ .error fault
  mounted : p.store.readiness ≠ .uninitialized
  decodes : m.decode p.dispatcher.maxMessageBytes = .ok event

/-- When an action with a report may leave a panel as it is: what it names is not there, or it was refused. -/
def Action.MayIdle (p : Panel) (report : Report) : Action → Prop
  | .runTest .. => ∀ id, report ≠ .started (.ok id)
  | .cancelRun text => ∀ id, CorrelationId.ofText? text = some id → p.ledger.live.get? id = none
  | .selectFunction function => p.store.function? function = none
  | .selectTestCase testCase => ∀ function, p.store.selection.function = some function →
      p.store.hasTestCase function testCase = false
  | .setFilter _ => False
  | .requestSettings _ => True
  | .reload => ∀ fault, p.store.readiness ≠ .error fault

/-- When a cause may leave a panel as it is. Of the messages only those are that come in the error state. -/
def Cause.MayIdle (p : Panel) : Cause → Prop
  | .operated .mount _ => p.store.readiness ≠ .uninitialized
  | .operated (.act action) report => action.MayIdle p report
  | .operated .tick _ | .operated (.tickAt _) _ => False
  | .operated .. | .queueTaken => True
  | .handled _ .ignored => ∃ fault, p.store.readiness = .error fault
  | .handled .. => False

/-- What a moment does: the mutations it commits and the ledger it leaves. -/
inductive Effect (p : Panel) : Cause → List Mutation → Ledger → Prop where
  | idle {cause : Cause} (idles : cause.MayIdle p) : Effect p cause [] p.ledger
  | mounted {report : Report} (before : p.store.readiness = .uninitialized) :
      Effect p (.operated .mount report) [.setReadiness .loading] p.ledger
  | functionSelected {function : String} {f : FunctionDefinition} {report : Report}
      (known : p.store.function? function = some f) :
      Effect p (.operated (.act (.selectFunction function)) report)
        [.select ⟨some f.id, f.testCases.head?⟩] p.ledger
  | testCaseSelected {function testCase : String} {report : Report}
      (selected : p.store.selection.function = some function)
      (known : p.store.hasTestCase function testCase = true) :
      Effect p (.operated (.act (.selectTestCase testCase)) report)
        [.select ⟨some function, some testCase⟩] p.ledger
  | filtered {filter : String} {report : Report} :
      Effect p (.operated (.act (.setFilter filter)) report) [.setFilter filter] p.ledger
  | started {function testCase : String} (ready : p.store.readiness.isReady = true)
      (known : p.store.hasTestCase function testCase = true) :
      Effect p (.operated (.act (.runTest function testCase)) (.started (.ok ⟨p.ledger.nextNumber⟩)))
        ((p.ledger.issueRun ⟨function, testCase⟩ p.now).1.superseded.toList.map .runCleared
          ++ [.runPending ⟨⟨p.ledger.nextNumber⟩, ⟨function, testCase⟩, .pending, p.now⟩])
        (p.ledger.issueRun ⟨function, testCase⟩ p.now).2
  | calledOff {text : String} {id : CorrelationId} {run : Intent} {report : Report}
      (names : CorrelationId.ofText? text = some id) (live : p.ledger.live.get? id = some run) :
      Effect p (.operated (.act (.cancelRun text)) report)
        [.runCleared { run with state := .cancelled }] (p.ledger.retire id .cancelled).2
  | reloaded {fault : Fault} {report : Report} (error : p.store.readiness = .error fault) :
      Effect p (.operated (.act .reload) report)
        [.clearSnapshot, .clearPending, .setReadiness .loading] p.ledger.supersedeAll.2
  | ticked {report : Report} :
      Effect p (.operated .tick report)
        ((p.ledger.sweepStalled p.now).1.map .runStalled) (p.ledger.sweepStalled p.now).2
  | tickedAt {now : Instant} {report : Report} :
      Effect p (.operated (.tickAt now) report)
        ((p.ledger.sweepStalled now).1.map .runStalled) (p.ledger.sweepStalled now).2
  | projectChanged {m : Message} {event : Event} {sequence : Nat} {project : ProjectPayload}
      {mutations : List Mutation} (hears : p.Hears m event)
      (kind : event = .ready sequence project ∨ event = .projectUpdated sequence project)
      (plan : Dispatcher.planProject p.store sequence project = .commit mutations) :
      Effect p (.handled m (.applied event)) mutations p.ledger
  | diagnosed {m : Message} {sequence : Option Nat} {payload : DiagnosticsPayload}
      {snapshot : Snapshot} (hears : p.Hears m (.diagnostics sequence payload))
      (base : p.store.snapshot = some snapshot) :
      Effect p (.handled m (.applied (.diagnostics sequence payload)))
        [.mergeDiagnostics payload] p.ledger
  | answered {m : Message} {text : String} {result : TestResult} {id : CorrelationId} {run : Intent}
      (hears : p.Hears m (.testResult text result)) (names : CorrelationId.ofText? text = some id)
      (live : p.ledger.live.get? id = some run) :
      Effect p (.handled m (.applied (.testResult text result)))
        [.runCompleted { run with state := .completed } result] (p.ledger.remove run)
  | discarded {m : Message} {event : Event} {reason : DiscardReason} {record : DiscardRecord}
      (noError : ∀ fault, p.store.readiness ≠ .error fault)
      (decodes : m.decode p.dispatcher.maxMessageBytes = .ok event) :
      Effect p (.handled m (.discarded reason)) [.recordDiscard record] p.ledger
  | faulted {m : Message} {fault : Fault} (noError : ∀ fault, p.store.readiness ≠ .error fault) :
      Effect p (.handled m (.faulted fault)) [.setReadiness (.error fault)] p.ledger

/-- One panel comes after another by some effect of the cause. -/
def Turn (p : Panel) (cause : Cause) (q : Panel) : Prop :=
  ∃ mutations ledger, Effect p cause mutations ledger
    ∧ q.store.content = (p.store.batch mutations).1.content ∧ q.ledger = ledger

/-- What a commit about the project is: the snapshot is merged or replaced. -/
theorem Dispatcher.planProject_commit {s : Store} {sequence : Nat} {project : ProjectPayload}
    {mutations : List Mutation} (h : planProject s sequence project = .commit mutations) :
    (∀ snapshot, s.snapshot = some snapshot → snapshot.sequence ≤ sequence)
      ∧ ((∃ snapshot, s.snapshot = some snapshot ∧ mutations = [.mergeSnapshot sequence project])
        ∨ mutations = .replaceSnapshot (.ofPayload sequence project) :: becomeReady s) := by
  unfold planProject at h
  cases hs : s.snapshot with
  | none =>
    simp only [hs] at h
    split at h
    · cases h
    · exact ⟨nofun, .inr (Plan.commit.inj h).symm⟩
  | some snapshot =>
    simp only [hs] at h
    split at h
    · cases h
    · rename_i hle
      have hsequence : ∀ x, some snapshot = some x → x.sequence ≤ sequence := by
        rintro x ⟨⟩
        exact Nat.le_of_not_lt hle
      split at h
      · exact ⟨hsequence, .inl ⟨snapshot, rfl, (Plan.commit.inj h).symm⟩⟩
      · exact ⟨hsequence, .inr (Plan.commit.inj h).symm⟩

theorem Dispatcher.planProject_scope {s : Store} {sequence : Nat} {project : ProjectPayload}
    {mutations : List Mutation} (h : planProject s sequence project = .commit mutations) :
    ∀ m ∈ mutations, .runs ∉ m.scope := by
  rcases (planProject_commit h).2 with ⟨_, _, rfl⟩ | rfl
  · simp [Mutation.scope]
  · simp [Mutation.scope, becomeReady]

/-! ## How a message ends -/

/-- A fault puts a panel that is not in error there. -/
theorem Dispatcher.fail_eq (d : Dispatcher) (fault : Fault) (noError : ∀ fault, d.store.readiness ≠ .error fault) :
    d.fail fault = d.commit [.setReadiness (.error fault)] := by
  unfold fail transition
  cases hr : d.store.readiness with
  | error f => exact absurd hr (noError f)
  | _ => rfl

/-- Only a commit changes the ledger. -/
theorem Dispatcher.plan_ledger {s : Store} {l ledger : Ledger} {event : Event} {decided : Plan}
    (hplan : plan s l event = (decided, ledger)) (hcommit : ∀ mutations, decided ≠ .commit mutations) : ledger = l := by
  unfold plan at hplan
  split at hplan
  · exact (Prod.mk.inj hplan).2.symm
  · cases event with
    | ready | projectUpdated | hostError => exact (Prod.mk.inj hplan).2.symm
    | diagnostics sequence payload =>
      simp only at hplan
      split at hplan <;> exact (Prod.mk.inj hplan).2.symm
    | testResult text result =>
      cases hadmitted : l.admitResult text with
      | mk admission left =>
        simp only [hadmitted] at hplan
        cases admission with
        | live intent => exact absurd (Prod.mk.inj hplan).1.symm (hcommit _)
        | discard reason =>
          obtain ⟨-, rfl⟩ := Prod.mk.inj hplan
          exact Ledger.admitResult_discard hadmitted

/-- How a message ends: its outcome, the mutations that are committed for it, and the ledger that is left. -/
inductive Dispatcher.Ends (d : Dispatcher) (l : Ledger) (m : Message) : Outcome → List Mutation → Ledger → Prop where
  | ignored {fault : Fault} (error : d.store.readiness = .error fault) : Ends d l m .ignored [] l
  | faulted {fault : Fault} (noError : ∀ fault, d.store.readiness ≠ .error fault) :
      Ends d l m (.faulted fault) [.setReadiness (.error fault)] l
  | discarded {event : Event} {reason : DiscardReason} (noError : ∀ fault, d.store.readiness ≠ .error fault)
      (decodes : m.decode d.maxMessageBytes = .ok event) :
      Ends d l m (.discarded reason) [.recordDiscard ⟨d.received + 1, some event.kind, reason⟩] l
  | applied {event : Event} {mutations : List Mutation} {ledger : Ledger}
      (noError : ∀ fault, d.store.readiness ≠ .error fault) (decodes : m.decode d.maxMessageBytes = .ok event)
      (plan : plan d.store l event = (.commit mutations, ledger)) :
      Ends d l m (.applied event) mutations ledger

/-- **Every message ends in one of these ways**, with one commit and one more message counted. -/
theorem Dispatcher.dispatch_ends (d : Dispatcher) (l : Ledger) (m : Message) :
    ∃ mutations, Ends d l m (d.dispatch l m).1 mutations (d.dispatch l m).2.2
      ∧ (d.dispatch l m).2.1 = { d with store := (d.store.commit mutations).2, received := d.received + 1 } := by
  unfold dispatch
  simp only
  split
  · rename_i herror
    exact ⟨[], .ignored herror, rfl⟩
  · rename_i noError
    cases hdecode : m.decode d.maxMessageBytes with
    | error fault => exact ⟨_, .faulted noError, fail_eq _ fault noError⟩
    | ok event =>
      cases hplan : plan d.store l event with
      | mk decided ledger =>
        simp only [hplan]
        cases decided with
        | commit mutations => exact ⟨mutations, .applied noError hdecode hplan, rfl⟩
        | discard reason =>
          obtain rfl : ledger = l := plan_ledger hplan nofun
          exact ⟨_, .discarded noError hdecode, rfl⟩
        | fault fault =>
          obtain rfl : ledger = l := plan_ledger hplan nofun
          exact ⟨_, .faulted noError, fail_eq _ fault noError⟩

/-! ## Every operation and every message is a turn -/

theorem Store.batch_nil (s : Store) : s.batch [] = (s, .empty) := by
  rw [batch_eq]
  exact settle_of_untouched s (by simp [applyAll])

theorem Dispatcher.commit_content (d : Dispatcher) (mutations : List Mutation) :
    (d.commit mutations).store.content = (d.store.batch mutations).1.content :=
  Store.commit_content d.store mutations

namespace Panel

variable (p : Panel)

theorem update_content (d : Dispatcher) : (p.update d).store.content = d.store.content := rfl

/-- A moment that keeps the content and the ledger is idle. -/
theorem turn_of_idle {cause : Cause} {q : Panel} (hidle : cause.MayIdle p)
    (hcontent : q.store.content = p.store.content) (hledger : q.ledger = p.ledger) :
    Turn p cause q := by
  refine ⟨[], p.ledger, .idle hidle, ?_, hledger⟩
  rw [Store.batch_nil]
  exact hcontent

/-- A moment that commits mutations to the store is a turn if they are its effect. -/
theorem turn_of_commit {cause : Cause} {mutations : List Mutation} {ledger : Ledger} {q : Panel}
    (heffect : Effect p cause mutations ledger)
    (hstore : q.store.content = (p.dispatcher.commit mutations).store.content)
    (hledger : q.ledger = ledger) : Turn p cause q :=
  ⟨mutations, ledger, heffect, hstore.trans (Dispatcher.commit_content p.dispatcher mutations), hledger⟩

theorem mount_turn (report : Report) : Turn p (.operated .mount report) p.mount.2 := by
  show Turn p _ (p.update p.dispatcher.mount.2)
  unfold Dispatcher.mount Dispatcher.transition
  cases hr : p.dispatcher.store.readiness with
  | uninitialized => exact turn_of_commit p (.mounted hr) (update_content ..) rfl
  | _ => exact turn_of_idle p (fun h => by cases hr.symm.trans h) (update_content ..) rfl

theorem send_content (c : Command) : (p.send c).2.store.content = p.store.content := rfl

theorem selectFunction_turn (function : String) (report : Report) :
    Turn p (.operated (.act (.selectFunction function)) report) (p.selectFunction function).2 := by
  unfold selectFunction Dispatcher.selectFunction
  cases hf : p.dispatcher.store.function? function with
  | none => exact turn_of_idle p hf rfl rfl
  | some f => exact turn_of_commit p (.functionSelected hf) (send_content ..) rfl

theorem selectTestCase_turn (testCase : String) (report : Report) :
    Turn p (.operated (.act (.selectTestCase testCase)) report) (p.selectTestCase testCase).2 := by
  show Turn p _ (p.update (p.dispatcher.selectTestCase testCase).2)
  unfold Dispatcher.selectTestCase
  cases hf : p.dispatcher.store.selection.function with
  | none => exact turn_of_idle p (fun _ h => by cases hf.symm.trans h) (update_content ..) rfl
  | some function =>
    simp only
    split
    · rename_i hcase
      exact turn_of_commit p (.testCaseSelected hf hcase) (update_content ..) rfl
    · rename_i hcase
      refine turn_of_idle p (fun _ h => ?_) (update_content ..) rfl
      cases hf.symm.trans h
      exact Bool.eq_false_iff.2 hcase

theorem runTest_turn (function testCase : String) :
    Turn p (.operated (.act (.runTest function testCase)) (.started (p.runTest function testCase).1))
      (p.runTest function testCase).2 := by
  unfold runTest
  split
  · exact turn_of_idle p nofun rfl rfl
  · rename_i hready
    split
    · exact turn_of_idle p nofun rfl rfl
    · rename_i hcase
      have heffect := @Effect.started p function testCase (by simpa using hready) (by simpa using hcase)
      cases hsend : p.send (p.ledger.prepareRun ⟨function, testCase⟩) with
      | mk result q =>
        have hq : q = (p.send (p.ledger.prepareRun ⟨function, testCase⟩)).2 := by rw [hsend]
        simp only [hsend]
        subst hq
        -- Sending changes the transport only, so the run is issued from the ledger as it was.
        cases result with
        | error e => exact turn_of_idle p nofun (send_content ..) rfl
        | ok => exact turn_of_commit p heffect (update_content ..) rfl

theorem cancelRun_turn (text : String) (report : Report) :
    Turn p (.operated (.act (.cancelRun text)) report) (p.cancelRun text).2 := by
  unfold cancelRun
  cases hid : CorrelationId.ofText? text with
  | none => exact turn_of_idle p (fun _ h => by cases hid.symm.trans h) rfl rfl
  | some id =>
    unfold Ledger.cancelRun
    cases hlive : p.ledger.live.get? id with
    | none =>
      simp only [Ledger.retire_of_not_live hlive]
      refine turn_of_idle p (fun _ h => ?_) rfl rfl
      cases hid.symm.trans h
      exact hlive
    | some run =>
      have hledger := congrArg Prod.snd (Ledger.retire_of_live hlive .cancelled)
      simp only [Ledger.retire_of_live hlive]
      exact turn_of_commit p (.calledOff hid hlive) (send_content ..) hledger.symm

theorem reload_turn (report : Report) : Turn p (.operated (.act .reload) report) p.reload.2 := by
  unfold reload Dispatcher.reload
  cases hr : p.dispatcher.store.readiness with
  | error fault => exact turn_of_commit p (.reloaded hr) (send_content ..) rfl
  | _ =>
    exact turn_of_idle p (fun _ h => by cases hr.symm.trans h) rfl rfl

theorem tickAt_turn {cause : Cause} (now : Instant)
    (heffect : Effect p cause ((p.ledger.sweepStalled now).1.map .runStalled) (p.ledger.sweepStalled now).2) :
    Turn p cause (p.tickAt now).2 := by
  refine ⟨_, _, heffect, ?_, rfl⟩
  show (p.dispatcher.recordRunsStalled (p.ledger.sweepStalled now).1).store.content = _
  unfold Dispatcher.recordRunsStalled
  split
  · -- no run is overdue: nothing is committed, which is what an empty batch comes to
    rename_i hempty
    rw [List.isEmpty_iff.1 hempty, List.map_nil, Store.batch_nil]
    rfl
  · exact Dispatcher.commit_content ..

/-- Every operation that does one thing is a turn. -/
theorem perform_turn {op : Operation} (h : op.isSingle = true) :
    Turn p (.operated op (p.perform op).1) (p.perform op).2 := by
  cases op with
  | mount => exact mount_turn p _
  | pump | deliver => cases h
  | act action =>
    cases action with
    | runTest function testCase => exact runTest_turn p function testCase
    | cancelRun text => exact cancelRun_turn p text _
    | selectFunction function => exact selectFunction_turn p function _
    | selectTestCase testCase => exact selectTestCase_turn p testCase _
    | setFilter filter => exact turn_of_commit p .filtered (update_content ..) rfl
    | requestSettings changes => exact turn_of_idle p trivial (send_content ..) rfl
    | reload => exact reload_turn p _
  | tick => exact tickAt_turn p p.now .ticked
  | tickAt now => exact tickAt_turn p now .tickedAt
  | read => exact turn_of_idle p trivial (Store.look_content p.store .overview) rfl
  | receive | setClock | subscribe | unsubscribe | on | off => exact turn_of_idle p trivial rfl rfl

/-! ### Messages -/

theorem handle_fst (m : Message) : (p.handle m).1 = (p.dispatcher.dispatch p.ledger m).1 := by
  unfold handle
  cases hd : p.dispatcher.dispatch p.ledger m with
  | mk outcome rest => cases outcome <;> rfl

/-- Listeners see an applied event; neither content nor ledger depend on them. -/
theorem handle_content (m : Message) :
    (p.handle m).2.store.content = (p.dispatcher.dispatch p.ledger m).2.1.store.content := by
  unfold handle
  cases hd : p.dispatcher.dispatch p.ledger m with
  | mk outcome rest => cases outcome <;> rfl

theorem handle_ledger (m : Message) : (p.handle m).2.ledger = (p.dispatcher.dispatch p.ledger m).2.2 := by
  unfold handle
  cases hd : p.dispatcher.dispatch p.ledger m with
  | mk outcome rest => cases outcome <;> rfl

/-- A commit that the plan for an event asks for is an effect of the event. -/
theorem effect_of_plan {m : Message} {event : Event} {mutations : List Mutation} {ledger : Ledger}
    (noError : ∀ fault, p.store.readiness ≠ .error fault)
    (hdecode : m.decode p.dispatcher.maxMessageBytes = .ok event)
    (hplan : Dispatcher.plan p.store p.ledger event = (.commit mutations, ledger)) :
    Effect p (.handled m (.applied event)) mutations ledger := by
  unfold Dispatcher.plan at hplan
  split at hplan
  · cases hplan
  · rename_i hmounted
    have hears : p.Hears m event := ⟨noError, hmounted, hdecode⟩
    cases event with
    | ready sequence project =>
      obtain ⟨hproject, rfl⟩ := Prod.mk.inj hplan
      exact .projectChanged hears (.inl rfl) hproject
    | projectUpdated sequence project =>
      obtain ⟨hproject, rfl⟩ := Prod.mk.inj hplan
      exact .projectChanged hears (.inr rfl) hproject
    | diagnostics sequence payload =>
      cases hbase : p.store.snapshot with
      | none => simp [hbase] at hplan
      | some snapshot =>
        simp only [hbase, Option.isNone_some, Bool.false_eq_true, if_false] at hplan
        cases hplan
        exact .diagnosed hears hbase
    | testResult text result =>
      -- the one plan that goes through the ledger
      cases hadmitted : p.ledger.admitResult text with
      | mk admission left =>
        simp only [hadmitted] at hplan
        cases admission with
        | discard reason => cases hplan
        | live intent =>
          obtain ⟨id, run, hid, hlive, rfl, rfl⟩ := Ledger.admitResult_live hadmitted
          cases hplan
          exact .answered hears hid hlive
    | hostError message => cases hplan

/-- **Every message is a turn.** -/
theorem handle_turn (m : Message) : Turn p (.handled m (p.handle m).1) (p.handle m).2 := by
  obtain ⟨mutations, hends, hdispatcher⟩ := p.dispatcher.dispatch_ends p.ledger m
  have hcontent : (p.handle m).2.store.content = (p.dispatcher.commit mutations).store.content := by
    rw [handle_content, hdispatcher]
    rfl
  have hledger := handle_ledger p m
  rw [handle_fst]
  -- from here on only content and ledger matter; the count of messages is in neither
  generalize (p.handle m).2 = q, (p.dispatcher.dispatch p.ledger m).1 = outcome,
    (p.dispatcher.dispatch p.ledger m).2.2 = ledger at hends hcontent hledger ⊢
  refine turn_of_commit p ?_ hcontent hledger
  cases hends with
  | ignored error => exact .idle ⟨_, error⟩
  | faulted noError => exact .faulted noError
  | discarded noError hdecode => exact .discarded noError hdecode
  | applied noError hdecode hplan => exact effect_of_plan p noError hdecode hplan

end Panel

/-! ## Paths -/

/-- Moments that follow one another by turns, from one panel to another. -/
inductive Path : Panel → List Moment → Panel → Prop where
  | nil (p : Panel) : Path p [] p
  | cons {p q r : Panel} {cause : Cause} {rest : List Moment} (turn : Turn p cause q)
      (path : Path q rest r) : Path p (⟨p, cause, q⟩ :: rest) r

namespace Path

theorem single {p q : Panel} {cause : Cause} (turn : Turn p cause q) : Path p [⟨p, cause, q⟩] q :=
  .cons turn (.nil q)

theorem append {p q r : Panel} {first second : List Moment} (hfirst : Path p first q)
    (hsecond : Path q second r) : Path p (first ++ second) r := by
  induction hfirst with
  | nil => exact hsecond
  | cons turn _ ih => exact .cons turn (ih hsecond)

/-- A path can be cut before each of its moments. -/
theorem split {p q : Panel} {earlier later : List Moment} {m : Moment}
    (path : Path p (earlier ++ m :: later) q) :
    Path p earlier m.before ∧ Turn m.before m.cause m.after ∧ Path m.after later q := by
  induction earlier generalizing p with
  | nil =>
    cases path with
    | cons turn path => exact ⟨.nil _, turn, path⟩
  | cons _ earlier ih =>
    cases path with
    | cons turn path =>
      obtain ⟨before, here, after⟩ := ih path
      exact ⟨.cons turn before, here, after⟩

theorem turn_of_mem {p q : Panel} {moments : List Moment} (path : Path p moments q) {m : Moment}
    (hm : m ∈ moments) : Turn m.before m.cause m.after := by
  obtain ⟨earlier, later, rfl⟩ := List.append_of_mem hm
  exact path.split.2.1

/-- A path along one list of moments and then another is two paths. -/
theorem divide {p q : Panel} {first second : List Moment} (path : Path p (first ++ second) q) :
    ∃ r, Path p first r ∧ Path r second q := by
  induction first generalizing p with
  | nil => exact ⟨p, .nil p, path⟩
  | cons _ first ih =>
    cases path with
    | cons turn path =>
      obtain ⟨r, hfirst, hsecond⟩ := ih path
      exact ⟨r, .cons turn hfirst, hsecond⟩

/-- **What every turn preserves holds at the end of a path.** The invariant may speak of the moments so far. -/
theorem invariant {I : List Moment → Panel → Prop}
    (step : ∀ past p cause q, I past p → Turn p cause q → I (past ++ [⟨p, cause, q⟩]) q)
    {p q : Panel} {moments : List Moment} (path : Path p moments q) (past : List Moment)
    (start : I past p) : I (past ++ moments) q := by
  induction path generalizing past with
  | nil => simpa using start
  | cons turn _ ih =>
    -- the first moment goes over to the past
    rw [List.append_cons]
    exact ih _ (step _ _ _ _ start turn)

/-- The same for an invariant that rests on what is known of each moment. -/
theorem invariant_of {I : List Moment → Panel → Prop} {P : Moment → Prop}
    (step : ∀ past p cause q, I past p → Turn p cause q → P ⟨p, cause, q⟩ → I (past ++ [⟨p, cause, q⟩]) q)
    {p q : Panel} {moments : List Moment} (path : Path p moments q) (hP : ∀ m ∈ moments, P m)
    (start : I [] p) : I moments q := by
  refine path.invariant (I := fun past p => (∀ m ∈ past, P m) → I past p) ?_ [] (fun _ => start) (by simpa using hP)
  intro past p cause q h turn hpast
  have hearlier := h fun m hm => hpast m (List.mem_append_left _ hm)
  exact step past p cause q hearlier turn (hpast _ (by simp))

end Path

namespace Panel

theorem handleMoments_path (p : Panel) (messages : List Message) :
    Path p (p.handleMoments messages) (p.handleAll messages).2 := by
  induction messages generalizing p with
  | nil => exact .nil p
  | cons m rest ih => exact .cons (handle_turn p m) (ih (p.handle m).2)

theorem pumpMoments_path (p : Panel) : Path p p.pumpMoments p.pump.2 :=
  .cons (turn_of_idle p trivial rfl rfl) (handleMoments_path p.takeQueue p.transport.inbound)

theorem moments_path (p : Panel) (op : Operation) : Path p (p.moments op) (p.perform op).2 := by
  cases op with
  | pump => exact pumpMoments_path p
  | deliver m =>
    exact .cons (perform_turn p rfl) (pumpMoments_path (p.receive m))
  | _ => exact .single (perform_turn p rfl)

/-- **The history of a session is a path to its last panel.** -/
theorem history_path (p : Panel) (ops : List Operation) :
    Path p (p.history ops) (p.performAll ops).2 := by
  induction ops generalizing p with
  | nil => exact .nil p
  | cons op rest ih => exact (moments_path p op).append (ih (p.perform op).2)

/-! ## Messages of a history -/

/-- The moments of handling messages are what becomes of them. -/
theorem handleMoments_handled (p : Panel) (messages : List Message) :
    ∀ m ∈ p.handleMoments messages, ∃ message, m.cause = .handled message (m.before.handle message).1 := by
  induction messages generalizing p with
  | nil => exact fun m hm => by cases hm
  | cons message rest ih =>
    intro m hm
    cases hm with
    | head => exact ⟨message, rfl⟩
    | tail _ hm => exact ih _ m hm

theorem pumpMoments_handled (p : Panel) :
    ∀ m ∈ p.pumpMoments, m.cause = .queueTaken ∨ ∃ message, m.cause = .handled message (m.before.handle message).1 := by
  intro m hm
  cases hm with
  | head => exact .inl rfl
  | tail _ hm => exact .inr (handleMoments_handled _ _ m hm)

/-! ## The moments of a history are performed

A path only says that each moment is some turn. The moments of a history are more: the panel after each of them, with the
report or the outcome, is what the panel before it makes of the operation or the message. -/

theorem handleMoments_performed (p : Panel) (messages : List Message) : ∀ m ∈ p.handleMoments messages, m.Performed := by
  induction messages generalizing p with
  | nil => exact fun m hm => by cases hm
  | cons message rest ih =>
    intro m hm
    cases hm with
    | head => exact .handled p message
    | tail _ hm => exact ih _ m hm

theorem pumpMoments_performed (p : Panel) : ∀ m ∈ p.pumpMoments, m.Performed := by
  intro m hm
  cases hm with
  | head => exact .queueTaken p
  | tail _ hm => exact handleMoments_performed _ _ m hm

theorem moments_performed (p : Panel) (op : Operation) : ∀ m ∈ p.moments op, m.Performed := by
  intro m hm
  cases op with
  | pump => exact pumpMoments_performed p m hm
  | deliver =>
    cases hm with
    | head => exact .operated p rfl
    | tail _ hm => exact pumpMoments_performed _ m hm
  | _ =>
    cases List.mem_singleton.1 hm
    exact .operated p rfl

theorem history_performed (p : Panel) (ops : List Operation) : ∀ m ∈ p.history ops, m.Performed := by
  induction ops generalizing p with
  | nil => exact fun m hm => by cases hm
  | cons op rest ih =>
    intro m hm
    rcases List.mem_append.1 hm with hm | hm
    · exact moments_performed p op m hm
    · exact ih _ m hm

/-- **What every performed turn preserves holds at the end of a session.** -/
theorem history_invariant {I : List Moment → Panel → Prop}
    (step : ∀ past p cause q, I past p → Turn p cause q → (⟨p, cause, q⟩ : Moment).Performed →
      I (past ++ [⟨p, cause, q⟩]) q)
    (p : Panel) (ops : List Operation) (start : I [] p) : I (p.history ops) (p.performAll ops).2 :=
  (history_path p ops).invariant_of step (history_performed p ops) start

/-- The outcome of a message in a history is the one that handling it gives. -/
theorem history_handled (p : Panel) (ops : List Operation) {m : Moment} (hm : m ∈ p.history ops)
    {message : Message} {outcome : Outcome} (hcause : m.cause = .handled message outcome) :
    outcome = (m.before.handle message).1 := by
  cases history_performed p ops m hm with
  | operated | queueTaken => cases hcause
  | handled =>
    cases hcause
    rfl

end Panel

end PanelBridge
