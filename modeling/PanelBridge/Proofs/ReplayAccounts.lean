import Mathlib.Data.List.Perm.Subperm
import PanelBridge.Proofs.Queue
import PanelBridge.Proofs.Readiness
import PanelBridge.Proofs.StallSweeps
import PanelBridge.Replay.Run

/-!
# The accounts of a replay

A replay counts what becomes of its steps, and the panel keeps counts of its own. The two never look at each other. Here both are
counts of the same moments:

* **`Stats.Counts`**: what each counter counts in a history. It holds from moment to moment (`Counts.tally`).
* **`runFrom_eq`**: a replay tallies the history of its operations. This rests on the queue: a message that is delivered is the
  only one that waits, so the outcome that is counted is that of the one message that is handled.
* **`Panel.StalledOnce`**: along a session a run is reported as stalled once at most, and only if it was started.
* **`replay_accounts`**: how the counters go together, and with the counts of the panel.
-/

namespace PanelBridge

/-! ## What is counted -/

/-- The action and its report, if the cause is an action of the user. -/
def Cause.answer? : Cause → Option (Action × Report)
  | .operated (.act action) report => some (action, report)
  | _ => none

namespace Moment

/-- A message is applied. -/
def isApplied (m : Moment) : Bool :=
  match m.cause with
  | .handled _ (.applied _) => true
  | _ => false

/-- A message is ignored. -/
def isIgnored (m : Moment) : Bool :=
  match m.cause with
  | .handled _ .ignored => true
  | _ => false

/-- The ids of the runs that are reported as stalled. -/
def stalledIds (m : Moment) : List CorrelationId :=
  match m.cause with
  | .operated (.act _) _ => []
  | .operated _ (.stalled intents) => intents.map (·.id)
  | _ => []

/-- A message has one of four outcomes. -/
theorem countP_handles (moments : List Moment) :
    moments.countP isApplied + moments.countP discards + moments.countP isFault + moments.countP isIgnored =
      moments.countP handles := by
  induction moments with
  | nil => rfl
  | cons m rest ih =>
    have hone : (if m.isApplied then 1 else 0) + (if m.discards then 1 else 0) + (if m.isFault then 1 else 0)
        + (if m.isIgnored then 1 else 0) = if m.handles then 1 else 0 := by
      obtain ⟨_, cause, _⟩ := m
      cases cause with
      | handled _ outcome => cases outcome <;> rfl
      | operated | queueTaken => rfl
    simp only [List.countP_cons]
    omega

end Moment

namespace Replay.Stats

/-- The counters after a moment. -/
def tally (s : Stats) (m : Moment) : Stats :=
  match m.cause with
  | .operated (.act _) report => s.countAction report.isRefusal
  | .operated _ (.stalled intents) => { s with stalled := s.stalled + intents.length }
  | .handled _ outcome => s.countOutcome outcome
  | _ => s

/-- The counters are counts of moments. -/
structure Counts (s : Stats) (past : List Moment) : Prop where
  applied : s.applied = past.countP Moment.isApplied
  discarded : s.discarded = past.countP Moment.discards
  faulted : s.faulted = past.countP Moment.isFault
  ignored : s.ignored = past.countP Moment.isIgnored
  actions : s.actions = (past.filterMap (·.cause.answer?)).length
  rejected : s.rejectedActions = (past.filterMap (·.cause.answer?)).countP (·.2.isRefusal)
  stalled : s.stalled = (past.flatMap Moment.stalledIds).length

theorem tally_eq (s : Stats) (m : Moment) :
    s.tally m =
      { applied := s.applied + if m.isApplied then 1 else 0
        discarded := s.discarded + if m.discards then 1 else 0
        faulted := s.faulted + if m.isFault then 1 else 0
        ignored := s.ignored + if m.isIgnored then 1 else 0
        actions := s.actions + m.cause.answer?.toList.length
        rejectedActions := s.rejectedActions + m.cause.answer?.toList.countP (·.2.isRefusal)
        stalled := s.stalled + m.stalledIds.length } := by
  obtain ⟨_, cause, _⟩ := m
  cases cause with
  | queueTaken => rfl
  | handled _ outcome => cases outcome <;> rfl
  | operated op report =>
    cases op with
    | act action =>
      show s.countAction report.isRefusal = _
      unfold countAction
      cases hrefusal : report.isRefusal <;> simp [Moment.isApplied, Moment.discards, Moment.isFault, Moment.isIgnored,
        Cause.answer?, Moment.stalledIds, hrefusal]
    | _ =>
      cases report with
      | stalled intents =>
        simp [tally, Moment.isApplied, Moment.discards, Moment.isFault, Moment.isIgnored, Cause.answer?, Moment.stalledIds]
      | _ => rfl

theorem Counts.tally {s : Stats} {past : List Moment} (h : s.Counts past) (m : Moment) : (s.tally m).Counts (past ++ [m]) := by
  have hanswers : (past ++ [m]).filterMap (·.cause.answer?) = past.filterMap (·.cause.answer?) ++ m.cause.answer?.toList :=
    filterMap_snoc ..
  rw [tally_eq]
  refine ⟨?_, ?_, ?_, ?_, ?_, ?_, ?_⟩
  · rw [List.countP_append, List.countP_singleton, h.applied]
  · rw [List.countP_append, List.countP_singleton, h.discarded]
  · rw [List.countP_append, List.countP_singleton, h.faulted]
  · rw [List.countP_append, List.countP_singleton, h.ignored]
  · rw [hanswers, List.length_append, h.actions]
  · rw [hanswers, List.countP_append, h.rejected]
  · rw [List.flatMap_append, List.length_append, h.stalled, List.flatMap_singleton]

/-- **Counters that are tallied count the moments.** -/
theorem Counts.foldl_tally {s : Stats} {past : List Moment} (h : s.Counts past) (moments : List Moment) :
    (moments.foldl Stats.tally s).Counts (past ++ moments) := by
  induction moments generalizing s past with
  | nil => simpa using h
  | cons m rest ih =>
    rw [List.append_cons]
    exact ih (h.tally m)

end Replay.Stats

/-! ## A replay and its history -/

/-- The operations of a replay. None of them leaves a message in the queue. -/
def Operation.isReplayed : Operation → Bool
  | .mount | .deliver _ | .act _ | .setClock _ | .tick => true
  | _ => false

theorem Step.operations_replayed (steps : List Step) : ∀ op ∈ steps.flatMap operations, op.isReplayed = true := by
  intro op hop
  obtain ⟨step, -, hop⟩ := List.mem_flatMap.1 hop
  cases step with
  | host | user =>
    cases List.mem_singleton.1 hop
    rfl
  | tick now =>
    cases hop with
    | head => rfl
    | tail _ hop =>
      cases List.mem_singleton.1 hop
      rfl

namespace Panel

variable {p : Panel}

theorem perform_unqueued (h : p.transport.inbound = []) {op : Operation} (hop : op.isReplayed = true) :
    (p.perform op).2.transport.inbound = [] := by
  cases op with
  | deliver m => exact (p.receive m).pump_inbound
  | mount | act | setClock | tick =>
    rw [perform_inbound p rfl, h]
    rfl
  | _ => cases hop

/-- Where no message waits, a pump handles the one that is delivered. -/
theorem pumpMoments_receive_of_unqueued (h : p.transport.inbound = []) (m : Message) :
    (p.receive m).pumpMoments =
      [⟨p.receive m, .queueTaken, p⟩, ⟨p, .handled m (p.handle m).1, (p.handle m).2⟩] := by
  have htaken : (p.receive m).takeQueue = p := takeQueue_of_unqueued h
  have hinbound : (p.receive m).transport.inbound = [m] := congrArg (· ++ [m]) h
  unfold pumpMoments
  rw [htaken, hinbound]
  rfl

end Panel

namespace Replay

open Panel

theorem count_perform {p : Panel} (h : p.transport.inbound = []) {op : Operation} (hop : op.isReplayed = true) (s : Stats) :
    s.count op (p.perform op).1 = (p.moments op).foldl Stats.tally s := by
  cases op with
  | deliver m =>
    show s.countOutcome (p.deliver m).1 = (p.receive m).pumpMoments.foldl Stats.tally s
    rw [deliver_of_unqueued h, pumpMoments_receive_of_unqueued h]
    rfl
  | mount | act | setClock | tick => rfl
  | _ => cases hop

/-- **A replay tallies the history of its operations.** -/
theorem runFrom_eq {p : Panel} (h : p.transport.inbound = []) {ops : List Operation}
    (hops : ∀ op ∈ ops, op.isReplayed = true) (s : Stats) :
    runFrom s p ops = ((p.history ops).foldl Stats.tally s, (p.performAll ops).2) := by
  induction ops generalizing p s with
  | nil => rfl
  | cons op rest ih =>
    have hop := hops op (.head _)
    show runFrom (s.count op (p.perform op).1) (p.perform op).2 rest = _
    rw [ih (perform_unqueued h hop) (fun op hop => hops op (.tail _ hop)), count_perform h hop, ← List.foldl_append]
    rfl

theorem performAll_unqueued {p : Panel} (h : p.transport.inbound = []) {ops : List Operation}
    (hops : ∀ op ∈ ops, op.isReplayed = true) : (p.performAll ops).2.transport.inbound = [] := by
  induction ops generalizing p with
  | nil => exact h
  | cons op rest ih => exact ih (perform_unqueued h (hops op (.head _))) fun op hop => hops op (.tail _ hop)

end Replay

/-! ## Messages and actions of the steps -/

/-- The action of an operation. -/
def Operation.action? : Operation → Option Action
  | .act action => some action
  | _ => none

namespace Step

/-- The message of a host step. -/
def message? : Step → Option Message
  | .host value => some (.ofValue value)
  | _ => none

/-- The action of a user step. -/
def action? : Step → Option Action
  | .user action => some action
  | _ => none

/-- What is read off the operations of the steps can be read off the steps. -/
theorem filterMap_operations {β : Type} {f : Operation → Option β} {g : Step → Option β}
    (h : ∀ step : Step, step.operations.filterMap f = (g step).toList) (steps : List Step) :
    (steps.flatMap operations).filterMap f = steps.filterMap g := by
  induction steps with
  | nil => rfl
  | cons step rest ih => rw [List.flatMap_cons, List.filterMap_append, h, ih, filterMap_head]

end Step

namespace Panel

/-- The actions among some operations, each with its report. -/
def answers (p : Panel) (ops : List Operation) : List (Action × Report) :=
  (ops.zip (p.performAll ops).1).filterMap fun call => call.1.action?.map (·, call.2)

variable (p : Panel)

theorem history_answers (ops : List Operation) : (p.history ops).filterMap (·.cause.answer?) = p.answers ops := by
  rw [history_calls ?_ p ops]
  · refine List.filterMap_congr fun call _ => ?_
    obtain ⟨op, report⟩ := call
    cases op <;> rfl
  · intro cause hcause
    cases cause with
    | operated op report =>
      cases op with
      | act action => exact absurd rfl (hcause action report)
      | _ => rfl
    | queueTaken | handled => rfl

theorem answers_fst (ops : List Operation) : (p.answers ops).map Prod.fst = ops.filterMap Operation.action? := by
  induction ops generalizing p with
  | nil => rfl
  | cons op rest ih =>
    have hanswers : p.answers (op :: rest) =
        (op.action?.map (·, (p.perform op).1)).toList ++ (p.perform op).2.answers rest := filterMap_head ..
    rw [hanswers, List.map_append, ih, filterMap_head]
    cases op.action? <;> rfl

theorem length_handledMessages (moments : List Moment) : (handledMessages moments).length = moments.countP Moment.handles := by
  unfold handledMessages
  rw [List.length_map, List.length_filterMap_eq_countP]
  refine List.countP_congr fun m _ => ?_
  unfold Cause.handled? Moment.handles
  cases m.cause <;> rfl

end Panel

/-! ## Faults -/

/-- A message is ignored in the error state only. -/
theorem Turn.error_of_ignored {p q : Panel} {message : Message} (turn : Turn p (.handled message .ignored) q) :
    ∃ fault, p.store.readiness = .error fault := by
  obtain ⟨mutations, ledger, heffect, -, -⟩ := turn
  cases heffect with
  | idle hidle => exact hidle

/-- **No message is ignored unless one before it was a fault.** -/
theorem Path.fault_of_ignored {p q : Panel} {moments : List Moment} (path : Path p moments q)
    (hp : p.store.readiness.fault? = none) (h : 0 < moments.countP Moment.isIgnored) : 0 < moments.countP Moment.isFault := by
  obtain ⟨m, hm, hignored⟩ := List.countP_pos_iff.1 h
  obtain ⟨earlier, later, rfl⟩ := List.append_of_mem hm
  obtain ⟨before, turn, -⟩ := path.split
  have herror : m.before.store.readiness.fault?.isSome = true := by
    obtain ⟨_, cause, _⟩ := m
    unfold Moment.isIgnored at hignored
    split at hignored
    · rename_i message hcause
      obtain rfl : cause = _ := hcause
      obtain ⟨fault, hfault⟩ := turn.error_of_ignored
      rw [hfault]
      rfl
    · cases hignored
  -- the panel came into the error state by a fault
  have hfaults := before.faults_eq hp
  rw [if_pos herror] at hfaults
  rw [List.countP_append]
  omega

/-- A panel recovers by reloads only. -/
theorem Moment.countP_isRecovery_le (moments : List Moment) :
    moments.countP isRecovery ≤ (moments.filterMap (·.cause.answer?)).countP fun answer => answer.1.kind = .reload := by
  rw [List.countP_filterMap]
  refine List.countP_mono_left fun m _ hrecovery => ?_
  unfold isRecovery at hrecovery
  split at hrecovery
  · rename_i hcause
    rw [hcause]
    rfl
  · cases hrecovery

/-! ## Stalled runs -/

/-- What reports runs as stalled is a sweep of the ledger. -/
theorem Moment.Performed.stalledIds {m : Moment} (h : m.Performed) :
    m.stalledIds = [] ∨ ∃ now, m.stalledIds = m.before.ledger.marks (.sweepStalled now)
      ∧ m.after.ledger = m.before.ledger.move (.sweepStalled now) := by
  cases h with
  | queueTaken | handled => exact .inl rfl
  | @operated p op hsingle =>
    cases op with
    | pump | deliver => cases hsingle
    | tick => exact .inr ⟨p.now, rfl, rfl⟩
    | tickAt now => exact .inr ⟨now, rfl, rfl⟩
    | _ => exact .inl rfl

/-- The runs that were reported as stalled so far: each was started, is not pending any more, and was reported once. -/
structure Panel.StalledOnce (past : List Moment) (p : Panel) : Prop where
  consistent : p.ledger.Consistent
  recorded : p.Recorded past
  spent : ∀ n ∈ past.flatMap Moment.stalledIds, p.ledger.Spent n
  started : ∀ n ∈ past.flatMap Moment.stalledIds, ∃ m ∈ past, ∃ target, m.Starts n target
  once : (past.flatMap Moment.stalledIds).Nodup

namespace Panel

theorem StalledOnce.turn {past : List Moment} {p q : Panel} {cause : Cause} (h : p.StalledOnce past) (turn : Turn p cause q)
    (hperformed : (⟨p, cause, q⟩ : Moment).Performed) : q.StalledOnce (past ++ [⟨p, cause, q⟩]) := by
  have hl := h.recorded.agrees.wellFormed
  have hsnoc : (past ++ [(⟨p, cause, q⟩ : Moment)]).flatMap Moment.stalledIds =
      past.flatMap Moment.stalledIds ++ (⟨p, cause, q⟩ : Moment).stalledIds := by
    rw [List.flatMap_append, List.flatMap_singleton]
  obtain ⟨moves, hmoves⟩ := (Path.single turn).ledger_moves
  -- what was true of the runs reported before stays so, whatever this moment does
  have hspent : ∀ n ∈ past.flatMap Moment.stalledIds, q.ledger.Spent n := by
    intro n hn
    rw [hmoves]
    exact (h.spent n hn).moveAll h.consistent moves
  have hstarted : ∀ n ∈ past.flatMap Moment.stalledIds, ∃ m ∈ past ++ [⟨p, cause, q⟩], ∃ target, m.Starts n target :=
    fun n hn => exists_mem_append _ (h.started n hn)
  have hconsistent : q.ledger.Consistent := hmoves ▸ Ledger.moveAll_consistent h.consistent moves
  have hrecorded := h.recorded.turn turn
  rcases hperformed.stalledIds with hnone | ⟨now, hids, hafter⟩
  · rw [hnone, List.append_nil] at hsnoc
    exact ⟨hconsistent, hrecorded, hsnoc ▸ hspent, hsnoc ▸ hstarted, hsnoc ▸ h.once⟩
  · rw [hids] at hsnoc
    refine ⟨hconsistent, hrecorded, ?_, ?_, ?_⟩
    · rw [hsnoc]
      refine List.forall_mem_append.2 ⟨hspent, fun n hn => ?_⟩
      rw [show q.ledger = _ from hafter]
      exact Ledger.spent_of_mem_marks hl hn
    · rw [hsnoc]
      refine List.forall_mem_append.2 ⟨hstarted, fun n hn => ?_⟩
      -- a sweep reports live runs, and these were started
      obtain ⟨run, hrun, rfl⟩ := List.mem_map.1 hn
      obtain ⟨old, hold, -, rfl⟩ := (Ledger.mem_sweepStalled now).1 hrun
      obtain ⟨m, hm, hstarts⟩ := h.recorded.live _ old ((Ledger.mem_intents_iff hl).1 hold)
      exact ⟨m, List.mem_append_left _ hm, old.target, hstarts⟩
    · rw [hsnoc]
      refine List.nodup_append.2 ⟨h.once, Ledger.marks_nodup hl _, ?_⟩
      rintro n hn _ hlater rfl
      exact (h.spent n hn).not_mem_marks hl _ hlater

theorem new_stalledOnce (config : PanelConfig) (channel : MemoryChannel) (now : Instant) :
    (new config channel now).StalledOnce [] where
  consistent := Ledger.new_consistent config
  recorded := new_recorded config channel now
  spent _ hn := absurd hn List.not_mem_nil
  started _ hn := absurd hn List.not_mem_nil
  once := List.nodup_nil

/-- **No more runs are reported as stalled than were started.** -/
theorem StalledOnce.length_le {past : List Moment} {p : Panel} (h : p.StalledOnce past) :
    (past.flatMap Moment.stalledIds).length ≤ (past.filterMap (·.cause.started?)).length := by
  have hsubset : past.flatMap Moment.stalledIds ⊆ (past.filterMap (·.cause.started?)).map Prod.fst := by
    intro n hn
    obtain ⟨m, hm, target, hstarts⟩ := h.started n hn
    exact List.mem_map.2 ⟨(n, target), List.mem_filterMap.2 ⟨m, hm, Cause.started?_eq_some_iff.2 hstarts⟩, rfl⟩
  have hle := (List.Nodup.subperm h.once hsubset).length_le
  rwa [List.length_map] at hle

end Panel

theorem Path.stalledOnce {p q : Panel} {moments : List Moment} (path : Path p moments q)
    (hperformed : ∀ m ∈ moments, m.Performed) (hp : p.StalledOnce []) : q.StalledOnce moments :=
  path.invariant_of (I := Panel.StalledOnce) (fun _ _ _ _ h turn hperformed => h.turn turn hperformed) hperformed hp

/-- A start is an action to run a test that was not turned down. -/
theorem Moment.length_started_le (moments : List Moment) :
    (moments.filterMap (·.cause.started?)).length ≤
      (moments.filterMap (·.cause.answer?)).countP fun answer => answer.1.kind = .runTest ∧ answer.2.isRefusal = false := by
  rw [List.length_filterMap_eq_countP, List.countP_filterMap]
  refine List.countP_mono_left fun m _ hstarted => ?_
  obtain ⟨⟨n, target⟩, hsome⟩ := Option.isSome_iff_exists.1 hstarted
  rw [Cause.started?_eq_some_iff.1 hsome]
  rfl

/-! ## A whole session -/

namespace Replay

open Panel

/-- The operations of a session, on a panel that is not mounted yet. -/
def operations (steps : List Step) : List Operation := .mount :: steps.flatMap Step.operations

variable (config : PanelConfig) (channel : MemoryChannel) (now : Instant) (steps : List Step)

theorem operations_replayed : ∀ op ∈ operations steps, op.isReplayed = true := by
  intro op hop
  cases hop with
  | head => rfl
  | tail _ hop => exact Step.operations_replayed steps op hop

/-- A mount is counted nowhere, so a session may as well begin with it. -/
theorem session_eq :
    session config channel now steps =
      (((new config channel now).history (operations steps)).foldl Stats.tally {},
       ((new config channel now).performAll (operations steps)).2) :=
  runFrom_eq (p := new config channel now) rfl (operations_replayed steps) {}

theorem session_counts :
    (session config channel now steps).1.Counts ((new config channel now).history (operations steps)) := by
  have hempty : ({} : Stats).Counts [] := ⟨rfl, rfl, rfl, rfl, rfl, rfl, rfl⟩
  rw [session_eq]
  exact hempty.foldl_tally _

theorem session_path :
    Path (new config channel now) ((new config channel now).history (operations steps))
      (session config channel now steps).2 := by
  rw [session_eq]
  exact history_path _ _

/-- Every message of the steps is handled, since none is left in the queue. -/
theorem countP_handles_session :
    ((new config channel now).history (operations steps)).countP Moment.handles =
      (steps.filterMap Step.message?).length := by
  have harrivals := history_arrivals (new config channel now) (operations steps)
  rw [performAll_unqueued rfl (operations_replayed steps), List.append_nil] at harrivals
  rw [← length_handledMessages, harrivals]
  refine congrArg List.length (Step.filterMap_operations (fun step => ?_) steps)
  cases step <;> rfl

theorem answers_session (p : Panel) : (p.answers (operations steps)).map Prod.fst = steps.filterMap Step.action? := by
  rw [answers_fst]
  refine Step.filterMap_operations (fun step => ?_) steps
  cases step <;> rfl

end Replay

/-- **The accounts of a replay.** A panel is made and mounted, and some steps are carried out. Then

* every message of the steps has been counted under its outcome and by the panel;
* the discarded ones are those that the store counts;
* there is at most one fault more than there are reloads, and no message was ignored without a fault;
* every action was counted, and so were those that were turned down;
* the runs that were reported as stalled are no more than the tests that were run.

Each counter is the number of moments of its kind in the history of the session. -/
theorem replay_accounts (config : PanelConfig) (channel : MemoryChannel) (now : Instant) (steps : List Step) :
    let start := Panel.new config channel now
    let ops := Replay.operations steps
    let stats := (Replay.session config channel now steps).1
    let p := (Replay.session config channel now steps).2
    let messages := steps.filterMap Step.message?
    let actions := steps.filterMap Step.action?
    let answers := start.answers ops
    (stats.applied + stats.discarded + stats.faulted + stats.ignored = messages.length
        ∧ p.dispatcher.received = messages.length)
      ∧ stats.discarded = p.store.discardedTotal
      ∧ stats.faulted ≤ 1 + actions.countP (·.kind = .reload)
      ∧ (0 < stats.ignored → 0 < stats.faulted)
      ∧ (answers.map Prod.fst = actions ∧ stats.actions = actions.length
        ∧ stats.rejectedActions = answers.countP (·.2.isRefusal) ∧ stats.rejectedActions ≤ stats.actions)
      ∧ stats.stalled ≤ answers.countP (fun answer => answer.1.kind = .runTest ∧ answer.2.isRefusal = false)
      ∧ stats.Counts (start.history ops) := by
  intro start ops stats p messages actions answers
  have hcounts : stats.Counts (start.history ops) := Replay.session_counts config channel now steps
  have path : Path start (start.history ops) p := Replay.session_path config channel now steps
  have hperformed := Panel.history_performed start ops
  have hmessages : (start.history ops).countP Moment.handles = messages.length :=
    Replay.countP_handles_session config channel now steps
  have hanswers : (start.history ops).filterMap (·.cause.answer?) = answers := Panel.history_answers start ops
  have hactions : answers.map Prod.fst = actions := Replay.answers_session steps start
  have hlength : stats.actions = actions.length := by
    rw [hcounts.actions, hanswers, ← hactions, List.length_map]
  have hrejected : stats.rejectedActions = answers.countP (·.2.isRefusal) := by
    rw [hcounts.rejected, hanswers]
  refine ⟨⟨?_, ?_⟩, ?_, ?_, ?_, ⟨hactions, hlength, hrejected, ?_⟩, ?_, hcounts⟩
  · rw [hcounts.applied, hcounts.discarded, hcounts.faulted, hcounts.ignored, Moment.countP_handles, hmessages]
  · rw [path.received hperformed, hmessages]
    exact Nat.zero_add _
  · rw [hcounts.discarded, path.discardedTotal]
    exact (Nat.zero_add _).symm
  · have hrecoveries := Moment.countP_isRecovery_le (start.history ops)
    have hlast : (if p.store.readiness.fault?.isSome then 1 else 0) ≤ 1 := by split <;> decide
    rw [hanswers] at hrecoveries
    rw [hcounts.faulted, path.faults_eq rfl, ← hactions, List.countP_map, Nat.add_comm 1]
    exact Nat.add_le_add hrecoveries hlast
  · rw [hcounts.ignored, hcounts.faulted]
    exact path.fault_of_ignored rfl
  · rw [hrejected, hlength, ← hactions, List.length_map]
    exact List.countP_le_length
  · have hstalled := path.stalledOnce hperformed (Panel.new_stalledOnce config channel now)
    have hstarted := Moment.length_started_le (start.history ops)
    rw [hanswers] at hstarted
    rw [hcounts.stalled]
    exact Nat.le_trans hstalled.length_le hstarted

end PanelBridge
