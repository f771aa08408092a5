import Mathlib.Data.List.Nodup
import PanelBridge.Proofs.CommandLines
import PanelBridge.Proofs.RefusedCommands
import PanelBridge.Proofs.StaleResults

/-!
# The commands that reach the host

The number of a run is written into its command before it is given out, and it is given out only if the channel takes the
command. So a refused command, a replaced run or a reload may neither waste a number nor use one twice:

* **`Cause.command?`**: the command that a cause has brought to the host. The lines of the channel are the lines of these
  commands (`Panel.history_lines`).
* **`Panel.Numbered`**: the numbers that were given out are 1, 2, 3 and so on.
* **`Panel.CalledOffOnce`**: a run that was called off is over, so it is not called off again; and it was started before
  (`Panel.cancelled_was_started`).
-/

namespace PanelBridge

/-! ## What an action does to the channel -/

/-- Whether an action has a command for the host. -/
def Action.hasCommand : Action → Bool
  | .runTest .. | .cancelRun _ | .selectFunction _ | .requestSettings _ | .reload => true
  | .selectTestCase _ | .setFilter _ => false

namespace Cause

/-- The run that was started, if one was. -/
def started? : Cause → Option (CorrelationId × Target)
  | .operated (.act (.runTest function testCase)) (.started (.ok id)) => some (id, ⟨function, testCase⟩)
  | _ => none

/-- The run that was called off with the host being told, if one was. -/
def cancelled? : Cause → Option CorrelationId
  | .operated (.act (.cancelRun text)) (.acted (.ok ())) => CorrelationId.ofText? text
  | _ => none

/-- The command that the host was sent, if the cause is an action that went well. -/
def command? : Cause → Option Command
  | .operated (.act (.runTest function testCase)) (.started (.ok id)) => some (.runTest id.text function testCase)
  | .operated (.act (.cancelRun text)) (.acted (.ok ())) =>
    (CorrelationId.ofText? text).map fun id => .cancelRun id.text
  | .operated (.act (.selectFunction function)) (.acted (.ok ())) => some (.selectFunction function)
  | .operated (.act (.requestSettings changes)) (.acted (.ok ())) => some (.requestSettings changes)
  | .operated (.act .reload) (.acted (.ok ())) => some .reload
  | _ => none

end Cause

namespace Transport

/-- The transport after a line was refused. -/
def refused (t : Transport MemoryChannel) (line : String) : Transport MemoryChannel :=
  { t with channel := { t.channel with attempts := t.channel.attempts ++ [line] } }

/-- The transport after a line was taken. -/
def taken (t : Transport MemoryChannel) (line : String) : Transport MemoryChannel :=
  { t with channel := (t.refused line).channel.record line, sentCount := t.sentCount + 1 }

/-- What a call may do with the transport: it offers nothing, or one command, which is refused or taken. The call goes
well exactly if a command is taken. -/
inductive Called (t : Transport MemoryChannel) : (well : Bool) → Option Command → Transport MemoryChannel → Prop where
  | silent : Called t false none t
  | refused (c : Command) : Called t false none (t.refused c.line)
  | taken (c : Command) : Called t true (some c) (t.taken c.line)

section Send

variable {t : Transport MemoryChannel} {c : Command}

theorem send_of_refused {reason : String} (h : t.channel.refusal t.channel.attempts c.line = some reason) :
    t.send c = (.error (.channelClosed reason), t.refused c.line) := by
  have hpost : Channel.post t.channel c.line = (some reason, (t.refused c.line).channel) := by
    show t.channel.post c.line = _
    simp only [MemoryChannel.post, h, refused]
  simp only [send, hpost]
  rfl

theorem send_of_taken (h : t.channel.refusal t.channel.attempts c.line = none) :
    t.send c = (.ok (), t.taken c.line) := by
  have hpost : Channel.post t.channel c.line = (none, (t.taken c.line).channel) := by
    show t.channel.post c.line = _
    simp only [MemoryChannel.post, h, taken, refused]
  simp only [send, hpost]
  rfl

end Send

theorem send_cases (t : Transport MemoryChannel) (c : Command) :
    (∃ e, t.send c = (.error e, t.refused c.line)) ∨ t.send c = (.ok (), t.taken c.line) := by
  cases hrefusal : t.channel.refusal t.channel.attempts c.line with
  | some reason => exact .inl ⟨.channelClosed reason, send_of_refused hrefusal⟩
  | none => exact .inr (send_of_taken hrefusal)

end Transport

namespace Panel

variable (p : Panel)

theorem send_cases (c : Command) :
    (∃ e, p.send c = (.error e, { p with transport := p.transport.refused c.line }))
      ∨ p.send c = (.ok (), { p with transport := p.transport.taken c.line }) := by
  unfold send
  rcases p.transport.send_cases c with ⟨e, h⟩ | h
  · exact .inl ⟨.transport e, by rw [h]; rfl⟩
  · exact .inr (by rw [h]; rfl)

/-- How a call with a command goes: it is turned down at once, or it sends its command over the transport as it was. -/
inductive Sends (c : Command) : Except ActionError Unit × Panel → Prop where
  | turnedDown (e : ActionError) : Sends c (.error e, p)
  | sent (q : Panel) (same : q.transport = p.transport) : Sends c (q.send c)

theorem cancelRun_sends {text : String} {id : CorrelationId} (hid : CorrelationId.ofText? text = some id) :
    p.Sends (.cancelRun id.text) (p.cancelRun text) := by
  unfold cancelRun
  simp only [hid, Ledger.cancelRun]
  cases p.ledger.retire id .cancelled with
  | mk retired ledger =>
    cases retired with
    | none => exact .turnedDown _
    | some run => exact .sent _ rfl

theorem selectFunction_sends (function : String) :
    p.Sends (.selectFunction function) (p.selectFunction function) := by
  unfold selectFunction
  cases p.dispatcher.selectFunction function with
  | mk result d =>
    cases result with
    | error e => exact .turnedDown e
    | ok => exact .sent _ rfl

theorem reload_sends : p.Sends .reload p.reload := by
  unfold reload
  cases p.dispatcher.reload with
  | mk result d =>
    cases result with
    | error e => exact .turnedDown e
    | ok => exact .sent _ rfl

variable {p}

theorem Sends.called {c : Command} {answer : Except ActionError Unit × Panel} {action : Action} (h : p.Sends c answer)
    (hok : (Cause.operated (.act action) (.acted (.ok ()))).command? = some c)
    (herror : ∀ e, (Cause.operated (.act action) (.acted (.error e))).command? = none) :
    p.transport.Called (!(Report.acted answer.1).isRefusal) (Cause.operated (.act action) (.acted answer.1)).command?
      answer.2.transport := by
  cases h with
  | turnedDown e =>
    rw [herror]
    exact .silent
  | sent q same =>
    rw [← same]
    rcases q.send_cases c with ⟨e, h⟩ | h
    · rw [h, herror]
      exact .refused c
    · rw [h, hok]
      exact .taken c

variable (p)

theorem runTest_called (function testCase : String) :
    p.transport.Called (!(Report.started (p.runTest function testCase).1).isRefusal)
      (Cause.operated (.act (.runTest function testCase)) (.started (p.runTest function testCase).1)).command?
      (p.runTest function testCase).2.transport := by
  unfold runTest
  split
  · exact .silent
  · split
    · exact .silent
    · rcases p.send_cases (p.ledger.prepareRun ⟨function, testCase⟩) with ⟨e, h⟩ | h
      · simp only [h]
        exact .refused _
      · simp only [h]
        exact .taken _

/-- **An action with a command offers at most one, and reports whether it was taken.** -/
theorem act_called {action : Action} (h : action.hasCommand = true) :
    p.transport.Called (!(p.act action).1.isRefusal) (Cause.operated (.act action) (p.act action).1).command?
      (p.act action).2.transport := by
  cases action with
  | selectTestCase | setFilter => cases h
  | runTest function testCase => exact runTest_called p function testCase
  | cancelRun text =>
    cases hid : CorrelationId.ofText? text with
    | none =>
      have hdown : p.cancelRun text = (.error (.notLive text), p) := by
        unfold cancelRun
        rw [hid]
      show p.transport.Called (!(Report.acted (p.cancelRun text).1).isRefusal)
        (Cause.operated _ (.acted (p.cancelRun text).1)).command? (p.cancelRun text).2.transport
      rw [hdown]
      exact .silent
    | some id =>
      have hok : (Cause.operated (.act (.cancelRun text)) (.acted (.ok ()))).command? = some (.cancelRun id.text) := by
        show Option.map _ (CorrelationId.ofText? text) = _
        rw [hid]
        rfl
      exact (cancelRun_sends p hid).called hok fun _ => rfl
  | selectFunction function => exact (selectFunction_sends p function).called rfl fun _ => rfl
  | requestSettings changes =>
    have hsends : p.Sends (.requestSettings changes) (p.requestSettings changes) := .sent p rfl
    exact hsends.called rfl fun _ => rfl
  | reload => exact (reload_sends p).called rfl fun _ => rfl

/-- A call with a command offers at most one line, and it is not turned down exactly if one was taken. -/
theorem act_offers {action : Action} (h : action.hasCommand = true) :
    ∃ offered taken, (p.act action).2.transport.channel.attempts = p.transport.channel.attempts ++ offered
      ∧ (p.act action).2.transport.channel.lines = p.transport.channel.lines ++ taken
      ∧ offered.length ≤ 1 ∧ taken.Sublist offered ∧ ((p.act action).1.isRefusal = false ↔ taken.length = 1) := by
  have hcalled := p.act_called h
  rw [← Bool.not_eq_true']
  generalize (!(p.act action).1.isRefusal) = well, (Cause.operated (.act action) (p.act action).1).command? = command?,
    (p.act action).2.transport = t at hcalled ⊢
  cases hcalled with
  | silent => exact ⟨[], [], (List.append_nil _).symm, (List.append_nil _).symm, by simp, by simp, by simp⟩
  | refused c => exact ⟨[c.line], [], rfl, (List.append_nil _).symm, by simp, by simp, by simp⟩
  | taken c => exact ⟨[c.line], [c.line], rfl, rfl, by simp, by simp, by simp⟩

/-! ## The lines of a session -/

theorem handle_transport (m : Message) : (p.handle m).2.transport = p.transport := by
  unfold handle
  cases hd : p.dispatcher.dispatch p.ledger m with
  | mk outcome rest => cases outcome <;> rfl

end Panel

/-- A moment adds the line of its command, if it has one, and counts it. -/
theorem Moment.Performed.lines {m : Moment} (h : m.Performed) :
    m.after.transport.channel.lines = m.before.transport.channel.lines ++ m.cause.command?.toList.map Command.line
      ∧ m.after.transport.sentCount = m.before.transport.sentCount + m.cause.command?.toList.length := by
  cases h with
  | queueTaken p => exact ⟨(List.append_nil _).symm, rfl⟩
  | handled p message =>
    simp only [Panel.handle_transport]
    exact ⟨(List.append_nil _).symm, rfl⟩
  | @operated p op single =>
    cases op with
    | act action =>
      show (p.act action).2.transport.channel.lines = p.transport.channel.lines
          ++ (Cause.operated (.act action) (p.act action).1).command?.toList.map Command.line
        ∧ (p.act action).2.transport.sentCount = p.transport.sentCount
          + (Cause.operated (.act action) (p.act action).1).command?.toList.length
      cases hcommand : action.hasCommand with
      | false =>
        cases action with
        | selectTestCase | setFilter => exact ⟨(List.append_nil _).symm, rfl⟩
        | _ => cases hcommand
      | true =>
        have hcalled := p.act_called hcommand
        generalize (!(p.act action).1.isRefusal) = well,
          (Cause.operated (.act action) (p.act action).1).command? = command?,
          (p.act action).2.transport = t at hcalled ⊢
        cases hcalled with
        | silent | refused => exact ⟨(List.append_nil _).symm, rfl⟩
        | taken => exact ⟨rfl, rfl⟩
    | pump | deliver => cases single
    | _ => exact ⟨(List.append_nil _).symm, rfl⟩

theorem filterMap_snoc {α β : Type} (f : α → Option β) (l : List α) (a : α) :
    (l ++ [a]).filterMap f = l.filterMap f ++ (f a).toList := by
  rw [List.filterMap_append]
  cases h : f a <;> simp [h]

/-- **The lines that the channel has taken are the lines of the commands**, and they have been counted. -/
theorem Panel.history_lines (config : PanelConfig) (refusal : List String → String → Option String) (now : Instant)
    (ops : List Operation) :
    let start := Panel.new config (.withRefusal refusal) now
    let commands := (start.history ops).filterMap (·.cause.command?)
    (start.performAll ops).2.transport.channel.lines = commands.map Command.line
      ∧ (start.performAll ops).2.transport.sentCount = commands.length := by
  intro start
  refine history_invariant (I := fun past p =>
    p.transport.channel.lines = (past.filterMap (·.cause.command?)).map Command.line
      ∧ p.transport.sentCount = (past.filterMap (·.cause.command?)).length) ?_ start ops ⟨rfl, rfl⟩
  intro past p cause q h _ hperformed
  obtain ⟨hlines, hcount⟩ := hperformed.lines
  rw [filterMap_snoc, List.map_append, List.length_append, ← h.1, ← h.2]
  exact ⟨hlines, hcount⟩

/-! ## Numbers -/

theorem Cause.started?_eq_some_iff {cause : Cause} {n : CorrelationId} {target : Target} :
    cause.started? = some (n, target)
      ↔ cause = .operated (.act (.runTest target.function target.testCase)) (.started (.ok n)) := by
  constructor
  · intro h
    unfold started? at h
    split at h
    · cases h
      rfl
    · cases h
  · rintro rfl
    rfl

/-- A turn that starts no run gives out no number. -/
theorem Turn.nextNumber_eq {p q : Panel} {cause : Cause} (turn : Turn p cause q) (h : cause.started? = none) :
    q.ledger.nextNumber = p.ledger.nextNumber := by
  obtain ⟨mutations, ledger, heffect, -, hledger⟩ := turn
  rw [hledger]
  cases heffect with
  | started => cases h
  | calledOff => exact Ledger.retire_nextNumber ..
  | reloaded => exact Ledger.retireAll_nextNumber ..
  | _ => rfl

/-- The numbers of the runs that were started are 1, 2, 3 and so on, and the next is the one after them. -/
structure Panel.Numbered (past : List Moment) (p : Panel) : Prop where
  numbers : (past.filterMap (·.cause.started?)).map (·.1.number) =
    List.range' 1 (past.filterMap (·.cause.started?)).length
  next : p.ledger.nextNumber = (past.filterMap (·.cause.started?)).length + 1

theorem Panel.Numbered.turn {past : List Moment} {p q : Panel} {cause : Cause} (h : p.Numbered past)
    (hl : p.ledger.WellFormed) (turn : Turn p cause q) : q.Numbered (past ++ [⟨p, cause, q⟩]) := by
  have hsnoc : (past ++ [(⟨p, cause, q⟩ : Moment)]).filterMap (·.cause.started?) =
      past.filterMap (·.cause.started?) ++ cause.started?.toList := filterMap_snoc ..
  cases hstarted : cause.started? with
  | none =>
    rw [hstarted, Option.toList_none, List.append_nil] at hsnoc
    refine ⟨?_, ?_⟩
    · rw [hsnoc]
      exact h.numbers
    · rw [hsnoc, turn.nextNumber_eq hstarted]
      exact h.next
  | some run =>
    rw [hstarted, Option.toList_some] at hsnoc
    -- the run takes the next number, which is one more than the count of those before
    obtain ⟨hid, hledger, -⟩ := turn.started (Cause.started?_eq_some_iff.1 hstarted)
    have hnumber : run.1.number = 1 + (past.filterMap (·.cause.started?)).length := by
      rw [hid, Nat.add_comm]
      exact h.next
    refine ⟨?_, ?_⟩
    · rw [hsnoc, List.map_append, List.length_append, h.numbers, List.length_singleton, List.range'_concat]
      simp [hnumber]
    · rw [hledger, Ledger.issueRun_nextNumber hl, h.next, hsnoc, List.length_append, List.length_singleton]

/-! ## Runs that are called off -/

theorem Cause.cancelled?_eq_some_iff {cause : Cause} {n : CorrelationId} :
    cause.cancelled? = some n
      ↔ ∃ text, cause = .operated (.act (.cancelRun text)) (.acted (.ok ()))
        ∧ CorrelationId.ofText? text = some n := by
  constructor
  · intro h
    unfold cancelled? at h
    split at h
    · exact ⟨_, rfl, h⟩
    · cases h
  · rintro ⟨text, rfl, h⟩
    exact h

/-- A run that is called off with the host being told is live. -/
theorem Moment.Performed.cancelled_live {m : Moment} (h : m.Performed) {n : CorrelationId}
    (hn : m.cause.cancelled? = some n) : ∃ run, m.before.ledger.live.get? n = some run := by
  obtain ⟨text, hcause, hid⟩ := Cause.cancelled?_eq_some_iff.1 hn
  cases h with
  | queueTaken | handled => cases hcause
  | @operated p op =>
    obtain ⟨rfl, hreport⟩ := Cause.operated.inj hcause
    refine Option.ne_none_iff_exists'.1 fun hlive => ?_
    have hdown : (p.act (.cancelRun text)).1 = .acted (.error (.notLive n.text)) :=
      congrArg Report.acted (p.cancelRun_not_live hid hlive)
    cases hdown.symm.trans hreport

/-- The runs that were called off are over, and none was called off twice. -/
structure Panel.CalledOffOnce (past : List Moment) (p : Panel) : Prop where
  ended : ∀ n ∈ past.filterMap (·.cause.cancelled?), p.ledger.Over n
  once : (past.filterMap (·.cause.cancelled?)).Nodup

theorem Panel.CalledOffOnce.turn {past : List Moment} {p q : Panel} {cause : Cause} (h : p.CalledOffOnce past)
    (hl : p.ledger.WellFormed) (turn : Turn p cause q) (hperformed : (⟨p, cause, q⟩ : Moment).Performed) :
    q.CalledOffOnce (past ++ [⟨p, cause, q⟩]) := by
  have hsnoc : (past ++ [(⟨p, cause, q⟩ : Moment)]).filterMap (·.cause.cancelled?) =
      past.filterMap (·.cause.cancelled?) ++ cause.cancelled?.toList := filterMap_snoc ..
  have hover : ∀ n ∈ past.filterMap (·.cause.cancelled?), q.ledger.Over n := fun n hn => (h.ended n hn).turn hl turn
  cases hcancelled : cause.cancelled? with
  | none =>
    rw [hcancelled, Option.toList_none, List.append_nil] at hsnoc
    exact ⟨hsnoc ▸ hover, hsnoc ▸ h.once⟩
  | some n =>
    rw [hcancelled, Option.toList_some] at hsnoc
    obtain ⟨run, hlive⟩ := hperformed.cancelled_live hcancelled
    obtain ⟨text, rfl, hid⟩ := Cause.cancelled?_eq_some_iff.1 hcancelled
    have hlt : n.number < q.ledger.nextNumber := Nat.lt_of_lt_of_le (hl.live_lt n run hlive) (turn.nextNumber_le hl)
    refine ⟨?_, ?_⟩
    · rw [hsnoc]
      intro k hk
      rcases List.mem_append.1 hk with hk | hk
      · exact hover k hk
      · cases List.mem_singleton.1 hk
        exact ⟨hlt, turn.calledOff hl hid⟩
    · -- it was live, so it is none of those that were called off before
      have hnew : n ∉ past.filterMap (·.cause.cancelled?) := by
        intro hn
        cases (h.ended n hn).2.symm.trans hlive
      rw [hsnoc, ← List.concat_eq_append]
      exact h.once.concat hnew

/-- What holds of the ids along a session. -/
structure Panel.Disciplined (past : List Moment) (p : Panel) : Prop where
  recorded : p.Recorded past
  numbered : p.Numbered past
  calledOff : p.CalledOffOnce past

theorem Path.disciplined {p q : Panel} {moments : List Moment} (path : Path p moments q)
    (hperformed : ∀ m ∈ moments, m.Performed) (hp : p.Disciplined []) : q.Disciplined moments := by
  refine path.invariant_of (I := Panel.Disciplined) ?_ hperformed hp
  intro past p cause q h turn hperformed
  have hl := h.recorded.agrees.wellFormed
  exact ⟨h.recorded.turn turn, h.numbered.turn hl turn, h.calledOff.turn hl turn hperformed⟩

theorem Panel.new_disciplined (config : PanelConfig) (channel : MemoryChannel) (now : Instant) :
    (new config channel now).Disciplined [] :=
  ⟨new_recorded config channel now, ⟨rfl, rfl⟩, ⟨by simp, .nil⟩⟩

/-- **A run that is called off was started before**, and its command was taken then. -/
theorem Panel.cancelled_was_started {p : Panel} (hp : p.Recorded []) {ops : List Operation}
    {earlier later : List Moment} {m : Moment} (hsplit : p.history ops = earlier ++ m :: later) {n : CorrelationId}
    (hn : m.cause.cancelled? = some n) : ∃ first ∈ earlier, ∃ target, first.Starts n target := by
  have path := history_path p ops
  have hperformed := history_performed p ops m (by simp [hsplit])
  rw [hsplit] at path
  obtain ⟨before, -, -⟩ := path.split
  have hrecorded : m.before.Recorded earlier :=
    before.invariant (fun _ _ _ _ h turn => Panel.Recorded.turn h turn) [] hp
  obtain ⟨run, hlive⟩ := hperformed.cancelled_live hn
  obtain ⟨first, hfirst, hstarts⟩ := hrecorded.live n run hlive
  exact ⟨first, hfirst, run.target, hstarts⟩

/-! ## From moments to calls -/

theorem filterMap_split {α β : Type} {f : α → Option β} {l : List α} {before after : List β} {b : β}
    (h : l.filterMap f = before ++ b :: after) :
    ∃ earlier a later, l = earlier ++ a :: later ∧ earlier.filterMap f = before ∧ f a = some b := by
  obtain ⟨first, second, rfl, hfirst, hsecond⟩ := List.filterMap_eq_append_iff.1 h
  obtain ⟨skipped, a, later, rfl, hskipped, ha, -⟩ := List.filterMap_eq_cons_iff.1 hsecond
  refine ⟨first ++ skipped, a, later, by simp, ?_, ha⟩
  rw [List.filterMap_append, hfirst, List.filterMap_eq_nil_iff.2 hskipped, List.append_nil]

theorem Cause.command?_runTest (cause : Cause) : cause.command?.filter (·.kind == .runTest) =
    cause.started?.map fun run => .runTest run.1.text run.2.function run.2.testCase := by
  unfold command?
  split
  · rfl
  · cases CorrelationId.ofText? _ <;> rfl
  · rfl
  · rfl
  · rfl
  · rename_i hnone _ _ _ _
    cases hstarted : cause.started? with
    | none => rfl
    | some run => exact absurd (started?_eq_some_iff.1 hstarted) (hnone _ _ _)

theorem Cause.command?_cancelRun (cause : Cause) : cause.command?.filter (·.kind == .cancelRun) =
    cause.cancelled?.map fun id => .cancelRun id.text := by
  unfold command?
  split
  · rfl
  · rename_i text
    show Option.filter _ (Option.map _ (CorrelationId.ofText? text)) = Option.map _ (CorrelationId.ofText? text)
    cases CorrelationId.ofText? text <;> rfl
  · rfl
  · rfl
  · rfl
  · rename_i hnone _ _ _
    cases hcancelled : cause.cancelled? with
    | none => rfl
    | some id =>
      obtain ⟨text, hcause, -⟩ := cancelled?_eq_some_iff.1 hcancelled
      exact absurd hcause (hnone text)

namespace Panel

/-- What is read off the actions of a session can be read off its moments or off its operations and their reports. -/
theorem history_calls {β : Type} {f : Cause → Option β}
    (hf : ∀ cause, (∀ action report, cause ≠ .operated (.act action) report) → f cause = none)
    (p : Panel) (ops : List Operation) :
    (p.history ops).filterMap (fun m => f m.cause) =
      (ops.zip (p.performAll ops).1).filterMap fun call => f (.operated call.1 call.2) := by
  have hpump (p : Panel) : p.pumpMoments.filterMap (fun m => f m.cause) = [] := by
    refine List.filterMap_eq_nil_iff.2 fun m hm => hf _ fun action report hcause => ?_
    rcases pumpMoments_handled p m hm with h | ⟨message, h⟩ <;> cases h.symm.trans hcause
  have hmoments (p : Panel) (op : Operation) : (p.moments op).filterMap (fun m => f m.cause) =
      (f (.operated op (p.perform op).1)).toList := by
    cases op with
    | pump =>
      rw [hf (.operated .pump _) (by rintro action report ⟨⟩)]
      exact hpump p
    | deliver message =>
      have hreceive : f (.operated (.receive message) (p.perform (.receive message)).1) = none :=
        hf _ (by rintro action report ⟨⟩)
      rw [hf (.operated (.deliver message) _) (by rintro action report ⟨⟩)]
      exact (List.filterMap_cons_none (f := fun m : Moment => f m.cause) hreceive).trans (hpump _)
    | _ => exact filterMap_snoc _ [] _
  induction ops generalizing p with
  | nil => rfl
  | cons op rest ih =>
    show (p.moments op ++ (p.perform op).2.history rest).filterMap _ =
      ((op, (p.perform op).1) :: rest.zip ((p.perform op).2.performAll rest).1).filterMap _
    rw [List.filterMap_append, hmoments, ih, List.filterMap_cons]
    cases f (.operated op (p.perform op).1) <;> rfl

/-- **A line that calls a run off comes after the line of that run.** -/
theorem cancel_line_follows (config : PanelConfig) (refusal : List String → String → Option String) (now : Instant)
    (ops : List Operation) {before after : List String} {line : String}
    (hsplit : ((Panel.new config (.withRefusal refusal) now).performAll ops).2.transport.channel.lines =
      before ++ line :: after) (hopens : CommandKind.cancelRun.opens line = true) :
    ∃ (id : CorrelationId) (target : Target), line = (Command.cancelRun id.text).line
      ∧ (Command.runTest id.text target.function target.testCase).line ∈ before := by
  rw [(history_lines config refusal now ops).1, List.map_filterMap] at hsplit
  obtain ⟨earlier, m, later, hhistory, hbefore, hline⟩ := filterMap_split hsplit
  obtain ⟨c, hcommand, rfl⟩ := Option.map_eq_some_iff.1 hline
  -- the command of the line is one that calls a run off
  rw [CommandKind.opens_line] at hopens
  have hcancel := m.cause.command?_cancelRun
  rw [hcommand, Option.filter_some, if_pos hopens] at hcancel
  obtain ⟨id, hid, rfl⟩ := Option.map_eq_some_iff.1 hcancel.symm
  obtain ⟨first, hfirst, target, hstarts⟩ := cancelled_was_started (new_recorded ..) hhistory hid
  refine ⟨id, target, rfl, ?_⟩
  rw [← hbefore, List.mem_filterMap]
  refine ⟨first, hfirst, ?_⟩
  rw [show first.cause = _ from hstarts]
  rfl

end Panel

/-- **The ids that the host gets to see.** In every session, whichever lines the channel refuses:

* the lines that ask for a run are those of the runs that were started, in this order and each with the function and
  the test case it was started with, and their numbers are 1, 2, 3 and so on;
* a line that calls a run off names a run whose own line was taken before it, and no run is named by two such lines;
* as many commands were counted as lines were taken;
* a call of an action with a command offers at most one line, and it is not turned down exactly if one was taken. -/
theorem sent_ids_in_order (config : PanelConfig) (refusal : List String → String → Option String) (now : Instant)
    (ops : List Operation) :
    let start := Panel.new config (.withRefusal refusal) now
    let p := (start.performAll ops).2
    let lines := p.transport.channel.lines
    let started := (ops.zip (start.performAll ops).1).filterMap fun call => (Cause.operated call.1 call.2).started?
    lines.filter CommandKind.runTest.opens =
        started.map (fun run => (Command.runTest run.1.text run.2.function run.2.testCase).line)
      ∧ started.map (·.1.number) = List.range' 1 started.length
      ∧ (∀ before line after, lines = before ++ line :: after → CommandKind.cancelRun.opens line = true →
          ∃ (id : CorrelationId) (target : Target), line = (Command.cancelRun id.text).line
            ∧ (Command.runTest id.text target.function target.testCase).line ∈ before)
      ∧ (lines.filter CommandKind.cancelRun.opens).Nodup
      ∧ p.transport.sentCount = lines.length
      ∧ ∀ action, action.hasCommand = true → ∃ offered taken,
          (p.act action).2.transport.channel.attempts = p.transport.channel.attempts ++ offered
            ∧ (p.act action).2.transport.channel.lines = lines ++ taken
            ∧ offered.length ≤ 1 ∧ taken.Sublist offered
            ∧ ((p.act action).1.isRefusal = false ↔ taken.length = 1) := by
  intro start p lines started
  have hdisciplined : p.Disciplined (start.history ops) :=
    (Panel.history_path start ops).disciplined (Panel.history_performed start ops) (Panel.new_disciplined ..)
  obtain ⟨hlines, hcount⟩ := Panel.history_lines config refusal now ops
  have hstarted : (start.history ops).filterMap (·.cause.started?) = started := by
    refine Panel.history_calls (f := Cause.started?) (fun cause h => ?_) start ops
    unfold Cause.started?
    split
    · exact absurd rfl (h _ _)
    · rfl
  refine ⟨?_, ?_, ?_, ?_, ?_, ?_⟩
  · show p.transport.channel.lines.filter _ = _
    rw [hlines, CommandKind.filter_lines, List.filter_filterMap]
    simp only [Cause.command?_runTest]
    rw [← List.map_filterMap, hstarted, List.map_map]
    rfl
  · rw [← hstarted]
    exact hdisciplined.numbered.numbers
  · exact fun before line after => Panel.cancel_line_follows config refusal now ops
  · show (p.transport.channel.lines.filter _).Nodup
    rw [hlines, CommandKind.filter_lines, List.filter_filterMap]
    simp only [Cause.command?_cancelRun]
    rw [← List.map_filterMap, List.map_map]
    exact hdisciplined.calledOff.once.map fun _ _ => Command.cancelRun_line_injective
  · show _ = p.transport.channel.lines.length
    rw [hlines, List.length_map]
    exact hcount
  · exact fun action => p.act_offers

end PanelBridge
