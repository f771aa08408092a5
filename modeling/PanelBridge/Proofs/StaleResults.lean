import PanelBridge.Proofs.Turns

/-!
# Results are applied once, in order, and never late

The host may send results twice, in any order, for runs that were never asked for, or long after the user has moved
on. What keeps the results right is the ledger, which gives every run a number of its own:

* **`Ledger.Over`**: a number that was given out and is not live. It stays so (`Over.turn`), and no result is applied
  for it (`Path.not_applies`). A run is over once its result was applied, it was called off, another run of its target
  was started, or the panel was reloaded (`Ends.over`).
* **`Ledger.Behind`**: a number below those of all runs of a target that are live or to come. The number of a stored
  result is behind its target, which puts the results of a target in ascending order.
* **`Panel.Recorded`**: every result and every live run of a panel goes back to moments of its history.
-/

namespace PanelBridge

/-- A run that was started and is not live any more. -/
def Ledger.Over (l : Ledger) (n : CorrelationId) : Prop :=
  n.number < l.nextNumber ∧ l.live.get? n = none

/-- A run that was started, for the given target. -/
def Ledger.Assigned (l : Ledger) (n : CorrelationId) (target : Target) : Prop :=
  n.number < l.nextNumber ∧ ∀ run, l.live.get? n = some run → run.target = target

/-- A number that all runs of a target exceed which are live or to come. -/
def Ledger.Behind (l : Ledger) (target : Target) (n : CorrelationId) : Prop :=
  n.number < l.nextNumber
    ∧ ∀ id run, l.live.get? id = some run → run.target = target → n.number < id.number

/-! ## What stays -/

section Turn

variable {p q : Panel} {cause : Cause} {n : CorrelationId} {target : Target}

/-- What holds of all live runs, and of all runs with a greater number than one that was given out, holds of the live runs
after a turn: those that are new have the next number. -/
theorem Turn.live_stays (hl : p.ledger.WellFormed) (turn : Turn p cause q)
    {K : CorrelationId → Target → Prop} (hK : ∀ id target, n.number < id.number → K id target)
    (hn : n.number < p.ledger.nextNumber)
    (h : ∀ id run, p.ledger.live.get? id = some run → K id run.target) :
    n.number < q.ledger.nextNumber ∧ ∀ id run, q.ledger.live.get? id = some run → K id run.target := by
  refine ⟨Nat.lt_of_lt_of_le hn (turn.nextNumber_le hl), fun id run hlive => ?_⟩
  rcases turn.live_origin hl hlive with ⟨old, hold, htarget⟩ | hstarts
  · exact htarget ▸ h id old hold
  · have hid := (turn.started hstarts).1
    exact hK id run.target (hid ▸ hn)

theorem Ledger.Over.turn (h : p.ledger.Over n) (hl : p.ledger.WellFormed) (turn : Turn p cause q) :
    q.ledger.Over n := by
  obtain ⟨hlt, hlive⟩ := turn.live_stays hl (K := fun id _ => id ≠ n)
    (fun id _ hid heq => Nat.lt_irrefl _ (heq ▸ hid)) h.1
    fun id run hget heq => by rw [heq, h.2] at hget; cases hget
  exact ⟨hlt, Option.eq_none_iff_forall_ne_some.2 fun run hget => hlive n run hget rfl⟩

theorem Ledger.Assigned.turn (h : p.ledger.Assigned n target) (hl : p.ledger.WellFormed)
    (turn : Turn p cause q) : q.ledger.Assigned n target := by
  obtain ⟨hlt, hlive⟩ := turn.live_stays hl (K := fun id t => id = n → t = target)
    (fun id _ hid heq => absurd hid (by rw [heq]; exact Nat.lt_irrefl _)) h.1
    fun id run hget heq => h.2 run (heq ▸ hget)
  exact ⟨hlt, fun run hget => hlive n run hget rfl⟩

theorem Ledger.Behind.turn (h : p.ledger.Behind target n) (hl : p.ledger.WellFormed)
    (turn : Turn p cause q) : q.ledger.Behind target n :=
  turn.live_stays hl (K := fun id t => t = target → n.number < id.number)
    (fun _ _ hid _ => hid) h.1 h.2

/-- A run that is started has a number that stays with its target. -/
theorem Turn.assigned (hl : p.ledger.WellFormed) (turn : Turn p cause q)
    (hstarts : (⟨p, cause, q⟩ : Moment).Starts n target) : q.ledger.Assigned n target := by
  obtain ⟨rfl, hledger, -⟩ := turn.started hstarts
  rw [hledger]
  constructor
  · rw [Ledger.issueRun_nextNumber hl]
    exact Nat.lt_succ_self _
  · intro run hlive
    rw [Ledger.issueRun_live hl, if_pos rfl] at hlive
    cases hlive
    rfl

/-- A run that is completed is over, and its number is behind its target. -/
theorem Ledger.over_of_remove {l : Ledger} (hl : l.WellFormed) {run : Intent}
    (hlive : l.live.get? n = some run) :
    (l.remove run).Over n ∧ (l.remove run).Behind run.target n := by
  have hid := hl.live_id n run hlive
  have hlt : n.number < (l.remove run).nextNumber := hl.live_lt n run hlive
  refine ⟨⟨hlt, by rw [remove_live, if_pos hid.symm]⟩, hlt, fun id other hother htarget => ?_⟩
  -- the target has no second live run
  rw [remove_live] at hother
  split at hother
  · cases hother
  · rename_i hne
    exact absurd (hid ▸ live_unique hl hother hlive htarget) hne

end Turn

/-! ## Along a path -/

namespace Path

variable {p q : Panel} {moments : List Moment} {n : CorrelationId}

/-- What an agreeing panel keeps in every turn it keeps along a path. -/
theorem stays {P : Panel → Prop}
    (step : ∀ {p q cause}, P p → p.ledger.WellFormed → Turn p cause q → P q)
    (path : Path p moments q) (hp : p.Agrees) (h : P p) : P q :=
  (path.invariant (I := fun _ p => p.Agrees ∧ P p)
    (fun _ _ _ _ h turn => ⟨h.1.turn turn, step h.2 h.1.wellFormed turn⟩) [] ⟨hp, h⟩).2

/-- **No result is applied for a run that is over.** -/
theorem not_applies (path : Path p moments q) (hp : p.Agrees) (h : p.ledger.Over n) :
    ∀ m ∈ moments, ∀ result, ¬m.Applies n result := by
  intro m hm result happlies
  obtain ⟨earlier, later, rfl⟩ := List.append_of_mem hm
  obtain ⟨before, turn, -⟩ := path.split
  -- the run is still over when the result arrives, but only a live run takes one
  have hover : m.before.ledger.Over n := before.stays Ledger.Over.turn hp h
  obtain ⟨run, hlive, -⟩ := turn.applied happlies
  cases hover.2.symm.trans hlive

/-- A run that was started on the way is assigned to its target at the end. -/
theorem assigned (path : Path p moments q) (hp : p.Agrees) {m : Moment} (hm : m ∈ moments)
    {target : Target} (hstarts : m.Starts n target) : q.ledger.Assigned n target := by
  obtain ⟨earlier, later, rfl⟩ := List.append_of_mem hm
  obtain ⟨before, turn, after⟩ := path.split
  have hagrees := before.agrees hp
  exact after.stays Ledger.Assigned.turn (hagrees.turn turn) (turn.assigned hagrees.wellFormed hstarts)

/-- No number is given out twice. -/
theorem not_starts (path : Path p moments q) (hp : p.Agrees) (h : n.number < p.ledger.nextNumber) :
    ∀ m ∈ moments, ∀ target, ¬m.Starts n target := by
  intro m hm target hstarts
  obtain ⟨earlier, later, rfl⟩ := List.append_of_mem hm
  obtain ⟨before, turn, -⟩ := path.split
  have hlt : n.number < m.before.ledger.nextNumber :=
    before.stays (fun h hl turn => Nat.lt_of_lt_of_le h (turn.nextNumber_le hl)) hp h
  have hn := (turn.started hstarts).1
  exact absurd hlt (by simp [hn])

end Path

/-! ## How a run ends -/

/-- The moment ends a run: its result is applied, it is called off while it is live, a run of its target is started later
than itself, or the panel is reloaded. -/
inductive Moment.Ends (earlier : List Moment) (m : Moment) (n : CorrelationId) : Prop where
  | answered {result : TestResult} (applies : m.Applies n result)
  | calledOff {text : String} {report : Report}
      (cause : m.cause = .operated (.act (.cancelRun text)) report)
      (names : CorrelationId.ofText? text = some n) (live : m.before.ledger.live.get? n ≠ none)
  | replaced {first : Moment} {n' : CorrelationId} {target : Target} (mem : first ∈ earlier)
      (starts : first.Starts n target) (again : m.Starts n' target)
  | reloaded {first : Moment} {target : Target} (mem : first ∈ earlier)
      (starts : first.Starts n target) (reloads : m.Reloads)

/-- **A run that ends is over.** -/
theorem Moment.Ends.over {p q : Panel} {earlier later : List Moment} {m : Moment} {n : CorrelationId}
    (h : m.Ends earlier n) (path : Path p (earlier ++ m :: later) q) (hp : p.Agrees) :
    m.after.ledger.Over n := by
  obtain ⟨before, turn, -⟩ := path.split
  have hl := (before.agrees hp).wellFormed
  have hnext := turn.nextNumber_le hl
  cases h with
  | answered happlies =>
    obtain ⟨run, hlive, hledger, -⟩ := turn.applied happlies
    rw [hledger]
    exact (Ledger.over_of_remove hl hlive).1
  | calledOff hcause hn hlive =>
    rw [hcause] at turn
    obtain ⟨run, hrun⟩ := Option.ne_none_iff_exists'.1 hlive
    exact ⟨Nat.lt_of_lt_of_le (hl.live_lt n run hrun) hnext, turn.calledOff hl hn⟩
  | replaced hmem hstarts hagain =>
    obtain ⟨hlt, htarget⟩ := before.assigned hp hmem hstarts
    obtain ⟨-, hledger, -⟩ := turn.started hagain
    refine ⟨Nat.lt_of_lt_of_le hlt hnext, ?_⟩
    -- if the run is still live it is the one that is replaced
    rw [hledger, Ledger.issueRun_live hl, if_neg (by rintro rfl; exact Nat.lt_irrefl _ hlt)]
    refine Option.filter_eq_none_iff.2 fun run hrun => ?_
    simp [htarget run hrun]
  | reloaded hmem hstarts hreloads =>
    obtain ⟨hlt, -⟩ := before.assigned hp hmem hstarts
    exact ⟨Nat.lt_of_lt_of_le hlt hnext, turn.reloaded hl hreloads n⟩

/-! ## Where results come from -/

/-- The live runs and the results of a panel go back to moments of its past. -/
structure Panel.Recorded (past : List Moment) (p : Panel) : Prop where
  agrees : p.Agrees
  live : ∀ n run, p.ledger.live.get? n = some run → ∃ m ∈ past, m.Starts n run.target
  applied : ∀ target done, p.store.results.get? target = some done →
    ∃ m ∈ past, m.Applies done.id done.result
  started : ∀ target done, p.store.results.get? target = some done →
    ∃ m ∈ past, m.Starts done.id target
  behind : ∀ target done, p.store.results.get? target = some done → p.ledger.Behind target done.id

theorem Panel.new_recorded (config : PanelConfig) (channel : MemoryChannel) (now : Instant) :
    (new config channel now).Recorded [] where
  agrees := new_agrees config channel now
  live _ run h := by cases (show none = some run from h)
  applied _ done h := by cases (show none = some done from h)
  started _ done h := by cases (show none = some done from h)
  behind _ done h := by cases (show none = some done from h)

/-- A moment of the past is a moment of the past later on. -/
theorem exists_mem_append {past : List Moment} {P : Moment → Prop} (m : Moment)
    (h : ∃ m' ∈ past, P m') : ∃ m' ∈ past ++ [m], P m' := by
  obtain ⟨m', hm', hP⟩ := h
  exact ⟨m', List.mem_append_left _ hm', hP⟩

theorem Panel.Recorded.turn {past : List Moment} {p q : Panel} {cause : Cause}
    (h : p.Recorded past) (turn : Turn p cause q) : q.Recorded (past ++ [⟨p, cause, q⟩]) := by
  have hl := h.agrees.wellFormed
  have here : (⟨p, cause, q⟩ : Moment) ∈ past ++ [⟨p, cause, q⟩] := by simp
  refine ⟨h.agrees.turn turn, fun n run hlive => ?_, fun target done hget => ?_,
    fun target done hget => ?_, fun target done hget => ?_⟩
  · rcases turn.live_origin hl hlive with ⟨old, hold, htarget⟩ | hstarts
    · exact htarget ▸ exists_mem_append _ (h.live n old hold)
    · exact ⟨_, here, hstarts⟩
  · rcases turn.results_origin hl hget with hold | ⟨happlies, -⟩
    · exact exists_mem_append _ (h.applied target done hold)
    · exact ⟨_, here, happlies⟩
  · rcases turn.results_origin hl hget with hold | ⟨-, run, hlive, rfl, -⟩
    · exact exists_mem_append _ (h.started target done hold)
    · exact exists_mem_append _ (h.live done.id run hlive)
  · rcases turn.results_origin hl hget with hold | ⟨-, run, hlive, rfl, hledger⟩
    · exact (h.behind target done hold).turn hl turn
    · rw [hledger]
      exact (Ledger.over_of_remove hl hlive).2

/-- If no moment with a property is followed by another one, there is at most one. -/
theorem eq_of_not_later {history : List Moment} {P : Moment → Prop}
    (h : ∀ earlier m later, history = earlier ++ m :: later → P m → ∀ m' ∈ later, ¬P m')
    {a b : Moment} (ha : a ∈ history) (hb : b ∈ history) (hPa : P a) (hPb : P b) : a = b := by
  obtain ⟨earlier, later, rfl⟩ := List.append_of_mem ha
  rcases List.mem_append.1 hb with hearlier | hrest
  · obtain ⟨first, middle, rfl⟩ := List.append_of_mem hearlier
    refine absurd hPa (h first b (middle ++ a :: later) ?_ hPb a ?_)
    · rw [List.append_assoc, List.cons_append]
    · exact List.mem_append_right _ (.head _)
  · cases hrest with
    | head => rfl
    | tail _ hlater => exact absurd hPb (h earlier a later rfl hPa b hlater)

namespace Path

variable {p q : Panel} {moments : List Moment} {n : CorrelationId}

/-- The results that are applied for one run are one result. -/
theorem applies_unique (path : Path p moments q) (hp : p.Agrees) {m m' : Moment} (hm : m ∈ moments)
    (hm' : m' ∈ moments) {result result' : TestResult} (h : m.Applies n result)
    (h' : m'.Applies n result') : result' = result := by
  have hsame : m' = m := by
    refine eq_of_not_later (P := fun m => ∃ result, m.Applies n result) ?_ hm' hm ⟨_, h'⟩ ⟨_, h⟩
    rintro earlier m later rfl ⟨result, happlies⟩ m' hlater ⟨result', happlies'⟩
    obtain ⟨before, turn, after⟩ := path.split
    have hover := (Moment.Ends.answered happlies).over path hp
    exact after.not_applies ((before.agrees hp).turn turn) hover m' hlater result' happlies'
  subst hsame
  obtain ⟨message, text, hcause, -⟩ := h
  obtain ⟨message', text', hcause', -⟩ := h'
  cases hcause.symm.trans hcause'
  rfl

/-- The targets that one number is given to are one target. -/
theorem starts_unique (path : Path p moments q) (hp : p.Agrees) {m m' : Moment} (hm : m ∈ moments)
    (hm' : m' ∈ moments) {target target' : Target} (h : m.Starts n target)
    (h' : m'.Starts n target') : target' = target := by
  have hsame : m' = m := by
    refine eq_of_not_later (P := fun m => ∃ target, m.Starts n target) ?_ hm' hm ⟨_, h'⟩ ⟨_, h⟩
    rintro earlier m later rfl ⟨target, hstarts⟩ m' hlater ⟨target', hstarts'⟩
    obtain ⟨before, turn, after⟩ := path.split
    have hagrees := before.agrees hp
    have hlt := (turn.assigned hagrees.wellFormed hstarts).1
    exact after.not_starts (hagrees.turn turn) hlt m' hlater target' hstarts'
  subst hsame
  cases target
  cases target'
  cases h.symm.trans h'
  rfl

end Path

/-! ## Results that are set aside, results that are stored -/

namespace Moment

/-- A message is discarded, or ignored because the panel is in its error state. -/
def SetsAside (m : Moment) : Prop :=
  ∃ message, m.cause = .handled message .ignored ∨ ∃ reason, m.cause = .handled message (.discarded reason)

/-- A result takes its place under a target. -/
def Stores (m : Moment) (target : Target) (done : CompletedRun) : Prop :=
  m.before.store.results.get? target ≠ some done ∧ m.after.store.results.get? target = some done

end Moment

/-- A message that is set aside changes neither the results nor the pending runs. -/
theorem Turn.setAside {p q : Panel} {cause : Cause} (turn : Turn p cause q)
    (h : (⟨p, cause, q⟩ : Moment).SetsAside) :
    q.store.results = p.store.results ∧ q.store.pending = p.store.pending := by
  obtain ⟨mutations, ledger, heffect, hcontent, -⟩ := turn
  have hresults : q.store.results = _ := congrArg Content.results hcontent
  have hpending : q.store.pending = _ := congrArg Content.pending hcontent
  have keep (hscope : ∀ m ∈ mutations, .snapshot ∉ m.scope ∧ .runs ∉ m.scope ∧ m.completes = false) :
      q.store.results = p.store.results ∧ q.store.pending = p.store.pending := by
    rw [hresults, hpending]
    exact ⟨(Store.batch_results_of_scope _ (fun m hm => (hscope m hm).1) fun m hm => (hscope m hm).2.2).1,
      Store.batch_pending_of_scope _ fun m hm => (hscope m hm).2.1⟩
  obtain ⟨message, hcause | ⟨reason, hcause⟩⟩ := h
  · obtain rfl : cause = _ := hcause
    cases heffect with
    | idle => exact keep (by simp)
  · obtain rfl : cause = _ := hcause
    cases heffect with
    | idle => exact keep (by simp)
    | discarded => exact keep (by simp [Mutation.scope, Mutation.completes])

/-- The number of a stored result exceeds every number that was behind the target before. -/
theorem Turn.stores {p q : Panel} {cause : Cause} (hl : p.ledger.WellFormed) (turn : Turn p cause q)
    {target : Target} {done : CompletedRun} (h : (⟨p, cause, q⟩ : Moment).Stores target done) :
    (∀ n, p.ledger.Behind target n → n.number < done.id.number) ∧ q.ledger.Behind target done.id := by
  rcases turn.results_origin hl h.2 with hold | ⟨-, run, hlive, rfl, hledger⟩
  · exact absurd hold h.1
  · refine ⟨fun n hn => hn.2 done.id run hlive rfl, ?_⟩
    rw [hledger]
    exact (Ledger.over_of_remove hl hlive).2

theorem Path.stores_increasing {p q : Panel} {earlier later : List Moment} {m m' : Moment}
    (path : Path p (earlier ++ m :: later) q) (hp : p.Agrees) (hm' : m' ∈ later) {target : Target}
    {done done' : CompletedRun} (h : m.Stores target done) (h' : m'.Stores target done') :
    done.id.number < done'.id.number := by
  obtain ⟨before, turn, after⟩ := path.split
  have hagrees := before.agrees hp
  obtain ⟨middle, rest, rfl⟩ := List.append_of_mem hm'
  obtain ⟨between, turn', -⟩ := after.split
  -- what was stored first is behind the target from then on, and the second is the number of a live run
  have hbehind : m'.before.ledger.Behind target done.id :=
    between.stays Ledger.Behind.turn (hagrees.turn turn) (turn.stores hagrees.wellFormed h).2
  have hl' := (between.agrees (hagrees.turn turn)).wellFormed
  exact (turn'.stores hl' h').1 done.id hbehind

/-- A pending run has a greater number than the result of its target. -/
theorem Panel.Recorded.result_lt_pending {past : List Moment} {p : Panel} (h : p.Recorded past)
    {target : Target} {run : PendingRun} {done : CompletedRun}
    (hrun : p.store.pending.get? target = some run) (hdone : p.store.results.get? target = some done) :
    done.id.number < run.id.number := by
  rw [h.agrees.shown, Option.map_eq_some_iff] at hrun
  obtain ⟨intent, hlive, rfl⟩ := hrun
  obtain ⟨hget, htarget⟩ := (Ledger.liveIntent_eq_some_iff h.agrees.wellFormed).1 hlive
  exact (h.behind target done hdone).2 intent.id intent hget htarget

/-- **Results are applied once, in order, and never late.** In every session:

* once a run has ended, no result is applied for it, and a message that is set aside changes no run and no result;
* a result that is stored under a target is the one that was applied for its number, and that number was given to a run of
  this target and of no other;
* the numbers of the results that are stored under a target ascend, and the number of its pending run exceeds that of its
  result. -/
theorem results_applied_once_in_order (config : PanelConfig) (channel : MemoryChannel) (now : Instant)
    (ops : List Operation) :
    let history := (Panel.new config channel now).history ops
    let p := ((Panel.new config channel now).performAll ops).2
    ((∀ earlier m later n, history = earlier ++ m :: later → m.Ends earlier n →
        ∀ m' ∈ later, ∀ result, ¬m'.Applies n result)
      ∧ ∀ m ∈ history, m.SetsAside → m.after.store.results = m.before.store.results
          ∧ m.after.store.pending = m.before.store.pending)
    ∧ (∀ target n result, p.store.results.get? target = some ⟨n, result⟩ →
        ((∃ m ∈ history, m.Applies n result) ∧ ∀ m ∈ history, ∀ other, m.Applies n other → other = result)
        ∧ (∃ m ∈ history, m.Starts n target) ∧ ∀ m ∈ history, ∀ other, m.Starts n other → other = target)
    ∧ (∀ earlier m later, history = earlier ++ m :: later → ∀ m' ∈ later, ∀ target done done',
        m.Stores target done → m'.Stores target done' → done.id.number < done'.id.number)
    ∧ ∀ m ∈ history, ∀ target run done, m.after.store.pending.get? target = some run →
        m.after.store.results.get? target = some done → done.id.number < run.id.number := by
  intro history p
  have path : Path _ history p := Panel.history_path _ ops
  have hnew := Panel.new_recorded config channel now
  have recorded {moments : List Moment} {q : Panel} (path : Path _ moments q) : q.Recorded ([] ++ moments) :=
    path.invariant (fun _ _ _ _ h turn => Panel.Recorded.turn h turn) [] hnew
  refine ⟨⟨?_, ?_⟩, ?_, ?_, ?_⟩
  · intro earlier m later n hsplit hends
    rw [hsplit] at path
    obtain ⟨before, turn, after⟩ := path.split
    exact after.not_applies ((before.agrees hnew.agrees).turn turn) (hends.over path hnew.agrees)
  · intro m hm haside
    obtain ⟨earlier, later, hsplit⟩ := List.append_of_mem hm
    rw [hsplit] at path
    exact path.split.2.1.setAside haside
  · intro target n result hget
    obtain ⟨m, hm, happlies⟩ := (recorded path).applied target _ hget
    obtain ⟨m', hm', hstarts⟩ := (recorded path).started target _ hget
    exact ⟨⟨⟨m, hm, happlies⟩, fun _ hother _ h => path.applies_unique hnew.agrees hm hother happlies h⟩,
      ⟨m', hm', hstarts⟩, fun _ hother _ h => path.starts_unique hnew.agrees hm' hother hstarts h⟩
  · intro earlier m later hsplit m' hm' target done done' h h'
    rw [hsplit] at path
    exact path.stores_increasing hnew.agrees hm' h h'
  · intro m hm target run done hrun hdone
    obtain ⟨earlier, later, hsplit⟩ := List.append_of_mem hm
    rw [hsplit] at path
    obtain ⟨before, turn, -⟩ := path.split
    exact ((recorded before).turn turn).result_lt_pending hrun hdone

end PanelBridge
