import PanelBridge.Proofs.History

/-!
# The store shows the live runs

Runs are kept twice. The ledger has the live runs; the store has a pending run for each target that the user is shown. The
two change in different calls: the ledger first, then the store by a mutation that acts only on the run it names. Along
every session they agree:

* **`Panel.Agrees`**: the ledger is well formed, and the pending run of a target is the image of its live run.
* **`Agrees.turn`**: every turn keeps the agreement. One lemma for each way in which both sides move: a run is started,
  dropped, swept, or all runs go.
* **`pending_iff_live`**: at the end of every session, pending runs and live runs are the same.
-/

namespace PanelBridge

/-- What the store shows of a live run. -/
def Intent.pendingRun (intent : Intent) : PendingRun := ⟨intent.id, intent.state, intent.issuedAt⟩

/-- The pending runs are the image of the live runs. -/
def Ledger.ShownBy (l : Ledger) (pending : Table Target PendingRun) : Prop :=
  ∀ target, pending.get? target = (l.liveIntent target).map Intent.pendingRun

/-- The store shows exactly the live runs of the ledger. -/
structure Panel.Agrees (p : Panel) : Prop where
  wellFormed : p.ledger.WellFormed
  shown : p.ledger.ShownBy p.store.pending

namespace Ledger.ShownBy

variable {l : Ledger} {s : Store}

theorem live (h : l.ShownBy s.pending) (hl : l.WellFormed) {run : Intent}
    (hlive : l.live.get? run.id = some run) : s.pending.get? run.target = some run.pendingRun := by
  rw [h, (liveIntent_eq_some_iff hl).2 ⟨hlive, rfl⟩]
  rfl

/-- A run that leaves the ledger leaves the store, whatever state it ends in. -/
theorem drop (h : l.ShownBy s.pending) (hl : l.WellFormed) {run : Intent}
    (hlive : l.live.get? run.id = some run) (state : RunState) {l' : Ledger}
    (hl' : ∀ target, l'.liveIntent target = if target = run.target then none else l.liveIntent target) :
    l'.ShownBy (s.dropPending { run with state }) := by
  intro target
  rw [Store.dropPending_get?, hl']
  by_cases htarget : target = run.target
  · subst htarget
    rw [h.live hl hlive, if_pos rfl]
    simp [Option.filter_some, Intent.pendingRun]
  · rw [if_neg htarget, h]
    cases l.liveIntent target <;> simp [Option.filter_some, htarget]

/-- A run that is started takes the place of the live run of its target. -/
theorem start (h : l.ShownBy s.pending) (hl : l.WellFormed) (target : Target) (now : Instant) :
    (l.issueRun target now).2.ShownBy
      (s.batch ((l.issueRun target now).1.superseded.toList.map .runCleared
        ++ [.runPending ⟨⟨l.nextNumber⟩, target, .pending, now⟩])).1.pending := by
  intro t
  have hold : ∀ run ∈ (l.issueRun target now).1.superseded, run.target = target := by
    intro run hrun
    rw [issueRun_superseded hl, Option.mem_def, Option.map_eq_some_iff] at hrun
    obtain ⟨intent, hintent, rfl⟩ := hrun
    exact ((liveIntent_eq_some_iff hl).1 hintent).2
  rw [Store.batch_pending, Store.pending_replaced _ _ _ _ hold, liveIntent_issueRun hl, h]
  split <;> rfl

/-- A sweep marks a pending run exactly if it marks the live run. -/
theorem sweep (h : l.ShownBy s.pending) (hl : l.WellFormed) (now : Instant) :
    (l.sweepStalled now).2.ShownBy
      (s.batch ((l.sweepStalled now).1.map .runStalled)).1.pending := by
  intro target
  rw [Store.batch_pending, Store.pending_allStalled, liveIntent_sweepStalled, h]
  cases hlive : l.liveIntent target with
  | none => rfl
  | some run =>
    obtain ⟨hget, htarget⟩ := (liveIntent_eq_some_iff hl).1 hlive
    have hmarked : (∃ intent ∈ (l.sweepStalled now).1, intent.target = target ∧ intent.id = run.id)
        ↔ l.isOverdue now run = true := by
      constructor
      · rintro ⟨_, hmem, -, hid⟩
        obtain ⟨run', hrun', hoverdue, rfl⟩ := (mem_sweepStalled now).1 hmem
        -- the id names the run
        have hget' := (mem_intents_iff hl).1 hrun'
        rw [show run'.id = run.id from hid, hget] at hget'
        cases hget'
        exact hoverdue
      · intro hoverdue
        exact ⟨_, (mem_sweepStalled now).2 ⟨run, (mem_intents_iff hl).2 hget, hoverdue, rfl⟩, htarget, rfl⟩
    simp only [Option.map_some, Intent.pendingRun, hmarked, swept]
    split <;> rfl

end Ledger.ShownBy

/-! ## Along a session -/

/-- Every effect keeps the agreement: what it does to the ledger it also does to the pending runs. -/
theorem Panel.Agrees.effect {p : Panel} {cause : Cause} {mutations : List Mutation} {ledger : Ledger}
    (h : p.Agrees) (effect : Effect p cause mutations ledger) :
    ledger.WellFormed ∧ ledger.ShownBy (p.store.batch mutations).1.pending := by
  obtain ⟨hl, hs⟩ := h
  -- What is not about runs changes neither side.
  have keep {ms : List Mutation} (hruns : ∀ m ∈ ms, .runs ∉ m.scope) :
      p.ledger.WellFormed ∧ p.ledger.ShownBy (p.store.batch ms).1.pending := by
    rw [Store.batch_pending_of_scope _ hruns]
    exact ⟨hl, hs⟩
  cases effect with
  | idle => exact keep (by simp)
  | mounted | functionSelected | testCaseSelected | filtered | diagnosed | discarded | faulted =>
    exact keep (by simp [Mutation.scope])
  | projectChanged _ _ hplan => exact keep (Dispatcher.planProject_scope hplan)
  | started => exact ⟨Ledger.issueRun_wellFormed hl _ _, hs.start hl _ _⟩
  | ticked | tickedAt => exact ⟨Ledger.sweepStalled_wellFormed _ hl, hs.sweep hl _⟩
  | calledOff _ hlive =>
    refine ⟨Ledger.retire_wellFormed hl _ _, ?_⟩
    rw [Store.batch_pending_single, Store.pending_runCleared]
    exact hs.drop hl (hl.live_self hlive) _ (Ledger.liveIntent_retire hl hlive _)
  | answered _ _ hlive =>
    have hself := hl.live_self hlive
    refine ⟨Ledger.remove_wellFormed hl hself, ?_⟩
    rw [Store.batch_pending_single, Store.pending_runCompleted]
    exact hs.drop hl hself _ (Ledger.liveIntent_remove hl hself)
  | reloaded =>
    refine ⟨Ledger.supersedeAll_wellFormed hl, fun target => ?_⟩
    rw [Store.batch_pending, Store.applyAll_cons, Store.applyAll_cons,
      Store.applyAll_pending_of_scope _ _ (by simp [Mutation.scope]), Store.pending_clearPending,
      Ledger.liveIntent_supersedeAll hl]
    rfl

/-- Every turn keeps the agreement. -/
theorem Panel.Agrees.turn {p q : Panel} {cause : Cause} (h : p.Agrees) (turn : Turn p cause q) :
    q.Agrees := by
  obtain ⟨mutations, ledger, heffect, hcontent, hledger⟩ := turn
  obtain ⟨hl, hs⟩ := h.effect heffect
  have hpending : q.store.pending = (p.store.batch mutations).1.pending :=
    congrArg Content.pending hcontent
  exact ⟨hledger ▸ hl, by rw [hledger, hpending]; exact hs⟩

theorem Panel.new_agrees (config : PanelConfig) (channel : MemoryChannel) (now : Instant) :
    (new config channel now).Agrees :=
  ⟨Ledger.new_wellFormed config, fun _ => rfl⟩

/-- The agreement holds along every path. -/
theorem Path.agrees {p q : Panel} {moments : List Moment} (path : Path p moments q) (h : p.Agrees) :
    q.Agrees :=
  path.invariant (fun _ _ _ _ h turn => Panel.Agrees.turn h turn) [] h

/-- **The pending runs of the store are the live runs of the ledger.** At the end of every session, whatever the host sent
and whichever commands the channel refused, a target has a pending run exactly if the ledger has a live run of that
target with the same id, state and time of issue. A live run is pending or stalled. -/
theorem pending_iff_live (config : PanelConfig) (channel : MemoryChannel) (now : Instant)
    (ops : List Operation) :
    let p := ((Panel.new config channel now).performAll ops).2
    (∀ target id state issuedAt,
      p.store.pending.get? target = some ⟨id, state, issuedAt⟩
        ↔ ⟨id, target, state, issuedAt⟩ ∈ p.ledger.intents)
      ∧ ∀ run ∈ p.ledger.intents, run.state = .pending ∨ run.state = .stalled := by
  intro p
  obtain ⟨hl, hs⟩ := (Panel.history_path _ ops).agrees (Panel.new_agrees config channel now)
  constructor
  · intro target id state issuedAt
    rw [hs, Ledger.mem_intents_iff hl, Option.map_eq_some_iff]
    constructor
    · rintro ⟨⟨_, _, _, _⟩, hlive, ⟨⟩⟩
      obtain ⟨hget, rfl⟩ := (Ledger.liveIntent_eq_some_iff hl).1 hlive
      exact hget
    · intro hget
      exact ⟨_, (Ledger.liveIntent_eq_some_iff hl).2 ⟨hget, rfl⟩, rfl⟩
  · intro run hrun
    have hstate := hl.live_state _ run ((Ledger.mem_intents_iff hl).1 hrun)
    revert hstate
    cases run.state <;> simp [RunState.isLive]

end PanelBridge
