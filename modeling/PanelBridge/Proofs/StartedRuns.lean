import PanelBridge.Proofs.LedgerMoves
import PanelBridge.Proofs.OrphanedResults
import PanelBridge.Proofs.SentCommands
import PanelBridge.Proofs.Turns

/-!
# A run is started as a whole or not at all

To start a run, the panel writes a command with the number that the ledger would give next, sends it, and only then enters
the run in the ledger and in the store. So the command is made before there is a run, and what is entered afterwards has
to be the run that the host was told of.

* **`Panel.RunEnds`**: the four ways in which a call for a run ends, each with its condition. In three of them nothing but
  the attempts of the channel has changed.
* **`Ledger.issueRun_tombstones`**: what a start buries: the run that was live for the target, if there was one.
* **`Turn.started_status`**: what a start shows: the new run under its target, and everything else as it was.
-/

namespace PanelBridge

/-! ## What a start buries -/

/-- A log with room for an entry ends with the newest one. -/
theorem pushRecent_eq_concat {α : Type} {capacity : Nat} (hroom : 0 < capacity) (log : List α) (entry : α) :
    ∃ kept, pushRecent capacity log entry = kept ++ [entry] := by
  refine ⟨log.drop (log.length + 1 - capacity), ?_⟩
  rw [pushRecent, recent, List.length_append, List.length_singleton]
  exact List.drop_append_of_le_length (by omega)

namespace Ledger

variable {l : Ledger}

/-- A start buries the run that it replaces, and nothing else. -/
theorem issueRun_tombstones (h : l.WellFormed) (target : Target) (now : Instant) :
    (l.issueRun target now).2.tombstones =
      match l.liveIntent target with
      | some old => pushRecent l.tombstoneCapacity l.tombstones (old.id, .stale)
      | none => l.tombstones := by
  rw [issueRun_snd, advance_vacate]
  show (l.vacate target).2.tombstones = _
  rcases vacate_cases h target with ⟨hnone, heq⟩ | ⟨id, old, hlive, -, hsome, heq⟩
  · rw [heq, hnone]
  · rw [heq, hsome]
    simp only [retire_of_live hlive, h.live_id id old hlive]

/-- **The run that a start replaces is remembered as replaced**, if the ledger remembers any. -/
theorem issueRun_buries (h : l.WellFormed) {target : Target} {old : Intent} (hold : l.liveIntent target = some old)
    (now : Instant) (hroom : 0 < l.tombstoneCapacity) :
    (old.id, .stale) ∈ (l.issueRun target now).2.tombstones
      ∧ (l.issueRun target now).2.tombstoneState old.id = some .stale := by
  have htombstones := issueRun_tombstones h target now
  rw [hold] at htombstones
  obtain ⟨kept, hkept⟩ := pushRecent_eq_concat hroom l.tombstones (old.id, RunState.stale)
  have heq : (l.issueRun target now).2.tombstones = kept ++ [(old.id, .stale)] := htombstones.trans hkept
  constructor
  · simp [heq]
  · -- the newest tombstone is the first one that is looked at
    simp [tombstoneState, heq]

/-- The run that a start replaces is not live any more. -/
theorem issueRun_replaces (h : l.WellFormed) {target : Target} {old : Intent} (hold : l.liveIntent target = some old)
    (now : Instant) : (l.issueRun target now).2.live.get? old.id = none := by
  obtain ⟨hlive, htarget⟩ := (liveIntent_eq_some_iff h).1 hold
  have hne : old.id ≠ ⟨l.nextNumber⟩ := by
    intro heq
    have hlt := h.live_lt old.id old hlive
    rw [heq] at hlt
    exact Nat.lt_irrefl _ hlt
  rw [issueRun_live h, if_neg hne, hlive]
  simp [Option.filter_some, htarget]

end Ledger

/-! ## What a start shows -/

/-- How a target stands depends on its pending run and its result only. -/
theorem Store.runStatus_congr {s t : Store} {target : Target} (hpending : s.pending.get? target = t.pending.get? target)
    (hresults : s.results = t.results) : s.runStatus target = t.runStatus target := by
  rw [runStatus, runStatus, hpending, hresults]

section Started

variable {p q : Panel} {cause : Cause} {n : CorrelationId} {target : Target} (turn : Turn p cause q)
  (hstarts : (⟨p, cause, q⟩ : Moment).Starts n target)
include turn hstarts

theorem Turn.started_results : q.store.results = p.store.results := by
  have hcause : cause = _ := hstarts
  subst hcause
  refine (turn.kept ?_ ?_).1
  · rintro (⟨_, _, hhandled, -⟩ | ⟨_, _, hreloaded, -⟩)
    · cases hhandled
    · cases hreloaded
  · rintro _ _ ⟨_, _, hhandled, -⟩
    cases hhandled

/-- **After a start the new run is shown under its target, and the other targets stand as before.** -/
theorem Turn.started_status (h : p.Agrees) (t : Target) :
    q.store.runStatus t = if t = target then .pending n else p.store.runStatus t := by
  obtain ⟨hn, hledger, -⟩ := turn.started hstarts
  have hpending : q.store.pending.get? t =
      if t = target then some ⟨n, .pending, p.now⟩ else p.store.pending.get? t := by
    -- what is shown is the image of the live runs, before and after
    rw [(h.turn turn).shown t, h.shown t, hledger, Ledger.liveIntent_issueRun h.wellFormed, hn]
    split <;> rfl
  split
  · rename_i ht
    rw [if_pos ht] at hpending
    rw [Store.runStatus, hpending]
  · rename_i ht
    rw [if_neg ht] at hpending
    exact Store.runStatus_congr hpending (turn.started_results hstarts)

end Started

/-! ## How a call for a run ends -/

namespace Panel

/-- The line with which the next run of a target would be asked for. -/
def runLine (p : Panel) (target : Target) : String := (p.ledger.prepareRun target).line

/-- The reason for which the channel would refuse to ask for a run of a target. -/
def runRefusal (p : Panel) (target : Target) : Option String :=
  p.transport.channel.refusal p.transport.channel.attempts (p.runLine target)

/-- How a call for a run ends: what it gives back and the panel that it leaves. -/
inductive RunEnds (p : Panel) (target : Target) : Except ActionError CorrelationId → Panel → Prop where
  | notReady (unready : p.store.readiness.isReady = false) : RunEnds p target (.error .notReady) p
  | unknown (ready : p.store.readiness.isReady = true)
      (unknown : p.store.hasTestCase target.function target.testCase = false) :
      RunEnds p target (.error (.unknownTarget target.function target.testCase)) p
  | refused (ready : p.store.readiness.isReady = true)
      (known : p.store.hasTestCase target.function target.testCase = true) {reason : String}
      (refusal : p.runRefusal target = some reason) :
      RunEnds p target (.error (.transport (.channelClosed reason)))
        { p with transport := p.transport.refused (p.runLine target) }
  | started (ready : p.store.readiness.isReady = true)
      (known : p.store.hasTestCase target.function target.testCase = true)
      (taken : p.runRefusal target = none) {q : Panel} (transport : q.transport = p.transport.taken (p.runLine target)) :
      RunEnds p target (.ok ⟨p.ledger.nextNumber⟩) q

theorem runTest_ends (p : Panel) (target : Target) :
    p.RunEnds target (p.runTest target.function target.testCase).1 (p.runTest target.function target.testCase).2 := by
  unfold runTest
  cases hready : p.store.readiness.isReady with
  | false => exact .notReady hready
  | true =>
    cases hknown : p.store.hasTestCase target.function target.testCase with
    | false => exact .unknown hready hknown
    | true =>
      cases hrefusal : p.runRefusal target with
      | some reason =>
        have hsend : p.send (p.ledger.prepareRun target) =
            (.error (.transport (.channelClosed reason)), { p with transport := p.transport.refused (p.runLine target) }) := by
          rw [send, Transport.send_of_refused hrefusal]
          rfl
        simp only [hsend]
        exact .refused hready hknown hrefusal
      | none =>
        have hsend : p.send (p.ledger.prepareRun target) =
            (.ok (), { p with transport := p.transport.taken (p.runLine target) }) := by
          rw [send, Transport.send_of_taken hrefusal]
          rfl
        simp only [hsend]
        exact .started hready hknown hrefusal rfl

/-- A call has come to nothing: store, ledger and queue are as before, the host has got no line, and neither subscribers nor
listeners were called. -/
structure Untouched (p q : Panel) : Prop where
  store : q.store = p.store
  ledger : q.ledger = p.ledger
  inbound : q.transport.inbound = p.transport.inbound
  sentCount : q.transport.sentCount = p.transport.sentCount
  lines : q.transport.channel.lines = p.transport.channel.lines
  journal : q.journal = p.journal

theorem Untouched.refl (p : Panel) : p.Untouched p := ⟨rfl, rfl, rfl, rfl, rfl, rfl⟩

namespace RunEnds

variable {p q : Panel} {target : Target} {result : Except ActionError CorrelationId}

/-- A run is started exactly if the panel is ready, knows the test case, and the channel takes the command. -/
theorem ok_iff (h : p.RunEnds target result q) :
    (∃ id, result = .ok id) ↔ p.store.readiness.isReady = true
      ∧ p.store.hasTestCase target.function target.testCase = true ∧ p.runRefusal target = none := by
  cases h with
  | notReady unready => simp [unready]
  | unknown _ unknown => simp [unknown]
  | refused _ _ refusal => simp [refusal]
  | started ready known taken => simp [ready, known, taken]

/-- **A call that fails leaves everything as it was**, and offers a line only if it fails for the refusal of that line. -/
theorem untouched {e : ActionError} (h : p.RunEnds target (.error e) q) :
    p.Untouched q
      ∧ ((e = .notReady ∨ e = .unknownTarget target.function target.testCase)
            ∧ q.transport.channel.attempts = p.transport.channel.attempts
          ∨ (∃ reason, e = .transport (.channelClosed reason))
            ∧ q.transport.channel.attempts = p.transport.channel.attempts ++ [p.runLine target]) := by
  cases h with
  | notReady => exact ⟨.refl p, .inl ⟨.inl rfl, rfl⟩⟩
  | unknown => exact ⟨.refl p, .inl ⟨.inr rfl, rfl⟩⟩
  | @refused _ _ reason => exact ⟨⟨rfl, rfl, rfl, rfl, rfl, rfl⟩, .inr ⟨⟨reason, rfl⟩, rfl⟩⟩

/-- A call that goes well has the channel take one line, the command with the next number. -/
theorem posted {id : CorrelationId} (h : p.RunEnds target (.ok id) q) :
    q.transport = p.transport.taken (p.runLine target) := by
  cases h with
  | started _ _ _ htransport => exact htransport

end RunEnds

end Panel

/-- **A run is started as a whole or not at all.** At the end of every session, whatever the channel does, a call for a run goes
well exactly if the panel is ready, knows the test case, and the channel takes the command.

If it fails, it says why, and store, ledger, queue, count and lines are as before and nobody was called; the channel was
offered a command only if it refused that command. If it goes well, the id is the next number, which moves on, the channel
has taken the command that the ledger gives for the run it enters, the new run is the live one of its target, a run that was
live there before is now remembered as replaced (if any run is remembered), the target is shown as pending with the new id,
and all other targets, in the ledger and in the store, and all results are as before. -/
theorem run_started_whole_or_not (config : PanelConfig) (channel : MemoryChannel) (now : Instant)
    (operations : List Operation) (function testCase : String) :
    let p := ((Panel.new config channel now).performAll operations).2
    let target : Target := ⟨function, testCase⟩
    let issued := p.ledger.issueRun target p.now
    let result := (p.runTest function testCase).1
    let q := (p.runTest function testCase).2
    ((∃ id, result = .ok id) ↔
        p.store.readiness.isReady = true ∧ p.store.hasTestCase function testCase = true
          ∧ p.transport.channel.refusal p.transport.channel.attempts issued.1.command.line = none)
      ∧ (∀ e, result = .error e →
          p.Untouched q
            ∧ ((e = .notReady ∨ e = .unknownTarget function testCase)
                  ∧ q.transport.channel.attempts = p.transport.channel.attempts
                ∨ (∃ reason, e = .transport (.channelClosed reason))
                  ∧ q.transport.channel.attempts = p.transport.channel.attempts ++ [issued.1.command.line]))
      ∧ (∀ id, result = .ok id →
          id = ⟨p.ledger.nextNumber⟩ ∧ issued.1.intent.id = id
            ∧ issued.1.command = .runTest id.text function testCase
            ∧ q.transport.channel.lines = p.transport.channel.lines ++ [issued.1.command.line]
            ∧ q.transport.channel.attempts = p.transport.channel.attempts ++ [issued.1.command.line]
            ∧ q.transport.sentCount = p.transport.sentCount + 1
            ∧ q.ledger = issued.2
            ∧ q.ledger.nextNumber = p.ledger.nextNumber + 1
            ∧ q.ledger.liveIntent target = some ⟨id, target, .pending, p.now⟩
            ∧ (∀ other, other ≠ target → q.ledger.liveIntent other = p.ledger.liveIntent other)
            ∧ (∀ old, p.ledger.liveIntent target = some old →
                q.ledger.live.get? old.id = none
                  ∧ (0 < config.tombstoneCapacity →
                    (old.id, .stale) ∈ q.ledger.tombstones ∧ q.ledger.stateOf old.id = some .stale))
            ∧ q.store.runStatus target = .pending id
            ∧ (∀ other, other ≠ target → q.store.runStatus other = p.store.runStatus other)
            ∧ q.store.results = p.store.results) := by
  intro p target issued result q
  have hpath := Panel.history_path (Panel.new config channel now) operations
  have hagrees : p.Agrees := hpath.agrees (Panel.new_agrees config channel now)
  have hends : p.RunEnds target result q := p.runTest_ends target
  have hturn := p.runTest_turn function testCase
  refine ⟨hends.ok_iff, fun e he => (he ▸ hends).untouched, fun id hid => ?_⟩
  have hstarts : (⟨p, .operated (.act (.runTest function testCase)) (.started result), q⟩ : Moment).Starts id target := by
    rw [hid]
    rfl
  obtain ⟨hnext, hledger, -⟩ := hturn.started hstarts
  have htransport := (hid ▸ hends).posted
  have hlive (t : Target) : q.ledger.liveIntent t =
      if t = target then some ⟨id, target, .pending, p.now⟩ else p.ledger.liveIntent t := by
    rw [hledger, hnext, Ledger.liveIntent_issueRun hagrees.wellFormed]
  have hnumber : q.ledger.nextNumber = p.ledger.nextNumber + 1 := by
    rw [hledger, Ledger.issueRun_nextNumber hagrees.wellFormed]
  refine ⟨hnext, hnext.symm, by rw [hnext]; rfl, congrArg (·.channel.lines) htransport,
    congrArg (·.channel.attempts) htransport, congrArg (·.sentCount) htransport, hledger, hnumber, ?_, fun other hother => ?_,
    fun old hold => ?_, ?_, ?_, hturn.started_results hstarts⟩
  · rw [hlive, if_pos rfl]
  · rw [hlive, if_neg hother]
  · have hgone : q.ledger.live.get? old.id = none := by
      rw [hledger]
      exact Ledger.issueRun_replaces hagrees.wellFormed hold p.now
    refine ⟨hgone, fun hroom => ?_⟩
    -- the ledger keeps as many tombstones as the panel was set up with
    obtain ⟨moves, hmoves⟩ := hpath.ledger_moves
    have hcapacity : p.ledger.tombstoneCapacity = config.tombstoneCapacity := by
      rw [hmoves, Ledger.moveAll_capacity]
      rfl
    obtain ⟨hburied, hstate⟩ := Ledger.issueRun_buries hagrees.wellFormed hold p.now (hcapacity ▸ hroom)
    rw [Ledger.stateOf, hgone, hledger]
    exact ⟨hburied, hstate⟩
  · rw [hturn.started_status hstarts hagrees, if_pos rfl]
  · intro other hother
    rw [hturn.started_status hstarts hagrees, if_neg hother]

/-- A test case is run, and its run stays live. -/
def liveSession : List Operation := [.mount, .deliver (projectMessage .ready 1 "f1" "c1"), .act (.runTest "f1" "c1")]

/-- Run again, the test case has the second run as its live one, and the first is remembered as replaced. -/
theorem second_run_replaces_first :
    let p := ((Panel.new {} .accepting ⟨1700000000, 0⟩).performAll liveSession).2
    let q := (p.runTest "f1" "c1").2
    p.ledger.liveIntent ⟨"f1", "c1"⟩ = some ⟨⟨1⟩, ⟨"f1", "c1"⟩, .pending, ⟨1700000000, 0⟩⟩
      ∧ (p.runTest "f1" "c1").1 = .ok ⟨2⟩
      ∧ q.ledger.liveIntent ⟨"f1", "c1"⟩ = some ⟨⟨2⟩, ⟨"f1", "c1"⟩, .pending, p.now⟩
      ∧ q.ledger.nextNumber = p.ledger.nextNumber + 1
      ∧ q.ledger.live.get? ⟨1⟩ = none ∧ q.ledger.stateOf ⟨1⟩ = some .stale
      ∧ q.store.runStatus ⟨"f1", "c1"⟩ = .pending ⟨2⟩ := by
  have hfacts :
      let p := ((Panel.new {} .accepting ⟨1700000000, 0⟩).performAll liveSession).2
      p.ledger.liveIntent ⟨"f1", "c1"⟩ = some ⟨⟨1⟩, ⟨"f1", "c1"⟩, .pending, ⟨1700000000, 0⟩⟩
        ∧ (p.runTest "f1" "c1").1 = .ok ⟨2⟩ := by
    decide +kernel
  have hwhole := run_started_whole_or_not {} .accepting ⟨1700000000, 0⟩ liveSession "f1" "c1"
  -- the panel need not be looked into any more
  generalize ((Panel.new {} .accepting ⟨1700000000, 0⟩).performAll liveSession).2 = p at hfacts hwhole ⊢
  obtain ⟨hfirst, hsecond⟩ := hfacts
  obtain ⟨-, -, -, -, -, -, -, hnumber, hlive, -, hreplaced, hshown, -⟩ := hwhole.2.2 ⟨2⟩ hsecond
  obtain ⟨hgone, hburied⟩ := hreplaced _ hfirst
  exact ⟨hfirst, hsecond, hlive, hnumber, hgone, (hburied (by decide)).2, hshown⟩

end PanelBridge
