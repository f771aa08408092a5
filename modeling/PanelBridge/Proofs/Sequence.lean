import PanelBridge.Proofs.Readiness

/-!
# The sequence number within a load

Events about the project carry sequence numbers and may arrive in any order. From one start of loading to the next, the
number that the panel shows does not fall:

* **`Moment.BeginsLoad`**: the panel begins to load. It shows no number then (`Turn.sequence_begins`).
* **`Turn.sequence_applied`, `Turn.sequence_kept`**: an event that is applied sets the number, which it does not lower; nothing
  else within a load changes it.
* **`Panel.InLoad`**: the number after some moments of a load is the latest that was applied, and the highest.
* **`Panel.ProjectOutcome`**: what becomes of an event about the project that can be read.
-/

namespace PanelBridge

namespace Moment

/-- The panel begins to load. -/
def BeginsLoad (m : Moment) : Prop :=
  m.before.store.readiness ≠ .loading ∧ m.after.store.readiness = .loading

/-- The sequence number of the event about the project that is applied, if one is. -/
def appliedSequence (m : Moment) : Option Nat :=
  match m.cause with
  | .handled _ (.applied event) => event.project?.map (·.1)
  | _ => none

theorem appliedSequence_eq_some {m : Moment} {sequence : Nat} (h : m.appliedSequence = some sequence) :
    ∃ message event project, m.cause = .handled message (.applied event)
      ∧ event.project? = some (sequence, project) := by
  unfold appliedSequence at h
  split at h
  · rename_i message event hcause
    obtain ⟨⟨_, project⟩, habout, rfl⟩ := Option.map_eq_some_iff.1 h
    exact ⟨message, event, project, hcause, habout⟩
  · cases h

end Moment

/-- A number that is shown goes on to be shown, and is not lowered. -/
def Rises (earlier later : Option Nat) : Prop := ∀ n, earlier = some n → ∃ k, later = some k ∧ n ≤ k

namespace Rises

variable {a b c : Option Nat}

theorem refl (a : Option Nat) : Rises a a := fun n hn => ⟨n, hn, Nat.le_refl n⟩

theorem trans (hab : Rises a b) (hbc : Rises b c) : Rises a c := by
  intro n hn
  obtain ⟨k, hk, hnk⟩ := hab n hn
  obtain ⟨l, hl, hkl⟩ := hbc k hk
  exact ⟨l, hl, Nat.le_trans hnk hkl⟩

end Rises

/-! ## One turn -/

namespace Turn

variable {p q : Panel} {cause : Cause}

theorem sequence_applied (turn : Turn p cause q) {n : Nat}
    (h : (⟨p, cause, q⟩ : Moment).appliedSequence = some n) :
    q.store.sequence = some n ∧ ∀ current, p.store.sequence = some current → current ≤ n := by
  obtain ⟨message, event, project, hcause, habout⟩ := Moment.appliedSequence_eq_some h
  obtain rfl : cause = _ := hcause
  have htakes := turn.takesProject habout
  exact ⟨htakes.sequence, htakes.notBehind⟩

theorem sequence_begins (turn : Turn p cause q) (hp : p.Coupled) (h : (⟨p, cause, q⟩ : Moment).BeginsLoad) :
    q.store.sequence = none := by
  have hnone : q.store.snapshot = none := (hp.turn turn).unloaded (.inr h.2)
  exact Store.sequence_of_none hnone

/-- A reload out of the error state begins a load. -/
theorem beginsLoad_of_reloads (turn : Turn p cause q) (h : (⟨p, cause, q⟩ : Moment).Reloads) :
    (⟨p, cause, q⟩ : Moment).BeginsLoad := by
  have hloading := (turn.startsOver h).readiness
  obtain ⟨report, fault, -, herror⟩ := h
  refine ⟨fun hp => ?_, hloading⟩
  cases herror.symm.trans hp

theorem sequence_kept (turn : Turn p cause q) (happlied : (⟨p, cause, q⟩ : Moment).appliedSequence = none)
    (hbegins : ¬(⟨p, cause, q⟩ : Moment).BeginsLoad) : q.store.sequence = p.store.sequence := by
  refine Store.sequence_of_part (turn.part_snapshot fun hredraws => ?_)
  rcases hredraws with ⟨message, event, hcause, hproject⟩ | hreloads
  · obtain rfl : cause = _ := hcause
    cases event with
    | ready | projectUpdated => cases happlied
    | diagnostics | testResult | hostError => exact hproject rfl
  · exact hbegins (turn.beginsLoad_of_reloads hreloads)

theorem sequence_rises (turn : Turn p cause q) (hbegins : ¬(⟨p, cause, q⟩ : Moment).BeginsLoad) :
    Rises p.store.sequence q.store.sequence := by
  cases happlied : (⟨p, cause, q⟩ : Moment).appliedSequence with
  | none =>
    rw [turn.sequence_kept happlied hbegins]
    exact .refl _
  | some n =>
    obtain ⟨hq, hle⟩ := turn.sequence_applied happlied
    exact fun current hcurrent => ⟨n, hq, hle current hcurrent⟩

end Turn

/-! ## Along a load -/

/-- The number after some moments of a load: the latest that was applied, not below any that was applied or shown. -/
structure Panel.InLoad (past : List Moment) (p : Panel) : Prop where
  latest : p.store.sequence = (past.filterMap Moment.appliedSequence).getLast?
  highest : ∀ n ∈ past.filterMap Moment.appliedSequence, Rises (some n) p.store.sequence
  reached : ∀ m ∈ past, Rises m.after.store.sequence p.store.sequence
  rising : (past.map (·.after.store.sequence)).Pairwise Rises

namespace Panel.InLoad

variable {p q : Panel} {cause : Cause} {past : List Moment}

theorem turn (h : p.InLoad past) (turn : Turn p cause q) (hbegins : ¬(⟨p, cause, q⟩ : Moment).BeginsLoad) :
    q.InLoad (past ++ [⟨p, cause, q⟩]) := by
  have hstep : Rises p.store.sequence q.store.sequence := turn.sequence_rises hbegins
  have happend : (past ++ [(⟨p, cause, q⟩ : Moment)]).filterMap Moment.appliedSequence =
      past.filterMap Moment.appliedSequence ++ (⟨p, cause, q⟩ : Moment).appliedSequence.toList := by
    rw [List.filterMap_append]
    cases happlied : (⟨p, cause, q⟩ : Moment).appliedSequence <;> simp [happlied]
  constructor
  · rw [happend]
    cases happlied : (⟨p, cause, q⟩ : Moment).appliedSequence with
    | none =>
      rw [Option.toList_none, List.append_nil, turn.sequence_kept happlied hbegins]
      exact h.latest
    | some n =>
      rw [(turn.sequence_applied happlied).1]
      simp
  · rw [happend]
    intro n hn
    rcases List.mem_append.1 hn with hn | hn
    · exact (h.highest n hn).trans hstep
    · rw [Option.mem_toList] at hn
      rw [(turn.sequence_applied hn).1]
      exact .refl _
  · intro m hm
    rcases List.mem_append.1 hm with hm | hm
    · exact (h.reached m hm).trans hstep
    · cases List.mem_singleton.1 hm
      exact .refl _
  · rw [List.map_append, List.pairwise_append]
    refine ⟨h.rising, List.pairwise_singleton .., ?_⟩
    intro a ha b hb
    obtain ⟨m, hm, rfl⟩ := List.mem_map.1 ha
    cases List.mem_singleton.1 hb
    exact (h.reached m hm).trans hstep

theorem max_eq (h : p.InLoad past) : p.store.sequence = (past.filterMap Moment.appliedSequence).max? := by
  rw [h.latest]
  cases hlast : (past.filterMap Moment.appliedSequence).getLast? with
  | none =>
    rw [List.getLast?_eq_none_iff.1 hlast]
    rfl
  | some n =>
    symm
    refine List.max?_eq_some_iff.2 ⟨List.mem_of_getLast? hlast, fun k hk => ?_⟩
    obtain ⟨current, hcurrent, hle⟩ := h.highest k hk k rfl
    rw [h.latest, hlast] at hcurrent
    cases hcurrent
    exact hle

end Panel.InLoad

theorem Path.inLoad {p q : Panel} {load : List Moment} (path : Path p load q) (hp : p.store.sequence = none)
    (hbegins : ∀ m ∈ load, ¬m.BeginsLoad) : q.InLoad load := by
  have hstart : p.InLoad [] := ⟨hp, by simp, by simp, .nil⟩
  refine path.invariant (I := fun past p => (∀ m ∈ past, ¬m.BeginsLoad) → p.InLoad past) ?_ [] (fun _ => hstart)
    (by simpa using hbegins)
  intro past p cause q h turn hpast
  have hearlier := h fun m hm => hpast m (List.mem_append_left _ hm)
  exact hearlier.turn turn (hpast _ (by simp))

/-- A path ends after its last moment. -/
theorem Path.end_eq {p q : Panel} {moments : List Moment} (path : Path p moments q) (start : Moment)
    (hstart : start.after = p) : (moments.getLastD start).after = q := by
  induction path generalizing start with
  | nil => exact hstart
  | cons _ _ ih =>
    rw [List.getLastD_cons]
    exact ih _ rfl

/-- Moments of a history that follow the start of a load, up to some point before the next start. -/
def LoadOf (history : List Moment) (start : Moment) (load : List Moment) : Prop :=
  ∃ earlier later, history = earlier ++ start :: (load ++ later) ∧ start.BeginsLoad ∧ ∀ m ∈ load, ¬m.BeginsLoad

theorem Path.loadOf {p q : Panel} {history : List Moment} (path : Path p history q) (hp : p.Coupled)
    {start : Moment} {load : List Moment} (h : LoadOf history start load) :
    (load.getLastD start).after.InLoad load := by
  obtain ⟨earlier, later, rfl, hbegins, hload⟩ := h
  obtain ⟨before, turn, after⟩ := path.split
  obtain ⟨r, within, -⟩ := after.divide
  rw [within.end_eq start rfl]
  exact within.inLoad (turn.sequence_begins (before.coupled hp) hbegins) hload

/-! ## What becomes of an event about the project -/

/-- The outcome of an event about the project at a store: behind what is shown, without a snapshot to be added to, or
applied. -/
structure ProjectOutcome (s : Store) (event : Event) (sequence : Nat) (project : ProjectPayload)
    (outcome : Outcome) : Prop where
  behind : ∀ incoming current, outcome = .discarded (.sequenceRegression incoming current)
    ↔ incoming = sequence ∧ s.sequence = some current ∧ sequence < current
  baseless : ∀ given, outcome = .discarded (.noBaseSnapshot given)
    ↔ given = some sequence ∧ project.incremental = true ∧ s.snapshot = none
  applied : outcome = .applied event
    ↔ (∀ current, s.sequence = some current → ¬sequence < current)
      ∧ ¬(project.incremental = true ∧ s.snapshot = none)

theorem ProjectOutcome.of_applied {s : Store} {event : Event} {sequence : Nat} {project : ProjectPayload}
    (hle : ∀ current, s.sequence = some current → current ≤ sequence)
    (hbase : ¬(project.incremental = true ∧ s.snapshot = none)) :
    ProjectOutcome s event sequence project (.applied event) where
  behind _ current := ⟨nofun, fun h => absurd h.2.2 (Nat.not_lt_of_le (hle current h.2.1))⟩
  baseless _ := ⟨nofun, fun h => absurd h.2 hbase⟩
  applied := ⟨fun _ => ⟨fun current h => Nat.not_lt_of_le (hle current h), hbase⟩, fun _ => rfl⟩

/-- A panel that is loading or ready does with an event about the project what is planned for it. -/
theorem Panel.handle_project (p : Panel) {m : Message} {event : Event} {sequence : Nat} {project : ProjectPayload}
    (hp : p.store.readiness = .loading ∨ p.store.readiness = .ready)
    (hdecode : m.decode p.dispatcher.maxMessageBytes = .ok event)
    (habout : event.project? = some (sequence, project)) :
    (p.handle m).1 =
      match Dispatcher.planProject p.store sequence project with
      | .commit _ => .applied event
      | .discard reason => .discarded reason
      | .fault fault => .faulted fault := by
  have hmounted : p.dispatcher.store.readiness ≠ .uninitialized := by
    rcases hp with hp | hp <;> exact fun h => by cases hp.symm.trans h
  have hplan : Dispatcher.plan p.dispatcher.store p.ledger event =
      (Dispatcher.planProject p.store sequence project, p.ledger) := by
    unfold Dispatcher.plan
    rw [if_neg hmounted]
    cases event with
    | ready | projectUpdated =>
      cases habout
      rfl
    | _ => cases habout
  rw [handle_fst]
  unfold Dispatcher.dispatch
  simp only [hdecode, hplan]
  split
  · rename_i fault herror
    rcases hp with hp | hp <;> cases hp.symm.trans herror
  · cases Dispatcher.planProject p.store sequence project <;> rfl

theorem Panel.projectOutcome (p : Panel) {m : Message} {event : Event} {sequence : Nat} {project : ProjectPayload}
    (hp : p.store.readiness = .loading ∨ p.store.readiness = .ready)
    (hdecode : m.decode p.dispatcher.maxMessageBytes = .ok event)
    (habout : event.project? = some (sequence, project)) :
    ProjectOutcome p.store event sequence project (p.handle m).1 := by
  rw [handle_project p hp hdecode habout]
  have hdecides := Dispatcher.planProject_decides p.store sequence project
  generalize Dispatcher.planProject p.store sequence project = plan at hdecides ⊢
  cases plan with
  | commit => exact .of_applied hdecides.notBehind fun h => hdecides.based h.1 h.2
  | fault => cases hdecides
  | discard reason =>
    cases hdecides with
    | behind hvisible hlt =>
      have hsnapshot : p.store.snapshot ≠ none := by
        intro hnone
        cases (Store.sequence_of_none hnone).symm.trans hvisible
      refine ⟨fun incoming current => ⟨?_, ?_⟩, fun given => ⟨?_, ?_⟩, ⟨?_, ?_⟩⟩
      · rintro ⟨⟩
        exact ⟨rfl, hvisible, hlt⟩
      · rintro ⟨rfl, hcurrent, -⟩
        cases hvisible.symm.trans hcurrent
        rfl
      · rintro ⟨⟩
      · exact fun h => absurd h.2.2 hsnapshot
      · rintro ⟨⟩
      · exact fun h => absurd hlt (h.1 _ hvisible)
    | baseless habsent hincremental =>
      have hnone : p.store.sequence = none := Store.sequence_of_none habsent
      refine ⟨fun incoming current => ⟨?_, ?_⟩, fun given => ⟨?_, ?_⟩, ⟨?_, ?_⟩⟩
      · rintro ⟨⟩
      · rintro ⟨-, hcurrent, -⟩
        cases hnone.symm.trans hcurrent
      · rintro ⟨⟩
        exact ⟨rfl, hincremental, habsent⟩
      · rintro ⟨rfl, -, -⟩
        rfl
      · rintro ⟨⟩
      · exact fun h => absurd ⟨hincremental, habsent⟩ h.2

/-- **The sequence number does not fall within a load, and this is how events are sorted out.** In every session, from the
moment at which the panel begins to load to any point before it begins again:

* the number that is shown goes on to be shown and is not lowered; it is the number of the event about the project that
  was applied last, and the highest of all that were applied;
* an event about the project that reaches a panel which is loading or ready is discarded as behind exactly if a greater
  number is shown, and as baseless exactly if it is an update and there is no snapshot; otherwise it is applied. -/
theorem sequence_rises_within_load (config : PanelConfig) (channel : MemoryChannel) (now : Instant)
    (ops : List Operation) :
    let history := (Panel.new config channel now).history ops
    (∀ start load, LoadOf history start load →
      let applied := load.filterMap Moment.appliedSequence
      let shown := (load.getLastD start).after.store.sequence
      (load.map (·.after.store.sequence)).Pairwise Rises ∧ shown = applied.getLast? ∧ shown = applied.max?)
    ∧ ∀ m ∈ history, ∀ message outcome event sequence project, m.cause = .handled message outcome →
        message.decode m.before.dispatcher.maxMessageBytes = .ok event →
        event.project? = some (sequence, project) →
        m.before.store.readiness = .loading ∨ m.before.store.readiness = .ready →
        ProjectOutcome m.before.store event sequence project outcome := by
  intro history
  have path : Path _ history _ := Panel.history_path _ ops
  constructor
  · intro start load hload
    have hinLoad := path.loadOf (Panel.new_coupled config channel now) hload
    exact ⟨hinLoad.rising, hinLoad.latest, hinLoad.max_eq⟩
  · intro m hm message outcome event sequence project hcause hdecode habout hready
    rw [Panel.history_handled _ ops hm hcause]
    exact m.before.projectOutcome hready hdecode habout

end PanelBridge
