import PanelBridge.Proofs.History

/-!
# The ledger stays consistent under all its moves

A ledger is a state machine of its own: six operations change it, and whoever owns it may call them in any order, with any
targets, ids, texts and times. Its two tables and its tombstones stay consistent all the same, and need to: an operation
that takes a run out clears the entry of the run's target without a look at the id it finds there.

* **`Ledger.Consistent`**: the tables are in step, ids start at one, and a tombstone is that of an earlier run that is not
  live. No run has two tombstones.
* **`Consistent.narrow`**: whatever only takes runs and tombstones away keeps a ledger consistent. A run that is retired
  (`retire_consistent`) and a run that is put in (`enterNext_consistent`) are the two other ways to change it.
* **`move_consistent`**, **`moveAll_consistent`**: so every move keeps it consistent, and so does every list of moves.
* **`Path.ledger_moves`**: along a session the ledger of a panel changes by such moves only.
-/

namespace PanelBridge

/-- Something that is done to a ledger. -/
inductive LedgerMove where
  | issueRun (target : Target) (now : Instant)
  | cancelRun (id : CorrelationId)
  | supersedeAll
  | admitResult (correlationId : String)
  | sweepStalled (now : Instant)
  | clear

/-- Whether a move hands out an id. -/
def LedgerMove.issues : LedgerMove → Bool
  | .issueRun .. => true
  | _ => false

/-- A log holds part of what it held before and its newest entry. -/
theorem pushRecent_sublist {α : Type} (capacity : Nat) (log : List α) (entry : α) :
    (pushRecent capacity log entry).Sublist (log ++ [entry]) :=
  List.drop_sublist _ _

namespace Ledger

/-- The ledger after a move. -/
def move (l : Ledger) : LedgerMove → Ledger
  | .issueRun target now => (l.issueRun target now).2
  | .cancelRun id => (l.cancelRun id).2
  | .supersedeAll => l.supersedeAll.2
  | .admitResult correlationId => (l.admitResult correlationId).2
  | .sweepStalled now => (l.sweepStalled now).2
  | .clear => l.clear

/-- The ledger after moves one after the other. -/
def moveAll (l : Ledger) (moves : List LedgerMove) : Ledger := moves.foldl move l

/-- The ids of the tombstones, oldest first. -/
def buried (l : Ledger) : List CorrelationId := l.tombstones.map (·.1)

/-- What holds of the tables and the tombstones of a ledger at all times. -/
structure Consistent (l : Ledger) : Prop extends WellFormed l where
  next_pos : 0 < l.nextNumber
  live_pos : ∀ id intent, l.live.get? id = some intent → 0 < id.number
  buried_pos : ∀ id ∈ l.buried, 0 < id.number
  buried_lt : ∀ id ∈ l.buried, id.number < l.nextNumber
  buried_not_live : ∀ id ∈ l.buried, l.live.get? id = none
  buried_nodup : l.buried.Nodup

theorem new_consistent (config : PanelConfig) : (new config).Consistent where
  toWellFormed := new_wellFormed config
  next_pos := Nat.one_pos
  live_pos := by intro id intent h; simp [new] at h
  buried_pos := by simp [new, buried]
  buried_lt := by simp [new, buried]
  buried_not_live := by simp [new, buried]
  buried_nodup := by simp [new, buried]

variable {l : Ledger}

/-! ## Taking runs and tombstones away -/

/-- **A ledger with fewer runs and fewer tombstones is consistent**, if its tables are in step. -/
theorem Consistent.narrow (h : l.Consistent) {l' : Ledger} (hl' : l'.WellFormed)
    (hnext : l.nextNumber ≤ l'.nextNumber)
    (hlive : ∀ id, l.live.get? id = none → l'.live.get? id = none)
    (hburied : l'.buried.Sublist l.buried) : l'.Consistent where
  toWellFormed := hl'
  next_pos := Nat.lt_of_lt_of_le h.next_pos hnext
  live_pos := by
    intro id intent hget
    cases hold : l.live.get? id with
    | none =>
      rw [hlive id hold] at hget
      cases hget
    | some old => exact h.live_pos id old hold
  buried_pos := fun id hid => h.buried_pos id (hburied.subset hid)
  buried_lt := fun id hid => Nat.lt_of_lt_of_le (h.buried_lt id (hburied.subset hid)) hnext
  buried_not_live := fun id hid => hlive id (h.buried_not_live id (hburied.subset hid))
  buried_nodup := h.buried_nodup.sublist hburied

theorem remove_consistent (h : l.Consistent) {intent : Intent}
    (hlive : l.live.get? intent.id = some intent) : (l.remove intent).Consistent := by
  refine h.narrow (remove_wellFormed h.toWellFormed hlive) (Nat.le_refl _) ?_ (List.Sublist.refl _)
  intro id hget
  rw [remove_live, hget, ite_self]

/-- A result leaves the ledger alone or takes a live run out. -/
theorem admitResult_snd (l : Ledger) (text : String) :
    (l.admitResult text).2 = l ∨ ∃ id run, l.live.get? id = some run ∧ (l.admitResult text).2 = l.remove run := by
  cases hadmission : l.admitResult text with
  | mk admission l' =>
    cases admission with
    | discard reason => exact .inl (admitResult_discard hadmission)
    | live intent =>
      obtain ⟨id, run, -, hlive, -, rfl⟩ := admitResult_live hadmission
      exact .inr ⟨id, run, hlive, rfl⟩

theorem admitResult_consistent (h : l.Consistent) (text : String) : (l.admitResult text).2.Consistent := by
  rcases admitResult_snd l text with heq | ⟨id, run, hlive, heq⟩
  · rw [heq]
    exact h
  · rw [heq]
    exact remove_consistent h (h.live_self hlive)

theorem sweepStalled_consistent (h : l.Consistent) (now : Instant) : (l.sweepStalled now).2.Consistent := by
  refine h.narrow (sweepStalled_wellFormed now h.toWellFormed) (Nat.le_refl _) ?_ (List.Sublist.refl _)
  intro id hget
  rw [sweepStalled_live, hget]
  rfl

theorem clear_consistent (h : l.Consistent) : l.clear.Consistent := by
  -- the tables are those of a new ledger, and the number goes on
  have hl' : l.clear.WellFormed := (new_wellFormed {}).of_tables rfl rfl h.next_pos
  exact h.narrow hl' (Nat.le_refl _) (fun id _ => Table.get?_empty id) (List.nil_sublist _)

/-! ## Retiring runs -/

/-- The tombstones after a run was retired are some of the old ones, and the one of this run. -/
theorem retire_buried (l : Ledger) (id : CorrelationId) (state : RunState) :
    (l.retire id state).2.buried.Sublist (l.buried ++ [id]) := by
  cases hlive : l.live.get? id with
  | none =>
    rw [retire_of_not_live hlive]
    exact List.sublist_append_left _ _
  | some intent =>
    rw [retire_of_live hlive]
    have hpush := (pushRecent_sublist l.tombstoneCapacity l.tombstones (id, state)).map (·.1)
    rw [List.map_append] at hpush
    exact hpush

/-- **A run that is retired gets its only tombstone.** It was live, so it had none before. -/
theorem retire_consistent (h : l.Consistent) (id : CorrelationId) (state : RunState) :
    (l.retire id state).2.Consistent := by
  cases hlive : l.live.get? id with
  | none => rw [retire_of_not_live hlive]; exact h
  | some intent =>
    have hburied := retire_buried l id state
    have hmem : ∀ n ∈ (l.retire id state).2.buried, n ∈ l.buried ∨ n = id := by
      intro n hn
      simpa using hburied.subset hn
    have hfresh : id ∉ l.buried := by
      intro hid
      rw [h.buried_not_live id hid] at hlive
      cases hlive
    refine ⟨retire_wellFormed h.toWellFormed id state, ?_, fun n i hget => ?_, fun n hn => ?_, fun n hn => ?_,
      fun n hn => ?_, ?_⟩
    · rw [retire_nextNumber]
      exact h.next_pos
    · rw [retire_live h.toWellFormed] at hget
      split at hget
      · cases hget
      · exact h.live_pos n i hget
    · rcases hmem n hn with hold | rfl
      · exact h.buried_pos n hold
      · exact h.live_pos n intent hlive
    · rw [retire_nextNumber]
      rcases hmem n hn with hold | rfl
      · exact h.buried_lt n hold
      · exact h.live_lt n intent hlive
    · rw [retire_live h.toWellFormed]
      split
      · rfl
      · rename_i hne
        exact h.buried_not_live n ((hmem n hn).resolve_right hne)
    · refine List.Nodup.sublist hburied (List.nodup_append.2 ⟨h.buried_nodup, by simp, ?_⟩)
      rintro n hn m hm rfl
      exact hfresh (List.mem_singleton.1 hm ▸ hn)

theorem retireAll_consistent (h : l.Consistent) (ids : List CorrelationId) : (l.retireAll ids).2.Consistent := by
  induction ids generalizing l with
  | nil => exact h
  | cons id rest ih =>
    rw [retireAll_cons]
    exact ih (retire_consistent h id .stale)

theorem cancelRun_snd (l : Ledger) (id : CorrelationId) : (l.cancelRun id).2 = (l.retire id .cancelled).2 := by
  unfold cancelRun
  cases l.retire id .cancelled with
  | mk retired l' => cases retired <;> rfl

/-! ## Starting a run -/

theorem vacate_consistent (h : l.Consistent) (target : Target) : (l.vacate target).2.Consistent := by
  rcases vacate_cases h.toWellFormed target with ⟨-, heq⟩ | ⟨id, intent, -, -, -, heq⟩
  · rw [heq]; exact h
  · rw [heq]; exact retire_consistent h id .stale

/-- The number of the next run plays no part in vacating a target. -/
theorem advance_vacate (l : Ledger) (target : Target) :
    (l.advance.vacate target).2 = (l.vacate target).2.advance := by
  unfold vacate
  cases hby : l.liveByTarget.get? target with
  | none => simp only [show l.advance.liveByTarget.get? target = _ from hby]
  | some previous =>
    simp only [show l.advance.liveByTarget.get? target = _ from hby]
    cases hlive : l.live.get? previous with
    | none => rw [retire_of_not_live hlive, retire_of_not_live (show l.advance.live.get? previous = _ from hlive)]
    | some intent =>
      rw [retire_of_live hlive, retire_of_live (show l.advance.live.get? previous = _ from hlive)]
      rfl

/-- **A run that is put in under the next number has neither a live namesake nor a tombstone.** All ids that were handed out
are below that number. -/
theorem enterNext_consistent (h : l.Consistent) {intent : Intent} (hid : intent.id = ⟨l.nextNumber⟩)
    (hl' : (l.advance.enter intent).WellFormed) : (l.advance.enter intent).Consistent where
  toWellFormed := hl'
  next_pos := Nat.succ_pos _
  live_pos := by
    intro id i hget
    rw [enter_live] at hget
    split at hget
    · rename_i heq
      rw [heq, hid]
      exact h.next_pos
    · exact h.live_pos id i hget
  buried_pos := h.buried_pos
  buried_lt := fun id hmem => Nat.lt_succ_of_lt (h.buried_lt id hmem)
  buried_not_live := by
    intro id hmem
    have hne : id ≠ intent.id := by
      rintro rfl
      have hlt := h.buried_lt intent.id hmem
      rw [hid] at hlt
      exact Nat.lt_irrefl _ hlt
    rw [enter_live, if_neg hne]
    exact h.buried_not_live id hmem
  buried_nodup := h.buried_nodup

theorem issueRun_consistent (h : l.Consistent) (target : Target) (now : Instant) :
    (l.issueRun target now).2.Consistent := by
  have hl' := issueRun_wellFormed h.toWellFormed target now
  rw [issueRun_snd, advance_vacate] at hl' ⊢
  refine enterNext_consistent (vacate_consistent h target) ?_ hl'
  rw [vacate_nextNumber h.toWellFormed]

/-! ## All moves -/

theorem move_consistent (h : l.Consistent) (m : LedgerMove) : (l.move m).Consistent := by
  cases m with
  | issueRun target now => exact issueRun_consistent h target now
  | cancelRun id =>
    show (l.cancelRun id).2.Consistent
    rw [cancelRun_snd]
    exact retire_consistent h id .cancelled
  | supersedeAll => exact retireAll_consistent h l.live.keys
  | admitResult text => exact admitResult_consistent h text
  | sweepStalled now => exact sweepStalled_consistent h now
  | clear => exact clear_consistent h

theorem moveAll_consistent (h : l.Consistent) (moves : List LedgerMove) : (l.moveAll moves).Consistent := by
  induction moves generalizing l with
  | nil => exact h
  | cons m rest ih => exact ih (move_consistent h m)

/-- Only a start takes a number, and it takes one. -/
theorem move_nextNumber (h : l.Consistent) (m : LedgerMove) :
    (l.move m).nextNumber = if m.issues then l.nextNumber + 1 else l.nextNumber := by
  cases m with
  | issueRun target now => exact issueRun_nextNumber h.toWellFormed target now
  | cancelRun id =>
    show (l.cancelRun id).2.nextNumber = l.nextNumber
    rw [cancelRun_snd, retire_nextNumber]
  | supersedeAll => exact retireAll_nextNumber l l.live.keys
  | admitResult text =>
    show (l.admitResult text).2.nextNumber = l.nextNumber
    rcases admitResult_snd l text with heq | ⟨id, run, -, heq⟩ <;> rw [heq]
    rfl
  | sweepStalled now => rfl
  | clear => rfl

/-- Numbers are not given back. -/
theorem nextNumber_le_move (h : l.Consistent) (m : LedgerMove) : l.nextNumber ≤ (l.move m).nextNumber := by
  rw [move_nextNumber h]
  split <;> omega

theorem moveAll_nextNumber (h : l.Consistent) (moves : List LedgerMove) :
    (l.moveAll moves).nextNumber = l.nextNumber + (moves.filter LedgerMove.issues).length := by
  induction moves generalizing l with
  | nil => rfl
  | cons m rest ih =>
    show ((l.move m).moveAll rest).nextNumber = _
    rw [ih (move_consistent h m), move_nextNumber h, List.filter_cons]
    split
    · rw [List.length_cons]
      omega
    · rfl

/-- What was set for a ledger when it was made: how many tombstones it keeps, and the stall timeout. -/
def settings (l : Ledger) : Nat × Nat := (l.tombstoneCapacity, l.stallSeconds)

theorem retire_settings (l : Ledger) (id : CorrelationId) (state : RunState) :
    (l.retire id state).2.settings = l.settings := by
  cases hlive : l.live.get? id with
  | none => rw [retire_of_not_live hlive]
  | some intent => rw [retire_of_live hlive]; rfl

theorem retireAll_settings (l : Ledger) (ids : List CorrelationId) : (l.retireAll ids).2.settings = l.settings := by
  induction ids generalizing l with
  | nil => rfl
  | cons id rest ih => rw [retireAll_cons, ih, retire_settings]

theorem vacate_settings (l : Ledger) (target : Target) : (l.vacate target).2.settings = l.settings := by
  unfold vacate
  split
  · exact retire_settings ..
  · rfl

/-- No move changes what was set. -/
theorem move_settings (l : Ledger) (m : LedgerMove) : (l.move m).settings = l.settings := by
  cases m with
  | issueRun target now => exact vacate_settings l.advance target
  | cancelRun id =>
    show (l.cancelRun id).2.settings = l.settings
    rw [cancelRun_snd, retire_settings]
  | supersedeAll => exact retireAll_settings l l.live.keys
  | admitResult text =>
    show (l.admitResult text).2.settings = l.settings
    rcases admitResult_snd l text with heq | ⟨id, run, -, heq⟩ <;> rw [heq]
    rfl
  | sweepStalled now => rfl
  | clear => rfl

theorem moveAll_settings (l : Ledger) (moves : List LedgerMove) : (l.moveAll moves).settings = l.settings := by
  induction moves generalizing l with
  | nil => rfl
  | cons m rest ih => exact (ih (l.move m)).trans (move_settings l m)

theorem moveAll_capacity (l : Ledger) (moves : List LedgerMove) :
    (l.moveAll moves).tombstoneCapacity = l.tombstoneCapacity :=
  congrArg Prod.fst (moveAll_settings l moves)

theorem moveAll_stallSeconds (l : Ledger) (moves : List LedgerMove) :
    (l.moveAll moves).stallSeconds = l.stallSeconds :=
  congrArg Prod.snd (moveAll_settings l moves)

end Ledger

/-- **The tables and the tombstones of a ledger are consistent at all times.** After any moves of a new ledger: a live run is
listed under its own id and is pending or stalled; the table by target is the inverse of the table by id, so that a
target has at most one live run, which is the one that is looked up for it; the ids of live runs and of tombstones are at
least one and below the next number, which counts the starts; no run is both live and buried, and none is buried twice. -/
theorem ledger_stays_consistent (config : PanelConfig) (moves : List LedgerMove) :
    let l := (Ledger.new config).moveAll moves
    (∀ id intent, l.live.get? id = some intent →
        intent.id = id ∧ (intent.state = .pending ∨ intent.state = .stalled))
      ∧ (∀ target id, l.liveByTarget.get? target = some id ↔
          ∃ intent, l.live.get? id = some intent ∧ intent.target = target)
      ∧ (∀ id id' intent intent', l.live.get? id = some intent → l.live.get? id' = some intent' →
          intent.target = intent'.target → id = id')
      ∧ (∀ target intent, l.liveIntent target = some intent ↔
          l.live.get? intent.id = some intent ∧ intent.target = target)
      ∧ (∀ id, (∃ intent, l.live.get? id = some intent) ∨ (∃ state, (id, state) ∈ l.tombstones) →
          1 ≤ id.number ∧ id.number < l.nextNumber)
      ∧ (∀ id state, (id, state) ∈ l.tombstones → l.live.get? id = none)
      ∧ (l.tombstones.map (·.1)).Nodup
      ∧ l.nextNumber = (moves.filter LedgerMove.issues).length + 1 := by
  intro l
  have hnew := Ledger.new_consistent config
  have h : l.Consistent := Ledger.moveAll_consistent hnew moves
  have hmem : ∀ id state, (id, state) ∈ l.tombstones → id ∈ l.buried :=
    fun id state ht => List.mem_map.2 ⟨(id, state), ht, rfl⟩
  refine ⟨fun id intent hget => ⟨h.live_id id intent hget, ?_⟩, h.byTarget_iff,
    fun id id' intent intent' => Ledger.live_unique h.toWellFormed,
    fun target intent => Ledger.liveIntent_eq_some_iff h.toWellFormed, ?_,
    fun id state ht => h.buried_not_live id (hmem id state ht), h.buried_nodup, ?_⟩
  · have hstate := h.live_state id intent hget
    cases hs : intent.state with
    | pending => exact .inl rfl
    | stalled => exact .inr rfl
    | cancelled | completed | stale => rw [hs] at hstate; cases hstate
  · rintro id (⟨intent, hget⟩ | ⟨state, ht⟩)
    · exact ⟨h.live_pos id intent hget, h.live_lt id intent hget⟩
    · exact ⟨h.buried_pos id (hmem id state ht), h.buried_lt id (hmem id state ht)⟩
  · show ((Ledger.new config).moveAll moves).nextNumber = _
    rw [Ledger.moveAll_nextNumber hnew, Nat.add_comm]
    rfl

/-! ## Along a session -/

theorem Effect.ledger_moves {p : Panel} {cause : Cause} {mutations : List Mutation} {ledger : Ledger}
    (effect : Effect p cause mutations ledger) : ∃ moves, ledger = p.ledger.moveAll moves := by
  cases effect with
  | started => exact ⟨[.issueRun _ _], rfl⟩
  | calledOff => exact ⟨[.cancelRun _], (Ledger.cancelRun_snd _ _).symm⟩
  | reloaded => exact ⟨[.supersedeAll], rfl⟩
  | ticked | tickedAt => exact ⟨[.sweepStalled _], rfl⟩
  | @answered _ text _ _ _ _ hid hlive =>
    refine ⟨[.admitResult text], ?_⟩
    show _ = (p.ledger.admitResult text).2
    rw [Ledger.admitResult_of_live hid hlive]
  | _ => exact ⟨[], rfl⟩

/-- **A panel changes its ledger by moves only.** -/
theorem Path.ledger_moves {p q : Panel} {moments : List Moment} (path : Path p moments q) :
    ∃ moves, q.ledger = p.ledger.moveAll moves := by
  refine path.invariant (I := fun _ r => ∃ moves, r.ledger = p.ledger.moveAll moves) ?_ [] ⟨[], rfl⟩
  rintro past r cause r' ⟨moves, hmoves⟩ ⟨mutations, ledger, heffect, -, hledger⟩
  obtain ⟨more, hmore⟩ := heffect.ledger_moves
  refine ⟨moves ++ more, ?_⟩
  rw [hledger, hmore, hmoves]
  exact List.foldl_append.symm

end PanelBridge
