import PanelBridge.Proofs.StaleResults
import PanelBridge.Proofs.StallSweeps
import PanelBridge.Proofs.StartedRuns

/-!
# Tombstones are the last retirements

A live run is retired when it is called off or replaced. The ledger has room for a few tombstones only, and forgets the oldest
ones. This module sets them beside a history that forgets nothing:

* **`Ledger.retirements`**: the runs that a move retires, said by the live runs before the move. **`Ledger.retiredAll`**: the
  history of all retirements since the ledger was last cleared.
* **`Remembers`**: the tombstones are the last entries of a history in which no run occurs twice and none is live. A move adds
  its retirements to the history (`Remembers.move`), and so do all moves one after the other (`Remembers.moveAll`).
* **`admitResult_late`**: so the history tells what becomes of a result that comes too late.
* **`RunState.Leads`**: the order in which a run goes through its states. No move leads back (`Remembers.leads`).
-/

namespace PanelBridge

namespace RunState

/-- How far a run has come, by what is known of it: it is pending, stalled, ended without a result, or not known. -/
def stage : Option RunState → Nat
  | some .pending => 0
  | some .stalled => 1
  | some _ => 2
  | none => 3

/-- What is known of a run may stay as it is or go on to a later stage. -/
def Leads (known later : Option RunState) : Prop := known = later ∨ stage known < stage later

theorem Leads.trans {a b c : Option RunState} (hab : Leads a b) (hbc : Leads b c) : Leads a c := by
  rcases hab with rfl | hab
  · exact hbc
  · rcases hbc with rfl | hbc
    · exact .inr hab
    · exact .inr (Nat.lt_trans hab hbc)

theorem stage_of_isLive {state : RunState} (h : state.isLive = true) : stage (some state) < 2 := by
  cases state with
  | pending | stalled => decide
  | cancelled | completed | stale => cases h

theorem leads_none (known : Option RunState) : Leads known none := by
  cases known with
  | none => exact .inl rfl
  | some state => exact .inr (by cases state <;> decide)

/-- A live run that was not pending is not pending later. -/
theorem leads_of_isLive {known later : RunState} (hknown : known.isLive = true) (hlater : later.isLive = true)
    (h : later = .pending → known = .pending) : Leads (some known) (some later) := by
  cases later with
  | pending => exact .inl (congrArg some (h rfl))
  | stalled =>
    cases known with
    | pending => exact .inr (by decide)
    | stalled => exact .inl rfl
    | cancelled | completed | stale => cases hknown
  | cancelled | completed | stale => cases hlater

end RunState

namespace Ledger

variable {l : Ledger}

/-! ## The history -/

/-- The runs that a move retires, in order, and how: the live run that is called off, the live run of a target that is run
again, or all live runs, by their ids. -/
def retirements (l : Ledger) : LedgerMove → List (CorrelationId × RunState)
  | .cancelRun id => (l.live.get? id).toList.map fun _ => (id, .cancelled)
  | .issueRun target _ => (l.liveIntent target).toList.map fun run => (run.id, .stale)
  | .supersedeAll => l.live.keys.map (·, .stale)
  | .admitResult _ | .sweepStalled _ | .clear => []

/-- The history after a move, if `past` was the history before it. -/
def retiredBy (l : Ledger) (past : List (CorrelationId × RunState)) : LedgerMove → List (CorrelationId × RunState)
  | .clear => []
  | m => past ++ l.retirements m

/-- The history after moves one after the other. -/
def retiredAll (l : Ledger) (past : List (CorrelationId × RunState)) : List LedgerMove → List (CorrelationId × RunState)
  | [] => past
  | m :: rest => (l.move m).retiredAll (l.retiredBy past m) rest

theorem retiredAll_append (l : Ledger) (past : List (CorrelationId × RunState)) (earlier later : List LedgerMove) :
    l.retiredAll past (earlier ++ later) = (l.moveAll earlier).retiredAll (l.retiredAll past earlier) later := by
  induction earlier generalizing l past with
  | nil => rfl
  | cons m rest ih => exact ih (l.move m) (l.retiredBy past m)

theorem mem_retiredBy {past : List (CorrelationId × RunState)} {m : LedgerMove} {t : CorrelationId × RunState}
    (h : t ∈ l.retiredBy past m) : t ∈ past ∨ t ∈ l.retirements m := by
  cases m with
  | clear => cases h
  | _ => exact List.mem_append.1 h

theorem mem_retirements (h : l.WellFormed) {m : LedgerMove} {t : CorrelationId × RunState} (ht : t ∈ l.retirements m) :
    l.live.get? t.1 ≠ none ∧ (t.2 = .cancelled ∨ t.2 = .stale) := by
  cases m with
  | cancelRun id =>
    obtain ⟨run, hrun, rfl⟩ := List.mem_map.1 ht
    exact ⟨Option.ne_none_iff_exists'.2 ⟨run, Option.mem_toList.1 hrun⟩, .inl rfl⟩
  | issueRun target now =>
    obtain ⟨run, hrun, rfl⟩ := List.mem_map.1 ht
    have hlive := ((liveIntent_eq_some_iff h).1 (Option.mem_toList.1 hrun)).1
    exact ⟨Option.ne_none_iff_exists'.2 ⟨run, hlive⟩, .inr rfl⟩
  | supersedeAll =>
    obtain ⟨id, hid, rfl⟩ := List.mem_map.1 ht
    exact ⟨Option.ne_none_iff_exists'.2 (Table.mem_keys_iff.1 hid), .inr rfl⟩
  | admitResult | sweepStalled | clear => cases ht

theorem keys_nodup (l : Ledger) : l.live.keys.Nodup := by
  refine List.pairwise_map.2 (l.live.ascending.imp fun {a b} hlt heq => ?_)
  rw [heq, Std.ReflOrd.compare_self] at hlt
  cases hlt

/-- A move retires no run twice. -/
theorem retirements_nodup (l : Ledger) (m : LedgerMove) : ((l.retirements m).map (·.1)).Nodup := by
  cases m with
  | cancelRun id =>
    show (((l.live.get? id).toList.map _).map Prod.fst).Nodup
    cases l.live.get? id with
    | none => exact List.nodup_nil
    | some run => exact List.nodup_singleton id
  | issueRun target now =>
    show (((l.liveIntent target).toList.map _).map Prod.fst).Nodup
    cases l.liveIntent target with
    | none => exact List.nodup_nil
    | some run => exact List.nodup_singleton run.id
  | supersedeAll =>
    show ((l.live.keys.map (·, RunState.stale)).map (·.1)).Nodup
    rw [List.map_map]
    exact (List.map_id l.live.keys).symm ▸ l.keys_nodup
  | admitResult | sweepStalled | clear => exact List.nodup_nil

/-- A run that a move retires is not live after the move. -/
theorem retired_not_live (h : l.WellFormed) {m : LedgerMove} {t : CorrelationId × RunState} (ht : t ∈ l.retirements m) :
    (l.move m).live.get? t.1 = none := by
  cases m with
  | cancelRun id =>
    obtain ⟨run, -, rfl⟩ := List.mem_map.1 ht
    show (l.cancelRun id).2.live.get? id = none
    rw [cancelRun_snd, retire_live h, if_pos rfl]
  | issueRun target now =>
    obtain ⟨run, hrun, rfl⟩ := List.mem_map.1 ht
    exact issueRun_replaces h (Option.mem_toList.1 hrun) now
  | supersedeAll => exact supersedeAll_live h t.1
  | admitResult | sweepStalled | clear => cases ht

/-- A run that is over stays so. -/
theorem Over.move {n : CorrelationId} (hn : l.Over n) (h : l.Consistent) (m : LedgerMove) : (l.move m).Over n := by
  refine ⟨Nat.lt_of_lt_of_le hn.1 (nextNumber_le_move h m), Option.eq_none_iff_forall_ne_some.2 fun run hlive => ?_⟩
  rcases move_live_origin h.toWellFormed hlive with ⟨old, hold, -⟩ | ⟨rfl, -⟩
  · rw [hn.2] at hold
    cases hold
  · exact Nat.lt_irrefl _ hn.1

/-- A run that is over is retired no more. -/
theorem Over.not_mem_retiredAll {n : CorrelationId} (hn : l.Over n) (h : l.Consistent)
    {past : List (CorrelationId × RunState)} (hpast : ∀ state, (n, state) ∉ past) (moves : List LedgerMove) :
    (l.moveAll moves).Over n ∧ ∀ state, (n, state) ∉ l.retiredAll past moves := by
  induction moves generalizing l past with
  | nil => exact ⟨hn, hpast⟩
  | cons m rest ih =>
    refine ih (hn.move h m) (move_consistent h m) fun state hmem => ?_
    rcases mem_retiredBy hmem with hmem | hmem
    · exact hpast state hmem
    · exact (mem_retirements h.toWellFormed hmem).1 hn.2

/-! ## The tombstones and the history -/

theorem move_capacity (l : Ledger) (m : LedgerMove) : (l.move m).tombstoneCapacity = l.tombstoneCapacity :=
  moveAll_capacity l [m]

/-- A run that is retired is buried behind those that were retired before it. -/
theorem retire_tombstones {past : List (CorrelationId × RunState)} (hpast : l.tombstones = recent l.tombstoneCapacity past)
    {id : CorrelationId} (hlive : l.live.get? id ≠ none) (state : RunState) :
    (l.retire id state).2.tombstones = recent l.tombstoneCapacity (past ++ [(id, state)]) := by
  obtain ⟨run, hrun⟩ := Option.ne_none_iff_exists'.1 hlive
  rw [retire_of_live hrun, ← pushRecent_recent, ← hpast]

/-- Runs that are retired one after the other are buried in that order, even if there are more of them than tombstones are
kept. -/
theorem retireAll_tombstones (h : l.WellFormed) {past : List (CorrelationId × RunState)}
    (hpast : l.tombstones = recent l.tombstoneCapacity past) {ids : List CorrelationId}
    (hlive : ∀ id ∈ ids, l.live.get? id ≠ none) (hnodup : ids.Nodup) :
    (l.retireAll ids).2.tombstones = recent l.tombstoneCapacity (past ++ ids.map (·, .stale)) := by
  induction ids generalizing l past with
  | nil =>
    rw [List.map_nil, List.append_nil]
    exact hpast
  | cons id rest ih =>
    obtain ⟨hid, hrest⟩ := List.nodup_cons.1 hnodup
    have hcapacity : (l.retire id .stale).2.tombstoneCapacity = l.tombstoneCapacity :=
      congrArg Prod.fst (retire_settings l id .stale)
    have hburied := retire_tombstones hpast (hlive id (.head _)) .stale
    have hstays : ∀ n ∈ rest, (l.retire id .stale).2.live.get? n ≠ none := by
      intro n hn
      have hne : n ≠ id := fun heq => hid (heq ▸ hn)
      rw [retire_live h, if_neg hne]
      exact hlive n (.tail _ hn)
    rw [retireAll_cons, ih (retire_wellFormed h id .stale) (hcapacity ▸ hburied) hstays hrest, hcapacity, List.append_assoc]
    rfl

/-- The tombstones are the last entries of a history, as many as are kept. No run was retired twice, and none that was
retired is live. -/
structure Remembers (l : Ledger) (past : List (CorrelationId × RunState)) : Prop where
  tombstones_eq : l.tombstones = recent l.tombstoneCapacity past
  ended : ∀ t ∈ past, t.2 = .cancelled ∨ t.2 = .stale
  allOver : ∀ t ∈ past, l.Over t.1
  nodup : (past.map (·.1)).Nodup

theorem new_remembers (config : PanelConfig) : (new config).Remembers [] where
  tombstones_eq := List.drop_nil.symm
  ended := by simp
  allOver := by simp
  nodup := List.nodup_nil

theorem move_tombstones (h : l.WellFormed) {past : List (CorrelationId × RunState)}
    (hpast : l.tombstones = recent l.tombstoneCapacity past) (m : LedgerMove) :
    (l.move m).tombstones = recent l.tombstoneCapacity (l.retiredBy past m) := by
  have kept : l.tombstones = recent l.tombstoneCapacity (past ++ []) := by
    rw [List.append_nil]
    exact hpast
  cases m with
  | issueRun target now =>
    show (l.issueRun target now).2.tombstones = recent _ (past ++ (l.liveIntent target).toList.map _)
    rw [issueRun_tombstones h]
    cases l.liveIntent target with
    | none => exact kept
    | some old =>
      simp only [hpast]
      exact pushRecent_recent ..
  | cancelRun id =>
    show (l.cancelRun id).2.tombstones = recent _ (past ++ (l.live.get? id).toList.map _)
    rw [cancelRun_snd]
    cases hlive : l.live.get? id with
    | none =>
      rw [retire_of_not_live hlive]
      exact kept
    | some run => exact retire_tombstones hpast (by rw [hlive]; exact Option.some_ne_none run) .cancelled
  | supersedeAll =>
    exact retireAll_tombstones h hpast (fun id hid => Option.ne_none_iff_exists'.2 (Table.mem_keys_iff.1 hid)) l.keys_nodup
  | admitResult text =>
    show (l.admitResult text).2.tombstones = _
    rcases admitResult_snd l text with heq | ⟨id, run, -, heq⟩
    · rw [heq]
      exact kept
    · rw [heq]
      exact kept
  | sweepStalled now => exact kept
  | clear => exact List.drop_nil.symm

/-- **A move adds the runs that it retires to the history**, and the tombstones follow. -/
theorem Remembers.move {past : List (CorrelationId × RunState)} (hpast : l.Remembers past) (h : l.Consistent)
    (m : LedgerMove) : (l.move m).Remembers (l.retiredBy past m) where
  tombstones_eq := by
    rw [move_capacity]
    exact move_tombstones h.toWellFormed hpast.tombstones_eq m
  ended := by
    intro t ht
    rcases mem_retiredBy ht with ht | ht
    · exact hpast.ended t ht
    · exact (mem_retirements h.toWellFormed ht).2
  allOver := by
    intro t ht
    rcases mem_retiredBy ht with ht | ht
    · exact (hpast.allOver t ht).move h m
    · obtain ⟨run, hlive⟩ := Option.ne_none_iff_exists'.1 (mem_retirements h.toWellFormed ht).1
      have hissued : t.1.number < (l.move m).nextNumber :=
        Nat.lt_of_lt_of_le (h.live_lt t.1 run hlive) (nextNumber_le_move h m)
      exact ⟨hissued, retired_not_live h.toWellFormed ht⟩
  nodup := by
    cases m with
    | clear => exact List.nodup_nil
    | _ =>
      show ((past ++ _).map (·.1)).Nodup
      rw [List.map_append]
      refine List.nodup_append.2 ⟨hpast.nodup, l.retirements_nodup _, ?_⟩
      rintro n hn _ hn' rfl
      obtain ⟨t, ht, rfl⟩ := List.mem_map.1 hn
      obtain ⟨t', ht', heq⟩ := List.mem_map.1 hn'
      -- what was retired before is not live, and only live runs are retired
      have hlive := (mem_retirements h.toWellFormed ht').1
      rw [heq] at hlive
      exact hlive (hpast.allOver t ht).2

theorem Remembers.moveAll {past : List (CorrelationId × RunState)} (hpast : l.Remembers past) (h : l.Consistent)
    (moves : List LedgerMove) : (l.moveAll moves).Remembers (l.retiredAll past moves) := by
  induction moves generalizing l past with
  | nil => exact hpast
  | cons m rest ih => exact ih (hpast.move h m) (move_consistent h m)

/-- **A run whose result has come is not retired**, neither before nor after that. -/
theorem Remembers.completed {past : List (CorrelationId × RunState)} (hpast : l.Remembers past) (h : l.Consistent)
    {text : String} {run : Intent} (hcompleted : (l.admitResult text).1 = .live run) (later : List LedgerMove) :
    (l.moveAll (.admitResult text :: later)).Over run.id
      ∧ ∀ state, (run.id, state) ∉ l.retiredAll past (.admitResult text :: later) := by
  cases hadmission : l.admitResult text with
  | mk admission left =>
    rw [hadmission] at hcompleted
    obtain rfl : admission = .live run := hcompleted
    obtain ⟨id, old, -, hlive, rfl, rfl⟩ := admitResult_live hadmission
    have hleft : l.move (.admitResult text) = l.remove old := congrArg Prod.snd hadmission
    have hover : (l.move (.admitResult text)).Over old.id := hleft ▸ (over_of_remove h.toWellFormed (h.live_self hlive)).1
    refine hover.not_mem_retiredAll (move_consistent h _) (fun state hmem => ?_) later
    -- it was live until then
    rcases mem_retiredBy hmem with hmem | hmem
    · have hself := h.live_self hlive
      rw [(hpast.allOver _ hmem).2] at hself
      cases hself
    · cases hmem

/-! ## What becomes of a late result -/

/-- No run has two tombstones, so the most recent one is the only one. -/
theorem tombstoneState_eq_some_iff (h : l.Consistent) {id : CorrelationId} {state : RunState} :
    l.tombstoneState id = some state ↔ (id, state) ∈ l.tombstones := by
  unfold tombstoneState
  rw [Option.map_eq_some_iff]
  constructor
  · rintro ⟨t, ht, rfl⟩
    have hid := List.find?_some ht
    rw [beq_iff_eq] at hid
    have hmem := List.mem_reverse.1 (List.mem_of_find?_eq_some ht)
    rw [← hid]
    exact hmem
  · intro hmem
    cases hfind : l.tombstones.reverse.find? fun t => t.1 == id with
    | none =>
      have hno := List.find?_eq_none.1 hfind (id, state) (List.mem_reverse.2 hmem)
      simp at hno
    | some t =>
      have hid := List.find?_some hfind
      rw [beq_iff_eq] at hid
      have ht := List.mem_reverse.1 (List.mem_of_find?_eq_some hfind)
      have heq : t = (id, state) := List.inj_on_of_nodup_map h.buried_nodup ht hmem hid
      exact ⟨t, rfl, by rw [heq]⟩

/-- **The tombstones tell what becomes of a result that comes too late.** -/
theorem admitResult_late (h : l.Consistent) {text : String} {id : CorrelationId} (htext : CorrelationId.ofText? text = some id)
    (hlive : l.live.get? id = none) (hended : ∀ t ∈ l.tombstones, t.2 = .cancelled ∨ t.2 = .stale) :
    ((l.admitResult text).1 = .discard (.cancelled id.text) ↔ (id, .cancelled) ∈ l.tombstones)
      ∧ ((l.admitResult text).1 = .discard (.superseded id.text) ↔ (id, .stale) ∈ l.tombstones)
      ∧ ((l.admitResult text).1 = .discard (.unknownCorrelation text) ↔ ∀ state, (id, state) ∉ l.tombstones) := by
  rw [admitResult_of_not_live htext hlive]
  simp only [← tombstoneState_eq_some_iff h]
  cases hstate : l.tombstoneState id with
  | none => simp [DiscardReason.ofTombstone]
  | some state =>
    rcases hended _ ((tombstoneState_eq_some_iff h).1 hstate) with rfl | rfl
    · simp [DiscardReason.ofTombstone]
    · simp [DiscardReason.ofTombstone]

/-! ## What is known of a run -/

theorem Remembers.ended_of_tombstone {past : List (CorrelationId × RunState)} (hpast : l.Remembers past) :
    ∀ t ∈ l.tombstones, t.2 = .cancelled ∨ t.2 = .stale := by
  intro t ht
  rw [hpast.tombstones_eq] at ht
  exact hpast.ended t (List.mem_of_mem_drop ht)

/-- A tombstone after a move was there before, or it is that of a run that was live. -/
theorem Remembers.tombstone_origin {past : List (CorrelationId × RunState)} (hpast : l.Remembers past) (h : l.Consistent)
    {m : LedgerMove} {t : CorrelationId × RunState} (ht : t ∈ (l.move m).tombstones) :
    t ∈ l.tombstones ∨ l.live.get? t.1 ≠ none := by
  have hfull : l.tombstones = recent l.tombstoneCapacity l.tombstones := by
    have hlength := length_recent l.tombstoneCapacity past
    rw [← hpast.tombstones_eq] at hlength
    rw [recent, Nat.sub_eq_zero_of_le (hlength ▸ Nat.min_le_left ..), List.drop_zero]
  -- what is kept already is history enough
  rw [move_tombstones h.toWellFormed hfull] at ht
  rcases mem_retiredBy (List.mem_of_mem_drop ht) with ht | ht
  · exact .inl ht
  · exact .inr (mem_retirements h.toWellFormed ht).1

theorem stateOf_of_live {n : CorrelationId} {run : Intent} (hlive : l.live.get? n = some run) : l.stateOf n = some run.state := by
  rw [stateOf, hlive]

theorem stateOf_of_not_live {n : CorrelationId} (hlive : l.live.get? n = none) : l.stateOf n = l.tombstoneState n := by
  rw [stateOf, hlive]

/-- **No move leads a run back to an earlier state.** -/
theorem Remembers.leads {past : List (CorrelationId × RunState)} (hpast : l.Remembers past) (h : l.Consistent)
    {n : CorrelationId} (hn : n.number < l.nextNumber) (m : LedgerMove) :
    RunState.Leads (l.stateOf n) ((l.move m).stateOf n) := by
  have hnext := move_consistent h m
  cases hlater : (l.move m).live.get? n with
  | some run =>
    rcases move_live_origin h.toWellFormed hlater with ⟨old, hold, -, hpending⟩ | ⟨rfl, -⟩
    · rw [stateOf_of_live hlater, stateOf_of_live hold]
      exact RunState.leads_of_isLive (h.live_state n old hold) (hnext.live_state n run hlater) hpending
    · exact absurd hn (Nat.lt_irrefl _)
  | none =>
    rw [stateOf_of_not_live hlater]
    cases hstate : (l.move m).tombstoneState n with
    | none => exact RunState.leads_none _
    | some state =>
      have hburied := (tombstoneState_eq_some_iff hnext).1 hstate
      rcases hpast.tombstone_origin h hburied with hold | hlive
      · have hover : l.live.get? n = none := h.buried_not_live n (List.mem_map.2 ⟨_, hold, rfl⟩)
        rw [stateOf_of_not_live hover, (tombstoneState_eq_some_iff h).2 hold]
        exact .inl rfl
      · -- the move has retired a live run
        obtain ⟨old, hold⟩ := Option.ne_none_iff_exists'.1 hlive
        have hstage : RunState.stage (some state) = 2 := by
          rcases (hpast.move h m).ended_of_tombstone _ hburied with rfl | rfl <;> rfl
        rw [stateOf_of_live hold]
        exact .inr (hstage ▸ RunState.stage_of_isLive (h.live_state n old hold))

theorem Remembers.leads_moveAll {past : List (CorrelationId × RunState)} (hpast : l.Remembers past) (h : l.Consistent)
    {n : CorrelationId} (hn : n.number < l.nextNumber) (moves : List LedgerMove) :
    RunState.Leads (l.stateOf n) ((l.moveAll moves).stateOf n) := by
  induction moves generalizing l past with
  | nil => exact .inl rfl
  | cons m rest ih =>
    have hissued : n.number < (l.move m).nextNumber := Nat.lt_of_lt_of_le hn (nextNumber_le_move h m)
    exact (hpast.leads h hn m).trans (ih (hpast.move h m) (move_consistent h m) hissued)

theorem Remembers.stateOf_ne_completed {past : List (CorrelationId × RunState)} (hpast : l.Remembers past) (h : l.Consistent)
    (n : CorrelationId) : l.stateOf n ≠ some .completed := by
  intro hstate
  cases hlive : l.live.get? n with
  | some run =>
    rw [stateOf_of_live hlive] at hstate
    have hisLive := h.live_state n run hlive
    rw [Option.some.inj hstate] at hisLive
    cases hisLive
  | none =>
    rw [stateOf_of_not_live hlive, tombstoneState_eq_some_iff h] at hstate
    rcases hpast.ended_of_tombstone _ hstate with heq | heq <;> cases heq

end Ledger

/-- **Tombstones are exactly the last retirements.** Take any moves of a new ledger, and the history of the runs that were
called off or replaced since it was made or last cleared.

* The tombstones are the last entries of the history, in order, as many as are kept or as there are. No run is in the history
  twice.
* A result for a run that is not live is set aside as called off or as replaced exactly if the run is among these last entries,
  with what became of it there, and as unknown otherwise. A number that was not given out yet is in no history, and
  neither is a run whose result has come.
* A run begins as pending. From then on it may become stalled, then called off or replaced, then unknown. It may skip any of
  these and never goes back. -/
theorem tombstones_are_last_retirements (config : PanelConfig) (moves : List LedgerMove) :
    let l := (Ledger.new config).moveAll moves
    let history := (Ledger.new config).retiredAll [] moves
    let last := recent config.tombstoneCapacity history
    (l.tombstones = last ∧ last <:+ history ∧ last.length = min config.tombstoneCapacity history.length
        ∧ (history.map (·.1)).Nodup)
      ∧ (∀ (text : String) (id : CorrelationId), CorrelationId.ofText? text = some id → l.live.get? id = none →
          ((l.admitResult text).1 = .discard (.cancelled id.text) ↔ (id, .cancelled) ∈ last)
            ∧ ((l.admitResult text).1 = .discard (.superseded id.text) ↔ (id, .stale) ∈ last)
            ∧ ((l.admitResult text).1 = .discard (.unknownCorrelation text) ↔ ∀ state, (id, state) ∉ last))
      ∧ (∀ id : CorrelationId, l.nextNumber ≤ id.number → l.live.get? id = none ∧ ∀ state, (id, state) ∉ history)
      ∧ (∀ earlier later text run, moves = earlier ++ .admitResult text :: later →
          (((Ledger.new config).moveAll earlier).admitResult text).1 = .live run →
          l.live.get? run.id = none ∧ ∀ state, (run.id, state) ∉ history)
      ∧ (∀ target now, (l.issueRun target now).2.stateOf ⟨l.nextNumber⟩ = some .pending)
      ∧ (∀ (id : CorrelationId) (more : List LedgerMove), id.number < l.nextNumber →
          RunState.Leads (l.stateOf id) ((l.moveAll more).stateOf id))
      ∧ ∀ id, l.stateOf id ≠ some .completed := by
  intro l history last
  have hnew := Ledger.new_consistent config
  have h : l.Consistent := Ledger.moveAll_consistent hnew moves
  have hpast : l.Remembers history := (Ledger.new_remembers config).moveAll hnew moves
  have hlast : l.tombstones = last := by
    have hcapacity : l.tombstoneCapacity = config.tombstoneCapacity := Ledger.moveAll_capacity (.new config) moves
    exact hpast.tombstones_eq.trans (congrArg (recent · history) hcapacity)
  refine ⟨⟨hlast, List.drop_suffix .., length_recent .., hpast.nodup⟩, fun text id htext hlive => ?_,
    fun id hid => ⟨?_, fun state hmem => ?_⟩, fun earlier later text run hmoves hcompleted => ?_, fun target now => ?_,
    fun id more hid => hpast.leads_moveAll h hid more, hpast.stateOf_ne_completed h⟩
  · rw [← hlast]
    exact Ledger.admitResult_late h htext hlive hpast.ended_of_tombstone
  · cases hlive : l.live.get? id with
    | none => rfl
    | some run => exact absurd (h.live_lt id run hlive) (Nat.not_lt.2 hid)
  · exact absurd (hpast.allOver _ hmem).1 (Nat.not_lt.2 hid)
  · have hearlier := Ledger.moveAll_consistent hnew earlier
    have hbefore := (Ledger.new_remembers config).moveAll hnew earlier
    obtain ⟨hover, hnever⟩ := hbefore.completed hearlier hcompleted later
    rw [← Ledger.retiredAll_append, ← hmoves] at hnever
    rw [Ledger.moveAll, Ledger.moveAll, ← List.foldl_append, ← hmoves] at hover
    exact ⟨hover.2, hnever⟩
  · rw [Ledger.stateOf, Ledger.issueRun_live h.toWellFormed, if_pos rfl]

end PanelBridge
