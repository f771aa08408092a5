import PanelBridge.Proofs.LedgerMoves

/-!
# Sweeps for stalled runs

A sweep looks at every live run and marks the pending ones that have waited too long. The clock it goes by may be set to any
time, also backwards, and a run may carry a time of issue that is still to come.

* **`Instant.elapsed_of_not_leap`**: leap seconds apart, the time between two instants is the difference of their places on one
  line, so that a later sweep finds every run overdue that an earlier one did (`isOverdue_mono`).
* **`move_live_origin`**: what a move can do to a live run. No move makes a run pending that was not.
* **`Spent`**: a run that no sweep gives back any more. It stays so under all moves (`Spent.move`), and a sweep makes every run so
  that it gives back; hence no run is given back twice (`marksAll_nodup`).
* **`sweepStalled_after`**, **`sweepStalled_split`**: a sweep after an earlier one leaves what it would have left alone, and the
  two share out the runs between them.
-/

namespace PanelBridge

/-! ## Instants on a line -/

namespace Instant

/-- Instants are ordered by their seconds, then by their nanoseconds. -/
instance : LE Instant := ⟨fun t u => t.seconds < u.seconds ∨ t.seconds = u.seconds ∧ t.nanos ≤ u.nanos⟩

/-- The nanoseconds from 1970-01-01T00:00:00 to an instant outside leap seconds. -/
def place (t : Instant) : Int := t.seconds * nanosPerSecond + t.nanos

/-- A number of seconds as a span of time in nanoseconds. There is no span whose milliseconds do not fit in 63 bits. -/
def span? (seconds : Nat) : Option Int :=
  if seconds * 1000 ≤ Nat.pow 2 63 - 1 then some (seconds * nanosPerSecond) else none

variable {t u : Instant}

theorem nanos_lt (h : t.isLeap = false) : t.nanos < nanosPerSecond := by
  simpa [isLeap] using h

theorem elapsed_of_not_leap (ht : t.isLeap = false) (hu : u.isLeap = false) : elapsed t u = t.place - u.place := by
  have hleap : leapBetween t u = 0 := by simp [leapBetween, ht, hu]
  unfold elapsed place
  rw [hleap]
  simp only [nanosPerSecond]
  omega

theorem place_le (ht : t.isLeap = false) (h : t ≤ u) : t.place ≤ u.place := by
  have hnanos := nanos_lt ht
  unfold place
  simp only [nanosPerSecond] at hnanos ⊢
  rcases h with hseconds | ⟨hseconds, hle⟩
  · omega
  · omega

end Instant

/-- The time of the clock that a move goes by. -/
def LedgerMove.time? : LedgerMove → Option Instant
  | .issueRun _ now | .sweepStalled now => some now
  | _ => none

/-- The run, marked as stalled. -/
def Intent.stalled (run : Intent) : Intent := { run with state := .stalled }

namespace Ledger

variable {l : Ledger}

/-! ## One sweep -/

/-- A pending run that was issued a span of time ago, or longer. -/
def Overdue (timeout : Int) (now : Instant) (run : Intent) : Prop :=
  run.state = .pending ∧ timeout ≤ now.place - run.issuedAt.place

instance (timeout : Int) (now : Instant) (run : Intent) : Decidable (Overdue timeout now run) :=
  inferInstanceAs (Decidable (_ ∧ _))

theorem isOverdue_iff {now : Instant} {run : Intent} (hnow : now.isLeap = false) (hrun : run.issuedAt.isLeap = false) :
    l.isOverdue now run = true ↔ Overdue (l.stallSeconds * Instant.nanosPerSecond) now run := by
  unfold isOverdue Overdue
  rw [Instant.elapsed_of_not_leap hnow hrun, Bool.and_eq_true, decide_eq_true_iff, decide_eq_true_iff]

theorem swept_eq (now : Instant) (run : Intent) :
    l.swept now run = if l.isOverdue now run = true then run.stalled else run := rfl

theorem not_isOverdue_stalled (now : Instant) (run : Intent) : l.isOverdue now run.stalled = false := rfl

theorem isOverdue_pending {now : Instant} {run : Intent} (h : l.isOverdue now run = true) : run.state = .pending := by
  unfold isOverdue at h
  rw [Bool.and_eq_true, decide_eq_true_iff] at h
  exact h.1

theorem sweepStalled_fst (l : Ledger) (now : Instant) :
    (l.sweepStalled now).1 = (l.intents.filter (l.isOverdue now)).map Intent.stalled := by
  refine List.map_congr_left fun run hrun => ?_
  rw [swept_eq, if_pos (List.mem_filter.1 hrun).2]

theorem sweepStalled_intents (l : Ledger) (now : Instant) :
    (l.sweepStalled now).2.intents = l.intents.map (l.swept now) :=
  Table.values_mapValues l.live (l.swept now)

/-- The live runs are listed in the order of their ids. -/
theorem intents_ascending (h : l.WellFormed) : l.intents.Pairwise fun a b => a.id.number < b.id.number := by
  refine List.pairwise_map.2 (l.live.ascending.imp_of_mem fun {a b} ha hb hlt => ?_)
  rw [h.live_id a.1 a.2 (Table.get?_eq_some_iff.2 ha), h.live_id b.1 b.2 (Table.get?_eq_some_iff.2 hb)]
  exact Nat.compare_eq_lt.1 hlt

theorem sweepStalled_ascending (h : l.WellFormed) (now : Instant) :
    (l.sweepStalled now).1.Pairwise fun a b => a.id.number < b.id.number := by
  rw [sweepStalled_fst]
  exact List.pairwise_map.2 ((intents_ascending h).filter _)

/-! ## What a move can do to a live run -/

/-- **A run that is live after a move was live before, or the move has started it.** A run keeps its time of issue, and none
becomes pending again. -/
theorem move_live_origin (h : l.WellFormed) {m : LedgerMove} {n : CorrelationId} {run : Intent}
    (hlive : (l.move m).live.get? n = some run) :
    (∃ old, l.live.get? n = some old ∧ run.issuedAt = old.issuedAt ∧ (run.state = .pending → old.state = .pending))
      ∨ (n = ⟨l.nextNumber⟩ ∧ m.time? = some run.issuedAt) := by
  -- all moves but a start and a sweep leave a run as it is or take it out
  have kept (hget : l.live.get? n = some run) :
      ∃ old, l.live.get? n = some old ∧ run.issuedAt = old.issuedAt ∧ (run.state = .pending → old.state = .pending) :=
    ⟨run, hget, rfl, id⟩
  cases m with
  | issueRun target now =>
    rw [show (l.move (.issueRun target now)).live.get? n = _ from issueRun_live h target now n] at hlive
    split at hlive
    · rename_i hn
      cases hlive
      exact .inr ⟨hn, rfl⟩
    · exact .inl (kept (Option.filter_eq_some_iff.1 hlive).1)
  | cancelRun id =>
    change (l.cancelRun id).2.live.get? n = some run at hlive
    rw [cancelRun_snd, retire_live h] at hlive
    split at hlive
    · cases hlive
    · exact .inl (kept hlive)
  | supersedeAll =>
    rw [show (l.move .supersedeAll).live.get? n = none from supersedeAll_live h n] at hlive
    cases hlive
  | admitResult text =>
    change (l.admitResult text).2.live.get? n = some run at hlive
    rcases admitResult_snd l text with heq | ⟨id, taken, -, heq⟩
    · rw [heq] at hlive
      exact .inl (kept hlive)
    · rw [heq, remove_live] at hlive
      split at hlive
      · cases hlive
      · exact .inl (kept hlive)
  | sweepStalled now =>
    rw [show (l.move (.sweepStalled now)).live.get? n = _ from sweepStalled_live l now n, Option.map_eq_some_iff] at hlive
    obtain ⟨old, hold, rfl⟩ := hlive
    refine .inl ⟨old, hold, ?_⟩
    rw [swept_eq]
    split
    · exact ⟨rfl, fun hpending => by cases hpending⟩
    · exact ⟨rfl, id⟩
  | clear => cases hlive

/-- Every live run was issued outside leap seconds. -/
def Unleaped (l : Ledger) : Prop := ∀ n run, l.live.get? n = some run → run.issuedAt.isLeap = false

theorem moveAll_unleaped (h : l.Consistent) (hl : l.Unleaped) {moves : List LedgerMove}
    (hclock : ∀ m ∈ moves, ∀ t ∈ m.time?, t.isLeap = false) : (l.moveAll moves).Unleaped := by
  induction moves generalizing l with
  | nil => exact hl
  | cons m rest ih =>
    refine ih (move_consistent h m) (fun n run hlive => ?_) fun m' hm' => hclock m' (.tail _ hm')
    rcases move_live_origin h.toWellFormed hlive with ⟨old, hold, hissued, -⟩ | ⟨-, htime⟩
    · rw [hissued]
      exact hl n old hold
    · exact hclock m (.head _) _ htime

/-! ## Each run is given back once -/

/-- A run that was started and is not pending any more. -/
def Spent (l : Ledger) (n : CorrelationId) : Prop :=
  n.number < l.nextNumber ∧ ∀ run, l.live.get? n = some run → run.state ≠ .pending

theorem Spent.move {n : CorrelationId} (hn : l.Spent n) (h : l.Consistent) (m : LedgerMove) : (l.move m).Spent n := by
  refine ⟨Nat.lt_of_lt_of_le hn.1 (nextNumber_le_move h m), fun run hlive hpending => ?_⟩
  rcases move_live_origin h.toWellFormed hlive with ⟨old, hold, -, hstate⟩ | ⟨rfl, -⟩
  · exact hn.2 old hold (hstate hpending)
  · -- a run that is started has a number of its own
    exact Nat.lt_irrefl _ hn.1

theorem Spent.moveAll {n : CorrelationId} (hn : l.Spent n) (h : l.Consistent) (moves : List LedgerMove) :
    (l.moveAll moves).Spent n := by
  induction moves generalizing l with
  | nil => exact hn
  | cons m rest ih => exact ih (hn.move h m) (move_consistent h m)

/-- A sweep gives back no run that is spent. -/
theorem Spent.not_swept {n : CorrelationId} (hn : l.Spent n) (h : l.WellFormed) {now : Instant} {run : Intent}
    (hrun : run ∈ (l.sweepStalled now).1) : run.id ≠ n := by
  rintro rfl
  obtain ⟨old, hold, hoverdue, rfl⟩ := (mem_sweepStalled now).1 hrun
  exact hn.2 old ((mem_intents_iff h).1 hold) (isOverdue_pending hoverdue)

/-- A sweep spends every run that it gives back. -/
theorem spent_of_swept (h : l.WellFormed) {now : Instant} {run : Intent} (hrun : run ∈ (l.sweepStalled now).1) :
    (l.sweepStalled now).2.Spent run.id := by
  obtain ⟨old, hold, hoverdue, rfl⟩ := (mem_sweepStalled now).1 hrun
  have hget : l.live.get? old.id = some old := (mem_intents_iff h).1 hold
  refine ⟨h.live_lt _ old hget, fun marked hlive hpending => ?_⟩
  rw [sweepStalled_live, show l.live.get? _ = some old from hget, Option.map_some, swept_eq, if_pos hoverdue] at hlive
  cases hlive
  cases hpending

/-- The ids of the runs that a move gives back as stalled. -/
def marks (l : Ledger) : LedgerMove → List CorrelationId
  | .sweepStalled now => (l.sweepStalled now).1.map (·.id)
  | _ => []

/-- The ids of the runs that moves give back as stalled, one sweep after the other. -/
def marksAll (l : Ledger) : List LedgerMove → List CorrelationId
  | [] => []
  | m :: rest => l.marks m ++ (l.move m).marksAll rest

theorem marks_nodup (h : l.WellFormed) (m : LedgerMove) : (l.marks m).Nodup := by
  cases m with
  | sweepStalled now =>
    refine List.pairwise_map.2 ((sweepStalled_ascending h now).imp fun {a b} hlt heq => ?_)
    rw [heq] at hlt
    exact Nat.lt_irrefl _ hlt
  | _ => exact List.nodup_nil

theorem spent_of_mem_marks (h : l.WellFormed) {m : LedgerMove} {n : CorrelationId} (hn : n ∈ l.marks m) :
    (l.move m).Spent n := by
  cases m with
  | sweepStalled now =>
    obtain ⟨run, hrun, rfl⟩ := List.mem_map.1 hn
    exact spent_of_swept h hrun
  | _ => cases hn

theorem Spent.not_mem_marks {n : CorrelationId} (hn : l.Spent n) (h : l.WellFormed) (m : LedgerMove) : n ∉ l.marks m := by
  cases m with
  | sweepStalled now =>
    intro hmem
    obtain ⟨run, hrun, hid⟩ := List.mem_map.1 hmem
    exact hn.not_swept h hrun hid
  | _ => exact List.not_mem_nil

theorem Spent.not_mem_marksAll {n : CorrelationId} (hn : l.Spent n) (h : l.Consistent) (moves : List LedgerMove) :
    n ∉ l.marksAll moves := by
  induction moves generalizing l with
  | nil => exact List.not_mem_nil
  | cons m rest ih =>
    rw [marksAll, List.mem_append, not_or]
    exact ⟨hn.not_mem_marks h.toWellFormed m, ih (hn.move h m) (move_consistent h m)⟩

/-- **No run is given back by two sweeps**, whatever is done between them and whatever the clock shows. -/
theorem marksAll_nodup (h : l.Consistent) (moves : List LedgerMove) : (l.marksAll moves).Nodup := by
  induction moves generalizing l with
  | nil => exact List.nodup_nil
  | cons m rest ih =>
    have hnext := move_consistent h m
    refine List.nodup_append.2 ⟨marks_nodup h.toWellFormed m, ih hnext, ?_⟩
    rintro n hn _ hlater rfl
    -- what this move gives back is spent after it
    exact (spent_of_mem_marks h.toWellFormed hn).not_mem_marksAll hnext rest hlater

/-! ## One sweep after another -/

section Cumulative

variable {first last : Instant}

theorem isOverdue_mono (hfirst : first.isLeap = false) (hlast : last.isLeap = false) (hle : first ≤ last) {run : Intent}
    (hrun : run.issuedAt.isLeap = false) (h : l.isOverdue first run = true) : l.isOverdue last run = true := by
  obtain ⟨hpending, htimeout⟩ := (isOverdue_iff hfirst hrun).1 h
  refine (isOverdue_iff hlast hrun).2 ⟨hpending, ?_⟩
  have hplace := Instant.place_le hfirst hle
  omega

/-- What is overdue after a sweep was overdue before it, and the sweep has not marked it. -/
theorem isOverdue_swept (run : Intent) :
    l.isOverdue last (l.swept first run) = (!l.isOverdue first run && l.isOverdue last run) := by
  rw [swept_eq]
  cases hfirst : l.isOverdue first run with
  | true => rw [if_pos rfl, not_isOverdue_stalled, Bool.not_true, Bool.false_and]
  | false => rw [if_neg Bool.false_ne_true, Bool.not_false, Bool.true_and]

theorem sweepStalled_rest :
    ((l.sweepStalled first).2.sweepStalled last).1 =
      ((l.intents.filter (l.isOverdue last)).filter (!l.isOverdue first ·)).map Intent.stalled := by
  rw [sweepStalled_fst, sweepStalled_intents, List.filter_map, List.map_map, List.filter_filter]
  show ((l.intents.filter fun run => l.isOverdue last (l.swept first run)).map fun run => (l.swept first run).stalled) = _
  simp only [isOverdue_swept]
  refine List.map_congr_left fun run hrun => ?_
  rw [swept_eq]
  split <;> rfl

variable (hmono : ∀ run ∈ l.intents, l.isOverdue first run = true → l.isOverdue last run = true)
include hmono

/-- **A sweep after an earlier one leaves the ledger that it would have left alone.** -/
theorem sweepStalled_after (h : l.WellFormed) : ((l.sweepStalled first).2.sweepStalled last).2 = (l.sweepStalled last).2 := by
  have hlive : ((l.sweepStalled first).2.sweepStalled last).2.live = (l.sweepStalled last).2.live := by
    refine Table.ext_get? fun n => ?_
    rw [sweepStalled_live, sweepStalled_live, sweepStalled_live, Option.map_map]
    refine Option.map_congr fun run hget => ?_
    have hrun : run ∈ l.intents := (mem_intents_iff h).2 (h.live_self hget)
    -- the second sweep goes by the same timeout
    show l.swept last (l.swept first run) = l.swept last run
    rw [swept_eq, isOverdue_swept]
    cases hfirst : l.isOverdue first run with
    | true => simp [swept_eq, hfirst, hmono run hrun hfirst]
    | false => simp [swept_eq, hfirst]
  show { l with live := ((l.sweepStalled first).2.sweepStalled last).2.live } = { l with live := (l.sweepStalled last).2.live }
  rw [hlive]

/-- **The two sweeps share out the runs that one would have given back.** -/
theorem sweepStalled_split :
    ((l.sweepStalled first).1 ++ ((l.sweepStalled first).2.sweepStalled last).1).Perm (l.sweepStalled last).1 := by
  have hearly : l.intents.filter (l.isOverdue first) = (l.intents.filter (l.isOverdue last)).filter (l.isOverdue first) := by
    rw [List.filter_filter]
    refine List.filter_congr fun run hrun => ?_
    cases hfirst : l.isOverdue first run with
    | true => rw [hmono run hrun hfirst]; rfl
    | false => rfl
  rw [sweepStalled_rest, sweepStalled_fst, sweepStalled_fst, hearly, ← List.map_append]
  exact (List.filter_append_perm ..).map _

end Cumulative

end Ledger

/-- **Sweeps are exact, give each run back once, and add up.** Take any ledger that moves have led to from a new one, by clocks
that show no leap second, and let the timeout be the one that was configured, or the longest there is if that is shorter.

* A sweep gives back, in the order of their ids, exactly the live runs that were pending and had been issued that long ago or
  longer. It marks these as stalled and changes nothing else.
* No run is given back by two of the sweeps among the moves, whichever times they went by.
* A sweep and then one at a later time leave the ledger that the later one leaves alone. They give back different runs, which
  together are those that the later one gives back alone.
* The timeout is a span of time for every configuration. -/
theorem sweeps_exact_once_cumulative (config : PanelConfig) (moves : List LedgerMove)
    (hclock : ∀ m ∈ moves, ∀ t ∈ m.time?, t.isLeap = false) :
    let l := (Ledger.new config).moveAll moves
    let seconds := min config.stallTimeoutSecs ((Nat.pow 2 63 - 1) / 1000)
    let timeout : Int := seconds * Instant.nanosPerSecond
    (∀ now : Instant, now.isLeap = false →
        (l.sweepStalled now).1.Pairwise (fun a b => a.id.number < b.id.number)
          ∧ (∀ marked, marked ∈ (l.sweepStalled now).1
              ↔ ∃ run ∈ l.intents, Ledger.Overdue timeout now run ∧ run.stalled = marked)
          ∧ (l.sweepStalled now).2 = { l with live := (l.sweepStalled now).2.live }
          ∧ ∀ id, (l.sweepStalled now).2.live.get? id =
              (l.live.get? id).map fun run => if Ledger.Overdue timeout now run then run.stalled else run)
      ∧ ((Ledger.new config).marksAll moves).Nodup
      ∧ (∀ first last : Instant, first.isLeap = false → last.isLeap = false → first ≤ last →
          ((l.sweepStalled first).2.sweepStalled last).2 = (l.sweepStalled last).2
            ∧ (∀ a ∈ (l.sweepStalled first).1, ∀ b ∈ ((l.sweepStalled first).2.sweepStalled last).1, a.id ≠ b.id)
            ∧ ((l.sweepStalled first).1 ++ ((l.sweepStalled first).2.sweepStalled last).1).Perm (l.sweepStalled last).1)
      ∧ Instant.span? l.stallSeconds = some timeout := by
  intro l seconds timeout
  have hnew := Ledger.new_consistent config
  have h : l.Consistent := Ledger.moveAll_consistent hnew moves
  have hunleaped : l.Unleaped :=
    Ledger.moveAll_unleaped hnew (fun n run hlive => by cases hlive) hclock
  have hseconds : l.stallSeconds = seconds := Ledger.moveAll_stallSeconds (.new config) moves
  have hissued {run : Intent} (hrun : run ∈ l.intents) : run.issuedAt.isLeap = false :=
    hunleaped run.id run ((Ledger.mem_intents_iff h.toWellFormed).1 hrun)
  have hoverdue {now : Instant} (hnow : now.isLeap = false) {run : Intent} (hrun : run.issuedAt.isLeap = false) :
      l.isOverdue now run = true ↔ Ledger.Overdue timeout now run := by
    rw [Ledger.isOverdue_iff hnow hrun, hseconds]
  refine ⟨fun now hnow => ⟨Ledger.sweepStalled_ascending h.toWellFormed now, fun marked => ?_, rfl, fun id => ?_⟩,
    Ledger.marksAll_nodup hnew moves, fun first last hfirst hlast hle => ?_, ?_⟩
  · rw [Ledger.mem_sweepStalled]
    refine exists_congr fun run => and_congr_right fun hrun => and_congr_left' (hoverdue hnow (hissued hrun))
  · rw [Ledger.sweepStalled_live]
    refine Option.map_congr fun run hget => ?_
    rw [Ledger.swept_eq]
    simp only [hoverdue hnow (hunleaped id run hget)]
  · have hmono : ∀ run ∈ l.intents, l.isOverdue first run = true → l.isOverdue last run = true :=
      fun run hrun => Ledger.isOverdue_mono hfirst hlast hle (hissued hrun)
    refine ⟨Ledger.sweepStalled_after hmono h.toWellFormed, fun a ha b hb => ?_, Ledger.sweepStalled_split hmono⟩
    have hspent := Ledger.spent_of_swept h.toWellFormed ha
    exact (hspent.not_swept (Ledger.sweepStalled_wellFormed first h.toWellFormed) hb).symm
  · have hfits : seconds * 1000 ≤ Nat.pow 2 63 - 1 :=
      Nat.le_trans (Nat.mul_le_mul_right 1000 (Nat.min_le_right ..)) (Nat.div_mul_le_self ..)
    rw [hseconds, Instant.span?, if_pos hfits]

/-- Two runs are issued, the second by an earlier clock, and a sweep goes by one that is earlier still. -/
def restlessMoves : List LedgerMove :=
  [.issueRun ⟨"f", "a"⟩ ⟨100, 500000000⟩, .issueRun ⟨"f", "b"⟩ ⟨99, 0⟩, .sweepStalled ⟨90, 0⟩]

/-- With a timeout of ten seconds each of the two runs is overdue from the very nanosecond at which these are over. -/
theorem restlessMoves_swept :
    let l := (Ledger.new { stallTimeoutSecs := 10 }).moveAll restlessMoves
    let first : Instant := ⟨109, 0⟩
    let last : Instant := ⟨110, 500000000⟩
    (∀ m ∈ restlessMoves, ∀ t ∈ m.time?, t.isLeap = false) ∧ first.isLeap = false ∧ last.isLeap = false ∧ first ≤ last
      ∧ (l.sweepStalled first).1.map (·.id.number) = [2]
      ∧ ((l.sweepStalled first).2.sweepStalled last).1.map (·.id.number) = [1]
      ∧ ((l.sweepStalled first).1 ++ ((l.sweepStalled first).2.sweepStalled last).1).Perm (l.sweepStalled last).1 := by
  intro l first last
  have hclock : ∀ m ∈ restlessMoves, ∀ t ∈ m.time?, t.isLeap = false := by decide
  have hle : first ≤ last := .inl (by decide)
  have hshared := (sweeps_exact_once_cumulative { stallTimeoutSecs := 10 } restlessMoves hclock).2.2.1 first last rfl rfl hle
  exact ⟨hclock, rfl, rfl, hle, by decide, by decide, hshared.2.2⟩

end PanelBridge
