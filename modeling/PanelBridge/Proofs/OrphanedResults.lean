import PanelBridge.Proofs.StaleResults

/-!
# Results of test cases that are gone

Whenever the snapshot is set or cleared, the results of test cases that are not in it are dropped. A result that
arrives is stored under the target of its run and is not compared with the snapshot. So a panel can show a result of a
test case that is gone, and this module says exactly when:

* **`Panel.Orphans`**: the panel has a result for a target that its snapshot lacks.
* **`Moment.ComesLate`**: a result is applied for a run whose test case has left the snapshot since the run was started.
* **`orphaned_result_iff`**: a panel has an orphaned result exactly if one came late and the snapshot was neither set nor
  cleared since.

Without a snapshot there are neither results nor live runs (`Panel.Grounded`), so a reload needs no pruning.
-/

namespace PanelBridge

/-- The panel has a result for a target that its snapshot lacks. -/
def Panel.Orphans (p : Panel) (target : Target) : Prop :=
  p.store.results.get? target ≠ none ∧ p.store.hasTestCase target.function target.testCase = false

/-- A result is applied for a run of the target, which is not in the snapshot any more. -/
def Moment.ComesLate (earlier : List Moment) (m : Moment) (target : Target) : Prop :=
  ∃ n, (∃ first ∈ earlier, first.Starts n target) ∧ (∃ result, m.Applies n result)
    ∧ m.before.store.hasTestCase target.function target.testCase = false

/-! ## Nothing without a snapshot -/

/-- Without a snapshot there are neither results nor live runs. -/
def Panel.Grounded (p : Panel) : Prop :=
  p.store.snapshot = none →
    (∀ target, p.store.results.get? target = none) ∧ ∀ n, p.ledger.live.get? n = none

theorem Store.hasTestCase_of_none {s : Store} (h : s.snapshot = none) (function testCase : String) :
    s.hasTestCase function testCase = false := by
  simp [hasTestCase, h]

variable {p q : Panel} {cause : Cause} {target : Target}

theorem Panel.Grounded.turn (h : p.Grounded) (hl : p.ledger.WellFormed) (turn : Turn p cause q) :
    q.Grounded := by
  intro hq
  rcases turn.snapshot_none hq with hp | hreloads
  · obtain ⟨hresults, hlive⟩ := h hp
    constructor
    · refine fun target => Option.eq_none_iff_forall_ne_some.2 fun done hget => ?_
      rcases turn.results_origin hl hget with hold | ⟨-, run, hrun, -⟩
      · cases (hresults target).symm.trans hold
      · cases (hlive done.id).symm.trans hrun
    · refine fun n => Option.eq_none_iff_forall_ne_some.2 fun run hget => ?_
      rcases turn.live_origin hl hget with ⟨old, hold, -⟩ | hstarts
      · cases (hlive n).symm.trans hold
      · -- a run is started only of a test case that is in the snapshot
        have hknown := (turn.started hstarts).2.2
        cases (Store.hasTestCase_of_none hp _ _).symm.trans hknown
  · refine ⟨fun target => ?_, turn.reloaded hl hreloads⟩
    rcases turn.redrawn (.inr hreloads) with ⟨hp, -, hsame⟩ | hpruned
    · rw [hsame]
      exact (h hp).1 target
    · rw [hpruned, Table.get?_filter, Store.hasTestCase_of_none hq]
      simp

/-! ## Orphans in a turn -/

/-- No result is orphaned once the snapshot was set or cleared. -/
theorem Turn.not_orphans (hg : p.Grounded) (turn : Turn p cause q)
    (hredraws : (⟨p, cause, q⟩ : Moment).Redraws) : ¬q.Orphans target := by
  rintro ⟨hget, hlacks⟩
  rcases turn.redrawn hredraws with ⟨hp, -, hsame⟩ | hpruned
  · rw [hsame] at hget
    exact hget ((hg hp).1 target)
  · rw [hpruned, Table.get?_filter, hlacks] at hget
    exact hget (by simp)

/-- An orphaned result has just come late, or it was orphaned before. -/
theorem Turn.orphans_origin {past : List Moment} (hp : p.Recorded past) (hg : p.Grounded)
    (turn : Turn p cause q) (h : q.Orphans target) :
    (⟨p, cause, q⟩ : Moment).ComesLate past target
      ∨ p.Orphans target ∧ ¬(⟨p, cause, q⟩ : Moment).Redraws := by
  have hredraws : ¬(⟨p, cause, q⟩ : Moment).Redraws := fun hr => turn.not_orphans hg hr h
  have hlacks : p.store.hasTestCase target.function target.testCase = false :=
    (Store.hasTestCase_of_part (turn.part_snapshot hredraws) _ _).symm.trans h.2
  obtain ⟨done, hget⟩ := Option.ne_none_iff_exists'.1 h.1
  rcases turn.results_origin hp.agrees.wellFormed hget with hold | ⟨happlies, run, hlive, rfl, -⟩
  · exact .inr ⟨⟨by simp [hold], hlacks⟩, hredraws⟩
  · exact .inl ⟨done.id, hp.live done.id run hlive, ⟨done.result, happlies⟩, hlacks⟩

/-- A turn that neither sets nor clears the snapshot keeps what is orphaned. -/
theorem Turn.orphans_stay (turn : Turn p cause q) (hredraws : ¬(⟨p, cause, q⟩ : Moment).Redraws)
    (h : p.Orphans target) : q.Orphans target := by
  refine ⟨?_, (Store.hasTestCase_of_part (turn.part_snapshot hredraws) _ _).trans h.2⟩
  by_cases happlies : ∃ n result, (⟨p, cause, q⟩ : Moment).Applies n result
  · obtain ⟨n, result, happlies⟩ := happlies
    obtain ⟨run, -, -, hresults, -⟩ := turn.applied happlies
    rw [hresults]
    by_cases htarget : target = run.target
    · rw [htarget, Table.get?_insert_self]
      exact Option.some_ne_none _
    · rw [Table.get?_insert_of_ne _ _ htarget]
      exact h.1
  · rw [(turn.kept hredraws fun n result h => happlies ⟨n, result, h⟩).1]
    exact h.1

/-- A result that comes late is orphaned. -/
theorem Moment.ComesLate.orphans {earlier later : List Moment} {m : Moment}
    (h : m.ComesLate earlier target) (path : Path p (earlier ++ m :: later) q) (hp : p.Agrees) :
    m.after.Orphans target := by
  obtain ⟨before, turn, -⟩ := path.split
  obtain ⟨n, ⟨first, hfirst, hstarts⟩, ⟨result, happlies⟩, hlacks⟩ := h
  obtain ⟨run, hlive, -, hresults, hpart⟩ := turn.applied happlies
  -- the run that the result completes is the one that was started for the target
  have htarget := (before.assigned hp hfirst hstarts).2 run hlive
  refine ⟨?_, (Store.hasTestCase_of_part hpart _ _).trans hlacks⟩
  rw [hresults, htarget, Table.get?_insert_self]
  exact Option.some_ne_none _

/-! ## Orphans of a session -/

theorem Path.orphans_stay {moments : List Moment} (path : Path p moments q)
    (hredraws : ∀ m ∈ moments, ¬m.Redraws) (h : p.Orphans target) : q.Orphans target := by
  induction path with
  | nil => exact h
  | cons turn _ ih =>
    exact ih (fun m hm => hredraws m (.tail _ hm)) (turn.orphans_stay (hredraws _ (.head _)) h)

/-- Some result for the target came late, and the snapshot was neither set nor cleared since. -/
def LeftBehind (history : List Moment) (target : Target) : Prop :=
  ∃ earlier late later, history = earlier ++ late :: later ∧ late.ComesLate earlier target
    ∧ ∀ m ∈ later, ¬m.Redraws

/-- What is orphaned goes back to a late result. -/
structure Panel.Traced (past : List Moment) (p : Panel) : Prop where
  recorded : p.Recorded past
  grounded : p.Grounded
  traced : ∀ target, p.Orphans target → LeftBehind past target

theorem Panel.Traced.turn {past : List Moment} (h : p.Traced past) (turn : Turn p cause q) :
    q.Traced (past ++ [⟨p, cause, q⟩]) := by
  refine ⟨h.recorded.turn turn, h.grounded.turn h.recorded.agrees.wellFormed turn, fun target horphans => ?_⟩
  rcases turn.orphans_origin h.recorded h.grounded horphans with hlate | ⟨hold, hredraws⟩
  · exact ⟨past, _, [], rfl, hlate, by simp⟩
  · -- orphaned before: the same late result, with one more moment since
    obtain ⟨earlier, late, later, rfl, hlate, hlater⟩ := h.traced target hold
    refine ⟨earlier, late, later ++ [⟨p, cause, q⟩], by simp, hlate, fun m hm => ?_⟩
    rcases List.mem_append.1 hm with hm | hm
    · exact hlater m hm
    · cases List.mem_singleton.1 hm
      exact hredraws

/-- **When a panel shows a result of a test case that is gone.** At the end of a session a target has a result without
being in the snapshot exactly if the result of a run of that target was applied after the target had left the snapshot,
and since then no event about the project was applied and the panel was not reloaded. -/
theorem orphaned_result_iff (config : PanelConfig) (channel : MemoryChannel) (now : Instant)
    (ops : List Operation) (target : Target) :
    let history := (Panel.new config channel now).history ops
    let p := ((Panel.new config channel now).performAll ops).2
    (p.store.results.get? target ≠ none
        ∧ p.store.hasTestCase target.function target.testCase = false)
      ↔ ∃ earlier late later, history = earlier ++ late :: later ∧ late.ComesLate earlier target
          ∧ ∀ m ∈ later, ¬m.Redraws := by
  intro history p
  have path : Path _ history p := Panel.history_path _ ops
  have hnew := Panel.new_recorded config channel now
  constructor
  · have htraced : (Panel.new config channel now).Traced [] :=
      ⟨hnew, fun _ => ⟨fun _ => rfl, fun _ => rfl⟩, fun target h => absurd rfl h.1⟩
    exact (path.invariant (fun _ _ _ _ h turn => Panel.Traced.turn h turn) [] htraced).traced target
  · rintro ⟨earlier, late, later, hsplit, hlate, hlater⟩
    rw [hsplit] at path
    exact path.split.2.2.orphans_stay hlater (hlate.orphans path hnew.agrees)

/-- A project of one function with one test case, as a message. -/
def projectMessage (kind : EventKind) (sequence : Nat) (function testCase : String) : Message :=
  .json (.obj
    [("kind", .str kind.name),
     ("payload", .obj [("functions", .arr [.obj
        [("id", .str function), ("signature", .str ("fn " ++ function ++ "()")),
         ("testCases", .arr [.str testCase])]])]),
     ("sequence", .nat sequence)])

/-- A run is started, an update removes its test case, and then its result arrives. -/
def lateSession : List Operation :=
  [.mount,
   .deliver (projectMessage .ready 1 "f1" "c1"),
   .act (.runTest "f1" "c1"),
   .deliver (projectMessage .projectUpdated 2 "f2" "c2"),
   .deliver (.json (.obj
     [("correlationId", .str "corr-1"), ("kind", .str "test-result"),
      ("payload", .obj [("status", .str "success")])]))]

/-- The result of that run is kept although its test case is gone. -/
theorem late_result_orphaned :
    let p := ((Panel.new {} .accepting ⟨1700000000, 0⟩).performAll lateSession).2
    (p.store.results.get? ⟨"f1", "c1"⟩).isSome = true ∧ p.store.hasTestCase "f1" "c1" = false := by
  decide +kernel

end PanelBridge
