import PanelBridge.Proofs.Agreement

/-!
# What turns do to runs and results

The effects of a turn, seen from the runs and from the results:

* **`Turn.live_origin`**: a run that is live after a turn was live before, or the turn started it.
* **`Turn.applied`**: a turn that applies a result completes a live run and stores the result under the run's target.
* **`Turn.redrawn`**: a turn that sets or clears the snapshot keeps the results of the test cases that are in it.
* **`Turn.kept`**: no other turn changes the results or the test cases.
-/

namespace PanelBridge

namespace Moment

/-- A result for a run is applied. -/
def Applies (m : Moment) (n : CorrelationId) (result : TestResult) : Prop :=
  ∃ message text, m.cause = .handled message (.applied (.testResult text result))
    ∧ CorrelationId.ofText? text = some n

/-- A run of a target is started, and its number is given back. -/
def Starts (m : Moment) (n : CorrelationId) (target : Target) : Prop :=
  m.cause = .operated (.act (.runTest target.function target.testCase)) (.started (.ok n))

/-- The panel is reloaded out of its error state. -/
def Reloads (m : Moment) : Prop :=
  ∃ report fault, m.cause = .operated (.act .reload) report ∧ m.before.store.readiness = .error fault

/-- The snapshot is set or cleared: an event about the project is applied, or the panel is reloaded. -/
def Redraws (m : Moment) : Prop :=
  (∃ message event, m.cause = .handled message (.applied event) ∧ event.projectSequence ≠ none)
    ∨ m.Reloads

end Moment

/-! ## Results in a batch -/

namespace Store

variable (s : Store) {mutations : List Mutation}

theorem part_snapshot_of_content {s t : Store} (h : s.content = t.content) :
    s.part .snapshot = t.part .snapshot := by
  have hs : s.snapshot = t.snapshot := congrArg Content.snapshot h
  simp only [part, hs]

theorem snapshot_none_of_part {s t : Store} (h : s.part .snapshot = t.part .snapshot)
    (ht : t.snapshot = none) : s.snapshot = none := by
  simpa [part, ht] using h

theorem batch_snapshot : (s.batch mutations).1.snapshot = (s.applyAll .empty mutations).1.snapshot := by
  rw [batch_eq]
  cases h : (s.applyAll .empty mutations).2.contains .snapshot with
  | true => rw [settle_of_touched _ h]
  | false => rw [settle_of_untouched _ h]

/-- A batch that touches the snapshot drops the results that do not belong to it any more. -/
theorem batch_results_of_touched (htouched : (s.applyAll .empty mutations).2.contains .snapshot = true)
    (hresults : ∀ m ∈ mutations, m.completes = false) :
    (s.batch mutations).1.results = s.results.filter fun target _ =>
      (s.batch mutations).1.hasTestCase target.function target.testCase := by
  rw [batch_eq, settle_of_touched _ htouched, applyAll_results s .empty hresults]
  rfl

/-- A batch that neither concerns the snapshot nor brings a result keeps results and test cases. -/
theorem batch_results_of_scope (hscope : ∀ m ∈ mutations, .snapshot ∉ m.scope)
    (hresults : ∀ m ∈ mutations, m.completes = false) :
    (s.batch mutations).1.results = s.results
      ∧ (s.batch mutations).1.part .snapshot = s.part .snapshot := by
  rw [batch_of_scope s hscope]
  exact ⟨applyAll_results s .empty hresults, (applyAll_untouched s .empty hscope).2⟩

/-- Without a snapshot there is nothing to clear. -/
theorem batch_clearSnapshot_of_none (hs : s.snapshot = none) :
    s.batch (.clearSnapshot :: mutations) = s.batch mutations := by
  have hclear : s.apply .clearSnapshot = (s, .empty) := by simp only [apply, hs]
  have hhead : s.applyAll .empty (.clearSnapshot :: mutations) = s.applyAll .empty mutations := by
    rw [applyAll_cons, hclear]
    rfl
  rw [batch_eq, batch_eq, hhead]

/-- A slice that the first mutation touches is touched in the end. -/
theorem applyAll_touched_of_head {m : Mutation} {rest : List Mutation} {slice : Slice}
    (h : (s.apply m).2.contains slice = true) :
    (s.applyAll .empty (m :: rest)).2.contains slice = true := by
  rw [applyAll_cons]
  cases hfinal : (applyAll (s.apply m).1 (SliceSet.empty.union (s.apply m).2) rest).2.contains slice with
  | true => rfl
  | false =>
    have huntouched := (applyAll_part (s.apply m).1 _ rest hfinal).1
    simp [h] at huntouched

end Store

/-- An event about the project touches the snapshot and brings no result. -/
theorem Dispatcher.planProject_touches {s : Store} {sequence : Nat} {project : ProjectPayload}
    {mutations : List Mutation} (h : planProject s sequence project = .commit mutations) :
    (s.applyAll .empty mutations).2.contains .snapshot = true
      ∧ ∀ m ∈ mutations, m.completes = false := by
  rcases (planProject_commit h).2 with ⟨snapshot, hs, rfl⟩ | rfl
  · refine ⟨Store.applyAll_touched_of_head s ?_, by simp [Mutation.completes]⟩
    simp only [Store.apply, hs]
    split <;> simp
  · refine ⟨Store.applyAll_touched_of_head s ?_, by simp [Mutation.completes, becomeReady]⟩
    simp [Store.apply]

/-- After an event about the project there is a snapshot. -/
theorem Dispatcher.planProject_snapshot {s : Store} {sequence : Nat} {project : ProjectPayload}
    {mutations : List Mutation} (h : planProject s sequence project = .commit mutations) :
    (s.batch mutations).1.snapshot ≠ none := by
  rw [Store.batch_snapshot]
  rcases (planProject_commit h).2 with ⟨snapshot, hs, rfl⟩ | rfl
  · simp [Store.applyAll, Store.apply, hs]
  · intro hnone
    have hscope : ∀ m ∈ becomeReady s, .snapshot ∉ m.scope := by simp [becomeReady, Mutation.scope]
    rw [Store.applyAll_cons] at hnone
    cases Store.snapshot_none_of_part (Store.applyAll_untouched _ _ hscope).2.symm hnone

/-! ## Results in a turn -/

namespace Turn

variable {p q : Panel} {cause : Cause}

/-- **A result that is applied belongs to a live run.** It completes the run and is stored under its target. -/
theorem applied {n : CorrelationId} {result : TestResult} (turn : Turn p cause q)
    (happlies : (⟨p, cause, q⟩ : Moment).Applies n result) :
    ∃ run, p.ledger.live.get? n = some run ∧ q.ledger = p.ledger.remove run
      ∧ q.store.results = p.store.results.insert run.target ⟨run.id, result⟩
      ∧ q.store.part .snapshot = p.store.part .snapshot := by
  obtain ⟨message, text, rfl, hn⟩ := happlies
  obtain ⟨mutations, ledger, heffect, hcontent, hledger⟩ := turn
  have hresults := congrArg Content.results hcontent
  have hpart := Store.part_snapshot_of_content hcontent
  cases heffect with
  | idle hidle => exact hidle.elim
  | projectChanged _ hkind _ => rcases hkind with h | h <;> cases h
  | @answered _ _ _ _ run _ hid hlive =>
    cases hn.symm.trans hid
    have hscope : ∀ m ∈ [Mutation.runCompleted { run with state := .completed } result],
        .snapshot ∉ m.scope := by simp [Mutation.scope]
    rw [Store.batch_of_scope _ hscope] at hresults hpart
    exact ⟨run, hlive, hledger, hresults,
      hpart.trans (Store.applyAll_untouched _ .empty hscope).2⟩

/-- **After the snapshot was set or cleared, every result is one of its test cases'.** -/
theorem redrawn (turn : Turn p cause q) (hredraws : (⟨p, cause, q⟩ : Moment).Redraws) :
    (p.store.snapshot = none ∧ q.store.snapshot = none ∧ q.store.results = p.store.results)
      ∨ q.store.results = p.store.results.filter fun target _ =>
          q.store.hasTestCase target.function target.testCase := by
  obtain ⟨mutations, ledger, heffect, hcontent, hledger⟩ := turn
  have hresults : q.store.results = _ := congrArg Content.results hcontent
  have hsnapshot : q.store.snapshot = _ := congrArg Content.snapshot hcontent
  -- A batch that touches the snapshot prunes; what it prunes by is the new snapshot.
  have prune (htouched : (p.store.applyAll .empty mutations).2.contains .snapshot = true)
      (hnone : ∀ m ∈ mutations, m.completes = false) :
      q.store.results = p.store.results.filter fun target _ =>
        q.store.hasTestCase target.function target.testCase := by
    rw [hresults]
    show (p.store.batch mutations).1.results = _
    rw [Store.batch_results_of_touched _ htouched hnone]
    simp only [Store.hasTestCase, hsnapshot]
    rfl
  rcases hredraws with ⟨message, event, rfl, hproject⟩ | ⟨report, fault, rfl, herror⟩
  · cases heffect with
    | idle hidle => exact hidle.elim
    | projectChanged _ _ hplan =>
      obtain ⟨htouched, hnone⟩ := Dispatcher.planProject_touches hplan
      exact .inr (prune htouched hnone)
    | diagnosed | answered => exact absurd rfl hproject
  · cases heffect with
    | idle hidle => exact absurd herror (hidle fault)
    | reloaded =>
      cases hs : p.store.snapshot with
      | some snapshot =>
        refine .inr (prune (Store.applyAll_touched_of_head _ ?_) (by simp [Mutation.completes]))
        simp [Store.apply, hs]
      | none =>
        -- nothing to clear, so nothing is touched and nothing is pruned
        refine .inl ⟨rfl, ?_⟩
        have hscope : ∀ m ∈ [Mutation.clearPending, .setReadiness .loading], .snapshot ∉ m.scope := by
          simp [Mutation.scope]
        rw [hsnapshot, hresults, Store.batch_clearSnapshot_of_none _ hs]
        obtain ⟨hkept, hpart⟩ := Store.batch_results_of_scope p.store hscope (by simp [Mutation.completes])
        exact ⟨Store.snapshot_none_of_part hpart hs, hkept⟩
  
/-- **No other turn changes the results or the test cases.** -/
theorem kept (turn : Turn p cause q) (hredraws : ¬(⟨p, cause, q⟩ : Moment).Redraws)
    (happlies : ∀ n result, ¬(⟨p, cause, q⟩ : Moment).Applies n result) :
    q.store.results = p.store.results ∧ q.store.part .snapshot = p.store.part .snapshot := by
  obtain ⟨mutations, ledger, heffect, hcontent, hledger⟩ := turn
  have hresults : q.store.results = _ := congrArg Content.results hcontent
  rw [hresults, Store.part_snapshot_of_content hcontent]
  cases heffect with
  | reloaded herror => exact absurd (.inr ⟨_, _, rfl, herror⟩) hredraws
  | projectChanged _ hkind _ =>
    refine absurd (.inl ⟨_, _, rfl, ?_⟩) hredraws
    rcases hkind with rfl | rfl <;> simp [Event.projectSequence]
  | answered _ hid _ => exact absurd ⟨_, _, rfl, hid⟩ (happlies _ _)
  | started | ticked | tickedAt =>
    refine Store.batch_results_of_scope _ ?_ ?_
    · simp [Mutation.scope, or_imp, forall_and]
    · simp [Mutation.completes, or_imp, forall_and]
  | _ => exact Store.batch_results_of_scope _ (by simp [Mutation.scope]) (by simp [Mutation.completes])

/-- What neither redraws nor applies a result keeps the test cases; so does what applies one. -/
theorem part_snapshot (turn : Turn p cause q) (hredraws : ¬(⟨p, cause, q⟩ : Moment).Redraws) :
    q.store.part .snapshot = p.store.part .snapshot := by
  by_cases happlies : ∃ n result, (⟨p, cause, q⟩ : Moment).Applies n result
  · obtain ⟨n, result, happlies⟩ := happlies
    obtain ⟨-, -, -, -, hpart⟩ := turn.applied happlies
    exact hpart
  · exact (turn.kept hredraws fun n result h => happlies ⟨n, result, h⟩).2

/-- Only a reload takes the snapshot away. -/
theorem snapshot_none (turn : Turn p cause q) (hq : q.store.snapshot = none) :
    p.store.snapshot = none ∨ (⟨p, cause, q⟩ : Moment).Reloads := by
  by_cases hredraws : (⟨p, cause, q⟩ : Moment).Redraws
  · rcases hredraws with ⟨message, event, hcause, hproject⟩ | hreloads
    · obtain rfl : cause = _ := hcause
      obtain ⟨mutations, ledger, heffect, hcontent, -⟩ := turn
      have hsnapshot : q.store.snapshot = _ := congrArg Content.snapshot hcontent
      cases heffect with
      | idle hidle => exact hidle.elim
      | projectChanged _ _ hplan =>
        exact absurd (hsnapshot.symm.trans hq) (Dispatcher.planProject_snapshot hplan)
      | diagnosed | answered => exact absurd rfl hproject
    · exact .inr hreloads
  · exact .inl (Store.snapshot_none_of_part (turn.part_snapshot hredraws).symm hq)

/-- **A result was there before or has just been applied**, for a live run of the target. -/
theorem results_origin (hl : p.ledger.WellFormed) (turn : Turn p cause q) {target : Target}
    {done : CompletedRun} (hget : q.store.results.get? target = some done) :
    p.store.results.get? target = some done
      ∨ (⟨p, cause, q⟩ : Moment).Applies done.id done.result
        ∧ ∃ run, p.ledger.live.get? done.id = some run ∧ run.target = target
          ∧ q.ledger = p.ledger.remove run := by
  -- Pruning only drops results; apart from it they change by one that is applied.
  by_cases hredraws : (⟨p, cause, q⟩ : Moment).Redraws
  · rcases turn.redrawn hredraws with ⟨-, -, hsame⟩ | hpruned
    · rw [hsame] at hget
      exact .inl hget
    · rw [hpruned, Table.get?_filter] at hget
      exact .inl (Option.filter_eq_some_iff.1 hget).1
  by_cases happlies : ∃ n result, (⟨p, cause, q⟩ : Moment).Applies n result
  · obtain ⟨n, result, happlies⟩ := happlies
    obtain ⟨run, hlive, hledger, hresults, -⟩ := turn.applied happlies
    rw [hresults] at hget
    by_cases htarget : target = run.target
    · subst htarget
      rw [Table.get?_insert_self] at hget
      cases hget
      obtain rfl : run.id = n := hl.live_id n run hlive
      exact .inr ⟨happlies, run, hlive, rfl, hledger⟩
    · rw [Table.get?_insert_of_ne _ _ htarget] at hget
      exact .inl hget
  · have hsame := (turn.kept hredraws fun n result h => happlies ⟨n, result, h⟩).1
    rw [hsame] at hget
    exact .inl hget

/-! ## Runs in a turn -/

/-- A run that is started takes the next number, and its test case is in the snapshot. -/
theorem started {n : CorrelationId} {target : Target} (turn : Turn p cause q)
    (hstarts : (⟨p, cause, q⟩ : Moment).Starts n target) :
    n = ⟨p.ledger.nextNumber⟩ ∧ q.ledger = (p.ledger.issueRun target p.now).2
      ∧ p.store.hasTestCase target.function target.testCase = true := by
  obtain ⟨mutations, ledger, heffect, -, hledger⟩ := turn
  unfold Moment.Starts at hstarts
  simp only at hstarts
  subst hstarts
  cases heffect with
  | idle hidle => exact absurd rfl (hidle n)
  | started _ hknown => exact ⟨rfl, hledger, hknown⟩

/-- A live run that is called off is not live any more. -/
theorem calledOff (hl : p.ledger.WellFormed) {text : String} {report : Report} {n : CorrelationId}
    (turn : Turn p (.operated (.act (.cancelRun text)) report) q)
    (hn : CorrelationId.ofText? text = some n) : q.ledger.live.get? n = none := by
  obtain ⟨mutations, ledger, heffect, -, hledger⟩ := turn
  rw [hledger]
  cases heffect with
  | idle hidle => exact hidle n hn
  | calledOff hid _ =>
    cases hn.symm.trans hid
    rw [Ledger.retire_live hl, if_pos rfl]

/-- A reload out of the error state leaves no live run. -/
theorem reloaded (hl : p.ledger.WellFormed) (turn : Turn p cause q)
    (hreloads : (⟨p, cause, q⟩ : Moment).Reloads) (n : CorrelationId) :
    q.ledger.live.get? n = none := by
  obtain ⟨mutations, ledger, heffect, -, hledger⟩ := turn
  obtain ⟨report, fault, rfl, herror⟩ := hreloads
  rw [hledger]
  cases heffect with
  | idle hidle => exact absurd herror (hidle fault)
  | reloaded => exact Ledger.supersedeAll_live hl n

/-- Numbers are not given back. -/
theorem nextNumber_le (hl : p.ledger.WellFormed) (turn : Turn p cause q) :
    p.ledger.nextNumber ≤ q.ledger.nextNumber := by
  obtain ⟨mutations, ledger, heffect, -, hledger⟩ := turn
  rw [hledger]
  cases heffect with
  | started => rw [Ledger.issueRun_nextNumber hl]; omega
  | calledOff => exact Nat.le_of_eq (Ledger.retire_nextNumber ..).symm
  | reloaded => exact Nat.le_of_eq (Ledger.retireAll_nextNumber ..).symm
  | _ => exact Nat.le_refl _

/-- **A live run was live before or has just been started.** No turn revives a run or changes its target. -/
theorem live_origin (hl : p.ledger.WellFormed) (turn : Turn p cause q) {n : CorrelationId} {run : Intent}
    (hlive : q.ledger.live.get? n = some run) :
    (∃ old, p.ledger.live.get? n = some old ∧ old.target = run.target)
      ∨ (⟨p, cause, q⟩ : Moment).Starts n run.target := by
  obtain ⟨mutations, ledger, heffect, -, hledger⟩ := turn
  rw [hledger] at hlive
  cases heffect with
  | started =>
    rw [Ledger.issueRun_live hl] at hlive
    split at hlive
    · rename_i hn
      -- the run with the next number is the one that is started
      cases hlive
      rw [hn]
      exact .inr rfl
    · exact .inl ⟨run, (Option.filter_eq_some_iff.1 hlive).1, rfl⟩
  | calledOff =>
    rw [Ledger.retire_live hl] at hlive
    split at hlive
    · cases hlive
    · exact .inl ⟨run, hlive, rfl⟩
  | reloaded =>
    rw [Ledger.supersedeAll_live hl] at hlive
    cases hlive
  | ticked | tickedAt =>
    rw [Ledger.sweepStalled_live, Option.map_eq_some_iff] at hlive
    obtain ⟨old, hold, rfl⟩ := hlive
    exact .inl ⟨old, hold, by simp⟩
  | answered =>
    rw [Ledger.remove_live] at hlive
    split at hlive
    · cases hlive
    · exact .inl ⟨run, hlive, rfl⟩
  | _ => exact .inl ⟨run, hlive, rfl⟩

end Turn

end PanelBridge
