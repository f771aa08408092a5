import PanelBridge.Proofs.Redraws

/-!
# The selection points at something that exists

The user selects a function and one of its test cases; an update may take either away. Whenever the snapshot is set, the
selection is moved to one that fits it:

* **`Selection.Fits`**: the selected function is there, and so is the selected test case; nothing is selected only if there
  is nothing to select.
* **`Selection.Follows`**: what is selected stays selected as long as it is there, and otherwise the first takes its place.
* **`Turn.selectionFits`**: every turn keeps the fit, whether it sets the snapshot, clears it, or selects.
-/

namespace PanelBridge

/-- A selection fits the functions of a snapshot, if there is one. A function is looked up by its id. -/
structure Selection.Fits (selection : Selection) (functions : Option (List FunctionDefinition)) : Prop where
  unselected : selection.function = .none ↔ functions = .none ∨ functions = some []
  caseless : selection.function = .none → selection.testCase = .none
  selected : ∀ id, selection.function = some id → ∃ present f, functions = some present ∧ f ∈ present
    ∧ present.find? (fun g => g.id == id) = some f
    ∧ (selection.testCase = .none ↔ f.testCases = [])
    ∧ ∀ testCase, selection.testCase = some testCase → testCase ∈ f.testCases

/-- How a selection goes on when the functions change. -/
structure Selection.Follows (old : Selection) (functions : List FunctionDefinition) (new : Selection) : Prop where
  stays : ∀ id f, old.function = some id → functions.find? (fun g => g.id == id) = some f →
    new.function = some id
      ∧ (∀ testCase, old.testCase = some testCase → testCase ∈ f.testCases → new.testCase = some testCase)
      ∧ ((∀ testCase, old.testCase = some testCase → testCase ∉ f.testCases) →
          new.testCase = f.testCases.head?)
  fallsBack : (∀ id, old.function = some id → functions.find? (fun g => g.id == id) = .none) →
    new.function = functions.head?.map (·.id) ∧ new.testCase = functions.head?.bind (·.testCases.head?)

/-! ## Selections that fit -/

namespace Selection

theorem none_fits : Selection.none.Fits .none :=
  ⟨by simp [Selection.none], fun _ => rfl, nofun⟩

theorem none_fits_nil : Selection.none.Fits (some []) :=
  ⟨by simp [Selection.none], fun _ => rfl, nofun⟩

/-- A function that its id leads to fits, with any of its test cases. -/
theorem chosen_fits {functions : List FunctionDefinition} {f : FunctionDefinition} {testCase : Option String}
    (hfind : functions.find? (fun g => g.id == f.id) = some f) (hnone : testCase = .none ↔ f.testCases = [])
    (hmem : ∀ c, testCase = some c → c ∈ f.testCases) : Fits ⟨some f.id, testCase⟩ (some functions) := by
  have hf : f ∈ functions := List.mem_of_find?_eq_some hfind
  refine ⟨?_, nofun, ?_⟩
  · constructor
    · nofun
    · rintro (h | h)
      · cases h
      · cases h
        cases hf
  · rintro id ⟨⟩
    exact ⟨functions, f, rfl, hf, hfind, hnone, hmem⟩

theorem Fits.eq_none {selection : Selection} (h : selection.Fits .none) : selection = .none := by
  have hfunction := h.unselected.2 (.inl rfl)
  have hcase := h.caseless hfunction
  cases selection
  simp only at hfunction hcase
  rw [hfunction, hcase]
  rfl

end Selection

namespace Snapshot

theorem function?_id {s : Snapshot} {id : String} {f : FunctionDefinition} (h : s.function? id = some f) :
    f.id = id := by
  simpa using List.find?_some h

theorem function?_self {s : Snapshot} {id : String} {f : FunctionDefinition} (h : s.function? id = some f) :
    s.functions.find? (fun g => g.id == f.id) = some f := by
  rw [function?_id h]
  exact h

theorem function?_first {s : Snapshot} {f : FunctionDefinition} (h : s.functions.head? = some f) :
    s.functions.find? (fun g => g.id == f.id) = some f := by
  obtain ⟨rest, hrest⟩ := List.head?_eq_some_iff.1 h
  rw [hrest]
  simp

end Snapshot

namespace Store

/-- The function that stays or becomes selected when a snapshot is set. -/
theorem fittingSelection_some {selection : Selection} {snapshot : Snapshot} {f : FunctionDefinition}
    (h : (selection.function.bind snapshot.function?).or snapshot.functions.head? = some f) :
    fittingSelection selection (some snapshot) =
      ⟨some f.id, (selection.testCase.filter fun testCase =>
        selection.function == some f.id && f.testCases.contains testCase).or f.testCases.head?⟩ := by
  simp only [fittingSelection, h]

theorem fittingSelection_nil (selection : Selection) {snapshot : Snapshot} (h : snapshot.functions = []) :
    fittingSelection selection (some snapshot) = .none := by
  have hnone : (selection.function.bind snapshot.function?).or snapshot.functions.head? = none := by
    simp [Snapshot.function?, h]
  simp only [fittingSelection, hnone]

/-- **The selection that is made to fit fits.** -/
theorem fittingSelection_fits (selection : Selection) (snapshot : Option Snapshot) :
    (fittingSelection selection snapshot).Fits (snapshot.map (·.functions)) := by
  cases snapshot with
  | none => exact Selection.none_fits
  | some snapshot =>
    rw [Option.map_some]
    cases hf : (selection.function.bind snapshot.function?).or snapshot.functions.head? with
    | none =>
      have hnil : snapshot.functions = [] := List.head?_eq_none_iff.1 (Option.or_eq_none_iff.1 hf).2
      rw [fittingSelection_nil selection hnil, hnil]
      exact Selection.none_fits_nil
    | some f =>
      rw [fittingSelection_some hf]
      refine Selection.chosen_fits ?_ ?_ ?_
      · rcases Option.or_eq_some_iff.1 hf with hkept | ⟨-, hfirst⟩
        · obtain ⟨id, -, hid⟩ := Option.bind_eq_some_iff.1 hkept
          exact Snapshot.function?_self hid
        · exact Snapshot.function?_first hfirst
      · -- a test case that is kept is one of the function's, so there is none only if the function has none
        rw [Option.or_eq_none_iff, List.head?_eq_none_iff]
        refine ⟨And.right, fun hnil => ⟨?_, hnil⟩⟩
        simp [hnil]
      · intro testCase h
        rcases Option.or_eq_some_iff.1 h with hkept | ⟨-, hfirst⟩
        · have hlisted := (Option.filter_eq_some_iff.1 hkept).2
          simp only [Bool.and_eq_true, List.contains_iff_mem] at hlisted
          exact hlisted.2
        · exact List.mem_of_head? hfirst

/-- **The selection that is made to fit follows the old one.** -/
theorem fittingSelection_follows (selection : Selection) (snapshot : Snapshot) :
    selection.Follows snapshot.functions (fittingSelection selection (some snapshot)) := by
  constructor
  · intro id f hid hfind
    have hkept : (selection.function.bind snapshot.function?).or snapshot.functions.head? = some f := by
      rw [hid, Option.bind_some, Snapshot.function?, hfind, Option.some_or]
    have hfid : f.id = id := Snapshot.function?_id hfind
    rw [fittingSelection_some hkept, hfid, hid]
    refine ⟨rfl, fun testCase hcase hlisted => ?_, fun hgone => ?_⟩
    · simp [hcase, hlisted]
    · have hdropped : (selection.testCase.filter fun testCase =>
          some id == some id && f.testCases.contains testCase) = none := by
        refine Option.filter_eq_none_iff.2 fun testCase hcase => ?_
        simp [hgone testCase hcase]
      simp only [hdropped, Option.none_or]
  · intro hgone
    have hnone : selection.function.bind snapshot.function? = none := by
      cases hid : selection.function with
      | none => rfl
      | some id => exact hgone id hid
    cases hfirst : snapshot.functions.head? with
    | none =>
      rw [fittingSelection_nil selection (List.head?_eq_none_iff.1 hfirst)]
      exact ⟨rfl, rfl⟩
    | some f =>
      have hfell : (selection.function.bind snapshot.function?).or snapshot.functions.head? = some f := by
        rw [hnone, Option.none_or, hfirst]
      rw [fittingSelection_some hfell]
      refine ⟨rfl, ?_⟩
      -- the old test case is not taken over: the first function was not the selected one
      have hother : (selection.function == some f.id) = false := by
        refine Bool.eq_false_iff.2 fun heq => ?_
        have hlost := hgone f.id (eq_of_beq heq)
        rw [Snapshot.function?_first hfirst] at hlost
        cases hlost
      have hdropped : (selection.testCase.filter fun testCase =>
          selection.function == some f.id && f.testCases.contains testCase) = none := by
        refine Option.filter_eq_none_iff.2 fun testCase _ => ?_
        simp [hother]
      simp only [hdropped, Option.none_or]
      rfl

/-! ## Along a session -/

/-- The selection of a store fits its snapshot. -/
def SelectionFits (s : Store) : Prop := s.selection.Fits (s.snapshot.map (·.functions))

theorem SelectionFits.of_content {s t : Store} (h : t.SelectionFits) (hcontent : s.content = t.content) :
    s.SelectionFits := by
  have hselection : s.selection = t.selection := congrArg Content.selection hcontent
  have hsnapshot : s.snapshot = t.snapshot := congrArg Content.snapshot hcontent
  rw [SelectionFits, hselection, hsnapshot]
  exact h

/-- A batch that is about neither of the two keeps the fit. -/
theorem SelectionFits.batch {s : Store} (h : s.SelectionFits) {mutations : List Mutation}
    (hsnapshot : ∀ m ∈ mutations, .snapshot ∉ m.scope) (hselection : ∀ m ∈ mutations, .selection ∉ m.scope) :
    (s.batch mutations).1.SelectionFits := by
  have hpart : (s.batch mutations).1.part .snapshot = s.part .snapshot := by
    rw [batch_of_scope s hsnapshot]
    exact (applyAll_untouched s .empty hsnapshot).2
  rw [SelectionFits, batch_selection_of_scope s hsnapshot hselection, functions_of_part hpart]
  exact h

theorem batch_select (s : Store) (selection : Selection) :
    (s.batch [.select selection]).1 = { s with selection } := by
  rw [batch_of_scope s (by simp [Mutation.scope])]
  show (s.apply (.select selection)).1 = { s with selection }
  by_cases heq : s.selection = selection
  · rw [apply, if_pos heq, ← heq]
  · rw [apply, if_neg heq]

theorem batch_select_fits (s : Store) {selection : Selection}
    (h : selection.Fits (s.snapshot.map (·.functions))) : (s.batch [.select selection]).1.SelectionFits := by
  rw [batch_select]
  exact h

/-- A function that was looked up may be selected with its first test case. -/
theorem first_fits {s : Store} {function : String} {f : FunctionDefinition}
    (hf : s.function? function = some f) :
    Selection.Fits ⟨some f.id, f.testCases.head?⟩ (s.snapshot.map (·.functions)) := by
  obtain ⟨snapshot, hs, hfind⟩ := Option.bind_eq_some_iff.1 hf
  rw [hs, Option.map_some]
  refine Selection.chosen_fits (Snapshot.function?_self hfind) List.head?_eq_none_iff fun testCase hfirst => ?_
  exact List.mem_of_head? hfirst

/-- So may any of its test cases. -/
theorem testCase_fits {s : Store} {function testCase : String}
    (h : s.hasTestCase function testCase = true) :
    Selection.Fits ⟨some function, some testCase⟩ (s.snapshot.map (·.functions)) := by
  rw [hasTestCase, Option.any_eq_true] at h
  obtain ⟨snapshot, hs, hcase⟩ := h
  rw [hs, Option.map_some]
  unfold Snapshot.hasTestCase at hcase
  cases hf : snapshot.function? function with
  | none =>
    rw [hf] at hcase
    cases hcase
  | some f =>
    rw [hf] at hcase
    have hlisted : testCase ∈ f.testCases := by simpa using hcase
    obtain rfl : f.id = function := Snapshot.function?_id hf
    refine Selection.chosen_fits hf ?_ ?_
    · constructor
      · intro hnone
        cases hnone
      · intro hnil
        rw [hnil] at hlisted
        cases hlisted
    · rintro _ ⟨⟩
      exact hlisted

end Store

variable {p q : Panel} {cause : Cause}

/-- **Every turn leaves a selection that fits.** -/
theorem Turn.selectionFits (turn : Turn p cause q) (h : p.store.SelectionFits) : q.store.SelectionFits := by
  obtain ⟨mutations, ledger, heffect, hcontent, -⟩ := id turn
  cases heffect with
  | projectChanged _ hkind _ =>
    rw [Store.SelectionFits, (turn.takesProject (Event.project?_of_kind hkind)).selection]
    exact Store.fittingSelection_fits ..
  | reloaded herror =>
    obtain ⟨-, hcleared, hsome, hnone⟩ := turn.startsOver ⟨_, _, rfl, herror⟩
    rw [Store.SelectionFits, hcleared]
    -- without a snapshot nothing was selected before either
    cases hs : p.store.snapshot with
    | none =>
      rw [hnone hs]
      rw [Store.SelectionFits, hs] at h
      exact h
    | some snapshot =>
      rw [hsome (by simp [hs])]
      exact Selection.none_fits
  | functionSelected hknown => exact (Store.batch_select_fits _ (Store.first_fits hknown)).of_content hcontent
  | testCaseSelected _ hknown => exact (Store.batch_select_fits _ (Store.testCase_fits hknown)).of_content hcontent
  | started | ticked | tickedAt =>
    refine (h.batch ?_ ?_).of_content hcontent
    · simp [Mutation.scope, or_imp, forall_and]
    · simp [Mutation.scope, or_imp, forall_and]
  | _ => exact (h.batch (by simp [Mutation.scope]) (by simp [Mutation.scope])).of_content hcontent

theorem Panel.new_selectionFits (config : PanelConfig) (channel : MemoryChannel) (now : Instant) :
    (new config channel now).store.SelectionFits :=
  Selection.none_fits

theorem Path.selectionFits {moments : List Moment} (path : Path p moments q) (h : p.store.SelectionFits) :
    q.store.SelectionFits :=
  path.invariant (I := fun _ p => p.store.SelectionFits) (fun _ _ _ _ h turn => turn.selectionFits h) [] h

/-- **The selection points at something that exists.** At the end of every session a function is selected unless there is
no snapshot or the snapshot has no function; the selected function is one of the snapshot, and one of its test cases is
selected unless it has none. When an event about the project is applied, a selected function that is still there stays
selected and so does a test case that it still lists; otherwise the first function or the first test case is selected. -/
theorem selection_exists_and_follows (config : PanelConfig) (channel : MemoryChannel) (now : Instant)
    (ops : List Operation) :
    let history := (Panel.new config channel now).history ops
    let p := ((Panel.new config channel now).performAll ops).2
    p.store.selection.Fits (p.store.snapshot.map (·.functions))
      ∧ ∀ m ∈ history, ∀ message event, m.cause = .handled message (.applied event) → event.project? ≠ none →
          ∃ snapshot, m.after.store.snapshot = some snapshot
            ∧ m.before.store.selection.Follows snapshot.functions m.after.store.selection := by
  intro history p
  have path : Path _ history p := Panel.history_path _ ops
  refine ⟨path.selectionFits (Panel.new_selectionFits config channel now), ?_⟩
  intro m hm message event hcause hproject
  have turn := path.turn_of_mem hm
  rw [hcause] at turn
  obtain ⟨⟨sequence, project⟩, hproject⟩ := Option.ne_none_iff_exists'.1 hproject
  have htakes := turn.takesProject hproject
  obtain ⟨snapshot, hsnapshot, -⟩ := Option.map_eq_some_iff.1 htakes.sequence
  refine ⟨snapshot, hsnapshot, ?_⟩
  rw [htakes.selection, hsnapshot]
  exact Store.fittingSelection_follows ..

end PanelBridge
