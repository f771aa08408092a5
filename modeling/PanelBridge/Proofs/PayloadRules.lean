import Mathlib.Tactic.MkIffOfInductiveProp
import PanelBridge.Message

/-!
# The rules that events obey

The checks of a payload stop at the first item that breaks a rule, and they look for repeated ids in the list of those
seen so far. What they come to is said here without that order: a check passes exactly if a condition on the payload
holds, and the payload of every event that is read from a message satisfies it.

* **`checkProject_ok_iff`**, **`checkDiagnostics_ok_iff`**, **`checkResult_ok_iff`**: the checks as conditions.
* **`Envelope.Holds`**: the event of a kind in an envelope, with the rules of that kind. Reading finds exactly these events
  (`Event.ofEnvelope_ok_iff`).
* **`Message.decode_wellFormed`**: an event that is read obeys the rules of its kind.
* **`event_read_iff_rules_obeyed`**: reading succeeds exactly if the rules are obeyed, and changes nothing of what it reads.
-/

namespace PanelBridge

/-! ## Conditions -/

/-- A function has an id, its test cases have ids, and none of these repeats. -/
structure FunctionDefinition.WellFormed (f : FunctionDefinition) : Prop where
  id : IsId f.id
  testCases : ∀ testCase ∈ f.testCases, IsId testCase
  distinct : f.testCases.Nodup

/-- A diagnostic names a file, and its span does not run backwards. -/
@[mk_iff]
structure Diagnostic.WellFormed (d : Diagnostic) : Prop where
  file : Text.isBlankText d.file = false
  span : ∀ span, d.span = some span → span.start ≤ span.finish

@[mk_iff]
structure ProjectPayload.WellFormed (p : ProjectPayload) : Prop where
  functions : ∀ f ∈ p.functions, f.WellFormed
  distinct : (p.functions.map (·.id)).Nodup
  removes : p.removed ≠ [] → p.incremental = true
  removed : ∀ id ∈ p.removed, IsId id
  diagnostics : ∀ d ∈ p.diagnostics, d.WellFormed

@[mk_iff]
structure DiagnosticsPayload.WellFormed (p : DiagnosticsPayload) : Prop where
  diagnostics : ∀ d ∈ p.diagnostics, d.WellFormed
  cleared : ∀ file ∈ p.clearedFiles, Text.isBlankText file = false

/-- A failure comes with an error, and a time of completion is a timestamp. -/
@[mk_iff]
structure TestResult.WellFormed (r : TestResult) : Prop where
  error : r.status = .failure → r.error ≠ none
  time : ∀ time, r.completedAt = some time → (Timestamp.strict time).isSome = true

/-- The event obeys the rules for what it says about the project. -/
def Event.WellFormed : Event → Prop
  | .ready _ project => project.WellFormed ∧ project.incremental = false
  | .projectUpdated _ project => project.WellFormed
  | .diagnostics _ payload => payload.WellFormed
  | .testResult .. | .hostError _ => True

/-! ## Checks -/

theorem Text.isBlankText_eq_false_iff {s : String} :
    Text.isBlankText s = false ↔ ∃ c ∈ s.toList, Text.isBlank c = false := by
  simp [Text.isBlankText, List.all_eq_false]

/-- One check after another. -/
theorem then_eq_ok_iff {ε β : Type} {x : Except ε Unit} {f : Unit → Except ε β} {b : β} :
    (x >>= f) = .ok b ↔ x = .ok () ∧ f () = .ok b := by
  rw [bind_eq_ok_iff]
  exact ⟨fun ⟨(), h⟩ => h, fun h => ⟨(), h⟩⟩

theorem checkId_ok_iff {value field : String} : checkId value field = .ok () ↔ IsId value := by
  unfold checkId IsId
  cases hblank : Text.isBlankText value with
  | true => simp
  | false =>
    by_cases hlong : maxIdLength < value.length
    · simp [hlong]
    · simp [hlong, Nat.le_of_not_lt hlong]

theorem checkPresent_ok_iff {value field : String} :
    checkPresent value field = .ok () ↔ Text.isBlankText value = false := by
  unfold checkPresent
  cases Text.isBlankText value <;> simp

theorem checkAll_ok_iff {α : Type} {check : α → Except Violation Unit} {items : List α} :
    checkAll check items = .ok () ↔ ∀ a ∈ items, check a = .ok () := by
  induction items with
  | nil => simp [checkAll]
  | cons a rest ih =>
    rw [checkAll, List.forall_mem_cons, ← ih]
    cases check a with
    | error v => simp
    | ok => simp

/-- Test cases pass after others exactly if they are ids and repeat neither those nor one another. -/
theorem checkTestCases_ok_iff {function : String} {seen testCases : List String} :
    checkTestCases function seen testCases = .ok ()
      ↔ (∀ testCase ∈ testCases, IsId testCase) ∧ (∀ testCase ∈ testCases, testCase ∉ seen) ∧ testCases.Nodup := by
  induction testCases generalizing seen with
  | nil => simp [checkTestCases]
  | cons testCase rest ih =>
    rw [checkTestCases]
    cases hid : checkId testCase "test case id" with
    | error v =>
      have hbad : ¬IsId testCase := fun h => by cases hid.symm.trans (checkId_ok_iff.2 h)
      simp [hbad]
    | ok =>
      have hgood : IsId testCase := checkId_ok_iff.1 hid
      by_cases hseen : testCase ∈ seen
      · simp [hseen]
      · simp only [List.contains_eq_mem, hseen, decide_false, Bool.false_eq_true, if_false, ih]
        -- what comes after `testCase` must differ from what was seen before it and from `testCase`
        grind

/-- The same for functions and their ids. -/
theorem checkFunctions_ok_iff {seen : List String} {functions : List FunctionDefinition} :
    checkFunctions seen functions = .ok ()
      ↔ (∀ f ∈ functions, f.WellFormed) ∧ (∀ f ∈ functions, f.id ∉ seen) ∧ (functions.map (·.id)).Nodup := by
  induction functions generalizing seen with
  | nil => simp [checkFunctions]
  | cons f rest ih =>
    rw [checkFunctions]
    cases hid : checkId f.id "function id" with
    | error v =>
      have hbad : ¬f.WellFormed := fun h => by cases hid.symm.trans (checkId_ok_iff.2 h.id)
      simp [hbad]
    | ok =>
      by_cases hseen : f.id ∈ seen
      · simp [hseen]
      · simp only [List.contains_eq_mem, hseen, decide_false, Bool.false_eq_true, if_false]
        cases hcases : checkTestCases f.id [] f.testCases with
        | error v =>
          have hbad : ¬f.WellFormed := by
            intro h
            have hok : checkTestCases f.id [] f.testCases = .ok () :=
              checkTestCases_ok_iff.2 ⟨h.testCases, by simp, h.distinct⟩
            cases hcases.symm.trans hok
          simp [hbad]
        | ok =>
          obtain ⟨hids, -, hdistinct⟩ := checkTestCases_ok_iff.1 hcases
          have hgood : f.WellFormed := ⟨checkId_ok_iff.1 hid, hids, hdistinct⟩
          simp only [ih]
          grind

theorem checkDiagnostic_ok_iff {d : Diagnostic} : checkDiagnostic d = .ok () ↔ d.WellFormed := by
  unfold checkDiagnostic
  cases hfile : checkPresent d.file "file" with
  | error v =>
    have hbad : ¬d.WellFormed := fun h => by cases hfile.symm.trans (checkPresent_ok_iff.2 h.file)
    simp [hbad]
  | ok =>
    have hpresent := checkPresent_ok_iff.1 hfile
    cases hspan : d.span with
    | none => simp [hspan, Diagnostic.wellFormed_iff, hpresent]
    | some span =>
      simp [hspan, Diagnostic.wellFormed_iff, hpresent]

theorem checkProject_ok_iff {p : ProjectPayload} : checkProject p = .ok () ↔ p.WellFormed := by
  unfold checkProject
  rw [then_eq_ok_iff, checkFunctions_ok_iff, ProjectPayload.wellFormed_iff]
  by_cases hremoves : p.removed ≠ [] → p.incremental = true
  · have hguard : (!p.incremental && !p.removed.isEmpty) = false := by
      cases hincremental : p.incremental <;> simp_all
    simp only [hguard, Bool.false_eq_true, if_false, then_eq_ok_iff, checkAll_ok_iff, checkId_ok_iff, checkDiagnostic_ok_iff]
    constructor
    · rintro ⟨⟨hfunctions, -, hdistinct⟩, hremoved, hdiagnostics⟩
      exact ⟨hfunctions, hdistinct, hremoves, hremoved, hdiagnostics⟩
    · rintro ⟨hfunctions, hdistinct, -, hremoved, hdiagnostics⟩
      exact ⟨⟨hfunctions, by simp, hdistinct⟩, hremoved, hdiagnostics⟩
  · have hguard : (!p.incremental && !p.removed.isEmpty) = true := by simp_all
    rw [hguard, if_pos rfl]
    constructor
    · rintro ⟨-, ⟨⟩⟩
    · rintro ⟨-, -, h, -⟩
      exact absurd h hremoves

theorem checkDiagnostics_ok_iff {p : DiagnosticsPayload} : checkDiagnostics p = .ok () ↔ p.WellFormed := by
  unfold checkDiagnostics
  rw [then_eq_ok_iff, checkAll_ok_iff, checkAll_ok_iff, DiagnosticsPayload.wellFormed_iff]
  simp only [checkDiagnostic_ok_iff, checkPresent_ok_iff]

theorem checkResult_ok_iff {r : TestResult} : checkResult r = .ok () ↔ r.WellFormed := by
  unfold checkResult
  rw [TestResult.wellFormed_iff]
  by_cases hfailure : r.status = .failure ∧ r.error.isNone = true
  · rw [if_pos hfailure]
    have hbad : ¬(r.status = .failure → r.error ≠ none) := fun h => h hfailure.1 (Option.isNone_iff_eq_none.1 hfailure.2)
    simp [hbad]
  · rw [if_neg hfailure]
    have hgood : r.status = .failure → r.error ≠ none := fun hstatus hnone => hfailure ⟨hstatus, by rw [hnone]; rfl⟩
    rw [and_iff_right hgood]
    cases htime : r.completedAt with
    | none => simp
    | some time => simp [Option.isSome_iff_ne_none]

/-! ## Reading -/

/-- An envelope holds an event of a kind: it has what that kind needs, its payload has the shape of the kind, and the rules for
it are obeyed. -/
inductive Envelope.Holds (e : Envelope) : EventKind → Event → Prop where
  | ready {sequence : Nat} {project : ProjectPayload} (numbered : e.sequence = some sequence)
      (decodes : ProjectPayload.decode e.payload = .ok project) (rules : project.WellFormed)
      (full : project.incremental = false) : Holds e .ready (.ready sequence project)
  | projectUpdated {sequence : Nat} {project : ProjectPayload} (numbered : e.sequence = some sequence)
      (decodes : ProjectPayload.decode e.payload = .ok project) (rules : project.WellFormed) :
      Holds e .projectUpdated (.projectUpdated sequence project)
  | diagnostics {payload : DiagnosticsPayload} (decodes : DiagnosticsPayload.decode e.payload = .ok payload)
      (rules : payload.WellFormed) : Holds e .diagnostics (.diagnostics e.sequence payload)
  | testResult {id : String} {result : TestResult} (named : e.correlationId = some id) (isId : IsId id)
      (decodes : TestResult.decode e.payload = .ok result) (rules : result.WellFormed) :
      Holds e .testResult (.testResult id result)
  | error {failure : HostError} (decodes : HostError.decode e.payload = .ok failure) :
      Holds e .error (.hostError failure.message)

theorem decodePayload_ok_iff {α : Type} {kind : EventKind} {d : Decoder α} {payload : Json} {a : α} :
    decodePayload kind d payload = .ok a ↔ d payload = .ok a := by
  unfold decodePayload
  cases d payload with
  | error e => exact iff_of_false (by rintro ⟨⟩) (by rintro ⟨⟩)
  | ok b =>
    show Except.ok b = Except.ok a ↔ _
    rw [Except.ok.injEq, Except.ok.injEq]

theorem Event.ofProject_ok_iff {kind : EventKind} {e : Envelope} {sequence : Nat} {project : ProjectPayload} :
    Event.ofProject kind e = .ok (sequence, project)
      ↔ e.sequence = some sequence ∧ ProjectPayload.decode e.payload = .ok project ∧ project.WellFormed := by
  unfold Event.ofProject
  cases hs : e.sequence with
  | none =>
    constructor
    · rintro ⟨⟩
    · rintro ⟨⟨⟩, -⟩
  | some n =>
    simp only [bind_eq_ok_iff, decodePayload_ok_iff]
    constructor
    · rintro ⟨read, hdecode, ⟨⟩, hcheck, hreturn⟩
      cases hreturn
      exact ⟨rfl, hdecode, checkProject_ok_iff.1 hcheck⟩
    · rintro ⟨⟨⟩, hdecode, hrules⟩
      exact ⟨project, hdecode, (), checkProject_ok_iff.2 hrules, rfl⟩

/-- **Reading finds the event that the envelope holds.** The rules of a kind are checked in an order of their own, which does
not show in the result. -/
theorem Event.ofEnvelope_ok_iff {kind : EventKind} {e : Envelope} {event : Event} :
    Event.ofEnvelope kind e = .ok event ↔ e.Holds kind event := by
  unfold Event.ofEnvelope
  cases kind with
  | ready =>
    simp only [bind_eq_ok_iff]
    constructor
    · rintro ⟨⟨sequence, project⟩, hproject, h⟩
      obtain ⟨hnumbered, hdecode, hrules⟩ := ofProject_ok_iff.1 hproject
      cases hfull : project.incremental with
      | true =>
        simp only [hfull] at h
        cases h
      | false =>
        simp only [hfull] at h
        cases h
        exact .ready hnumbered hdecode hrules hfull
    · rintro (⟨hnumbered, hdecode, hrules, hfull⟩)
      refine ⟨_, ofProject_ok_iff.2 ⟨hnumbered, hdecode, hrules⟩, ?_⟩
      simp only [hfull]
      rfl
  | projectUpdated =>
    simp only [bind_eq_ok_iff]
    constructor
    · rintro ⟨⟨sequence, project⟩, hproject, ⟨⟩⟩
      obtain ⟨hnumbered, hdecode, hrules⟩ := ofProject_ok_iff.1 hproject
      exact .projectUpdated hnumbered hdecode hrules
    · rintro (_ | ⟨hnumbered, hdecode, hrules⟩)
      exact ⟨_, ofProject_ok_iff.2 ⟨hnumbered, hdecode, hrules⟩, rfl⟩
  | diagnostics =>
    simp only [bind_eq_ok_iff, decodePayload_ok_iff]
    constructor
    · rintro ⟨payload, hdecode, ⟨⟩, hcheck, ⟨⟩⟩
      exact .diagnostics hdecode (checkDiagnostics_ok_iff.1 hcheck)
    · rintro (_ | _ | ⟨hdecode, hrules⟩)
      exact ⟨_, hdecode, (), checkDiagnostics_ok_iff.2 hrules, rfl⟩
  | testResult =>
    cases hnamed : e.correlationId with
    | none =>
      constructor
      · rintro ⟨⟩
      · rintro (_ | _ | _ | ⟨hid⟩)
        cases hnamed.symm.trans hid
    | some id =>
      simp only [bind_eq_ok_iff, decodePayload_ok_iff]
      constructor
      · rintro ⟨⟨⟩, hid, result, hdecode, ⟨⟩, hcheck, ⟨⟩⟩
        exact .testResult hnamed (checkId_ok_iff.1 hid) hdecode (checkResult_ok_iff.1 hcheck)
      · rintro (_ | _ | _ | ⟨hid, hisId, hdecode, hrules⟩)
        cases hnamed.symm.trans hid
        exact ⟨(), checkId_ok_iff.2 hisId, _, hdecode, (), checkResult_ok_iff.2 hrules, rfl⟩
  | error =>
    simp only [bind_eq_ok_iff, decodePayload_ok_iff]
    constructor
    · rintro ⟨failure, hdecode, ⟨⟩⟩
      exact .error hdecode
    · rintro (_ | _ | _ | _ | ⟨hdecode⟩)
      exact ⟨_, hdecode, rfl⟩

/-- **An event that is read from an envelope obeys the rules.** -/
theorem Event.ofEnvelope_wellFormed {kind : EventKind} {e : Envelope} {event : Event}
    (h : Event.ofEnvelope kind e = .ok event) : event.WellFormed := by
  cases ofEnvelope_ok_iff.1 h with
  | ready _ _ hrules hfull => exact ⟨hrules, hfull⟩
  | projectUpdated _ _ hrules => exact hrules
  | diagnostics _ hrules => exact hrules
  | testResult | error => trivial

theorem Message.eventOf_wellFormed {v : Json} {event : Event} (h : Message.eventOf v = .ok event) :
    event.WellFormed := by
  unfold eventOf at h
  split at h
  · cases h
  · split at h
    · cases h
    · rename_i envelope _ _ kind _
      cases hread : Event.ofEnvelope kind envelope with
      | error violation =>
        rw [hread] at h
        cases h
      | ok read =>
        rw [hread] at h
        cases h
        exact Event.ofEnvelope_wellFormed hread

theorem Message.decode_wellFormed {m : Message} {limit : Nat} {event : Event} (h : m.decode limit = .ok event) :
    event.WellFormed := by
  unfold decode at h
  split at h
  · cases h
  · split at h
    · cases h
    · exact eventOf_wellFormed h

/-! ## When reading succeeds -/

/-- The envelope has what a kind needs and obeys the rules of that kind. -/
def Envelope.Obeys (e : Envelope) : EventKind → Prop
  | .ready => e.sequence.isSome = true ∧ ∃ project, ProjectPayload.decode e.payload = .ok project
      ∧ project.WellFormed ∧ project.incremental = false
  | .projectUpdated => e.sequence.isSome = true ∧ ∃ project, ProjectPayload.decode e.payload = .ok project
      ∧ project.WellFormed
  | .diagnostics => ∃ payload, DiagnosticsPayload.decode e.payload = .ok payload ∧ payload.WellFormed
  | .testResult => (∃ id, e.correlationId = some id ∧ IsId id)
      ∧ ∃ result, TestResult.decode e.payload = .ok result ∧ result.WellFormed
  | .error => ∃ failure, HostError.decode e.payload = .ok failure

/-- The event has the number or the id of the envelope, and its payload as it was decoded. -/
def Envelope.Carries (e : Envelope) : Event → Prop
  | .ready sequence project | .projectUpdated sequence project =>
    e.sequence = some sequence ∧ ProjectPayload.decode e.payload = .ok project
  | .diagnostics sequence payload => e.sequence = sequence ∧ DiagnosticsPayload.decode e.payload = .ok payload
  | .testResult id result => e.correlationId = some id ∧ TestResult.decode e.payload = .ok result
  | .hostError message => HostError.decode e.payload = .ok ⟨message⟩

theorem Envelope.obeys_iff {e : Envelope} {kind : EventKind} : e.Obeys kind ↔ ∃ event, e.Holds kind event := by
  constructor
  · intro h
    cases kind with
    | ready =>
      obtain ⟨hnumbered, project, hdecode, hrules, hfull⟩ := h
      obtain ⟨sequence, hsequence⟩ := Option.isSome_iff_exists.1 hnumbered
      exact ⟨_, .ready hsequence hdecode hrules hfull⟩
    | projectUpdated =>
      obtain ⟨hnumbered, project, hdecode, hrules⟩ := h
      obtain ⟨sequence, hsequence⟩ := Option.isSome_iff_exists.1 hnumbered
      exact ⟨_, .projectUpdated hsequence hdecode hrules⟩
    | diagnostics =>
      obtain ⟨payload, hdecode, hrules⟩ := h
      exact ⟨_, .diagnostics hdecode hrules⟩
    | testResult =>
      obtain ⟨⟨id, hnamed, hisId⟩, result, hdecode, hrules⟩ := h
      exact ⟨_, .testResult hnamed hisId hdecode hrules⟩
    | error =>
      obtain ⟨failure, hdecode⟩ := h
      exact ⟨_, .error hdecode⟩
  · rintro ⟨event, h⟩
    cases h with
    | ready hnumbered hdecode hrules hfull => exact ⟨by rw [hnumbered]; rfl, _, hdecode, hrules, hfull⟩
    | projectUpdated hnumbered hdecode hrules => exact ⟨by rw [hnumbered]; rfl, _, hdecode, hrules⟩
    | diagnostics hdecode hrules => exact ⟨_, hdecode, hrules⟩
    | testResult hnamed hisId hdecode hrules => exact ⟨⟨_, hnamed, hisId⟩, _, hdecode, hrules⟩
    | error hdecode => exact ⟨_, hdecode⟩

/-- **An event is read exactly if the rules of its kind are obeyed.** For every kind and every envelope, reading succeeds exactly
if the payload has the shape of the kind and

* for the two kinds about the project: there is a sequence number; the ids of functions, of test cases and of removed functions are
  neither blank nor too long; no function repeats, and no test case within its function; there are removed functions only in
  an incremental update, which a ready event is not; and every diagnostic has a file and a span that does not run backwards;
* for diagnostics: the same of every diagnostic, and no cleared file is blank;
* for a result: there is a correlation id that is neither blank nor too long, a failure has an error, and a time of completion is a
  timestamp;
* for an error: nothing more.

The event that is read is of that kind, with the number or the id of the envelope and the payload as it was decoded. -/
theorem event_read_iff_rules_obeyed (kind : EventKind) (e : Envelope) :
    ((∃ event, Event.ofEnvelope kind e = .ok event) ↔ e.Obeys kind)
      ∧ ∀ event, Event.ofEnvelope kind e = .ok event → event.kind = kind ∧ e.Carries event := by
  constructor
  · rw [Envelope.obeys_iff]
    exact exists_congr fun _ => Event.ofEnvelope_ok_iff
  · intro event h
    cases Event.ofEnvelope_ok_iff.1 h with
    | ready hnumbered hdecode | projectUpdated hnumbered hdecode => exact ⟨rfl, hnumbered, hdecode⟩
    | diagnostics hdecode => exact ⟨rfl, rfl, hdecode⟩
    | testResult hnamed _ hdecode => exact ⟨rfl, hnamed, hdecode⟩
    | error hdecode => exact ⟨rfl, hdecode⟩

end PanelBridge
