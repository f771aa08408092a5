import PanelBridge.Proofs.Records
import PanelBridge.Wire.Catalog

/-!
# Normal forms on the wire

A value on the wire is read leniently: from an object or from a list of its fields, with nulls for what is missing, and a
choice also from an object with one key. It is written in one way only.

* **`Form.Restates`**: for each form, how the JSON that is written restates the JSON that was given. It lists the fields with
  their defaults and knows nothing of the readers and writers.
* **`Form.keeps`**: for each form, what was read is read again from what is written, in either order of the members, and what
  is written restates what was given. There is one lemma for each choice and each record, and its skipped members are matched
  with the defaults of its fields there.
* **`decode_reaches_normal_form`**: what is written is a name or an object, is a fixed point of reading and writing, tells all
  that was read, and is the one restatement of what was given.
-/

namespace PanelBridge

open Arrangement Schema

/-! ## What may be written for what was given

A field is required; or it is filled in with its default when it is missing; or it is skipped when it is missing or has its
default. -/

def EventKind.Restates : Restatement := .oneOf ["ready", "project-updated", "diagnostics", "test-result", "error"]

def CommandKind.Restates : Restatement := .oneOf ["run-test", "cancel-run", "select-function", "request-settings", "reload"]

def Severity.Restates : Restatement := .oneOf ["error", "warning", "info"]

def TestStatus.Restates : Restatement := .oneOf ["success", "failure"]

def Envelope.Restates : Restatement :=
  .record false [.required "kind" .same, .skipped "sequence" .null .same, .skipped "correlationId" .null .same,
    .skipped "payload" .null .same]

/-- The members of an error that it does not know are not written. -/
def ErrorInfo.Restates : Restatement := .record true [.required "code" .same, .required "message" .same]

def FunctionDefinition.Restates : Restatement :=
  .record false [.required "id" .same, .required "signature" .same, .filled "testCases" (.arr []) (.each .same)]

def Span.Restates : Restatement := .record false [.required "start" .same, .required "end" .same]

def Diagnostic.Restates : Restatement :=
  .record false [.required "file" .same, .required "severity" Severity.Restates, .required "message" .same,
    .skipped "span" .null Span.Restates, .skipped "function" .null .same]

def ProjectPayload.Restates : Restatement :=
  .record false [.filled "functions" (.arr []) (.each FunctionDefinition.Restates),
    .filled "diagnostics" (.arr []) (.each Diagnostic.Restates), .skipped "settings" .null .same,
    .filled "incremental" (.bool false) .same, .skipped "removed" (.arr []) (.each .same)]

def DiagnosticsPayload.Restates : Restatement :=
  .record false [.filled "diagnostics" (.arr []) (.each Diagnostic.Restates),
    .skipped "clearedFiles" (.arr []) (.each .same)]

def RuntimeError.Restates : Restatement := .record false [.required "message" .same, .skipped "kind" .null .same]

def TestResult.Restates : Restatement :=
  .record false [.required "status" TestStatus.Restates, .skipped "output" .null .same,
    .skipped "error" .null RuntimeError.Restates, .skipped "durationMs" .null .same, .skipped "completedAt" .null .same]

def HostError.Restates : Restatement := .record false [.required "message" .same]

def Command.Restates : Restatement :=
  .record false [.required "kind" CommandKind.Restates, .skipped "correlationId" .null .same, .skipped "payload" .null .same]

def RunTestPayload.Restates : Restatement := .record false [.required "function" .same, .required "testCase" .same]

def PanelConfig.Restates : Restatement :=
  .record false [.filled "stall_timeout_secs" (.nat 30) .same, .filled "max_message_bytes" (.nat 1048576) .same,
    .filled "tombstone_capacity" (.nat 256) .same, .filled "discard_log_capacity" (.nat 64) .same]

def Form.Restates : Form → Restatement
  | .envelope => Envelope.Restates
  | .eventKind => EventKind.Restates
  | .commandKind => CommandKind.Restates
  | .functionDefinition => FunctionDefinition.Restates
  | .severity => Severity.Restates
  | .span => Span.Restates
  | .diagnostic => Diagnostic.Restates
  | .projectPayload => ProjectPayload.Restates
  | .diagnosticsPayload => DiagnosticsPayload.Restates
  | .testStatus => TestStatus.Restates
  | .runtimeError => RuntimeError.Restates
  | .testResult => TestResult.Restates
  | .hostError => HostError.Restates
  | .command => Command.Restates
  | .runTestPayload => RunTestPayload.Restates
  | .errorInfo => ErrorInfo.Restates
  | .panelConfig => PanelConfig.Restates

/-! No form leaves a choice of what to write: the fields of a record have different names, and none of them leaves one. -/

section Unique

open Restatement

theorem Severity.restates_unique : Relator.RightUnique Restates := unique_oneOf _

theorem TestStatus.restates_unique : Relator.RightUnique Restates := unique_oneOf _

theorem CommandKind.restates_unique : Relator.RightUnique Restates := unique_oneOf _

theorem FunctionDefinition.restates_unique : Relator.RightUnique Restates :=
  unique_record false (by decide) (by simp [unique_same, unique_each])

theorem Span.restates_unique : Relator.RightUnique Restates :=
  unique_record false (by decide) (by simp [unique_same])

theorem Diagnostic.restates_unique : Relator.RightUnique Restates :=
  unique_record false (by decide) (by simp [unique_same, Severity.restates_unique, Span.restates_unique])

theorem RuntimeError.restates_unique : Relator.RightUnique Restates :=
  unique_record false (by decide) (by simp [unique_same])

theorem Form.restates_unique (f : Form) : Relator.RightUnique f.Restates := by
  cases f with
  | eventKind | commandKind | severity | testStatus => exact unique_oneOf _
  | functionDefinition => exact FunctionDefinition.restates_unique
  | span => exact Span.restates_unique
  | diagnostic => exact Diagnostic.restates_unique
  | runtimeError => exact RuntimeError.restates_unique
  | _ =>
    refine unique_record _ (by decide) ?_
    simp [unique_same, unique_each, FunctionDefinition.restates_unique, Diagnostic.restates_unique,
      TestStatus.restates_unique, RuntimeError.restates_unique, CommandKind.restates_unique]

end Unique

variable (A : Arrangement)

/-! ## Choices -/

theorem EventKind.keeps : A.Keeps decode encode Restates := A.keeps_choice all name

theorem CommandKind.keeps : A.Keeps decode encode Restates := A.keeps_choice all name

theorem Severity.keeps : A.Keeps decode encode Restates := A.keeps_choice all name

theorem TestStatus.keeps : A.Keeps decode encode Restates := A.keeps_choice all name

/-! ## Records, field by field

Each proof lists the fields in the order in which they are read. At the end the members that are written, some of which may
be left out, are compared with the slots of the fields. A field that may be null needs a decoder that refuses null. -/

theorem Envelope.keeps : A.Keeps decode encode Restates := by
  refine A.record (by decide) ?_
  refine .field (A.keeps_required A.keeps_string "kind") fun _ => ?_
  refine .field (A.keeps_optional A.keeps_word64 (fun _ h => by cases h) "sequence") fun _ => ?_
  refine .field (A.keeps_optional A.keeps_string (fun _ h => by cases h) "correlationId") fun _ => ?_
  refine .field (A.keeps_anyField "payload") fun _ => ?_
  refine .done ?_
  simp only [encode, whenSome_eq, whenTrue_eq]
  rfl

theorem ErrorInfo.keeps : A.Keeps decode encode Restates := by
  refine A.record (by decide) ?_
  refine .field (A.keeps_required A.keeps_string "code") fun _ => ?_
  refine .field (A.keeps_required A.keeps_string "message") fun _ => ?_
  exact .done rfl

theorem FunctionDefinition.keeps : A.Keeps decode encode Restates := by
  refine A.record (by decide) ?_
  refine .field (A.keeps_required A.keeps_string "id") fun _ => ?_
  refine .field (A.keeps_required A.keeps_string "signature") fun _ => ?_
  refine .field (A.keeps_listField A.keeps_string "testCases") fun _ => ?_
  exact .done rfl

theorem Span.keeps : A.Keeps decode encode Restates := by
  refine A.record (by decide) ?_
  refine .field (A.keeps_required A.keeps_word32 "start") fun _ => ?_
  refine .field (A.keeps_required A.keeps_word32 "end") fun _ => ?_
  exact .done rfl

theorem Diagnostic.keeps : A.Keeps decode encode Restates := by
  refine A.record (by decide) ?_
  refine .field (A.keeps_required A.keeps_string "file") fun _ => ?_
  refine .field (A.keeps_required (Severity.keeps A) "severity") fun _ => ?_
  refine .field (A.keeps_required A.keeps_string "message") fun _ => ?_
  refine .field (A.keeps_optional (Span.keeps A) (fun _ h => by cases h) "span") fun _ => ?_
  refine .field (A.keeps_optional A.keeps_string (fun _ h => by cases h) "function") fun _ => ?_
  refine .done ?_
  simp only [encode, whenSome_eq]
  rfl

theorem ProjectPayload.keeps : A.Keeps decode encode Restates := by
  refine A.record (by decide) ?_
  refine .field (A.keeps_listField (FunctionDefinition.keeps A) "functions") fun _ => ?_
  refine .field (A.keeps_listField (Diagnostic.keeps A) "diagnostics") fun _ => ?_
  refine .field (A.keeps_optional A.keeps_members (fun _ h => by cases h) "settings") fun _ => ?_
  refine .field (A.keeps_flag "incremental") fun _ => ?_
  refine .field (A.keeps_nonempty A.keeps_string "removed") fun _ => ?_
  refine .done ?_
  simp only [encode, whenSome_eq, whenTrue_eq]
  rfl

theorem DiagnosticsPayload.keeps : A.Keeps decode encode Restates := by
  refine A.record (by decide) ?_
  refine .field (A.keeps_listField (Diagnostic.keeps A) "diagnostics") fun _ => ?_
  refine .field (A.keeps_nonempty A.keeps_string "clearedFiles") fun _ => ?_
  refine .done ?_
  simp only [encode, whenTrue_eq]
  rfl

theorem RuntimeError.keeps : A.Keeps decode encode Restates := by
  refine A.record (by decide) ?_
  refine .field (A.keeps_required A.keeps_string "message") fun _ => ?_
  refine .field (A.keeps_optional A.keeps_string (fun _ h => by cases h) "kind") fun _ => ?_
  refine .done ?_
  simp only [encode, whenSome_eq]
  rfl

theorem TestResult.keeps : A.Keeps decode encode Restates := by
  refine A.record (by decide) ?_
  refine .field (A.keeps_required (TestStatus.keeps A) "status") fun _ => ?_
  refine .field (A.keeps_optionalAny "output") fun _ => ?_
  refine .field (A.keeps_optional (RuntimeError.keeps A) (fun _ h => by cases h) "error") fun _ => ?_
  refine .field (A.keeps_optional A.keeps_word64 (fun _ h => by cases h) "durationMs") fun _ => ?_
  refine .field (A.keeps_optional A.keeps_string (fun _ h => by cases h) "completedAt") fun _ => ?_
  refine .done ?_
  simp only [encode, whenSome_eq]
  rfl

theorem HostError.keeps : A.Keeps decode encode Restates := by
  refine A.record (by decide) ?_
  refine .field (A.keeps_required A.keeps_string "message") fun _ => ?_
  exact .done rfl

theorem Command.keeps : A.Keeps decode encode Restates := by
  refine A.record (by decide) ?_
  refine .field (A.keeps_required (CommandKind.keeps A) "kind") fun _ => ?_
  refine .field (A.keeps_optional A.keeps_string (fun _ h => by cases h) "correlationId") fun _ => ?_
  refine .field (A.keeps_anyField "payload") fun _ => ?_
  refine .done ?_
  simp only [encode, whenSome_eq, whenTrue_eq]
  rfl

theorem RunTestPayload.keeps : A.Keeps decode encode Restates := by
  refine A.record (by decide) ?_
  refine .field (A.keeps_required A.keeps_string "function") fun _ => ?_
  refine .field (A.keeps_required A.keeps_string "testCase") fun _ => ?_
  exact .done rfl

theorem PanelConfig.keeps : A.Keeps decode encode Restates := by
  refine A.record (by decide) ?_
  refine .field (A.keeps_limit "u64" (by decide) "stall_timeout_secs") fun _ => ?_
  refine .field (A.keeps_limit "usize" (by decide) "max_message_bytes") fun _ => ?_
  refine .field (A.keeps_limit "usize" (by decide) "tombstone_capacity") fun _ => ?_
  refine .field (A.keeps_limit "usize" (by decide) "discard_log_capacity") fun _ => ?_
  exact .done rfl

/-! ## All forms -/

theorem Form.keeps (f : Form) : A.Keeps f.decode f.encode f.Restates := by
  cases f with
  | envelope => exact Envelope.keeps A
  | eventKind => exact EventKind.keeps A
  | commandKind => exact CommandKind.keeps A
  | functionDefinition => exact FunctionDefinition.keeps A
  | severity => exact Severity.keeps A
  | span => exact Span.keeps A
  | diagnostic => exact Diagnostic.keeps A
  | projectPayload => exact ProjectPayload.keeps A
  | diagnosticsPayload => exact DiagnosticsPayload.keeps A
  | testStatus => exact TestStatus.keeps A
  | runtimeError => exact RuntimeError.keeps A
  | testResult => exact TestResult.keeps A
  | hostError => exact HostError.keeps A
  | command => exact Command.keeps A
  | runTestPayload => exact RunTestPayload.keeps A
  | errorInfo => exact ErrorInfo.keeps A
  | panelConfig => exact PanelConfig.keeps A

/-- Values of the form are written by their names alone. -/
def Form.isChoice : Form → Bool
  | .eventKind | .commandKind | .severity | .testStatus => true
  | _ => false

theorem Form.encode_shape (f : Form) (x : f.Value) :
    if f.isChoice then ∃ name, f.encode x = .str name else ∃ members, f.encode x = .obj members := by
  cases f <;> exact ⟨_, rfl⟩

/-- **What is read is written in a normal form.** It is a name for a choice and an object for a record. Reading it gives the
same value again, as it was written and with the members of all objects sorted, so that it is its own normal form, and no
two values that were read share it.

What was given is neither lost nor altered: the normal form restates it. A field that was given, by name or by place, stands
in it with the same value or, if it is itself of some form, with a restatement of it. A field is left out only if it was
missing or had its default, one that was missing is put in with its default only, and nothing else is written. No other JSON
value is such a restatement. -/
theorem decode_reaches_normal_form (f : Form) (v : Json) (x : f.Value) (h : f.decode v = .ok x) :
    (if f.isChoice then ∃ name, f.encode x = .str name else ∃ members, f.encode x = .obj members)
      ∧ f.decode (f.encode x) = .ok x
      ∧ (v.Canonical → f.decode (f.encode x).canonical = .ok x)
      ∧ f.normalize v = .ok (f.encode x) ∧ f.normalize (f.encode x) = .ok (f.encode x)
      ∧ (∀ w y, f.decode w = .ok y → f.encode y = f.encode x → y = x)
      ∧ ∀ w, f.Restates v w ↔ w = f.encode x := by
  have hagain : f.decode (f.encode x) = .ok x := (f.keeps asWritten).again v x trivial h
  have hrestates : f.Restates v (f.encode x) := (f.keeps asWritten).restates v x h
  refine ⟨f.encode_shape x, hagain, fun hv => (f.keeps sorted).again v x hv h, ?_, ?_, fun w y hw hsame => ?_, fun w => ?_⟩
  · rw [Form.normalize, h]
    rfl
  · rw [Form.normalize, hagain]
    rfl
  · -- what is written for `y` is read as `y`, and it is what is written for `x`
    have hother : f.decode (f.encode y) = .ok y := (f.keeps asWritten).again w y trivial hw
    rw [hsame, hagain] at hother
    exact (Except.ok.inj hother).symm
  · refine ⟨fun hw => f.restates_unique hw hrestates, ?_⟩
    rintro rfl
    exact hrestates

/-- A diagnostic as a list of its fields: the severity as an object, the span as a list, no function. -/
def listedDiagnostic : Json :=
  .arr [.str "a.src", .obj [("error", .null)], .str "bad", .arr [.nat 1, .nat 2], .null]

/-- A project with its members in another order, among them null settings and the diagnostic as a list. -/
def looseProject : Json :=
  .obj [("removed", .arr [.str "g"]), ("settings", .null), ("diagnostics", .arr [listedDiagnostic])]

/-- The project is written with all that was given; without the removed function it would not be restated. -/
theorem looseProject_reaches_normal_form :
    let d : Diagnostic := ⟨"a.src", .error, "bad", some ⟨1, 2⟩, none⟩
    let p : ProjectPayload := ⟨[], [d], none, false, ["g"]⟩
    let written : List (String × Json) :=
      [("functions", .arr []),
        ("diagnostics", .arr [.obj [("file", .str "a.src"), ("severity", .str "error"), ("message", .str "bad"),
          ("span", .obj [("start", .nat 1), ("end", .nat 2)])]]),
        ("incremental", .bool false)]
    Form.projectPayload.decode looseProject = .ok p
      ∧ Form.projectPayload.normalize looseProject = .ok (.obj (written ++ [("removed", .arr [.str "g"])]))
      ∧ Form.projectPayload.decode (.obj (written ++ [("removed", .arr [.str "g"])])) = .ok p
      ∧ Form.projectPayload.Restates looseProject (.obj (written ++ [("removed", .arr [.str "g"])]))
      ∧ ¬ Form.projectPayload.Restates looseProject (.obj written) := by
  intro d p written
  have h : Form.projectPayload.decode looseProject = .ok p := rfl
  obtain ⟨-, hagain, -, hnormal, -, -, honly⟩ := decode_reaches_normal_form .projectPayload looseProject p h
  refine ⟨h, hnormal, hagain, (honly _).2 rfl, fun hdropped => ?_⟩
  have hlength : 3 = 4 := congrArg List.length (Json.obj.inj ((honly _).1 hdropped))
  cases hlength

end PanelBridge
