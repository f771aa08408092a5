import PanelBridge.Text.Blank
import PanelBridge.Time.Timestamp
import PanelBridge.Wire.Envelope
import PanelBridge.Wire.Kind
import PanelBridge.Wire.Project
import PanelBridge.Wire.TestResult

/-!
# Events

An event is an envelope of a known kind whose payload has the shape of that kind and obeys its rules: ids are neither
blank nor too long and do not repeat, diagnostics name a file and have spans that do not run backwards, failures carry
an error, times are timestamps.
-/

namespace PanelBridge

/-- A message from the host that has passed all checks. -/
inductive Event where
  | ready (sequence : Nat) (project : ProjectPayload)
  | projectUpdated (sequence : Nat) (project : ProjectPayload)
  | diagnostics (sequence : Option Nat) (payload : DiagnosticsPayload)
  | testResult (correlationId : String) (result : TestResult)
  | hostError (message : String)

namespace Event

def kind : Event → EventKind
  | .ready .. => .ready
  | .projectUpdated .. => .projectUpdated
  | .diagnostics .. => .diagnostics
  | .testResult .. => .testResult
  | .hostError .. => .error

/-- The sequence number of an event about the project. -/
def projectSequence : Event → Option Nat
  | .ready sequence _ => some sequence
  | .projectUpdated sequence _ => some sequence
  | _ => none

end Event

/-- The rule that a message breaks. -/
inductive Violation where
  | malformedEnvelope (reason : SchemaError)
  | malformedPayload (kind : EventKind) (reason : SchemaError)
  | sequenceMissing (kind : EventKind)
  | correlationIdMissing
  | idBlank (field : String)
  | idTooLong (field : String)
  | functionRepeated (id : String)
  | testCaseRepeated (testCase function : String)
  | removedWithoutIncremental
  | incrementalReady
  | fieldBlank (field : String)
  | spanReversed (span : Span)
  | errorMissing
  | badTimestamp

def maxIdLength : Nat := 256

namespace Violation

def code : Violation → String
  | .malformedEnvelope _ => "invalid_envelope"
  | .malformedPayload .. | .removedWithoutIncremental | .incrementalReady => "invalid_payload"
  | .sequenceMissing _ | .correlationIdMissing | .fieldBlank _ | .errorMissing => "missing_field"
  | .idBlank _ | .idTooLong _ => "invalid_id"
  | .functionRepeated _ | .testCaseRepeated .. => "duplicate_id"
  | .spanReversed _ => "invalid_span"
  | .badTimestamp => "invalid_timestamp"

def message : Violation → String
  | .malformedEnvelope reason => "envelope does not match schema: " ++ reason.message
  | .malformedPayload kind reason => kind.name ++ " payload is invalid: " ++ reason.message
  | .sequenceMissing kind => "sequence is required for " ++ kind.name
  | .correlationIdMissing => "correlationId is required for test-result"
  | .idBlank field => field ++ " is required"
  | .idTooLong field => field ++ " must be " ++ toString maxIdLength ++ " characters or fewer"
  | .functionRepeated id => "function " ++ id ++ " appears more than once"
  | .testCaseRepeated testCase function =>
    "test case " ++ testCase ++ " appears more than once in " ++ function
  | .removedWithoutIncremental => "removed is only valid on incremental updates"
  | .incrementalReady => "ready must carry a full snapshot"
  | .fieldBlank field => field ++ " is required"
  | .spanReversed span =>
    "span start " ++ toString span.start ++ " is past end " ++ toString span.finish
  | .errorMissing => "error is required when status is failure"
  | .badTimestamp => "completedAt must be RFC3339"

/-- The violation as a problem with code and text. -/
def info (v : Violation) : ErrorInfo := ⟨v.code, v.message⟩

end Violation

/-! ## Rules -/

/-- Whether a text may be an id: not blank and not too long. -/
def IsId (s : String) : Prop := Text.isBlankText s = false ∧ s.length ≤ maxIdLength

instance (s : String) : Decidable (IsId s) := inferInstanceAs (Decidable (_ ∧ _))

/-- Checks an id; `field` names it in the error. -/
def checkId (value field : String) : Except Violation Unit :=
  if Text.isBlankText value then .error (.idBlank field)
  else if maxIdLength < value.length then .error (.idTooLong field)
  else .ok ()

def checkPresent (value field : String) : Except Violation Unit :=
  if Text.isBlankText value then .error (.fieldBlank field) else .ok ()

/-- Applies a check to every item, up to the first that fails. -/
def checkAll {α : Type} (check : α → Except Violation Unit) : List α → Except Violation Unit
  | [] => .ok ()
  | a :: rest =>
    match check a with
    | .error v => .error v
    | .ok () => checkAll check rest

/-- Checks the test cases of a function: each is an id and none repeats. `seen` are those before. -/
def checkTestCases (function : String) : (seen testCases : List String) → Except Violation Unit
  | _, [] => .ok ()
  | seen, testCase :: rest =>
    match checkId testCase "test case id" with
    | .error v => .error v
    | .ok () =>
      if seen.contains testCase then .error (.testCaseRepeated testCase function)
      else checkTestCases function (testCase :: seen) rest

/-- Checks the functions of a project: each has an id, none repeats, and its test cases are in order. `seen` are the
ids before. -/
def checkFunctions : (seen : List String) → List FunctionDefinition → Except Violation Unit
  | _, [] => .ok ()
  | seen, f :: rest =>
    match checkId f.id "function id" with
    | .error v => .error v
    | .ok () =>
      if seen.contains f.id then .error (.functionRepeated f.id)
      else
        match checkTestCases f.id [] f.testCases with
        | .error v => .error v
        | .ok () => checkFunctions (f.id :: seen) rest

/-- Checks a diagnostic: it names a file and its span does not run backwards. -/
def checkDiagnostic (d : Diagnostic) : Except Violation Unit :=
  match checkPresent d.file "file" with
  | .error v => .error v
  | .ok () =>
    match d.span with
    | some span => if span.finish < span.start then .error (.spanReversed span) else .ok ()
    | none => .ok ()

def checkProject (p : ProjectPayload) : Except Violation Unit := do
  checkFunctions [] p.functions
  if !p.incremental && !p.removed.isEmpty then throw .removedWithoutIncremental
  checkAll (checkId · "removed function id") p.removed
  checkAll checkDiagnostic p.diagnostics

def checkDiagnostics (p : DiagnosticsPayload) : Except Violation Unit := do
  checkAll checkDiagnostic p.diagnostics
  checkAll (checkPresent · "clearedFiles") p.clearedFiles

/-- Checks a test result: a failure has an error, and a time of completion is a timestamp. -/
def checkResult (r : TestResult) : Except Violation Unit :=
  if r.status = .failure ∧ r.error.isNone then .error .errorMissing
  else
    match r.completedAt with
    | some time => if (Timestamp.strict time).isSome then .ok () else .error .badTimestamp
    | none => .ok ()

/-! ## Reading events -/

def Envelope.ofJson (v : Json) : Except Violation Envelope :=
  (Envelope.decode v).mapError .malformedEnvelope

def decodePayload {α : Type} (kind : EventKind) (d : Decoder α) (payload : Json) :
    Except Violation α :=
  (d payload).mapError (.malformedPayload kind)

def Event.ofProject (kind : EventKind) (e : Envelope) : Except Violation (Nat × ProjectPayload) := do
  let some sequence := e.sequence | throw (.sequenceMissing kind)
  let project ← decodePayload kind ProjectPayload.decode e.payload
  checkProject project
  return (sequence, project)

/-- Reads the event of a known kind in an envelope. The kind that the envelope itself names is not looked at. -/
def Event.ofEnvelope (kind : EventKind) (e : Envelope) : Except Violation Event :=
  match kind with
  | .ready => do
    let (sequence, project) ← Event.ofProject kind e
    if project.incremental then throw .incrementalReady
    return .ready sequence project
  | .projectUpdated => do
    let (sequence, project) ← Event.ofProject kind e
    return .projectUpdated sequence project
  | .diagnostics => do
    let payload ← decodePayload kind DiagnosticsPayload.decode e.payload
    checkDiagnostics payload
    return .diagnostics e.sequence payload
  | .testResult => do
    let some correlationId := e.correlationId | throw .correlationIdMissing
    checkId correlationId "correlationId"
    let result ← decodePayload kind TestResult.decode e.payload
    checkResult result
    return .testResult correlationId result
  | .error => do
    let failure ← decodePayload kind HostError.decode e.payload
    return .hostError failure.message

end PanelBridge
