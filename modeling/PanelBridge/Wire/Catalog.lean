import PanelBridge.Config.Basic
import PanelBridge.Wire.Command
import PanelBridge.Wire.Event

/-!
# The forms on the wire

All kinds of values that are read and written as JSON, each with its reader and its writer. Reading is lenient (fields in
a list, defaults left out); writing what was read gives the normal form.
-/

namespace PanelBridge

/-- A kind of value on the wire. -/
inductive Form where
  | envelope
  | eventKind
  | commandKind
  | functionDefinition
  | severity
  | span
  | diagnostic
  | projectPayload
  | diagnosticsPayload
  | testStatus
  | runtimeError
  | testResult
  | hostError
  | command
  | runTestPayload
  | errorInfo
  | panelConfig
deriving DecidableEq, Repr

namespace Form

/-- The values of a form. -/
abbrev Value : Form → Type
  | .envelope => Envelope
  | .eventKind => EventKind
  | .commandKind => CommandKind
  | .functionDefinition => FunctionDefinition
  | .severity => Severity
  | .span => Span
  | .diagnostic => Diagnostic
  | .projectPayload => ProjectPayload
  | .diagnosticsPayload => DiagnosticsPayload
  | .testStatus => TestStatus
  | .runtimeError => RuntimeError
  | .testResult => TestResult
  | .hostError => HostError
  | .command => Command
  | .runTestPayload => RunTestPayload
  | .errorInfo => ErrorInfo
  | .panelConfig => PanelConfig

def decode : (f : Form) → Decoder f.Value
  | .envelope => Envelope.decode
  | .eventKind => EventKind.decode
  | .commandKind => CommandKind.decode
  | .functionDefinition => FunctionDefinition.decode
  | .severity => Severity.decode
  | .span => Span.decode
  | .diagnostic => Diagnostic.decode
  | .projectPayload => ProjectPayload.decode
  | .diagnosticsPayload => DiagnosticsPayload.decode
  | .testStatus => TestStatus.decode
  | .runtimeError => RuntimeError.decode
  | .testResult => TestResult.decode
  | .hostError => HostError.decode
  | .command => Command.decode
  | .runTestPayload => RunTestPayload.decode
  | .errorInfo => ErrorInfo.decode
  | .panelConfig => PanelConfig.decode

def encode : (f : Form) → f.Value → Json
  | .envelope => Envelope.encode
  | .eventKind => EventKind.encode
  | .commandKind => CommandKind.encode
  | .functionDefinition => FunctionDefinition.encode
  | .severity => Severity.encode
  | .span => Span.encode
  | .diagnostic => Diagnostic.encode
  | .projectPayload => ProjectPayload.encode
  | .diagnosticsPayload => DiagnosticsPayload.encode
  | .testStatus => TestStatus.encode
  | .runtimeError => RuntimeError.encode
  | .testResult => TestResult.encode
  | .hostError => HostError.encode
  | .command => Command.encode
  | .runTestPayload => RunTestPayload.encode
  | .errorInfo => ErrorInfo.encode
  | .panelConfig => PanelConfig.encode

def normalize (f : Form) (v : Json) : Except SchemaError Json := (f.decode v).map f.encode

end Form

end PanelBridge
