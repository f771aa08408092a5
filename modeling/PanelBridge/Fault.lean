import PanelBridge.Wire.Envelope

/-!
# Faults

What goes wrong between host and panel. A fault concerns the panel as a whole and takes it into its error state; a
failed test case is no fault.
-/

namespace PanelBridge

/-- A message or a command that did not get through. -/
inductive TransportError where
  | messageTooLarge (size limit : Nat)
  | invalidJson (details : String)
  | schema (info : ErrorInfo)
  | channelClosed (details : String)
  | serialize (details : String)
deriving DecidableEq, Repr

def TransportError.message : TransportError → String
  | .messageTooLarge size limit =>
    "message of " ++ toString size ++ " bytes exceeds limit of " ++ toString limit ++ " bytes"
  | .invalidJson details => "message is not valid JSON: " ++ details
  | .schema info => "envelope failed schema validation: " ++ info.text
  | .channelClosed details => "host channel closed: " ++ details
  | .serialize details => "failed to serialize command: " ++ details

/-- A well-formed message that the panel cannot act on. -/
inductive ProtocolError where
  | unknownKind (kind : String)
  | sequenceRegression (incoming current : Nat)
deriving DecidableEq, Repr

def ProtocolError.message : ProtocolError → String
  | .unknownKind kind => "unrecognized event kind: " ++ kind
  | .sequenceRegression incoming current =>
    "sequence " ++ toString incoming ++ " regresses below current sequence " ++ toString current

/-- A failure that takes the panel into its error state. -/
inductive Fault where
  | transport (error : TransportError)
  | protocol (error : ProtocolError)
  | host (message : String)
deriving DecidableEq, Repr

namespace Fault

def message : Fault → String
  | .transport e => e.message
  | .protocol e => e.message
  | .host message => "host reported a failure: " ++ message

def code : Fault → String
  | .transport (.messageTooLarge ..) => "message_too_large"
  | .transport (.invalidJson _) => "invalid_json"
  | .transport (.schema _) => "schema_violation"
  | .transport (.channelClosed _) => "channel_closed"
  | .transport (.serialize _) => "serialize_failed"
  | .protocol (.unknownKind _) => "unknown_kind"
  | .protocol (.sequenceRegression ..) => "sequence_regression"
  | .host _ => "host_error"

end Fault

/-- An action of the user that cannot be carried out. -/
inductive ActionError where
  | notReady
  | unknownTarget (function testCase : String)
  | unknownFunction (function : String)
  | notLive (correlationId : String)
  | reloadUnavailable
  | transport (error : TransportError)
deriving DecidableEq, Repr

def ActionError.message : ActionError → String
  | .notReady => "panel is not ready"
  | .unknownTarget function testCase => "no test case " ++ testCase ++ " on function " ++ function
  | .unknownFunction function => "no function " ++ function ++ " in the current snapshot"
  | .notLive correlationId => "run " ++ correlationId ++ " is not in flight"
  | .reloadUnavailable => "reload is only available from the error state"
  | .transport e => e.message

end PanelBridge
