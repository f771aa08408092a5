import PanelBridge.Fault
import PanelBridge.Json.Reader
import PanelBridge.Wire.Event

/-!
# Messages from the host

A message arrives as text or as a JSON value. Decoding checks its size, reads the text, the envelope and the kind, and
then the payload; each step has its own fault.
-/

namespace PanelBridge

/-- A message as it arrives. A value is in canonical form. -/
inductive Message where
  | text (text : String)
  | json (value : Json)

namespace Message

/-- The number of bytes of a message; a value counts as its compact text. -/
def byteSize : Message → Nat
  | .text s => s.utf8ByteSize
  | .json v => v.byteSize

def value : Message → Except TransportError Json
  | .json v => .ok v
  | .text s => (Json.parse s).mapError fun e => .invalidJson e.message

def eventOf (v : Json) : Except Fault Event :=
  match Envelope.ofJson v with
  | .error violation => .error (.transport (.schema violation.info))
  | .ok envelope =>
    match EventKind.ofName? envelope.kind with
    | none => .error (.protocol (.unknownKind envelope.kind))
    | some kind =>
      (Event.ofEnvelope kind envelope).mapError fun violation => .transport (.schema violation.info)

/-- Reads the event in a message of at most `limit` bytes. -/
def decode (m : Message) (limit : Nat) : Except Fault Event :=
  if limit < m.byteSize then .error (.transport (.messageTooLarge m.byteSize limit))
  else
    match m.value with
    | .error e => .error (.transport e)
    | .ok v => eventOf v

end Message

end PanelBridge
