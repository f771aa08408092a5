import PanelBridge.Schema.Record

/-!
# Envelopes

Every message in either direction is an envelope: a kind, a sequence number, a correlation id and a payload. The
kind is any text here, so that an unknown kind is told apart from a malformed envelope.
-/

namespace PanelBridge

/-- The outer form of every message. -/
structure Envelope where
  kind : String
  sequence : Option Nat
  correlationId : Option String
  payload : Json

namespace Envelope

open Schema

def shape : Shape :=
  { name := "Envelope"
    fields := [field "kind" string, fieldOr "sequence" (nullable word64),
      fieldOr "correlationId" (nullable string), fieldOr "payload" anything]
    isOpen := false }

def decode : Decoder Envelope := fun v => do
  let ms ← shape.open? v
  return { kind := ← required ms "kind" string
           sequence := ← optional ms "sequence" word64
           correlationId := ← optional ms "correlationId" string
           payload := ← defaulted ms "payload" anything .null }

/-- Writes an envelope; absent fields and a null payload are left out. -/
def encode (e : Envelope) : Json :=
  .record [always "kind" (.str e.kind), whenSome "sequence" .nat e.sequence,
    whenSome "correlationId" .str e.correlationId, whenTrue (!e.payload.isNull) "payload" e.payload]

end Envelope

/-- A problem with a message: a code for programs and a text for people. -/
structure ErrorInfo where
  code : String
  message : String
deriving DecidableEq, Repr

namespace ErrorInfo

open Schema

/-- The fields of a problem; others are let pass. -/
def shape : Shape :=
  { name := "ErrorInfo"
    fields := [field "code" string, field "message" string]
    isOpen := true }

def decode : Decoder ErrorInfo := fun v => do
  let ms ← shape.open? v
  return { code := ← required ms "code" string, message := ← required ms "message" string }

def encode (e : ErrorInfo) : Json :=
  .record [always "code" (.str e.code), always "message" (.str e.message)]

/-- The code and the text. -/
def text (e : ErrorInfo) : String := e.code ++ ": " ++ e.message

end ErrorInfo

end PanelBridge
