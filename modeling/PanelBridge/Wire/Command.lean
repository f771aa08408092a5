import PanelBridge.Wire.Kind
import PanelBridge.Wire.Project

/-!
# Commands

What the panel asks of the host. A command is written as one line of JSON, its fields in the order kind, correlation
id, payload.
-/

namespace PanelBridge

open Schema

/-- A command to the host. -/
structure Command where
  kind : CommandKind
  correlationId : Option String
  payload : Json

namespace Command

def shape : Shape :=
  { name := "Command"
    fields := [field "kind" CommandKind.decode, fieldOr "correlationId" (nullable string),
      fieldOr "payload" anything]
    isOpen := false }

def decode : Decoder Command := fun v => do
  let ms ← shape.open? v
  return { kind := ← required ms "kind" CommandKind.decode
           correlationId := ← optional ms "correlationId" string
           payload := ← defaulted ms "payload" anything .null }

/-- Writes a command; an absent id and a null payload are left out. -/
def encode (c : Command) : Json :=
  .record [always "kind" c.kind.encode, whenSome "correlationId" .str c.correlationId,
    whenTrue (!c.payload.isNull) "payload" c.payload]

/-- The line that carries the command, without its end. -/
def line (c : Command) : String := c.encode.render

def runTest (correlationId function testCase : String) : Command :=
  { kind := .runTest
    correlationId := some correlationId
    payload := .obj [("function", .str function), ("testCase", .str testCase)] }

def cancelRun (correlationId : String) : Command :=
  { kind := .cancelRun, correlationId := some correlationId, payload := .null }

def selectFunction (function : String) : Command :=
  { kind := .selectFunction
    correlationId := none
    payload := .obj [("function", .str function)] }

/-- Asks for the settings, or for changes to them. -/
def requestSettings (changes : Option Settings) : Command :=
  { kind := .requestSettings
    correlationId := none
    payload := match changes with
      | some changes => .obj [("changes", .obj changes)]
      | none => .null }

def reload : Command := { kind := .reload, correlationId := none, payload := .null }

end Command

/-- The payload of a command that asks for a run. -/
structure RunTestPayload where
  function : String
  testCase : String
deriving DecidableEq, Repr

namespace RunTestPayload

def shape : Shape :=
  { name := "RunTestPayload"
    fields := [field "function" string, field "testCase" string]
    isOpen := false }

def decode : Decoder RunTestPayload := fun v => do
  let ms ← shape.open? v
  return { function := ← required ms "function" string, testCase := ← required ms "testCase" string }

def encode (p : RunTestPayload) : Json :=
  .record [always "function" (.str p.function), always "testCase" (.str p.testCase)]

end RunTestPayload

end PanelBridge
