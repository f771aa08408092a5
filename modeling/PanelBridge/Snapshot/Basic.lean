import PanelBridge.Snapshot.Index

/-!
# Snapshots

The project as it stands at one sequence number.
-/

namespace PanelBridge

/-- The project at a sequence number. -/
structure Snapshot where
  sequence : Nat
  functions : List FunctionDefinition
  diagnostics : DiagnosticIndex
  settings : Option Settings

namespace Snapshot

/-- The snapshot that a full update describes. -/
def ofPayload (sequence : Nat) (payload : ProjectPayload) : Snapshot :=
  { sequence
    functions := payload.functions
    diagnostics := .ofList payload.diagnostics
    settings := payload.settings }

/-- Puts a function in place of the first one with its id, or at the end if there is none. -/
def putFunction : (functions : List FunctionDefinition) → FunctionDefinition → List FunctionDefinition
  | [], f => [f]
  | g :: rest, f => if g.id = f.id then f :: rest else g :: putFunction rest f

/-- Applies an incremental update: removed functions go, the others are put in place one after the other, diagnostics
are merged by file, and settings are replaced if there are new ones. -/
def merge (s : Snapshot) (sequence : Nat) (payload : ProjectPayload) : Snapshot :=
  let kept := s.functions.filter fun f => !payload.removed.contains f.id
  { sequence
    functions := payload.functions.foldl putFunction kept
    diagnostics :=
      if payload.diagnostics.isEmpty then s.diagnostics
      else s.diagnostics.merge ⟨payload.diagnostics, []⟩
    settings := payload.settings.or s.settings }

def mergeDiagnostics (s : Snapshot) (payload : DiagnosticsPayload) : Snapshot :=
  { s with diagnostics := s.diagnostics.merge payload }

def function? (s : Snapshot) (id : String) : Option FunctionDefinition :=
  s.functions.find? fun f => f.id == id

/-- Whether a function has a test case. -/
def hasTestCase (s : Snapshot) (function testCase : String) : Bool :=
  match s.function? function with
  | some f => f.testCases.contains testCase
  | none => false

end Snapshot

end PanelBridge
