import PanelBridge.Schema.Record

/-!
# Functions, diagnostics and project updates

The host describes a project by its functions, each with its test cases, and by diagnostics, each about a file. A
project update carries both; it replaces the project or, if it is incremental, changes parts of it.
-/

namespace PanelBridge

open Schema

/-- Settings of the host, of no meaning to the panel. -/
abbrev Settings : Type := List (String × Json)

/-- A function of the project and the ids of its test cases. -/
structure FunctionDefinition where
  id : String
  signature : String
  testCases : List String
deriving DecidableEq, Repr

namespace FunctionDefinition

def shape : Shape :=
  { name := "FunctionDefinition"
    fields := [field "id" string, field "signature" string, fieldOr "testCases" (listOf string)]
    isOpen := false }

def decode : Decoder FunctionDefinition := fun v => do
  let ms ← shape.open? v
  return { id := ← required ms "id" string
           signature := ← required ms "signature" string
           testCases := ← defaulted ms "testCases" (listOf string) [] }

def encode (f : FunctionDefinition) : Json :=
  .record [always "id" (.str f.id), always "signature" (.str f.signature),
    always "testCases" (.ofList .str f.testCases)]

end FunctionDefinition

/-- How grave a diagnostic is. -/
inductive Severity where
  | error
  | warning
  | info
deriving DecidableEq, Repr

namespace Severity

def all : List Severity := [.error, .warning, .info]

def name : Severity → String
  | .error => "error"
  | .warning => "warning"
  | .info => "info"

def decode : Decoder Severity := choice all name

def encode (s : Severity) : Json := .str s.name

end Severity

/-- A stretch of a file. -/
structure Span where
  start : Nat
  finish : Nat
deriving DecidableEq, Repr

namespace Span

def shape : Shape :=
  { name := "Span", fields := [field "start" word32, field "end" word32], isOpen := false }

def decode : Decoder Span := fun v => do
  let ms ← shape.open? v
  return { start := ← required ms "start" word32, finish := ← required ms "end" word32 }

def encode (s : Span) : Json :=
  .record [always "start" (.nat s.start), always "end" (.nat s.finish)]

end Span

/-- A remark about a file, and about one of its functions if it names one. -/
structure Diagnostic where
  file : String
  severity : Severity
  message : String
  span : Option Span
  function : Option String
deriving DecidableEq, Repr

namespace Diagnostic

def shape : Shape :=
  { name := "Diagnostic"
    fields := [field "file" string, field "severity" Severity.decode, field "message" string,
      fieldOr "span" (nullable Span.decode), fieldOr "function" (nullable string)]
    isOpen := false }

def decode : Decoder Diagnostic := fun v => do
  let ms ← shape.open? v
  return { file := ← required ms "file" string
           severity := ← required ms "severity" Severity.decode
           message := ← required ms "message" string
           span := ← optional ms "span" Span.decode
           function := ← optional ms "function" string }

def encode (d : Diagnostic) : Json :=
  .record [always "file" (.str d.file), always "severity" d.severity.encode,
    always "message" (.str d.message), whenSome "span" Span.encode d.span,
    whenSome "function" .str d.function]

end Diagnostic

/-- An update of the project. An incremental one puts its functions in place of those with the same ids and drops the
removed ones; any other replaces the whole project. -/
structure ProjectPayload where
  functions : List FunctionDefinition
  diagnostics : List Diagnostic
  settings : Option Settings
  incremental : Bool
  removed : List String

namespace ProjectPayload

def shape : Shape :=
  { name := "ProjectPayload"
    fields := [fieldOr "functions" (listOf FunctionDefinition.decode),
      fieldOr "diagnostics" (listOf Diagnostic.decode), fieldOr "settings" (nullable members),
      fieldOr "incremental" boolean, fieldOr "removed" (listOf string)]
    isOpen := false }

def decode : Decoder ProjectPayload := fun v => do
  let ms ← shape.open? v
  return { functions := ← defaulted ms "functions" (listOf FunctionDefinition.decode) []
           diagnostics := ← defaulted ms "diagnostics" (listOf Diagnostic.decode) []
           settings := ← optional ms "settings" members
           incremental := ← defaulted ms "incremental" boolean false
           removed := ← defaulted ms "removed" (listOf string) [] }

/-- Writes a project update; settings and removed ids are left out when there are none. -/
def encode (p : ProjectPayload) : Json :=
  .record [always "functions" (.ofList FunctionDefinition.encode p.functions),
    always "diagnostics" (.ofList Diagnostic.encode p.diagnostics),
    whenSome "settings" .obj p.settings, always "incremental" (.bool p.incremental),
    whenTrue (!p.removed.isEmpty) "removed" (.ofList .str p.removed)]

end ProjectPayload

/-- New diagnostics by file, and files whose diagnostics are void. -/
structure DiagnosticsPayload where
  diagnostics : List Diagnostic
  clearedFiles : List String
deriving DecidableEq, Repr

namespace DiagnosticsPayload

def shape : Shape :=
  { name := "DiagnosticsPayload"
    fields := [fieldOr "diagnostics" (listOf Diagnostic.decode), fieldOr "clearedFiles" (listOf string)]
    isOpen := false }

def decode : Decoder DiagnosticsPayload := fun v => do
  let ms ← shape.open? v
  return { diagnostics := ← defaulted ms "diagnostics" (listOf Diagnostic.decode) []
           clearedFiles := ← defaulted ms "clearedFiles" (listOf string) [] }

/-- Writes a diagnostics update; cleared files are left out when there are none. -/
def encode (p : DiagnosticsPayload) : Json :=
  .record [always "diagnostics" (.ofList Diagnostic.encode p.diagnostics),
    whenTrue (!p.clearedFiles.isEmpty) "clearedFiles" (.ofList .str p.clearedFiles)]

end DiagnosticsPayload

end PanelBridge
