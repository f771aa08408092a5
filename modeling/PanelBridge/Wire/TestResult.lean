import PanelBridge.Schema.Record

/-!
# Test results

What the host reports about a finished run of a test case, and about a failure of its own.
-/

namespace PanelBridge

open Schema

/-- How a test case ended. -/
inductive TestStatus where
  | success
  | failure
deriving DecidableEq, Repr

namespace TestStatus

def all : List TestStatus := [.success, .failure]

def name : TestStatus → String
  | .success => "success"
  | .failure => "failure"

/-- Reads the end of a test case by its name. -/
def decode : Decoder TestStatus := choice all name

/-- Writes the end of a test case by its name. -/
def encode (s : TestStatus) : Json := .str s.name

end TestStatus

/-- Why a test case failed. -/
structure RuntimeError where
  message : String
  kind : Option String
deriving DecidableEq, Repr

namespace RuntimeError

def shape : Shape :=
  { name := "RuntimeError"
    fields := [field "message" string, fieldOr "kind" (nullable string)]
    isOpen := false }

def decode : Decoder RuntimeError := fun v => do
  let ms ← shape.open? v
  return { message := ← required ms "message" string, kind := ← optional ms "kind" string }

def encode (e : RuntimeError) : Json :=
  .record [always "message" (.str e.message), whenSome "kind" .str e.kind]

end RuntimeError

/-- The result of a run. -/
structure TestResult where
  status : TestStatus
  output : Option Json
  error : Option RuntimeError
  durationMs : Option Nat
  completedAt : Option String

namespace TestResult

def shape : Shape :=
  { name := "TestResultPayload"
    fields := [field "status" TestStatus.decode, fieldOr "output" (nullable anything),
      fieldOr "error" (nullable RuntimeError.decode), fieldOr "durationMs" (nullable word64),
      fieldOr "completedAt" (nullable string)]
    isOpen := false }

def decode : Decoder TestResult := fun v => do
  let ms ← shape.open? v
  return { status := ← required ms "status" TestStatus.decode
           output := ← optional ms "output" anything
           error := ← optional ms "error" RuntimeError.decode
           durationMs := ← optional ms "durationMs" word64
           completedAt := ← optional ms "completedAt" string }

/-- Writes a result; absent fields are left out. -/
def encode (r : TestResult) : Json :=
  .record [always "status" r.status.encode, whenSome "output" id r.output,
    whenSome "error" RuntimeError.encode r.error, whenSome "durationMs" .nat r.durationMs,
    whenSome "completedAt" .str r.completedAt]

end TestResult

/-- A failure of the host. -/
structure HostError where
  message : String
deriving DecidableEq, Repr

namespace HostError

def shape : Shape :=
  { name := "HostErrorPayload", fields := [field "message" string], isOpen := false }

def decode : Decoder HostError := fun v => do
  let ms ← shape.open? v
  return { message := ← required ms "message" string }

def encode (e : HostError) : Json := .record [always "message" (.str e.message)]

end HostError

end PanelBridge
