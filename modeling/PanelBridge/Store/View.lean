import PanelBridge.Readiness
import PanelBridge.Run.Intent
import PanelBridge.Wire.Project
import PanelBridge.Wire.TestResult

/-!
# Views

What the panel shows: the status of runs and an overview of the whole state, with their written forms.
-/

namespace PanelBridge

open Schema

/-- The selected function and test case. -/
structure Selection where
  function : Option String
  testCase : Option String
deriving DecidableEq, Repr

def Selection.none : Selection := ⟨.none, .none⟩

def Selection.encode (s : Selection) : Json :=
  .record [always "function" (.ofOption .str s.function),
    always "testCase" (.ofOption .str s.testCase)]

/-- How the runs of a target stand. -/
inductive RunStatus where
  | unset
  | pending (id : CorrelationId)
  | stalled (id : CorrelationId)
  | passed (id : CorrelationId) (output : Option Json) (durationMs : Option Nat)
  | failed (id : CorrelationId) (error : Option RuntimeError) (durationMs : Option Nat)

def RunStatus.encode : RunStatus → Json
  | .unset => .record [always "state" (.str "unset")]
  | .pending id => .record [always "state" (.str "pending"), always "correlationId" (.str id.text)]
  | .stalled id => .record [always "state" (.str "stalled"), always "correlationId" (.str id.text)]
  | .passed id output durationMs =>
    .record [always "state" (.str "passed"), always "correlationId" (.str id.text),
      whenSome "output" (fun v => v) output, whenSome "durationMs" .nat durationMs]
  | .failed id error durationMs =>
    .record [always "state" (.str "failed"), always "correlationId" (.str id.text),
      whenSome "error" RuntimeError.encode error, whenSome "durationMs" .nat durationMs]

/-- A test case and the status of its runs. -/
structure TestCaseView where
  testCase : String
  status : RunStatus

def TestCaseView.encode (v : TestCaseView) : Json :=
  .record [always "testCase" (.str v.testCase), always "status" v.status.encode]

/-- A target and the status of its runs. -/
structure RunView where
  target : Target
  status : RunStatus

def RunView.encode (v : RunView) : Json :=
  .record [always "function" (.str v.target.function), always "testCase" (.str v.target.testCase),
    always "status" v.status.encode]

/-- A function and the number of its errors. -/
structure FunctionSummary where
  id : String
  signature : String
  testCases : List String
  errorCount : Nat
deriving DecidableEq, Repr

/-- Writes a function with the number of its errors. -/
def FunctionSummary.encode (f : FunctionSummary) : Json :=
  .record [always "id" (.str f.id), always "signature" (.str f.signature),
    always "testCases" (.ofList .str f.testCases), always "errorCount" (.nat f.errorCount)]

/-- An overview of the whole state. The functions are those that pass the filter. -/
structure PanelView where
  readiness : Readiness
  sequence : Option Nat
  functions : List FunctionSummary
  totalFunctions : Nat
  selection : Selection
  filter : String
  settings : Option Settings
  diagnosticCount : Nat
  errorCount : Nat
  runs : List RunView
  discarded : Nat

def PanelView.encode (v : PanelView) : Json :=
  .record [always "readiness" v.readiness.encode, always "sequence" (.ofOption .nat v.sequence),
    always "functions" (.ofList FunctionSummary.encode v.functions),
    always "totalFunctions" (.nat v.totalFunctions), always "selection" v.selection.encode,
    always "filter" (.str v.filter), whenSome "settings" .obj v.settings,
    always "diagnosticCount" (.nat v.diagnosticCount), always "errorCount" (.nat v.errorCount),
    always "runs" (.ofList RunView.encode v.runs), always "discarded" (.nat v.discarded)]

end PanelBridge
