import PanelBridge.Run.Correlation
import PanelBridge.Schema.Record
import PanelBridge.Time.Instant

/-!
# Runs of test cases

A run is asked for once. It is live until its result comes, the user calls it off, or a newer run of the same test
case takes its place.
-/

namespace PanelBridge

open Schema

/-- A test case of a function. -/
structure Target where
  function : String
  testCase : String
deriving DecidableEq, Repr

namespace Target

/-- Targets are ordered by function, then by test case. -/
instance : Ord Target :=
  ⟨compareLex (compareOn Target.function) (compareOn Target.testCase)⟩

instance : Std.TransOrd Target :=
  inferInstanceAs (Std.TransCmp (compareLex (compareOn Target.function) (compareOn Target.testCase)))

instance : Std.LawfulEqOrd Target where
  compare_self {a} := by
    change compareLex (compareOn Target.function) (compareOn Target.testCase) a a = .eq
    simp [compareLex, compareOn]
  eq_of_compare {a b} h := by
    have h' : compareOn Target.function a b = .eq ∧ compareOn Target.testCase a b = .eq :=
      compareLex_eq_eq.1 h
    cases a
    cases b
    simp_all [compareOn]

def encode (t : Target) : Json :=
  .record [always "function" (.str t.function), always "testCase" (.str t.testCase)]

end Target

/-- How a run stands. -/
inductive RunState where
  | pending
  | stalled
  | cancelled
  | completed
  | stale
deriving DecidableEq, Repr

namespace RunState

def name : RunState → String
  | .pending => "pending"
  | .stalled => "stalled"
  | .cancelled => "cancelled"
  | .completed => "completed"
  | .stale => "stale"

def all : List RunState := [.pending, .stalled, .cancelled, .completed, .stale]

def ofName? (s : String) : Option RunState := all.find? fun r => r.name == s

/-- Whether a run in this state still waits for its result. -/
def isLive : RunState → Bool
  | .pending => true
  | .stalled => true
  | _ => false

end RunState

/-- A run that has been asked for. -/
structure Intent where
  id : CorrelationId
  target : Target
  state : RunState
  issuedAt : Instant
deriving DecidableEq, Repr

def Intent.encode (i : Intent) : Json :=
  .record [always "correlationId" (.str i.id.text), always "target" i.target.encode,
    always "status" (.str i.state.name), always "issuedAt" (.str i.issuedAt.text)]

end PanelBridge
