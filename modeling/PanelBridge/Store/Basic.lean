import PanelBridge.Discard
import PanelBridge.Snapshot.Basic
import PanelBridge.Store.Slice
import PanelBridge.Store.View
import PanelBridge.Text.Blank
import PanelBridge.Text.Lowercase

/-!
# The store

The store holds the state of one panel. Four views are derived from it. A view remembers the revisions of the slices it
depends on and its value, and is computed anew only when one of these revisions has changed; it counts how often that
was. Reading a view therefore gives a store in which the view is remembered.

Revisions, subscriptions and discarded events are counted without bound; where these counts have 64 bits, this is exact
below `2 ^ 64`.
-/

namespace PanelBridge

/-- A run that waits for its result. -/
structure PendingRun where
  id : CorrelationId
  state : RunState
  issuedAt : Instant
deriving DecidableEq, Repr

/-- A run with its result. -/
structure CompletedRun where
  id : CorrelationId
  result : TestResult

/-- A remembered value: the revisions it was computed at, and how often it was computed. -/
structure Memo (α : Type) where
  cached : Option (List Nat × α)
  computations : Nat

namespace Memo

variable {α : Type}

def new : Memo α := ⟨none, 0⟩

/-- The remembered value if it was computed at the same revisions, otherwise the value computed now. -/
def read (m : Memo α) (key : List Nat) (compute : Unit → α) : α × Memo α :=
  match m.cached with
  | some (cachedKey, value) =>
    if cachedKey = key then (value, m) else
      let value := compute ()
      (value, ⟨some (key, value), m.computations + 1⟩)
  | none =>
    let value := compute ()
    (value, ⟨some (key, value), m.computations + 1⟩)

end Memo

/-- A value that is derived from the state. -/
inductive View where
  | filteredFunctions
  | selectedFunction
  | selectedResults
  | selectedDiagnostics
deriving DecidableEq, Repr

namespace View

def all : List View := [.filteredFunctions, .selectedFunction, .selectedResults, .selectedDiagnostics]

/-- What a view shows. -/
abbrev Value : View → Type
  | .filteredFunctions => List FunctionDefinition
  | .selectedFunction => Option FunctionDefinition
  | .selectedResults => List TestCaseView
  | .selectedDiagnostics => List Diagnostic

def slices : View → List Slice
  | .filteredFunctions => [.snapshot, .filter]
  | .selectedFunction => [.snapshot, .selection]
  | .selectedResults => [.snapshot, .selection, .runs]
  | .selectedDiagnostics => [.snapshot, .diagnostics, .selection]

end View

/-- The derived views of a store. -/
structure Views where
  filteredFunctions : Memo (List FunctionDefinition)
  selectedFunction : Memo (Option FunctionDefinition)
  selectedResults : Memo (List TestCaseView)
  selectedDiagnostics : Memo (List Diagnostic)

namespace Views

def new : Views := ⟨.new, .new, .new, .new⟩

/-- What is remembered of a view. -/
def memo (views : Views) : (v : View) → Memo v.Value
  | .filteredFunctions => views.filteredFunctions
  | .selectedFunction => views.selectedFunction
  | .selectedResults => views.selectedResults
  | .selectedDiagnostics => views.selectedDiagnostics

/-- Replaces what is remembered of a view. -/
def withMemo (views : Views) : (v : View) → Memo v.Value → Views
  | .filteredFunctions, memo => { views with filteredFunctions := memo }
  | .selectedFunction, memo => { views with selectedFunction := memo }
  | .selectedResults, memo => { views with selectedResults := memo }
  | .selectedDiagnostics, memo => { views with selectedDiagnostics := memo }

end Views

/-- Something that can be looked at: the overview or a view. -/
inductive Reading where
  | overview
  | view (v : View)
deriving DecidableEq, Repr

/-- What was seen. -/
inductive Sight where
  | overview (panel : PanelView)
  | view (v : View) (value : v.Value)

def Sight.overview? : Sight → Option PanelView
  | .overview panel => some panel
  | .view .. => none

/-- A change of the store: its number and the slices it touched. -/
structure StoreChange where
  revision : Nat
  slices : SliceSet
deriving DecidableEq, Repr

/-- Someone to be told of every change; `reads` says what is looked at on that occasion, one after the other. -/
structure Subscriber where
  id : Nat
  label : String
  reads : StoreChange → List Reading

/-- What a subscriber was told: the change, the state as it was then, and what was seen of it. -/
structure Notice where
  label : String
  change : StoreChange
  sequence : Option Nat
  readiness : Readiness
  sights : List Sight

/-- The overview, if the subscriber looked at it. -/
def Notice.view (n : Notice) : Option PanelView := n.sights.findSome? Sight.overview?

/-- The state of a panel. -/
structure Store where
  readiness : Readiness
  snapshot : Option Snapshot
  selection : Selection
  filter : String
  pending : Table Target PendingRun
  results : Table Target CompletedRun
  discards : List DiscardRecord
  discardCapacity : Nat
  discardedTotal : Nat
  revisions : Revisions
  revision : Nat
  views : Views
  subscribers : List Subscriber
  nextSubscription : Nat
  /-- Notices that were given since they were last collected. -/
  outbox : List Notice

namespace Store

/-- The store before anything has happened. -/
def new (discardCapacity : Nat) : Store :=
  { readiness := .uninitialized
    snapshot := none
    selection := .none
    filter := ""
    pending := .empty
    results := .empty
    discards := []
    discardCapacity
    discardedTotal := 0
    revisions := .zero
    revision := 0
    views := .new
    subscribers := []
    nextSubscription := 1
    outbox := [] }

def sequence (s : Store) : Option Nat := s.snapshot.map (·.sequence)

/-- The function with an id in the snapshot. -/
def function? (s : Store) (id : String) : Option FunctionDefinition :=
  s.snapshot.bind (·.function? id)

/-- Whether the snapshot has a test case. -/
def hasTestCase (s : Store) (function testCase : String) : Bool :=
  s.snapshot.any (·.hasTestCase function testCase)

def completedStatus (c : CompletedRun) : RunStatus :=
  match c.result.status with
  | .success => .passed c.id c.result.output c.result.durationMs
  | .failure => .failed c.id c.result.error c.result.durationMs

/-- How the runs of a target stand. A pending run goes before a result. -/
def runStatus (s : Store) (target : Target) : RunStatus :=
  match s.pending.get? target with
  | some run =>
    match run.state with
    | .stalled => .stalled run.id
    | _ => .pending run.id
  | none =>
    match s.results.get? target with
    | some completed => completedStatus completed
    | none => .unset

/-! ## What the views are -/

/-- Whether a function's id or signature contains a text that is in lower case already. -/
def matchesNeedle (needle : String) (f : FunctionDefinition) : Bool :=
  needle.isEmpty || Text.contains (Text.lowercase f.id) needle
    || Text.contains (Text.lowercase f.signature) needle

/-- The functions whose id or signature contains the filter, regardless of case. -/
def computeFilteredFunctions (s : Store) : List FunctionDefinition :=
  match s.snapshot with
  | none => []
  | some snapshot =>
    let needle := Text.lowercase (Text.trim s.filter)
    snapshot.functions.filter (matchesNeedle needle)

def computeSelectedFunction (s : Store) : Option FunctionDefinition :=
  s.selection.function.bind s.function?

/-- The test cases of the selected function with the status of their runs. -/
def computeSelectedResults (s : Store) : List TestCaseView :=
  match s.computeSelectedFunction with
  | none => []
  | some f => f.testCases.map fun testCase => ⟨testCase, s.runStatus ⟨f.id, testCase⟩⟩

/-- The diagnostics of the selected function. -/
def computeSelectedDiagnostics (s : Store) : List Diagnostic :=
  match s.snapshot, s.selection.function with
  | some snapshot, some id => snapshot.diagnostics.forFunction id
  | _, _ => []

/-- What a view shows, computed from the state. -/
def compute (s : Store) : (v : View) → v.Value
  | .filteredFunctions => s.computeFilteredFunctions
  | .selectedFunction => s.computeSelectedFunction
  | .selectedResults => s.computeSelectedResults
  | .selectedDiagnostics => s.computeSelectedDiagnostics

/-! ## Reading the views -/

def readView (s : Store) (v : View) : v.Value × Store :=
  let (value, memo) := (s.views.memo v).read (s.revisions.key v.slices) fun _ => s.compute v
  (value, { s with views := s.views.withMemo v memo })

def filteredFunctions (s : Store) : List FunctionDefinition × Store := s.readView .filteredFunctions

def selectedFunction (s : Store) : Option FunctionDefinition × Store := s.readView .selectedFunction

def selectedResults (s : Store) : List TestCaseView × Store := s.readView .selectedResults

def selectedDiagnostics (s : Store) : List Diagnostic × Store := s.readView .selectedDiagnostics

def computations (s : Store) (v : View) : Nat := (s.views.memo v).computations

def viewComputations (s : Store) : List Nat := View.all.map s.computations

/-! ## The overview -/

def functionErrors (s : Store) (id : String) : Nat :=
  match s.snapshot with
  | some snapshot => (snapshot.diagnostics.forFunction id).countP DiagnosticIndex.isError
  | none => 0

/-- A function with the number of its errors. -/
def summary (s : Store) (f : FunctionDefinition) : FunctionSummary :=
  { id := f.id, signature := f.signature, testCases := f.testCases, errorCount := s.functionErrors f.id }

/-- The targets that have a pending run or a result, in ascending order. -/
def runTargets (s : Store) : List Target :=
  let all := (s.pending.keys ++ s.results.keys).foldl (fun t k => t.insert k ()) (Table.empty : Table Target Unit)
  all.keys

/-- The overview with the given filtered functions. -/
def overview (s : Store) (functions : List FunctionDefinition) : PanelView :=
  { readiness := s.readiness
    sequence := s.sequence
    functions := functions.map s.summary
    totalFunctions := match s.snapshot with
      | some snapshot => snapshot.functions.length
      | none => 0
    selection := s.selection
    filter := s.filter
    settings := s.snapshot.bind (·.settings)
    diagnosticCount := match s.snapshot with
      | some snapshot => snapshot.diagnostics.size
      | none => 0
    errorCount := match s.snapshot with
      | some snapshot => snapshot.diagnostics.errorCount
      | none => 0
    runs := s.runTargets.map fun target => ⟨target, s.runStatus target⟩
    discarded := s.discardedTotal }

/-- Reads the overview; of the views only the filtered functions are read for it. -/
def read (s : Store) : PanelView × Store :=
  let (functions, s) := s.filteredFunctions
  (s.overview functions, s)

def look (s : Store) : Reading → Sight × Store
  | .overview =>
    let (overview, s) := s.read
    (.overview overview, s)
  | .view v =>
    let (value, s) := s.readView v
    (.view v value, s)

def lookAll (s : Store) : List Reading → List Sight × Store
  | [] => ([], s)
  | reading :: rest =>
    let (sight, s) := s.look reading
    let (sights, s) := s.lookAll rest
    (sight :: sights, s)

end Store

end PanelBridge
