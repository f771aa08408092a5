import PanelBridge.Recent
import PanelBridge.Store.Basic

/-!
# Changes of the store

The store changes in batches. A batch is applied as a whole; if the snapshot changed, the selection is brought in line
with it and results of test cases that are gone are dropped. Then the revisions of exactly the touched slices grow, and
every subscriber is told once. A batch that touches nothing is no change.
-/

namespace PanelBridge

/-- A single change of the state. -/
inductive Mutation where
  | setReadiness (readiness : Readiness)
  | replaceSnapshot (snapshot : Snapshot)
  | mergeSnapshot (sequence : Nat) (payload : ProjectPayload)
  | clearSnapshot
  | mergeDiagnostics (payload : DiagnosticsPayload)
  | select (selection : Selection)
  | setFilter (filter : String)
  | runPending (intent : Intent)
  | runStalled (intent : Intent)
  | runCleared (intent : Intent)
  | clearPending
  | runCompleted (intent : Intent) (result : TestResult)
  | recordDiscard (record : DiscardRecord)

namespace Store

/-- Whether the pending run of the intent's target is that very run. -/
def ownsPending (s : Store) (intent : Intent) : Bool :=
  (s.pending.get? intent.target).any fun run => run.id = intent.id

/-- Drops the pending run of an intent if it is still the target's. -/
def dropPending (s : Store) (intent : Intent) : Table Target PendingRun :=
  if s.ownsPending intent then s.pending.erase intent.target else s.pending

/-- Applies a mutation and says which slices it touched. -/
def apply (s : Store) : Mutation → Store × SliceSet
  -- What is set to the value it has is not touched.
  | .setReadiness readiness =>
    if s.readiness = readiness then (s, .empty) else ({ s with readiness }, .ofList [.readiness])
  | .replaceSnapshot snapshot =>
    ({ s with snapshot := some snapshot }, .ofList [.snapshot, .diagnostics])
  | .mergeSnapshot sequence payload =>
    match s.snapshot with
    | none => (s, .empty)
    | some snapshot =>
      ({ s with snapshot := some (snapshot.merge sequence payload) },
       if payload.diagnostics.isEmpty then .ofList [.snapshot] else .ofList [.snapshot, .diagnostics])
  | .clearSnapshot =>
    match s.snapshot with
    | none => (s, .empty)
    | some _ => ({ s with snapshot := none }, .ofList [.snapshot, .diagnostics])
  | .mergeDiagnostics payload =>
    match s.snapshot with
    | none => (s, .empty)
    | some snapshot =>
      ({ s with snapshot := some (snapshot.mergeDiagnostics payload) }, .ofList [.diagnostics])
  | .select selection =>
    if s.selection = selection then (s, .empty) else ({ s with selection }, .ofList [.selection])
  | .setFilter filter =>
    if s.filter = filter then (s, .empty) else ({ s with filter }, .ofList [.filter])
  | .runPending intent =>
    ({ s with pending := s.pending.insert intent.target ⟨intent.id, intent.state, intent.issuedAt⟩ },
     .ofList [.runs])
  | .runStalled intent =>
    -- A newer run may have taken the target since the sweep.
    match s.pending.get? intent.target with
    | none => (s, .empty)
    | some run =>
      if run.id = intent.id then
        ({ s with pending := s.pending.insert intent.target { run with state := .stalled } },
         .ofList [.runs])
      else (s, .empty)
  | .runCleared intent =>
    if s.ownsPending intent then
      ({ s with pending := s.pending.erase intent.target }, .ofList [.runs])
    else (s, .empty)
  | .clearPending =>
    if s.pending.isEmpty then (s, .empty) else ({ s with pending := .empty }, .ofList [.runs])
  | .runCompleted intent result =>
    ({ s with
       pending := s.dropPending intent
       results := s.results.insert intent.target ⟨intent.id, result⟩ },
     .ofList [.runs])
  | .recordDiscard record =>
    ({ s with
       discards := pushRecent s.discardCapacity s.discards record
       discardedTotal := s.discardedTotal + 1 },
     .ofList [.discards])

/-- Applies mutations one after the other; `touched` are the slices touched before. -/
def applyAll (s : Store) (touched : SliceSet) : List Mutation → Store × SliceSet
  | [] => (s, touched)
  | m :: rest =>
    let (s, slices) := s.apply m
    s.applyAll (touched.union slices) rest

/-- The selection that fits a snapshot: the selected function if it is still there, otherwise the first one; its
selected test case if it is still there, otherwise its first one. -/
def fittingSelection (selection : Selection) : Option Snapshot → Selection
  | none => .none
  | some snapshot =>
    match (selection.function.bind snapshot.function?).or snapshot.functions.head? with
    | none => .none
    | some f =>
      let kept := selection.testCase.filter fun testCase =>
        selection.function == some f.id && f.testCases.contains testCase
      ⟨some f.id, kept.or f.testCases.head?⟩

/-- Brings the selection in line with the snapshot. -/
def reconcileSelection (s : Store) : Store × SliceSet :=
  let selection := fittingSelection s.selection s.snapshot
  if selection = s.selection then (s, .empty) else ({ s with selection }, .ofList [.selection])

/-- Drops the results of test cases that are not in the snapshot. -/
def pruneResults (s : Store) : Store × SliceSet :=
  let results := s.results.filter fun target _ => s.hasTestCase target.function target.testCase
  ({ s with results },
   if results.size = s.results.size then .empty else .ofList [.runs])

/-- Brings selection and results in line with the snapshot if it was touched. -/
def settle (s : Store) (touched : SliceSet) : Store × SliceSet :=
  if touched.contains .snapshot then
    let (s, selected) := s.reconcileSelection
    let (s, pruned) := s.pruneResults
    (s, (touched.union selected).union pruned)
  else (s, touched)

/-- Applies a batch of mutations and settles the state; says which slices were touched. -/
def batch (s : Store) (mutations : List Mutation) : Store × SliceSet :=
  let (applied, touched) := s.applyAll .empty mutations
  applied.settle touched

/-- Raises the revisions of the touched slices and the number of changes. -/
def bump (s : Store) (touched : SliceSet) : Store :=
  { s with revision := s.revision + 1, revisions := s.revisions.bump touched }

def notify (s : Store) (change : StoreChange) (subscriber : Subscriber) : Store :=
  let (sights, s) := s.lookAll (subscriber.reads change)
  let notice : Notice :=
    { label := subscriber.label, change, sequence := s.sequence, readiness := s.readiness, sights }
  { s with outbox := s.outbox ++ [notice] }

/-- Tells subscribers of a change, one after the other. -/
def notifyAll (s : Store) (change : StoreChange) (subscribers : List Subscriber) : Store :=
  subscribers.foldl (fun s subscriber => s.notify change subscriber) s

def commit (s : Store) (mutations : List Mutation) : Option StoreChange × Store :=
  let (settled, touched) := s.batch mutations
  if touched.isEmpty then (none, settled)
  else
    let bumped := settled.bump touched
    let change : StoreChange := ⟨bumped.revision, touched⟩
    (some change, bumped.notifyAll change bumped.subscribers)

/-! ## Subscribers -/

/-- Enters a subscriber; its number is given back. -/
def subscribe (s : Store) (label : String) (reads : StoreChange → List Reading) : Nat × Store :=
  (s.nextSubscription,
   { s with
     subscribers := s.subscribers ++ [⟨s.nextSubscription, label, reads⟩]
     nextSubscription := s.nextSubscription + 1 })

/-- Removes a subscriber, and says whether there was one. -/
def unsubscribe (s : Store) (id : Nat) : Bool × Store :=
  let rest := s.subscribers.filter fun subscriber => subscriber.id != id
  (rest.length != s.subscribers.length, { s with subscribers := rest })

end Store

end PanelBridge
