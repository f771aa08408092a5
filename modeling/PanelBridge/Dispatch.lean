import PanelBridge.Message
import PanelBridge.Run.Ledger
import PanelBridge.Store.Commit

/-!
# Handling of messages

Every message ends in one of four ways. It is *applied*: its event changes the state in one batch. It is *discarded*:
the event comes at the wrong time and is only noted. It is a *fault*: the panel goes into its error state. Or it is
*ignored*, because the panel is in that state already.

Only events about the project are ordered by sequence number: one with a lower number than the snapshot is discarded,
one with the same number is applied.

Messages are counted without bound; where the count has 64 bits, this is exact below `2 ^ 64`.
-/

namespace PanelBridge

/-- What became of a message. -/
inductive Outcome where
  | applied (event : Event)
  | discarded (reason : DiscardReason)
  | faulted (fault : Fault)
  | ignored

/-- What is to be done about an event. -/
inductive Plan where
  | commit (mutations : List Mutation)
  | discard (reason : DiscardReason)
  | fault (fault : Fault)

/-- The store together with the count of messages. -/
structure Dispatcher where
  store : Store
  maxMessageBytes : Nat
  received : Nat

namespace Dispatcher

def new (config : PanelConfig) : Dispatcher :=
  { store := .new config.discardLogCapacity
    maxMessageBytes := config.maxMessageBytes
    received := 0 }

def commit (d : Dispatcher) (mutations : List Mutation) : Dispatcher :=
  { d with store := (d.store.commit mutations).2 }

/-! ## Messages from the host -/

/-- The change of readiness that a full snapshot brings. -/
def becomeReady (store : Store) : List Mutation :=
  (store.readiness.next .fullSnapshot).toList.map .setReadiness

/-- What to do about an event of the project. -/
def planProject (store : Store) (sequence : Nat) (project : ProjectPayload) : Plan :=
  match store.snapshot with
  | some snapshot =>
    if sequence < snapshot.sequence then .discard (.sequenceRegression sequence snapshot.sequence)
    else if project.incremental then .commit [.mergeSnapshot sequence project]
    else .commit (.replaceSnapshot (.ofPayload sequence project) :: becomeReady store)
  | none =>
    if project.incremental then .discard (.noBaseSnapshot (some sequence))
    else .commit (.replaceSnapshot (.ofPayload sequence project) :: becomeReady store)

/-- What to do about an event. A result is looked up in the ledger, which completes its run. -/
def plan (store : Store) (ledger : Ledger) (event : Event) : Plan × Ledger :=
  if store.readiness = .uninitialized then (.discard .notMounted, ledger)
  else
    match event with
    | .ready sequence project => (planProject store sequence project, ledger)
    | .projectUpdated sequence project => (planProject store sequence project, ledger)
    | .diagnostics sequence payload =>
      if store.snapshot.isNone then (.discard (.noBaseSnapshot sequence), ledger)
      else (.commit [.mergeDiagnostics payload], ledger)
    | .testResult correlationId result =>
      -- Whether the test case is still in the snapshot does not matter here.
      match ledger.admitResult correlationId with
      | (.live intent, ledger) => (.commit [.runCompleted intent result], ledger)
      | (.discard reason, ledger) => (.discard reason, ledger)
    | .hostError message => (.fault (.host message), ledger)

/-- Carries a change of readiness out, and says whether there was one. -/
def transition (d : Dispatcher) (t : Transition) : Bool × Dispatcher :=
  match d.store.readiness.next t with
  | some readiness => (true, d.commit [.setReadiness readiness])
  | none => (false, d)

def fail (d : Dispatcher) (fault : Fault) : Dispatcher := (d.transition (.fault fault)).2

def recordDiscard (d : Dispatcher) (event : Event) (reason : DiscardReason) : Dispatcher :=
  d.commit [.recordDiscard { ordinal := d.received, kind := some event.kind, reason }]

/-- Handles a message. -/
def dispatch (d : Dispatcher) (ledger : Ledger) (message : Message) : Outcome × Dispatcher × Ledger :=
  let d := { d with received := d.received + 1 }
  -- In the error state a message is counted but not even decoded.
  match d.store.readiness with
  | .error _ => (.ignored, d, ledger)
  | _ =>
    match message.decode d.maxMessageBytes with
    | .error fault => (.faulted fault, d.fail fault, ledger)
    | .ok event =>
      match plan d.store ledger event with
      | (.commit mutations, ledger) => (.applied event, d.commit mutations, ledger)
      | (.discard reason, ledger) => (.discarded reason, d.recordDiscard event reason, ledger)
      | (.fault fault, ledger) => (.faulted fault, d.fail fault, ledger)

/-! ## Actions of the user -/

/-- Mounts the panel, and says whether it was not mounted before. -/
def mount (d : Dispatcher) : Bool × Dispatcher := d.transition .mount

/-- Leaves the error state with an empty state. -/
def reload (d : Dispatcher) : Except ActionError Unit × Dispatcher :=
  match d.store.readiness.next .reload with
  | none => (.error .reloadUnavailable, d)
  | some readiness => (.ok (), d.commit [.clearSnapshot, .clearPending, .setReadiness readiness])

/-- Selects a function and its first test case. -/
def selectFunction (d : Dispatcher) (function : String) : Except ActionError Unit × Dispatcher :=
  match d.store.function? function with
  | none => (.error (.unknownFunction function), d)
  | some f => (.ok (), d.commit [.select ⟨some f.id, f.testCases.head?⟩])

/-- Selects a test case of the selected function. -/
def selectTestCase (d : Dispatcher) (testCase : String) : Except ActionError Unit × Dispatcher :=
  match d.store.selection.function with
  | none => (.error .notReady, d)
  | some function =>
    if d.store.hasTestCase function testCase then
      (.ok (), d.commit [.select ⟨some function, some testCase⟩])
    else (.error (.unknownTarget function testCase), d)

def setFilter (d : Dispatcher) (filter : String) : Dispatcher := d.commit [.setFilter filter]

/-- Notes the start of a run and the end of the one it replaced. -/
def recordRunStarted (d : Dispatcher) (intent : Intent) (superseded : Option Intent) : Dispatcher :=
  d.commit (superseded.toList.map .runCleared ++ [.runPending intent])

def recordRunCancelled (d : Dispatcher) (intent : Intent) : Dispatcher := d.commit [.runCleared intent]

def recordRunsStalled (d : Dispatcher) (intents : List Intent) : Dispatcher :=
  if intents.isEmpty then d else d.commit (intents.map .runStalled)

end Dispatcher

end PanelBridge
