import PanelBridge.Channel
import PanelBridge.Dispatch
import PanelBridge.Listeners

/-!
# The panel

A panel joins the store, the ledger of runs, the channel to the host and the listeners. Messages from the host change
the store; actions of the user send commands. A run is entered only after its command was taken; the other actions change
the state first and send afterwards.
-/

namespace PanelBridge

/-- A call of a listener, with what it is shown: the event, and the store as it was then. -/
structure ListenerCall where
  listener : Listener
  event : Event
  store : Store

namespace ListenerCall

def label (c : ListenerCall) : String := c.listener.label

def kind (c : ListenerCall) : EventKind := c.event.kind

/-- The sequence number of the snapshot that the listener saw. -/
def sequence (c : ListenerCall) : Option Nat := c.store.sequence

/-- The number of changes that the listener saw. -/
def revision (c : ListenerCall) : Nat := c.store.revision

end ListenerCall

/-- A call to the outside: to a subscriber of the store or to a listener. -/
inductive Call where
  | notice (notice : Notice)
  | listener (call : ListenerCall)

/-- One panel. -/
structure Panel where
  config : PanelConfig
  transport : Transport MemoryChannel
  dispatcher : Dispatcher
  ledger : Ledger
  listeners : Listeners
  /-- The time of the clock. -/
  now : Instant
  /-- All calls to the outside in their order. -/
  journal : List Call

namespace Panel

def new (config : PanelConfig) (channel : MemoryChannel) (now : Instant) : Panel :=
  { config
    transport := .new channel
    dispatcher := .new config
    ledger := .new config
    listeners := .new
    now
    journal := [] }

def store (p : Panel) : Store := p.dispatcher.store

def withStore (p : Panel) (store : Store) : Panel :=
  { p with dispatcher := { p.dispatcher with store } }

/-- Enters the notices of the store into the journal. -/
def collect (p : Panel) : Panel :=
  { p.withStore { p.store with outbox := [] } with
    journal := p.journal ++ p.store.outbox.map .notice }

/-- Puts a changed dispatcher in place and enters its notices into the journal. -/
def update (p : Panel) (dispatcher : Dispatcher) : Panel := { p with dispatcher }.collect

/-- Mounts the panel, and says whether it was not mounted before. -/
def mount (p : Panel) : Bool × Panel :=
  let (moved, dispatcher) := p.dispatcher.mount
  (moved, p.update dispatcher)

/-! ## Messages from the host -/

def receive (p : Panel) (m : Message) : Panel := { p with transport := p.transport.receive m }

/-- Calls the listeners of an applied event. -/
def publish (p : Panel) (event : Event) : Panel :=
  let calls := (p.listeners.forKind event.kind).map fun listener =>
    Call.listener { listener, event, store := p.store }
  { p with journal := p.journal ++ calls }

def handle (p : Panel) (m : Message) : Outcome × Panel :=
  let (outcome, dispatcher, ledger) := p.dispatcher.dispatch p.ledger m
  let p := { p with ledger }.update dispatcher
  -- Listeners hear of an event when the store has it already.
  match outcome with
  | .applied event => (outcome, p.publish event)
  | _ => (outcome, p)

/-- Handles messages one after the other. -/
def handleAll (p : Panel) : List Message → List Outcome × Panel
  | [] => ([], p)
  | m :: rest =>
    let (outcome, p) := p.handle m
    let (outcomes, p) := p.handleAll rest
    (outcome :: outcomes, p)

/-- Handles all queued messages in the order of their arrival. -/
def pump (p : Panel) : List Outcome × Panel :=
  { p with transport := p.transport.clearInbound }.handleAll p.transport.inbound

/-- Queues a message and handles the queue; gives what became of the last message. -/
def deliver (p : Panel) (m : Message) : Outcome × Panel :=
  let (outcomes, p) := (p.receive m).pump
  (outcomes.getLast?.getD .ignored, p)

/-! ## Actions of the user -/

def send (p : Panel) (c : Command) : Except ActionError Unit × Panel :=
  let (result, transport) := p.transport.send c
  (result.mapError .transport, { p with transport })

/-- Starts a run of a test case. Nothing changes unless the command was taken. -/
def runTest (p : Panel) (function testCase : String) : Except ActionError CorrelationId × Panel :=
  if !p.store.readiness.isReady then (.error .notReady, p)
  else if !p.store.hasTestCase function testCase then (.error (.unknownTarget function testCase), p)
  else
    let target : Target := ⟨function, testCase⟩
    -- The command goes out first: the ledger is not touched before the host has taken it.
    match p.send (p.ledger.prepareRun target) with
    | (.error e, p) => (.error e, p)
    | (.ok (), p) =>
      let (issued, ledger) := p.ledger.issueRun target p.now
      (.ok issued.intent.id,
       { p with ledger }.update (p.dispatcher.recordRunStarted issued.intent issued.superseded))

def cancelRun (p : Panel) (correlationId : String) : Except ActionError Unit × Panel :=
  match CorrelationId.ofText? correlationId with
  | none => (.error (.notLive correlationId), p)
  | some id =>
    match p.ledger.cancelRun id with
    | (.error e, _) => (.error e, p)
    | (.ok (intent, command), ledger) =>
      -- The run is called off even if the host cannot be told.
      ({ p with ledger }.update (p.dispatcher.recordRunCancelled intent)).send command

/-- Selects a function and tells the host. -/
def selectFunction (p : Panel) (function : String) : Except ActionError Unit × Panel :=
  match p.dispatcher.selectFunction function with
  | (.error e, _) => (.error e, p)
  | (.ok (), dispatcher) => (p.update dispatcher).send (.selectFunction function)

/-- Selects a test case of the selected function. -/
def selectTestCase (p : Panel) (testCase : String) : Except ActionError Unit × Panel :=
  let (result, dispatcher) := p.dispatcher.selectTestCase testCase
  (result, p.update dispatcher)

def setFilter (p : Panel) (filter : String) : Panel := p.update (p.dispatcher.setFilter filter)

/-- Asks the host for its settings, or for changes to them. -/
def requestSettings (p : Panel) (changes : Option Settings) : Except ActionError Unit × Panel :=
  p.send (.requestSettings changes)

/-- Leaves the error state, retires all live runs and asks the host for the project. -/
def reload (p : Panel) : Except ActionError Unit × Panel :=
  match p.dispatcher.reload with
  | (.error e, _) => (.error e, p)
  | (.ok (), dispatcher) =>
    let (_, ledger) := p.ledger.supersedeAll
    ({ p with ledger }.update dispatcher).send .reload

/-- Marks the runs that have stalled by the given time. -/
def tickAt (p : Panel) (now : Instant) : List Intent × Panel :=
  let (stalled, ledger) := p.ledger.sweepStalled now
  (stalled, { p with ledger }.update (p.dispatcher.recordRunsStalled stalled))

/-- Marks the runs that have stalled by the time of the clock. -/
def tick (p : Panel) : List Intent × Panel := p.tickAt p.now

def setClock (p : Panel) (now : Instant) : Panel := { p with now }

/-! ## Registration and reading -/

/-- Enters a subscriber of the store, who looks at the overview on each occasion or at nothing; its number is given
back. -/
def subscribe (p : Panel) (label : String) (reads : Bool) : Nat × Panel :=
  let (id, store) := p.store.subscribe label fun _ => if reads then [.overview] else []
  (id, p.withStore store)

/-- Removes a subscriber of the store, and says whether there was one. -/
def unsubscribe (p : Panel) (id : Nat) : Bool × Panel :=
  let (removed, store) := p.store.unsubscribe id
  (removed, p.withStore store)

/-- Registers a listener; its number is given back. -/
def on (p : Panel) (kind : EventKind) (label : String) : Nat × Panel :=
  let (id, listeners) := p.listeners.register kind label
  (id, { p with listeners })

/-- Removes a listener, and says whether there was one. -/
def off (p : Panel) (id : Nat) : Bool × Panel :=
  let (removed, listeners) := p.listeners.remove id
  (removed, { p with listeners })

def read (p : Panel) : PanelView × Panel :=
  let (view, store) := p.store.read
  (view, p.withStore store)

/-- Closes the panel: the queue, the subscribers, the listeners and the runs go. -/
def close (p : Panel) : Panel :=
  { p.withStore { p.store with subscribers := [] } with
    transport := p.transport.clearInbound
    listeners := p.listeners.clear
    ledger := p.ledger.clear }

end Panel

end PanelBridge
