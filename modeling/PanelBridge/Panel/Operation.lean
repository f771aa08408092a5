import PanelBridge.Panel.Basic

/-!
# Operations on a panel

Everything that can be done to a panel is an operation. A session is a list of operations; carrying it out gives a report
for each of them.
-/

namespace PanelBridge

/-- An action of the user. -/
inductive Action where
  | runTest (function testCase : String)
  | cancelRun (correlationId : String)
  | selectFunction (function : String)
  | selectTestCase (testCase : String)
  | setFilter (filter : String)
  | requestSettings (changes : Option Settings)
  | reload

/-- Something that is done to a panel. -/
inductive Operation where
  | mount
  | receive (message : Message)
  | pump
  | deliver (message : Message)
  | act (action : Action)
  | setClock (now : Instant)
  | tick
  | tickAt (now : Instant)
  | subscribe (label : String) (reads : Bool)
  | unsubscribe (id : Nat)
  | on (kind : EventKind) (label : String)
  | off (id : Nat)
  | read

/-- What an operation tells the one who asked for it. -/
inductive Report where
  | done
  | mounted (moved : Bool)
  | outcome (outcome : Outcome)
  | outcomes (outcomes : List Outcome)
  | started (result : Except ActionError CorrelationId)
  | acted (result : Except ActionError Unit)
  | stalled (intents : List Intent)
  | registered (id : Nat)
  | removed (found : Bool)
  | overview (view : PanelView)

/-- Whether an action was turned down. -/
def Report.isRefusal : Report → Bool
  | .started (.error _) => true
  | .acted (.error _) => true
  | _ => false

namespace Panel

def act (p : Panel) : Action → Report × Panel
  | .runTest function testCase =>
    let (result, p) := p.runTest function testCase
    (.started result, p)
  | .cancelRun correlationId =>
    let (result, p) := p.cancelRun correlationId
    (.acted result, p)
  | .selectFunction function =>
    let (result, p) := p.selectFunction function
    (.acted result, p)
  | .selectTestCase testCase =>
    let (result, p) := p.selectTestCase testCase
    (.acted result, p)
  | .setFilter filter => (.done, p.setFilter filter)
  | .requestSettings changes =>
    let (result, p) := p.requestSettings changes
    (.acted result, p)
  | .reload =>
    let (result, p) := p.reload
    (.acted result, p)

def perform (p : Panel) : Operation → Report × Panel
  | .mount =>
    let (moved, p) := p.mount
    (.mounted moved, p)
  | .receive message => (.done, p.receive message)
  | .pump =>
    let (outcomes, p) := p.pump
    (.outcomes outcomes, p)
  | .deliver message =>
    let (outcome, p) := p.deliver message
    (.outcome outcome, p)
  | .act action => p.act action
  | .setClock now => (.done, p.setClock now)
  | .tick =>
    let (stalled, p) := p.tick
    (.stalled stalled, p)
  | .tickAt now =>
    let (stalled, p) := p.tickAt now
    (.stalled stalled, p)
  | .subscribe label reads =>
    let (id, p) := p.subscribe label reads
    (.registered id, p)
  | .unsubscribe id =>
    let (found, p) := p.unsubscribe id
    (.removed found, p)
  | .on kind label =>
    let (id, p) := p.on kind label
    (.registered id, p)
  | .off id =>
    let (found, p) := p.off id
    (.removed found, p)
  | .read =>
    let (view, p) := p.read
    (.overview view, p)

/-- Carries operations out one after the other. -/
def performAll (p : Panel) : List Operation → List Report × Panel
  | [] => ([], p)
  | op :: rest =>
    let (report, p) := p.perform op
    let (reports, p) := p.performAll rest
    (report :: reports, p)

end Panel

end PanelBridge
