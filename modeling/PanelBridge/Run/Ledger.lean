import PanelBridge.Config.Basic
import PanelBridge.Discard
import PanelBridge.Fault
import PanelBridge.Recent
import PanelBridge.Run.Intent
import PanelBridge.Table
import PanelBridge.Wire.Command

/-!
# The ledger of runs

The ledger hands out correlation ids, keeps the live runs, at most one for each target, and remembers the most recent
runs that were called off or replaced, so that a late result can be told from one that was never asked for.

Runs are numbered without bound; where numbers have 64 bits, this is exact below `2 ^ 64`.
-/

namespace PanelBridge

/-- All runs that the panel knows of. -/
structure Ledger where
  /-- The number of the next run. -/
  nextNumber : Nat
  /-- The live runs by id. -/
  live : Table CorrelationId Intent
  /-- The live run of each target. -/
  liveByTarget : Table Target CorrelationId
  /-- Runs that were called off or replaced, oldest first. -/
  tombstones : List (CorrelationId × RunState)
  /-- The number of tombstones that are kept. -/
  tombstoneCapacity : Nat
  /-- Seconds without a result after which a run counts as stalled. -/
  stallSeconds : Nat

/-- A run that was just asked for, its command, and the run it replaced. -/
structure IssuedRun where
  intent : Intent
  command : Command
  superseded : Option Intent

/-- What becomes of a result: it belongs to a live run or is set aside. -/
inductive Admission where
  | live (intent : Intent)
  | discard (reason : DiscardReason)
deriving DecidableEq, Repr

namespace Ledger

def new (config : PanelConfig) : Ledger :=
  { nextNumber := 1
    live := .empty
    liveByTarget := .empty
    tombstones := []
    tombstoneCapacity := config.tombstoneCapacity
    stallSeconds := config.stallSeconds }

/-- The live runs in the order of their ids. -/
def intents (l : Ledger) : List Intent := l.live.values

/-- The live run of a target. -/
def liveIntent (l : Ledger) (target : Target) : Option Intent :=
  (l.liveByTarget.get? target).bind l.live.get?

/-- The state of the most recent tombstone of a run. -/
def tombstoneState (l : Ledger) (id : CorrelationId) : Option RunState :=
  (l.tombstones.reverse.find? fun t => t.1 == id).map (·.2)

/-- The state of a run that is live or remembered. -/
def stateOf (l : Ledger) (id : CorrelationId) : Option RunState :=
  match l.live.get? id with
  | some intent => some intent.state
  | none => l.tombstoneState id

def remove (l : Ledger) (intent : Intent) : Ledger :=
  { l with live := l.live.erase intent.id, liveByTarget := l.liveByTarget.erase intent.target }

/-- Ends a live run in the given state and remembers it. -/
def retire (l : Ledger) (id : CorrelationId) (state : RunState) : Option Intent × Ledger :=
  match l.live.get? id with
  | none => (none, l)
  | some intent =>
    (some { intent with state },
     { l.remove intent with
       tombstones := pushRecent l.tombstoneCapacity l.tombstones (id, state) })

/-- The command that the next run of a target will send. -/
def prepareRun (l : Ledger) (target : Target) : Command :=
  .runTest (CorrelationId.mk l.nextNumber).text target.function target.testCase

def enter (l : Ledger) (intent : Intent) : Ledger :=
  { l with
    live := l.live.insert intent.id intent
    liveByTarget := l.liveByTarget.insert intent.target intent.id }

/-- Retires the live run of a target as replaced, if there is one. -/
def vacate (l : Ledger) (target : Target) : Option Intent × Ledger :=
  match l.liveByTarget.get? target with
  | some previous => l.retire previous .stale
  | none => (none, l)

def advance (l : Ledger) : Ledger := { l with nextNumber := l.nextNumber + 1 }

/-- Starts a run of a target; a live run of the same target is replaced. -/
def issueRun (l : Ledger) (target : Target) (now : Instant) : IssuedRun × Ledger :=
  let command := l.prepareRun target
  let id : CorrelationId := ⟨l.nextNumber⟩
  -- The target is vacated first, so that it never has two live runs.
  let (superseded, l) := l.advance.vacate target
  let intent : Intent := { id, target, state := .pending, issuedAt := now }
  ({ intent, command, superseded }, l.enter intent)

def cancelRun (l : Ledger) (id : CorrelationId) : Except ActionError (Intent × Command) × Ledger :=
  match l.retire id .cancelled with
  | (some intent, l) => (.ok (intent, .cancelRun id.text), l)
  | (none, l) => (.error (.notLive id.text), l)

/-- Retires the given runs as replaced. -/
def retireAll (l : Ledger) : List CorrelationId → List Intent × Ledger
  | [] => ([], l)
  | id :: rest =>
    let (retired, l) := l.retire id .stale
    let (others, l) := l.retireAll rest
    (retired.toList ++ others, l)

/-- Retires every live run as replaced. -/
def supersedeAll (l : Ledger) : List Intent × Ledger := l.retireAll l.live.keys

/-- Finds the live run that a result belongs to and completes it. -/
def admitResult (l : Ledger) (correlationId : String) : Admission × Ledger :=
  match CorrelationId.ofText? correlationId with
  | none => (.discard (.unknownCorrelation correlationId), l)
  | some id =>
    match l.live.get? id with
    | some intent => (.live { intent with state := .completed }, l.remove intent)
    | none =>
      -- Only a tombstone tells a late result from one that was never asked for.
      match l.tombstoneState id with
      | some .cancelled => (.discard (.cancelled id.text), l)
      | some .stale => (.discard (.superseded id.text), l)
      | _ => (.discard (.unknownCorrelation correlationId), l)

/-- Whether a pending run has waited at least as long as the timeout. -/
def isOverdue (l : Ledger) (now : Instant) (intent : Intent) : Bool :=
  intent.state = .pending
    && (l.stallSeconds : Int) * Instant.nanosPerSecond ≤ Instant.elapsed now intent.issuedAt

/-- A run after a sweep: stalled if it is overdue. -/
def swept (l : Ledger) (now : Instant) (intent : Intent) : Intent :=
  if l.isOverdue now intent then { intent with state := .stalled } else intent

/-- Marks the overdue runs as stalled, and gives those that were marked. -/
def sweepStalled (l : Ledger) (now : Instant) : List Intent × Ledger :=
  ((l.intents.filter (l.isOverdue now)).map (l.swept now),
   { l with live := l.live.mapValues fun _ intent => l.swept now intent })

/-- Forgets all runs; numbers go on. -/
def clear (l : Ledger) : Ledger :=
  { l with live := .empty, liveByTarget := .empty, tombstones := [] }

end Ledger

end PanelBridge
