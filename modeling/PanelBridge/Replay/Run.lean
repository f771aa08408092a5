import PanelBridge.Replay.Transcript

/-!
# Replay

A transcript is carried out on a panel step by step; what becomes of the steps is counted.
-/

namespace PanelBridge

open Schema

/-- The message in a host step: a string is delivered as text. -/
def Message.ofValue : Json → Message
  | .str s => .text s
  | v => .json v

/-- The operations that a step asks for. A tick sets the clock and then marks the runs that have stalled. -/
def Step.operations : Step → List Operation
  | .host value => [.deliver (.ofValue value)]
  | .user action => [.act action]
  | .tick now => [.setClock now, .tick]

namespace Replay

/-- What became of the steps of a session. -/
structure Stats where
  applied : Nat := 0
  discarded : Nat := 0
  faulted : Nat := 0
  ignored : Nat := 0
  actions : Nat := 0
  rejectedActions : Nat := 0
  stalled : Nat := 0
deriving DecidableEq, Repr

namespace Stats

def encode (s : Stats) : Json :=
  .record [always "applied" (.nat s.applied), always "discarded" (.nat s.discarded),
    always "faulted" (.nat s.faulted), always "ignored" (.nat s.ignored),
    always "actions" (.nat s.actions), always "rejectedActions" (.nat s.rejectedActions),
    always "stalled" (.nat s.stalled)]

def countOutcome (s : Stats) : Outcome → Stats
  | .applied _ => { s with applied := s.applied + 1 }
  | .discarded _ => { s with discarded := s.discarded + 1 }
  | .faulted _ => { s with faulted := s.faulted + 1 }
  | .ignored => { s with ignored := s.ignored + 1 }

/-- Counts an action and whether it was turned down. -/
def countAction (s : Stats) (refused : Bool) : Stats :=
  { s with
    actions := s.actions + 1
    rejectedActions := if refused then s.rejectedActions + 1 else s.rejectedActions }

def count (s : Stats) : Operation → Report → Stats
  | .act _, report => s.countAction report.isRefusal
  | _, .outcome outcome => s.countOutcome outcome
  | _, .stalled intents => { s with stalled := s.stalled + intents.length }
  | _, _ => s

end Stats

/-- Carries operations out one after the other and counts them. -/
def runFrom (stats : Stats) (p : Panel) : List Operation → Stats × Panel
  | [] => (stats, p)
  | op :: rest =>
    let (report, p) := p.perform op
    runFrom (stats.count op report) p rest

/-- Carries the steps of a session out on a panel. -/
def run (p : Panel) (steps : List Step) : Stats × Panel :=
  runFrom {} p (steps.flatMap Step.operations)

/-- Carries the steps of a session out on a new panel, which is mounted first. -/
def session (config : PanelConfig) (channel : MemoryChannel) (start : Instant) (steps : List Step) :
    Stats × Panel :=
  run (Panel.new config channel start).mount.2 steps

end Replay

end PanelBridge
