import PanelBridge.Json.Reader
import PanelBridge.Panel.Operation
import PanelBridge.Schema.Record
import PanelBridge.Text.Blank
import PanelBridge.Text.Lines
import PanelBridge.Time.Timestamp
import PanelBridge.Wire.Project

/-!
# Transcripts

A transcript records a session, one step a line: a message from the host, an action of the user, or a time of the clock.
Blank lines and lines that start with two slashes are skipped.
-/

namespace PanelBridge

open Schema

/-- A step of a session. -/
inductive Step where
  | host (value : Json)
  | user (action : Action)
  | tick (now : Instant)

namespace Action

/-- The kinds of actions. -/
inductive Kind where
  | runTest
  | cancelRun
  | selectFunction
  | selectTestCase
  | setFilter
  | requestSettings
  | reload
deriving DecidableEq, Repr

def Kind.all : List Kind :=
  [.runTest, .cancelRun, .selectFunction, .selectTestCase, .setFilter, .requestSettings, .reload]

def Kind.name : Kind → String
  | .runTest => "run-test"
  | .cancelRun => "cancel-run"
  | .selectFunction => "select-function"
  | .selectTestCase => "select-test-case"
  | .setFilter => "set-filter"
  | .requestSettings => "request-settings"
  | .reload => "reload"

def kind : Action → Kind
  | .runTest .. => .runTest
  | .cancelRun _ => .cancelRun
  | .selectFunction _ => .selectFunction
  | .selectTestCase _ => .selectTestCase
  | .setFilter _ => .setFilter
  | .requestSettings _ => .requestSettings
  | .reload => .reload

/-- The fields of a kind, beside its name. -/
def Kind.shape (k : Kind) : Shape :=
  { name := k.name
    fields := match k with
      | .runTest => [field "function" string, field "testCase" string]
      | .cancelRun => [field "correlationId" string]
      | .selectFunction => [field "function" string]
      | .selectTestCase => [field "testCase" string]
      | .setFilter => [field "filter" string]
      | .requestSettings => [fieldOr "changes" (nullable members)]
      | .reload => []
    isOpen := k = .reload }

/-- Changes of settings in canonical form. -/
def canonicalSettings (settings : Settings) : Settings := Json.canonicalMembers settings []

/-- Reads an action of a known kind off its fields. -/
def ofFields (k : Kind) (fields : Json) : Except SchemaError Action := do
  let ms ← k.shape.open? fields
  match k with
  | .runTest => return .runTest (← required ms "function" string) (← required ms "testCase" string)
  | .cancelRun => return .cancelRun (← required ms "correlationId" string)
  | .selectFunction => return .selectFunction (← required ms "function" string)
  | .selectTestCase => return .selectTestCase (← required ms "testCase" string)
  | .setFilter => return .setFilter (← required ms "filter" string)
  | .requestSettings =>
    return .requestSettings ((← optional ms "changes" members).map canonicalSettings)
  | .reload => return .reload

/-- The name of the member that tells the kind. -/
def tag : String := "action"

/-- Reads an action: an object with its kind and fields, or a list that starts with its kind. -/
def decode : Decoder Action
  | .obj ms =>
    match ms.partition (·.1 == tag) with
    | ([], _) => .error (.missingField tag)
    | ([(_, v)], fields) => do
      let name ← string v
      let k ← choiceNamed Kind.all Kind.name name
      ofFields k (.obj fields)
    | _ => .error (.duplicateField tag)
  | .arr [] => .error (.missingField tag)
  | .arr (v :: fields) => do
    let name ← string v
    let k ← choiceNamed Kind.all Kind.name name
    ofFields k (.arr fields)
  | v => .error (.invalidType v.found "an action")

end Action

/-- Reads a step: an object with one member, named for the kind of step. -/
def Step.ofJson? : Json → Option Step
  | .obj [(key, v)] =>
    if key = "host" then some (.host v.canonical)
    else if key = "user" then (Action.decode v).toOption.map .user
    else if key = "tick" then
      match v with
      | .str s => (Timestamp.relaxed s).map .tick
      | _ => none
    else none
  | _ => none

namespace Transcript

/-- Whether a line holds no step. -/
def isSkipped (cs : List Char) : Bool :=
  let trimmed := Text.trimStart cs
  trimmed.isEmpty || ['/', '/'].isPrefixOf trimmed

def stepOf? (cs : List Char) : Option Step :=
  match Json.readChars cs with
  | .ok v => Step.ofJson? v
  | .error _ => none

/-- Reads lines from a number on: the steps, or the number of the first line that holds none and is not skipped. -/
def parseLines : (number : Nat) → List (List Char) → Except Nat (List Step)
  | _, [] => .ok []
  | number, cs :: rest =>
    if isSkipped cs then parseLines (number + 1) rest
    else
      match stepOf? cs with
      | none => .error number
      | some step =>
        match parseLines (number + 1) rest with
        | .error e => .error e
        | .ok steps => .ok (step :: steps)

/-- Reads a transcript: its steps, or the number of the first bad line. -/
def parse (text : String) : Except Nat (List Step) := parseLines 1 (Text.lines text.toList)

end Transcript

end PanelBridge
