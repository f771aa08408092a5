import PanelBridge.Schema.Decoder

/-!
# Kinds of messages

Events come from the host, commands go to it. Every kind has one name on the wire.
-/

namespace PanelBridge

/-- The kinds of events. -/
inductive EventKind where
  | ready
  | projectUpdated
  | diagnostics
  | testResult
  | error
deriving DecidableEq, Repr

namespace EventKind

def all : List EventKind := [.ready, .projectUpdated, .diagnostics, .testResult, .error]

def name : EventKind → String
  | .ready => "ready"
  | .projectUpdated => "project-updated"
  | .diagnostics => "diagnostics"
  | .testResult => "test-result"
  | .error => "error"

def ofName? (s : String) : Option EventKind := all.find? fun k => k.name == s

def decode : Decoder EventKind := Schema.choice all name

def encode (k : EventKind) : Json := .str k.name

end EventKind

/-- The kinds of commands. -/
inductive CommandKind where
  | runTest
  | cancelRun
  | selectFunction
  | requestSettings
  | reload
deriving DecidableEq, Repr

namespace CommandKind

def all : List CommandKind := [.runTest, .cancelRun, .selectFunction, .requestSettings, .reload]

def name : CommandKind → String
  | .runTest => "run-test"
  | .cancelRun => "cancel-run"
  | .selectFunction => "select-function"
  | .requestSettings => "request-settings"
  | .reload => "reload"

def ofName? (s : String) : Option CommandKind := all.find? fun k => k.name == s

def decode : Decoder CommandKind := Schema.choice all name

def encode (k : CommandKind) : Json := .str k.name

end CommandKind

end PanelBridge
