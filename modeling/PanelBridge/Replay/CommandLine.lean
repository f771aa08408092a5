import PanelBridge.Config.Document
import PanelBridge.Replay.Run

/-!
# The command line

The program replays a transcript and writes every command of the panel as a line. Its arguments are options, each given
at most once, and the name of the transcript.
-/

namespace PanelBridge.CommandLine

/-- What the user asked for. -/
structure Invocation where
  config : Option String
  logDir : Option String
  summary : Bool
  transcript : String
deriving DecidableEq, Repr

/-- The meaning of the arguments. -/
inductive Request where
  | run (invocation : Invocation)
  | help
  | version
  | badUsage
deriving DecidableEq, Repr

/-- The arguments read so far. -/
structure Draft where
  config : Option String := none
  logDir : Option String := none
  summary : Bool := false
  transcript : Option String := none

/-- The options that take a value. -/
inductive ValueOption where
  | config
  | logDir
deriving DecidableEq, Repr

def ValueOption.ofName? (name : String) : Option ValueOption :=
  if name = "config" then some .config else if name = "log-dir" then some .logDir else none

/-- Sets an option, which may be set only once and not to an empty value. -/
def Draft.set (d : Draft) (option : ValueOption) (value : String) : Option Draft :=
  if value.isEmpty then none
  else
    match option with
    | .config => if d.config.isSome then none else some { d with config := some value }
    | .logDir => if d.logDir.isSome then none else some { d with logDir := some value }

/-- Sets the transcript, which may be set only once. -/
def Draft.setTranscript (d : Draft) (name : String) : Option Draft :=
  if d.transcript.isSome then none else some { d with transcript := some name }

/-- The request that the arguments make up. -/
def Draft.finish (d : Draft) : Request :=
  match d.transcript with
  | some transcript =>
    .run { config := d.config, logDir := d.logDir, summary := d.summary, transcript }
  | none => .badUsage

/-- Reads arguments after the mark that ends the options. -/
def positionals (d : Draft) : List String → Request
  | [] => d.finish
  | name :: rest =>
    match d.setTranscript name with
    | some d => positionals d rest
    | none => .badUsage

/-- The form of an argument. -/
inductive Form where
  /-- Two dashes, which end the options. -/
  | stop
  /-- Two dashes and a name, with a value after an equals sign or without one. -/
  | long (name : String) (value : Option String)
  /-- One dash and the first letter of what follows it. -/
  | short (letter : Char)
  /-- Anything else, a single dash included. -/
  | plain

def form (argument : String) : Form :=
  match argument.toList with
  | ['-', '-'] => .stop
  | '-' :: '-' :: cs =>
    let name := cs.takeWhile (· != '=')
    match cs.drop name.length with
    | [] => .long (String.ofList name) none
    | _ :: value => .long (String.ofList name) (some (String.ofList value))
  | '-' :: c :: _ => .short c
  | _ => .plain

/-- Reads arguments from left to right; the first mistake, or request for help or for the version, decides. -/
def arguments (d : Draft) : List String → Request
  | [] => d.finish
  | argument :: rest =>
    match form argument with
    | .stop => positionals d rest
    | .plain =>
      match d.setTranscript argument with
      | some d => arguments d rest
      | none => .badUsage
    | .short c => if c = 'h' then .help else if c = 'V' then .version else .badUsage
    | .long name value =>
      match ValueOption.ofName? name, value with
      | some option, some value =>
        match d.set option value with
        | some d => arguments d rest
        | none => .badUsage
      | some option, none =>
        match rest with
        | value :: rest =>
          match form value with
          | .plain =>
            match d.set option value with
            | some d => arguments d rest
            | none => .badUsage
          | _ => .badUsage
        | [] => .badUsage
      | none, some _ => .badUsage
      | none, none =>
        if name = "help" then .help
        else if name = "version" then .version
        else if name = "summary" then
          if d.summary then .badUsage else arguments { d with summary := true } rest
        else .badUsage

/-- The request that the arguments make up. -/
def request (args : List String) : Request := arguments {} args

/-- The name and the version of the program. -/
def versionText : String := "playground-replay 0.2.0-alpha.1"

def helpLines : List String :=
  ["Replay a host transcript through the playground panel bridge",
   "",
   "Usage: playground-replay [OPTIONS] <TRANSCRIPT>",
   "",
   "Arguments:",
   "  <TRANSCRIPT>  Transcript file, or `-` for stdin",
   "",
   "Options:",
   "      --config <PATH>  Panel config file (defaults to ~/.playground/panel.toml)",
   "      --log-dir <DIR>  Write logs to a file in this directory instead of stderr",
   "      --summary        Print the final panel view after the commands",
   "  -h, --help           Print help",
   "  -V, --version        Print version"]

/-- How the program ends: its exit code, the lines it writes, and whether the session was carried out. -/
structure Result where
  exit : Nat
  stdout : List String
  finished : Bool
deriving DecidableEq, Repr

namespace Result

/-- The end of a program that wrote what it was asked for without a session. -/
def shown (lines : List String) : Result := ⟨0, lines, false⟩

/-- The end of a program that could not start its session. -/
def failure : Result := ⟨1, [], false⟩

/-- The end of a program whose arguments make no sense. -/
def badUsage : Result := ⟨2, [], false⟩

end Result

/-- The name that stands for the standard input. -/
def stdinName : String := "-"

def logFileName : String := "playground-replay.log"

/-- The place of the configuration file; without the option it lies in the home directory. -/
def Invocation.configPath (i : Invocation) (home : String) : String :=
  i.config.getD (home ++ "/.playground/panel.toml")

/-- Carries an invocation out, given what stands at the place of its configuration file, the text of its transcript
unless that cannot be read, and the time. Nothing is written unless both are good. -/
def Invocation.run (i : Invocation) (config : ConfigSource) (transcript : Option String)
    (start : Instant) : Result :=
  match PanelConfig.load config, transcript.map Transcript.parse with
  | .ok config, some (.ok steps) =>
    let panel := (Replay.session config .accepting start steps).2
    let overview := if i.summary then [panel.read.1.encode.render] else []
    ⟨0, panel.transport.channel.lines ++ overview, true⟩
  | _, _ => .failure

/-- Carries a request out. The configuration, the transcript and the time matter only to a session. -/
def Request.execute (r : Request) (config : ConfigSource) (transcript : Option String)
    (start : Instant) : Result :=
  match r with
  | .run i => i.run config transcript start
  | .help => .shown helpLines
  | .version => .shown [versionText]
  | .badUsage => .badUsage

end PanelBridge.CommandLine
