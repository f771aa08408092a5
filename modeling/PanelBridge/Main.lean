import PanelBridge.Replay.CommandLine
import Std.Time.DateTime.Timestamp

/-!
# The program

Reads what the command line names, carries the request out, writes its lines and keeps a log.
-/

namespace PanelBridge.CommandLine

/-- What stands at the place of a configuration file. -/
def readConfig (path : String) : IO ConfigSource := do
  try
    return .text (← IO.FS.readFile path)
  catch
    | .noFileOrDirectory .. => return .missing
    | _ => return .unreadable

/-- The text of a transcript, unless it cannot be read. -/
def readTranscript (name : String) : IO (Option String) := do
  try
    if name = stdinName then return some (← (← IO.getStdin).readToEnd)
    else return some (← IO.FS.readFile name)
  catch _ => return none

/-- Writes the log: to its file if a directory is given that can be made, otherwise to the standard error. -/
def writeLog (dir : Option String) (line : String) : IO Unit := do
  match dir with
  | none => IO.eprintln line
  | some dir =>
    try
      IO.FS.createDirAll dir
      IO.FS.writeFile (dir ++ "/" ++ logFileName) (line ++ "\n")
    catch _ => IO.eprintln line

/-- Carries a request out in the world and gives the exit code. -/
def perform (r : Request) : IO UInt32 := do
  let now ← Std.Time.Timestamp.now
  let start := Instant.ofMillis now.toMillisecondsSinceUnixEpoch.val
  let result ← match r with
    | .run i => do
      let home := (← IO.getEnv "HOME").getD ""
      let config ← readConfig (i.configPath home)
      let transcript ← readTranscript i.transcript
      let result := r.execute config transcript start
      writeLog i.logDir (if result.finished then "Replay finished" else "Replay could not start")
      pure result
    | .badUsage => do
      IO.eprintln "Usage: playground-replay [OPTIONS] <TRANSCRIPT>"
      pure (r.execute .missing none start)
    | _ => pure (r.execute .missing none start)
  result.stdout.forM fun line => IO.println line
  return result.exit.toUInt32

end PanelBridge.CommandLine

/-- The program. -/
def main (args : List String) : IO UInt32 :=
  PanelBridge.CommandLine.perform (PanelBridge.CommandLine.request args)
