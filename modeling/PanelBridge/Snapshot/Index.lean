import PanelBridge.Table
import PanelBridge.Wire.Project

/-!
# Diagnostics by file

The diagnostics of a project, grouped by file. An update replaces the diagnostics of whole files and leaves the other
files alone.
-/

namespace PanelBridge

/-- Diagnostics grouped by file, files in ascending order. -/
structure DiagnosticIndex where
  byFile : Table String (List Diagnostic)
deriving DecidableEq

namespace DiagnosticIndex

def empty : DiagnosticIndex := ⟨.empty⟩

/-- Adds a diagnostic to the group of its file. -/
def addToGroup (groups : Table String (List Diagnostic)) (d : Diagnostic) :
    Table String (List Diagnostic) :=
  groups.insert d.file ((groups.get? d.file).getD [] ++ [d])

/-- Groups a list of diagnostics by file; the order within a file stays. -/
def group (diagnostics : List Diagnostic) : Table String (List Diagnostic) :=
  diagnostics.foldl addToGroup .empty

/-- Puts the groups in place of those of the same files. -/
def putGroups (index : DiagnosticIndex) (groups : Table String (List Diagnostic)) : DiagnosticIndex :=
  ⟨groups.entries.foldl (fun t e => t.insert e.1 e.2) index.byFile⟩

def ofList (diagnostics : List Diagnostic) : DiagnosticIndex := empty.putGroups (group diagnostics)

def clearFile (index : DiagnosticIndex) (file : String) : DiagnosticIndex :=
  ⟨index.byFile.erase file⟩

/-- Drops the cleared files, then replaces the diagnostics of every file that has new ones. -/
def merge (index : DiagnosticIndex) (payload : DiagnosticsPayload) : DiagnosticIndex :=
  (payload.clearedFiles.foldl clearFile index).putGroups (group payload.diagnostics)

/-- All diagnostics, file after file. -/
def toList (index : DiagnosticIndex) : List Diagnostic := index.byFile.values.flatten

def forFile (index : DiagnosticIndex) (file : String) : List Diagnostic :=
  (index.byFile.get? file).getD []

def forFunction (index : DiagnosticIndex) (function : String) : List Diagnostic :=
  index.toList.filter fun d => d.function == some function

/-- The number of diagnostics, counted file by file. -/
def size (index : DiagnosticIndex) : Nat := index.byFile.values.foldl (fun n ds => n + ds.length) 0

def isEmpty (index : DiagnosticIndex) : Bool := index.size == 0

def isError (d : Diagnostic) : Bool := d.severity = .error

def errorCount (index : DiagnosticIndex) : Nat := index.toList.countP isError

end DiagnosticIndex

end PanelBridge
