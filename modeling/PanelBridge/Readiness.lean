import PanelBridge.Fault

/-!
# Readiness

The panel starts uninitialized, loads once it is mounted, is ready with the first full snapshot, and stays in error
after a fault until the user reloads it.
-/

namespace PanelBridge

/-- The state of the panel as a whole. -/
inductive Readiness where
  | uninitialized
  | loading
  | ready
  | error (fault : Fault)
deriving DecidableEq, Repr

/-- What may change the readiness. -/
inductive Transition where
  | mount
  | fullSnapshot
  | fault (fault : Fault)
  | reload
deriving DecidableEq, Repr

namespace Readiness

def name : Readiness → String
  | .uninitialized => "uninitialized"
  | .loading => "loading"
  | .ready => "ready"
  | .error _ => "error"

def isReady : Readiness → Bool
  | .ready => true
  | _ => false

def fault? : Readiness → Option Fault
  | .error f => some f
  | _ => none

/-- The state after a transition, or none if the state stays. -/
def next : Readiness → Transition → Option Readiness
  | .uninitialized, .mount => some .loading
  | .loading, .fullSnapshot => some .ready
  | .error _, .fault _ => none
  | _, .fault f => some (.error f)
  | .error _, .reload => some .loading
  | _, _ => none

open Schema in
/-- Writes the state, with code and text of its fault. -/
def encode (r : Readiness) : Json :=
  .record [always "state" (.str r.name), whenSome "errorCode" (.str ·.code) r.fault?,
    whenSome "errorMessage" (.str ·.message) r.fault?]

end Readiness

end PanelBridge
