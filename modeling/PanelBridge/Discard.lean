import PanelBridge.Schema.Record
import PanelBridge.Wire.Kind

/-!
# Discarded events

Events that are in order but come at the wrong time are set aside and noted, each with its reason.
-/

namespace PanelBridge

open Schema

/-- Why an event was set aside. -/
inductive DiscardReason where
  | cancelled (correlationId : String)
  | superseded (correlationId : String)
  | unknownCorrelation (correlationId : String)
  | sequenceRegression (incoming current : Nat)
  | noBaseSnapshot (sequence : Option Nat)
  | notMounted
deriving DecidableEq, Repr

namespace DiscardReason

def code : DiscardReason → String
  | .cancelled _ => "cancelled"
  | .superseded _ => "superseded"
  | .unknownCorrelation _ => "unknown_correlation"
  | .sequenceRegression .. => "sequence_regression"
  | .noBaseSnapshot _ => "no_base_snapshot"
  | .notMounted => "not_mounted"

/-- Whether the event was a result of a run that the user had called off or repeated. -/
def isStaleResult : DiscardReason → Bool
  | .cancelled _ => true
  | .superseded _ => true
  | _ => false

/-- The code and the details of a reason as members of an object. -/
def members (r : DiscardReason) : List (Option (String × Json)) :=
  always "reason" (.str r.code) ::
    match r with
    | .cancelled id | .superseded id | .unknownCorrelation id => [always "correlation_id" (.str id)]
    | .sequenceRegression incoming current =>
      [always "incoming" (.nat incoming), always "current" (.nat current)]
    | .noBaseSnapshot sequence => [whenSome "sequence" .nat sequence]
    | .notMounted => []

def encode (r : DiscardReason) : Json := .record r.members

end DiscardReason

/-- The note of a discarded event: its place among all messages, its kind and the reason. -/
structure DiscardRecord where
  ordinal : Nat
  kind : Option EventKind
  reason : DiscardReason
deriving DecidableEq, Repr

/-- Writes a note; the details of the reason stand beside the other fields. -/
def DiscardRecord.encode (r : DiscardRecord) : Json :=
  .record ([always "ordinal" (.nat r.ordinal), always "kind" (.ofOption EventKind.encode r.kind)]
    ++ r.reason.members)

end PanelBridge
