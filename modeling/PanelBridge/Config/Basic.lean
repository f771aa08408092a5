import PanelBridge.Schema.Record

/-!
# Configuration

The limits of a panel and their defaults.
-/

namespace PanelBridge

open Schema

/-- The limits of a panel. -/
structure PanelConfig where
  /-- Seconds without a result after which a run counts as stalled. -/
  stallTimeoutSecs : Nat := 30
  /-- The largest message in bytes. -/
  maxMessageBytes : Nat := 1048576
  /-- The number of called off and repeated runs that are remembered. -/
  tombstoneCapacity : Nat := 256
  /-- The number of discarded events that are noted. -/
  discardLogCapacity : Nat := 64
deriving DecidableEq, Repr

namespace PanelConfig

/-- The fields of a configuration, each with a default. -/
def shape : Shape :=
  { name := "PanelConfig"
    fields := [fieldOr "stall_timeout_secs" word64, fieldOr "max_message_bytes" count,
      fieldOr "tombstone_capacity" count, fieldOr "discard_log_capacity" count]
    isOpen := false }

def decode : Decoder PanelConfig := fun v => do
  let ms ← shape.open? v
  let standard : PanelConfig := {}
  return { stallTimeoutSecs := ← defaulted ms "stall_timeout_secs" word64 standard.stallTimeoutSecs
           maxMessageBytes := ← defaulted ms "max_message_bytes" count standard.maxMessageBytes
           tombstoneCapacity := ← defaulted ms "tombstone_capacity" count standard.tombstoneCapacity
           discardLogCapacity :=
             ← defaulted ms "discard_log_capacity" count standard.discardLogCapacity }

def encode (c : PanelConfig) : Json :=
  .record [always "stall_timeout_secs" (.nat c.stallTimeoutSecs),
    always "max_message_bytes" (.nat c.maxMessageBytes),
    always "tombstone_capacity" (.nat c.tombstoneCapacity),
    always "discard_log_capacity" (.nat c.discardLogCapacity)]

/-- The longest stall timeout in seconds: its milliseconds still fit in 63 bits. -/
def maxStallSeconds : Nat := (Nat.pow 2 63 - 1) / 1000

/-- The stall timeout in seconds, cut off at the longest one. -/
def stallSeconds (c : PanelConfig) : Nat := min c.stallTimeoutSecs maxStallSeconds

end PanelConfig

end PanelBridge
