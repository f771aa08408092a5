import PanelBridge.Message
import PanelBridge.Wire.Command

/-!
# The way to the host and back

Commands leave as lines of text through a channel, which may refuse a line. Messages from the host wait in a queue.

Lines are counted without bound; where the count has 64 bits, this is exact below `2 ^ 64`.
-/

namespace PanelBridge

/-- Something that takes lines of text, or refuses one with a reason. -/
class Channel (γ : Type) where
  /-- Offers a line; gives the reason if it is refused. -/
  post : γ → String → Option String × γ

/-- A channel that keeps the lines it takes. Whether it takes a line may depend on the line and on all lines it was
offered before. -/
structure MemoryChannel where
  refusal : (attempts : List String) → (line : String) → Option String
  attempts : List String
  lines : List String

namespace MemoryChannel

/-- A channel with a rule for refusals. -/
def withRefusal (refusal : List String → String → Option String) : MemoryChannel := ⟨refusal, [], []⟩

def accepting : MemoryChannel := withRefusal fun _ _ => none

/-- Keeps a line without offering it. -/
def record (c : MemoryChannel) (line : String) : MemoryChannel := { c with lines := c.lines ++ [line] }

def post (c : MemoryChannel) (line : String) : Option String × MemoryChannel :=
  let offered := { c with attempts := c.attempts ++ [line] }
  match c.refusal c.attempts line with
  | some reason => (some reason, offered)
  | none => (none, offered.record line)

instance : Channel MemoryChannel := ⟨post⟩

end MemoryChannel

/-- A channel that writes every line to one text, each with an end of line. -/
structure LineWriter where
  text : String

namespace LineWriter

def empty : LineWriter := ⟨""⟩

def post (w : LineWriter) (line : String) : Option String × LineWriter :=
  (none, ⟨w.text ++ line ++ "\n"⟩)

instance : Channel LineWriter := ⟨post⟩

end LineWriter

/-- Reads the command in a line. The fields of a command may not repeat; in its payload the last of equal keys counts. -/
def Command.ofLine? (line : String) : Option Command :=
  match Json.read line with
  | .error _ => none
  | .ok v =>
    match Command.decode v with
    | .error _ => none
    | .ok c => some { c with payload := c.payload.canonical }

/-- The commands among the lines of a channel. -/
def MemoryChannel.commands (c : MemoryChannel) : List Command := c.lines.filterMap Command.ofLine?

/-- A channel, the queue of messages, and the number of commands that were taken. -/
structure Transport (γ : Type) where
  channel : γ
  inbound : List Message
  sentCount : Nat

namespace Transport

variable {γ : Type}

def new (channel : γ) : Transport γ := ⟨channel, [], 0⟩

def send [Channel γ] (t : Transport γ) (c : Command) : Except TransportError Unit × Transport γ :=
  match Channel.post t.channel c.line with
  | (some reason, channel) => (.error (.channelClosed reason), { t with channel })
  | (none, channel) => (.ok (), { t with channel, sentCount := t.sentCount + 1 })

/-- Puts a message at the end of the queue. -/
def receive (t : Transport γ) (m : Message) : Transport γ := { t with inbound := t.inbound ++ [m] }

/-- Takes the first message off the queue. -/
def nextInbound (t : Transport γ) : Option Message × Transport γ :=
  match t.inbound with
  | [] => (none, t)
  | m :: rest => (some m, { t with inbound := rest })

def pendingInbound (t : Transport γ) : Nat := t.inbound.length

def clearInbound (t : Transport γ) : Transport γ := { t with inbound := [] }

end Transport

end PanelBridge
