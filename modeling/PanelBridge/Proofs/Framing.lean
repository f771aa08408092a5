import PanelBridge.Channel
import PanelBridge.Proofs.NormalForms
import PanelBridge.Proofs.ReadBack
import PanelBridge.Text.Lines

/-!
# Commands as lines of text

Commands are sent one line each. Nothing is lost on the way:

* **`Json.newline_not_mem_chars`**: the text of a value has no line feed, because strings escape it.
* **`Command.ofLine?_line`**, **`Command.envelope_ofLine?_line`**: a command is read again from its line, and the same line is
  an envelope with the name of the kind and without a sequence number.
* **`Transport.sendAll_lineWriter`**, **`Transport.sendAll_accepting`**: what a run of sends leaves in either channel.
* **`sent_lines_read_back`**: the lines of the text that was written are the commands that were sent.
-/

namespace PanelBridge

/-! ## No line feed inside a line -/

namespace Json

theorem newline_not_mem_escapeChar (c : Char) : '\n' ∉ escapeChar c := by
  have hhex : ∀ n < 16, '\n' ≠ hexDigit n := by decide
  unfold escapeChar
  split
  · decide
  · split
    · decide
    · split
      · rename_i hcontrol
        have hhigh := hhex (c.toNat / 16) (by omega)
        have hlow := hhex (c.toNat % 16) (by omega)
        repeat' split
        all_goals simp [hhigh, hlow]
      · rename_i hcontrol
        intro hmem
        rw [← List.mem_singleton.1 hmem] at hcontrol
        exact hcontrol (by decide)

theorem newline_not_mem_stringChars (s : String) : '\n' ∉ stringChars s := by
  simp [stringChars, newline_not_mem_escapeChar]

theorem newline_not_mem_natChars (n : Nat) : '\n' ∉ Decimal.natChars n := by
  intro hmem
  have hdigit : '\n'.isDigit = true := Nat.isDigit_of_mem_toDigits (by decide) (by decide) hmem
  exact absurd hdigit (by decide)

theorem newline_not_mem_intChars (n : Int) : '\n' ∉ Decimal.intChars n := by
  cases n with
  | ofNat n => exact newline_not_mem_natChars n
  | negSucc n => simp [Decimal.intChars, newline_not_mem_natChars]

theorem newline_not_mem_itemChars {items : List Json} (h : ∀ v ∈ items, '\n' ∉ chars v) : '\n' ∉ itemChars items := by
  induction items with
  | nil => simp [itemChars]
  | cons v rest ih =>
    obtain ⟨hv, hrest⟩ := List.forall_mem_cons.1 h
    simp [itemChars, hv, ih hrest]

theorem newline_not_mem_memberChars {members : List (String × Json)} (h : ∀ m ∈ members, '\n' ∉ chars m.2) :
    '\n' ∉ memberChars members := by
  induction members with
  | nil => simp [memberChars]
  | cons m rest ih =>
    obtain ⟨hm, hrest⟩ := List.forall_mem_cons.1 h
    simp [memberChars, newline_not_mem_stringChars, hm, ih hrest]

/-- **The text of a value is one line.** -/
theorem newline_not_mem_chars {v : Json} (h : v.Whole) : '\n' ∉ chars v := by
  induction v using Json.induction with
  | null => simp [chars]
  | bool b => cases b <;> simp [chars]
  | num n =>
    cases n with
    | int n => exact newline_not_mem_intChars n
    | float => exact h.elim
  | str s => exact newline_not_mem_stringChars s
  | arr items ih =>
    have hitems : ∀ v ∈ items, '\n' ∉ chars v := fun v hv => ih v hv (wholeItems_iff.1 h v hv)
    cases items with
    | nil => simp [chars]
    | cons v rest =>
      obtain ⟨hv, hrest⟩ := List.forall_mem_cons.1 hitems
      simp [chars, hv, newline_not_mem_itemChars hrest]
  | obj members ih =>
    have hmembers : ∀ m ∈ members, '\n' ∉ chars m.2 := fun m hm => ih m hm (wholeMembers_iff.1 h m hm)
    cases members with
    | nil => simp [chars]
    | cons m rest =>
      obtain ⟨hm, hrest⟩ := List.forall_mem_cons.1 hmembers
      simp [chars, newline_not_mem_stringChars, hm, newline_not_mem_memberChars hrest]

end Json

/-! ## Bytes of a text -/

namespace Text

/-- The bytes of a text in UTF-8. -/
def bytes (s : String) : List UInt8 := s.toByteArray.data.toList

theorem bytes_append (s t : String) : bytes (s ++ t) = bytes s ++ bytes t := by
  rw [bytes, String.toByteArray_append, ByteArray.toList_data_append]
  rfl

theorem bytes_eq (s : String) : bytes s = s.toList.flatMap String.utf8EncodeChar := by
  rw [bytes, ← String.utf8Encode_toList, List.utf8Encode]
  simp

theorem eq_newline_of_ofNat {n : Nat} (hn : n < 256) (h : 10 = UInt8.ofNat n) : n = 10 := by
  have hnat : 10 = (UInt8.ofNat n).toNat := congrArg UInt8.toNat h
  rw [UInt8.toNat_ofNat', Nat.mod_eq_of_lt hn] at hnat
  exact hnat.symm

theorem newline_not_mem_high (ns : List Nat) (h : ∀ n ∈ ns, 128 ≤ n ∧ n < 256) : 10 ∉ ns.map UInt8.ofNat := by
  intro hmem
  obtain ⟨n, hn, heq⟩ := List.mem_map.1 hmem
  have hrange := h n hn
  have := eq_newline_of_ofNat hrange.2 heq.symm
  omega

/-- Only a line feed has the byte of a line feed: the bytes of a longer sequence are all 128 or more. -/
theorem newline_mem_utf8EncodeChar {c : Char} (h : 10 ∈ String.utf8EncodeChar c) : c = '\n' := by
  unfold String.utf8EncodeChar at h
  generalize hv : c.val.toNat = v at h
  simp only at h
  split at h
  · have hval : v = 10 := eq_newline_of_ofNat (by omega) (List.mem_singleton.1 h)
    exact Char.ext (UInt32.toNat_inj.1 (hv.trans hval))
  · exfalso
    split at h
    · refine newline_not_mem_high [v / 64 % 32 + 192, v % 64 + 128] ?_ h
      simp only [List.forall_mem_cons, List.not_mem_nil, false_implies, implies_true, and_true]
      omega
    · split at h
      · refine newline_not_mem_high [v / 4096 % 16 + 224, v / 64 % 64 + 128, v % 64 + 128] ?_ h
        simp only [List.forall_mem_cons, List.not_mem_nil, false_implies, implies_true, and_true]
        omega
      · refine newline_not_mem_high [v / 262144 % 8 + 240, v / 4096 % 64 + 128, v / 64 % 64 + 128, v % 64 + 128] ?_ h
        simp only [List.forall_mem_cons, List.not_mem_nil, false_implies, implies_true, and_true]
        omega

theorem newline_not_mem_bytes {s : String} (h : '\n' ∉ s.toList) : 10 ∉ bytes s := by
  rw [bytes_eq]
  intro hmem
  obtain ⟨c, hc, hbyte⟩ := List.mem_flatMap.1 hmem
  rw [newline_mem_utf8EncodeChar hbyte] at hc
  exact h hc

/-! Lines that have no line feed are the lines of the text that they are written to. -/

theorem linesAfter_of_not_mem {line : List Char} (h : '\n' ∉ line) (acc : List Char) :
    linesAfter acc line = [acc.reverse ++ line] := by
  induction line generalizing acc with
  | nil => simp [linesAfter]
  | cons c rest ih =>
    obtain ⟨hc, hrest⟩ := not_or.1 (mt List.mem_cons.2 h)
    rw [linesAfter, if_neg (Ne.symm hc), ih hrest]
    simp

theorem lines_ended {ls : List (List Char)} (h : ∀ line ∈ ls, '\n' ∉ line) :
    lines (ls.flatMap (· ++ ['\n'])) = ls ++ [[]] := by
  induction ls with
  | nil => rfl
  | cons line rest ih =>
    obtain ⟨hline, hrest⟩ := List.forall_mem_cons.1 h
    rw [List.flatMap_cons, List.append_assoc, List.singleton_append, lines_append, ih hrest, lines,
      linesAfter_of_not_mem hline]
    rfl

end Text

/-! ## A command and its line -/

/-- A command that can be written: its payload has sorted keys and whole numbers, and it is not too deep. -/
structure Command.Writable (c : Command) : Prop where
  canonical : c.payload.Canonical
  whole : c.payload.Whole
  depth : c.encode.depth ≤ Json.maxDepth

/-- The envelope of a command: the name of its kind and no sequence number. -/
def Command.envelope (c : Command) : Envelope := ⟨c.kind.name, none, c.correlationId, c.payload⟩

/-- Reads the envelope in a line, as in a message from the host. -/
def Envelope.ofLine? (line : String) : Option Envelope :=
  match (Message.text line).value with
  | .error _ => none
  | .ok v => (Envelope.ofJson v).toOption

namespace Command

open Arrangement

variable {c : Command}

/-! Every command and every envelope of one is read off a list of its fields, so that both are kept. -/

theorem decode_encode (c : Command) : Command.decode c.encode = .ok c := by
  have hlisted : Command.decode (.arr [c.kind.encode, .ofOption .str c.correlationId, c.payload]) = .ok c := by
    obtain ⟨kind, id, payload⟩ := c
    cases kind <;> cases id <;> rfl
  exact (Command.keeps asWritten).again _ c trivial hlisted

theorem envelope_decode_canonical (h : c.payload.Canonical) : Envelope.decode c.encode.canonical = .ok c.envelope := by
  have hlisted : Envelope.decode (.arr [.str c.kind.name, .null, .ofOption .str c.correlationId, c.payload])
      = .ok c.envelope := by
    obtain ⟨kind, id, payload⟩ := c
    cases id <;> rfl
  have hsettled : sorted.Settled (.arr [.str c.kind.name, .null, .ofOption .str c.correlationId, c.payload]) := by
    refine ⟨trivial, trivial, ?_, h, trivial⟩
    cases c.correlationId <;> trivial
  -- without a sequence number an envelope is written as the command is
  have hencode : c.envelope.encode = c.encode := rfl
  rw [← hencode]
  exact (Envelope.keeps sorted).again _ c.envelope hsettled hlisted

theorem encode_whole (h : c.payload.Whole) : c.encode.Whole := by
  refine Json.wholeMembers_iff.2 fun m hm => ?_
  obtain ⟨slot, hslot, hsome⟩ := List.mem_filterMap.1 hm
  simp only [List.mem_cons, List.not_mem_nil, or_false] at hslot
  rcases hslot with rfl | rfl | rfl
  · cases hsome
    trivial
  · cases hid : c.correlationId with
    | none =>
      rw [hid] at hsome
      cases hsome
    | some id =>
      rw [hid] at hsome
      cases hsome
      trivial
  · rw [whenTrue_eq] at hsome
    obtain ⟨v, hv, rfl⟩ := Option.map_eq_some_iff.1 hsome
    split at hv
    · cases hv
      exact h
    · cases hv

theorem read_line (h : c.Writable) : Json.read c.line = .ok c.encode := Json.read_render (encode_whole h.whole) h.depth

/-- **A command is read again from its line.** -/
theorem ofLine?_line (h : c.Writable) : Command.ofLine? c.line = some c := by
  simp only [ofLine?, read_line h, decode_encode, Json.canonical_eq_self h.canonical]

/-- **The line of a command is an envelope.** -/
theorem envelope_ofLine?_line (h : c.Writable) : Envelope.ofLine? c.line = some c.envelope := by
  have hvalue : (Message.text c.line).value = .ok c.encode.canonical := by
    rw [Message.value, Json.parse, read_line h]
    rfl
  simp only [Envelope.ofLine?, hvalue, Envelope.ofJson, envelope_decode_canonical h.canonical]
  rfl

/-- What is read line by line, for any reader of lines. -/
theorem map_lines {β : Type} {read : String → Option β} {f : Command → β} {cs : List Command}
    (h : ∀ c ∈ cs, read c.line = some (f c)) :
    (cs.map line).map read = cs.map (some <| f ·) ∧ (cs.map line).filterMap read = cs.map f := by
  induction cs with
  | nil => exact ⟨rfl, rfl⟩
  | cons c rest ih =>
    obtain ⟨hc, hrest⟩ := List.forall_mem_cons.1 h
    obtain ⟨hmap, hfilter⟩ := ih hrest
    rw [List.map_cons, List.map_cons, List.filterMap_cons, hc, hmap, hfilter]
    exact ⟨rfl, rfl⟩

theorem newline_not_mem_line (h : c.Writable) : '\n' ∉ c.line.toList := by
  rw [line, Json.render, String.toList_ofList]
  exact Json.newline_not_mem_chars (encode_whole h.whole)

/-! The commands about functions and runs can be written whatever their texts are. -/

theorem runTest_writable (id function testCase : String) : (runTest id function testCase).Writable where
  canonical := ⟨List.pairwise_pair.2 (show compare "function" "testCase" = .lt by decide), trivial, trivial, trivial⟩
  whole := ⟨trivial, trivial, trivial⟩
  depth := Nat.le_of_ble_eq_true rfl

theorem cancelRun_writable (id : String) : (cancelRun id).Writable where
  canonical := trivial
  whole := trivial
  depth := Nat.le_of_ble_eq_true rfl

theorem selectFunction_writable (function : String) : (selectFunction function).Writable where
  canonical := ⟨List.pairwise_singleton .., trivial, trivial⟩
  whole := ⟨trivial, trivial⟩
  depth := Nat.le_of_ble_eq_true rfl

theorem reload_writable : reload.Writable where
  canonical := trivial
  whole := trivial
  depth := by decide

end Command

/-! ## Runs of sends -/

namespace Transport

/-- Sends commands one after another, whatever the answers are. -/
def sendAll {γ : Type} [Channel γ] (t : Transport γ) : List Command → List (Except TransportError Unit) × Transport γ
  | [] => ([], t)
  | c :: rest =>
    let (answer, t) := t.send c
    let (answers, t) := t.sendAll rest
    (answer :: answers, t)

theorem sendAll_cons {γ : Type} [Channel γ] (t : Transport γ) (c : Command) (rest : List Command) :
    t.sendAll (c :: rest) = ((t.send c).1 :: ((t.send c).2.sendAll rest).1, ((t.send c).2.sendAll rest).2) := rfl

/-- A writer takes every line and writes it behind what it has. -/
theorem sendAll_lineWriter (t : Transport LineWriter) (cs : List Command) :
    t.sendAll cs = (cs.map fun _ => .ok (),
      ⟨⟨t.channel.text ++ String.join ((cs.map Command.line).map (· ++ "\n"))⟩, t.inbound, t.sentCount + cs.length⟩) := by
  induction cs generalizing t with
  | nil =>
    show ([], t) = ([], Transport.mk ⟨t.channel.text ++ ""⟩ t.inbound t.sentCount)
    rw [String.append_empty]
  | cons c rest ih =>
    have hsend : t.send c = (.ok (), ⟨⟨t.channel.text ++ c.line ++ "\n"⟩, t.inbound, t.sentCount + 1⟩) := rfl
    rw [sendAll_cons, ih, hsend, List.map_cons, List.map_cons, List.map_cons, String.join_cons, List.length_cons]
    simp only [String.append_assoc, Nat.add_assoc, Nat.add_comm 1]

/-- A channel that refuses nothing keeps every line behind those that it has. -/
theorem sendAll_accepting {t : Transport MemoryChannel} (h : ∀ attempts line, t.channel.refusal attempts line = none)
    (cs : List Command) : (t.sendAll cs).1 = cs.map (fun _ => .ok ())
      ∧ (t.sendAll cs).2.channel.lines = t.channel.lines ++ cs.map Command.line := by
  induction cs generalizing t with
  | nil => exact ⟨rfl, (List.append_nil _).symm⟩
  | cons c rest ih =>
    have hpost : Channel.post t.channel c.line
        = (none, ⟨t.channel.refusal, t.channel.attempts ++ [c.line], t.channel.lines ++ [c.line]⟩) := by
      show t.channel.post c.line = _
      simp only [MemoryChannel.post, h, MemoryChannel.record]
    have hsend : t.send c = (.ok (), ⟨⟨t.channel.refusal, t.channel.attempts ++ [c.line], t.channel.lines ++ [c.line]⟩,
        t.inbound, t.sentCount + 1⟩) := by
      simp only [send, hpost]
    obtain ⟨hanswers, hlines⟩ := ih (t := (t.send c).2) (by rw [hsend]; exact h)
    rw [sendAll_cons, hanswers, hlines, hsend]
    exact ⟨rfl, List.append_assoc ..⟩

end Transport

/-- The lines that a writer has ended. -/
def LineWriter.lines (w : LineWriter) : List String := (Text.lines w.text.toList).dropLast.map String.ofList

theorem LineWriter.lines_joined {ls : List String} (h : ∀ line ∈ ls, '\n' ∉ line.toList) :
    LineWriter.lines ⟨String.join (ls.map (· ++ "\n"))⟩ = ls := by
  have htext : (String.join (ls.map (· ++ "\n"))).toList = (ls.map String.toList).flatMap (· ++ ['\n']) := by
    rw [String.toList_join, List.flatMap_map, List.flatMap_map]
    simp only [String.toList_append]
    rfl
  have hlines : Text.lines (String.join (ls.map (· ++ "\n"))).toList = ls.map String.toList ++ [[]] := by
    rw [htext]
    refine Text.lines_ended fun line hline => ?_
    obtain ⟨s, hs, rfl⟩ := List.mem_map.1 hline
    exact h s hs
  rw [LineWriter.lines, hlines, List.dropLast_concat, List.map_map]
  simp [Function.comp_def]

theorem Text.bytes_joined (ls : List String) :
    Text.bytes (String.join (ls.map (· ++ "\n"))) = ls.flatMap fun line => Text.bytes line ++ [10] := by
  induction ls with
  | nil => rfl
  | cons line rest ih =>
    rw [List.map_cons, String.join_cons, Text.bytes_append, Text.bytes_append, ih, List.flatMap_cons]
    rfl

/-- **Commands that are sent as lines are not lost or changed.** A writer ends each line with a line feed, the only one in
it, and the lines read as the commands that were sent, in their order. Each is also the envelope of its command. A channel
that keeps the lines reads the same commands from them. -/
theorem sent_lines_read_back (cs : List Command) (h : ∀ c ∈ cs, c.Writable) :
    let written := (Transport.new LineWriter.empty).sendAll cs
    let kept := (Transport.new MemoryChannel.accepting).sendAll cs
    (written.1 = cs.map (fun _ => .ok ()) ∧ written.2.sentCount = cs.length)
      ∧ (Text.bytes written.2.channel.text = cs.flatMap (fun c => Text.bytes c.line ++ [10])
        ∧ ∀ c ∈ cs, 10 ∉ Text.bytes c.line)
      ∧ written.2.channel.lines = cs.map Command.line
      ∧ written.2.channel.lines.map Command.ofLine? = cs.map some
      ∧ written.2.channel.lines.map Envelope.ofLine? = cs.map (some ·.envelope)
      ∧ kept.1 = cs.map (fun _ => .ok ()) ∧ kept.2.channel.commands = cs := by
  intro written kept
  have hwritten : written = (cs.map fun _ => .ok (),
      ⟨⟨String.join ((cs.map Command.line).map (· ++ "\n"))⟩, [], cs.length⟩) := by
    have hsent := Transport.sendAll_lineWriter (.new .empty) cs
    have hempty : (Transport.new LineWriter.empty).channel.text = "" := rfl
    have hnone : (Transport.new LineWriter.empty).sentCount + cs.length = cs.length := Nat.zero_add _
    rw [hempty, String.empty_append, hnone] at hsent
    exact hsent
  obtain ⟨hanswers, hkept⟩ := Transport.sendAll_accepting (t := .new .accepting) (fun _ _ => rfl) cs
  obtain ⟨hread, hfiltered⟩ := Command.map_lines (f := id) fun c hc => Command.ofLine?_line (h c hc)
  obtain ⟨henvelopes, -⟩ := Command.map_lines fun c hc => Command.envelope_ofLine?_line (h c hc)
  have hlines : written.2.channel.lines = cs.map Command.line := by
    rw [hwritten]
    refine LineWriter.lines_joined fun line hline => ?_
    obtain ⟨c, hc, rfl⟩ := List.mem_map.1 hline
    exact Command.newline_not_mem_line (h c hc)
  refine ⟨?_, ⟨?_, fun c hc => ?_⟩, hlines, ?_, ?_, hanswers, ?_⟩
  · rw [hwritten]
    exact ⟨rfl, rfl⟩
  · rw [hwritten, Text.bytes_joined, List.flatMap_map]
  · exact Text.newline_not_mem_bytes (Command.newline_not_mem_line (h c hc))
  · rw [hlines]
    exact hread
  · rw [hlines]
    exact henvelopes
  · rw [MemoryChannel.commands, hkept]
    show (cs.map Command.line).filterMap Command.ofLine? = cs
    rw [hfiltered, List.map_id]

/-- Commands with line feeds, quotes and controls in their texts, and one with numbers at both ends of their range. -/
def crookedCommands : List Command :=
  [.runTest "corr-1" "a\nb" "\"\u0001\\", .cancelRun "\n", .selectFunction "é\r\n", .reload,
    .requestSettings (some [("\n", .null), ("depth", .arr [.int (-9223372036854775808), .nat 18446744073709551615])])]

theorem crookedCommands_read_back :
    (∀ c ∈ crookedCommands, c.Writable)
      ∧ ((Transport.new LineWriter.empty).sendAll crookedCommands).2.channel.lines.map Command.ofLine?
        = crookedCommands.map some
      ∧ ((Transport.new MemoryChannel.accepting).sendAll crookedCommands).2.channel.commands = crookedCommands := by
  have h : ∀ c ∈ crookedCommands, c.Writable := by
    simp only [crookedCommands, List.forall_mem_cons, List.not_mem_nil, false_implies, implies_true, and_true]
    refine ⟨Command.runTest_writable .., Command.cancelRun_writable .., Command.selectFunction_writable ..,
      Command.reload_writable, ?_, ?_, by decide⟩
    · simp only [Command.requestSettings, Json.Canonical, Json.CanonicalMembers, Json.CanonicalItems, Json.int, Json.nat,
        Ascending]
      decide
    · simp only [Command.requestSettings, Json.Whole, Json.WholeMembers, Json.WholeItems, Json.int, Json.nat,
        Number.IsWord]
      decide
  obtain ⟨-, -, -, hread, -, -, hkept⟩ := sent_lines_read_back crookedCommands h
  exact ⟨h, hread, hkept⟩

end PanelBridge
