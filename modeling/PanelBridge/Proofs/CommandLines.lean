import PanelBridge.Channel
import PanelBridge.Run.Correlation

/-!
# What the line of a command shows

A command is written as one line of JSON. Two things can be told from the line alone: its kind, because that is the first
field (`CommandKind.opens_line`), and the run that it calls off, because ids are written without escapes
(`Command.cancelRun_line_injective`).
-/

namespace PanelBridge

/-! ## Kinds of lines -/

namespace CommandKind

/-- How the line of a command begins: with the field that names its kind. -/
def opening (kind : CommandKind) : List Char := "\x7b\"kind\":\"".toList ++ kind.name.toList ++ ['"']

/-- Whether a line begins like one of the kind. -/
def opens (kind : CommandKind) (line : String) : Bool := kind.opening.isPrefixOf line.toList

theorem eq_of_opening_isPrefix {kind other : CommandKind} (h : kind.opening <+: other.opening) : kind = other := by
  revert h
  cases kind <;> cases other <;> decide

/-- **The kind of a command can be told from its line.** -/
theorem opens_line (kind : CommandKind) (c : Command) : kind.opens c.line = (c.kind == kind) := by
  obtain ⟨rest, hline⟩ : ∃ rest, c.line.toList = c.kind.opening ++ rest := by
    refine ⟨Json.memberChars ([Schema.whenSome "correlationId" .str c.correlationId,
      Schema.whenTrue (!c.payload.isNull) "payload" c.payload].filterMap id), ?_⟩
    rw [Command.line, Json.render, String.toList_ofList]
    show '\x7b' :: (Json.stringChars "kind" ++ ':' :: (Json.stringChars c.kind.name ++ _)) = _
    cases c.kind <;> rfl
  rw [opens, hline, Bool.eq_iff_iff, List.isPrefixOf_iff_prefix, beq_iff_eq]
  constructor
  · intro h
    -- of two beginnings of one line, one begins the other
    rcases List.prefix_or_prefix_of_prefix h (List.prefix_append c.kind.opening rest) with h | h
    · exact (eq_of_opening_isPrefix h).symm
    · exact eq_of_opening_isPrefix h
  · rintro rfl
    exact List.prefix_append ..

theorem filter_lines (kind : CommandKind) (commands : List Command) :
    (commands.map Command.line).filter kind.opens = (commands.filter (·.kind == kind)).map Command.line := by
  induction commands with
  | nil => rfl
  | cons c rest ih =>
    rw [List.map_cons, List.filter_cons, List.filter_cons, opens_line, ih]
    split <;> rfl

end CommandKind

/-! ## Ids in lines -/

theorem Json.escapeChar_of_plain {c : Char} (hquote : c ≠ '"') (hslash : c ≠ '\\') (hcontrol : ¬c.toNat < 0x20) :
    escapeChar c = [c] := by
  rw [escapeChar, if_neg hquote, if_neg hslash, if_neg hcontrol]

theorem Json.stringChars_of_plain {s : String} (h : ∀ c ∈ s.toList, escapeChar c = [c]) :
    stringChars s = '"' :: (s.toList ++ ['"']) := by
  have hflat : s.toList.flatMap escapeChar = s.toList := by
    generalize s.toList = cs at h
    induction cs with
    | nil => rfl
    | cons c rest ih =>
      obtain ⟨hc, hrest⟩ := List.forall_mem_cons.1 h
      rw [List.flatMap_cons, hc, ih hrest]
      rfl
  rw [stringChars, hflat]

namespace CorrelationId

theorem text_toList (id : CorrelationId) : id.text.toList = letters ++ Nat.toDigits 10 id.number := by
  rw [text, String.toList_append, String.toList_ofList, Nat.toString_eq_ofList_toDigits, String.toList_ofList]

/-- Letters and digits are written as they are. -/
theorem text_plain (id : CorrelationId) : ∀ c ∈ id.text.toList, Json.escapeChar c = [c] := by
  intro c hc
  rw [text_toList] at hc
  rcases List.mem_append.1 hc with hletter | hc
  · simp only [letters, List.mem_cons, List.not_mem_nil, or_false] at hletter
    rcases hletter with rfl | rfl | rfl | rfl | rfl <;> rfl
  · have hdigit : c.isDigit = true := Nat.isDigit_of_mem_toDigits (by decide) (by decide) hc
    have hrange : 48 ≤ c.toNat ∧ c.toNat ≤ 57 := by simpa [Char.isDigit, UInt32.le_iff_toNat_le] using hdigit
    refine Json.escapeChar_of_plain ?_ ?_ (by omega)
    · rintro rfl
      exact absurd hrange (by decide)
    · rintro rfl
      exact absurd hrange (by decide)

theorem text_injective {id other : CorrelationId} (h : id.text = other.text) : id = other := by
  have hdigits := congrArg String.toList h
  rw [text_toList, text_toList] at hdigits
  have hnumber := congrArg (Nat.ofDigitChars 10 · 0) (List.append_cancel_left hdigits)
  simp only [Nat.ofDigitChars_ten_toDigits] at hnumber
  cases id
  cases other
  simpa using hnumber

end CorrelationId

/-- The line that calls a run off names that run only. -/
theorem Command.cancelRun_line_injective {id other : CorrelationId}
    (h : (Command.cancelRun id.text).line = (Command.cancelRun other.text).line) : id = other := by
  have hline (text : String) : (Command.cancelRun text).line.toList =
      "\x7b\"kind\":\"cancel-run\",\"correlationId\":".toList ++ (Json.stringChars text ++ ['\x7d']) := by
    rw [Command.line, Json.render, String.toList_ofList]
    show '\x7b' :: (Json.stringChars "kind" ++ ':' :: (Json.stringChars "cancel-run" ++ ',' ::
      (Json.stringChars "correlationId" ++ ':' :: (Json.stringChars text ++ ['\x7d'])))) = _
    rfl
  have hchars := congrArg String.toList h
  rw [hline, hline] at hchars
  have hstring := List.append_cancel_right (List.append_cancel_left hchars)
  rw [Json.stringChars_of_plain id.text_plain, Json.stringChars_of_plain other.text_plain] at hstring
  have htext := List.append_cancel_right (List.cons.inj hstring).2
  exact CorrelationId.text_injective (String.toList_inj.1 htext)

end PanelBridge
