import Mathlib.Data.List.TakeWhile
import PanelBridge.Proofs.TrailingReturns
import PanelBridge.Replay.Transcript

/-!
# Transcripts line by line

A transcript is read one line at a time, and what a line says depends on that line alone. Everything about joined texts
follows from what the reading of a list of lines amounts to:

* **`parseLines_eq_ok_iff`**: the lines that are not skipped hold the steps, in their order.
* **`parseLines_eq_error_iff`**: the number is that of the first line that is neither skipped nor a step.
* **`Text.endedLines`**: the lines as line ends make them, where a carriage return may belong to the end and nothing follows
  the last end. They read like the pieces between the line feeds (`parse_eq`).
* **`transcripts_compose`**: how transcripts are joined, which lines are skipped, and which line is reported.
-/

namespace PanelBridge

namespace Text

/-! ## Line ends -/

/-- The lines that line ends make. A line feed ends a line, a carriage return before it belongs to the end, and no line
follows the last end. -/
def endedLines : List Char → List (List Char)
  | [] => []
  | '\n' :: cs => [] :: endedLines cs
  | '\r' :: '\n' :: cs => [] :: endedLines cs
  | c :: cs =>
    match endedLines cs with
    | [] => [[c]]
    | line :: rest => (c :: line) :: rest

/-- The pieces between line feeds, and the lines they stand for. -/
inductive Bared : (pieces lines : List (List Char)) → Prop
  | done : Bared [[]] []
  | last (line : List Char) : Bared [line] [line]
  | plain (line : List Char) {pieces lines : List (List Char)} (h : Bared pieces lines) :
      Bared (line :: pieces) (line :: lines)
  | returned (line : List Char) {pieces lines : List (List Char)} (h : Bared pieces lines) :
      Bared ((line ++ ['\r']) :: pieces) (line :: lines)

/-- What is held already stands before the first piece. -/
theorem exists_linesAfter (cs : List Char) : ∃ line rest, ∀ acc, linesAfter acc cs = (acc.reverse ++ line) :: rest := by
  induction cs with
  | nil => exact ⟨[], [], fun acc => by rw [linesAfter, List.append_nil]⟩
  | cons c cs ih =>
    by_cases hc : c = '\n'
    · exact ⟨[], lines cs, fun acc => by rw [linesAfter, if_pos hc, List.append_nil, lines]⟩
    · obtain ⟨line, rest, h⟩ := ih
      refine ⟨c :: line, rest, fun acc => ?_⟩
      rw [linesAfter, if_neg hc, h, List.reverse_cons, List.append_assoc, List.singleton_append]

theorem lines_cons {c : Char} (hc : c ≠ '\n') {cs line : List Char} {rest : List (List Char)} (h : lines cs = line :: rest) :
    lines (c :: cs) = (c :: line) :: rest := by
  obtain ⟨first, others, hafter⟩ := exists_linesAfter cs
  have hlines : lines cs = first :: others := hafter []
  obtain ⟨rfl, rfl⟩ := List.cons.inj (hlines.symm.trans h)
  rw [lines, linesAfter, if_neg hc]
  exact hafter [c]

/-- The pieces between line feeds stand for the lines that line ends make. -/
theorem bared_lines (cs : List Char) : Bared (lines cs) (endedLines cs) := by
  fun_induction endedLines cs with
  | case1 => exact .done
  | case2 cs ih => exact .plain [] ih
  | case3 cs ih => exact .returned [] ih
  | case4 c cs hfeed hreturn hnone ih =>
    rw [hnone] at ih
    generalize hpieces : lines cs = pieces at ih
    cases ih with
    | done =>
      rw [lines_cons hfeed hpieces]
      exact .last [c]
  | case5 c cs hfeed hreturn line rest hsome ih =>
    rw [hsome] at ih
    generalize hpieces : lines cs = pieces at ih
    cases ih with
    | last =>
      rw [lines_cons hfeed hpieces]
      exact .last (c :: line)
    | plain _ h =>
      rw [lines_cons hfeed hpieces]
      exact .plain (c :: line) h
    | returned _ h =>
      rw [lines_cons hfeed hpieces]
      exact .returned (c :: line) h

example : endedLines ['a', '\r', '\n', '\r', 'b', '\n', '\n'] = [['a'], ['\r', 'b'], []] := by decide

theorem length_linesAfter (acc cs : List Char) : (linesAfter acc cs).length = cs.count '\n' + 1 := by
  induction cs generalizing acc with
  | nil => rfl
  | cons c cs ih =>
    rw [linesAfter, List.count_cons]
    split
    · next hc => rw [List.length_cons, ih, if_pos (beq_iff_eq.2 hc)]
    · next hc => rw [ih, if_neg (mt beq_iff_eq.1 hc), Nat.add_zero]

theorem length_lines (cs : List Char) : (lines cs).length = cs.count '\n' + 1 := length_linesAfter [] cs

theorem lines_of_not_mem {cs : List Char} (h : '\n' ∉ cs) : lines cs = [cs] := by
  induction cs with
  | nil => rfl
  | cons c cs ih =>
    obtain ⟨hc, hcs⟩ := not_or.1 (mt List.mem_cons.2 h)
    exact lines_cons (Ne.symm hc) (ih hcs)

end Text

namespace Transcript

/-! ## Lines that are skipped -/

/-- A line is skipped when it is blank or when its first characters after blanks are two slashes. -/
theorem isSkipped_iff (line : List Char) :
    isSkipped line = true ↔ (∀ c ∈ line, Text.isBlank c = true) ∨
      ∃ blanks comment, line = blanks ++ '/' :: '/' :: comment ∧ ∀ c ∈ blanks, Text.isBlank c = true := by
  have hslash : Text.isBlank '/' = false := by decide
  simp only [isSkipped, Text.trimStart, Bool.or_eq_true, List.isEmpty_iff, List.dropWhile_eq_nil_iff,
    List.isPrefixOf_iff_prefix]
  refine or_congr Iff.rfl ⟨?_, ?_⟩
  · rintro ⟨comment, h⟩
    refine ⟨line.takeWhile Text.isBlank, comment, ?_, fun c hc => List.mem_takeWhile_imp hc⟩
    calc line = line.takeWhile Text.isBlank ++ line.dropWhile Text.isBlank := List.takeWhile_append_dropWhile.symm
      _ = line.takeWhile Text.isBlank ++ '/' :: '/' :: comment := by rw [← h]; rfl
  · rintro ⟨blanks, comment, rfl, hblanks⟩
    refine ⟨comment, ?_⟩
    rw [List.dropWhile_append_of_pos hblanks, List.dropWhile_cons, hslash]
    rfl

theorem isSkipped_return (line : List Char) : isSkipped (line ++ ['\r']) = isSkipped line := by
  unfold isSkipped Text.trimStart
  rcases Json.dropWhile_return (by decide : Text.isBlank '\r' = true) line with ⟨h, h'⟩ | ⟨c, rest, h, h', -⟩
  · rw [h, h']
  · rw [h, h']
    cases rest with
    | nil => simp [List.isPrefixOf]
    | cons d rest => rfl

theorem stepOf?_eq (line : List Char) : stepOf? line = (Json.readChars line).toOption.bind Step.ofJson? := by
  unfold stepOf?
  cases Json.readChars line <;> rfl

theorem stepOf?_return (line : List Char) : stepOf? (line ++ ['\r']) = stepOf? line := by
  rw [stepOf?_eq, stepOf?_eq, Json.readChars_return]

/-! ## Lists of lines -/

/-- A line is neither skipped nor a step. -/
def IsBad (line : List Char) : Prop := isSkipped line = false ∧ stepOf? line = none

/-- The lines that are not skipped. -/
def heldLines (lines : List (List Char)) : List (List Char) := lines.filter (!isSkipped ·)

section

variable (number : Nat) {line : List Char} (rest : List (List Char))

theorem parseLines_skipped (h : isSkipped line = true) : parseLines number (line :: rest) = parseLines (number + 1) rest := by
  rw [parseLines, if_pos h]

theorem parseLines_bad (h : IsBad line) : parseLines number (line :: rest) = .error number := by
  rw [parseLines, h.1, h.2]
  rfl

theorem parseLines_step (h : isSkipped line = false) {step : Step} (hstep : stepOf? line = some step) {steps : List Step}
    (hrest : parseLines (number + 1) rest = .ok steps) : parseLines number (line :: rest) = .ok (step :: steps) := by
  rw [parseLines, h, hstep, hrest]
  rfl

/-- A line that is not bad leaves the failure of those behind it. -/
theorem parseLines_fails (h : ¬IsBad line) {k : Nat} (hrest : parseLines (number + 1) rest = .error k) :
    parseLines number (line :: rest) = .error k := by
  cases hskipped : isSkipped line with
  | true => exact (parseLines_skipped number rest hskipped).trans hrest
  | false =>
    cases hstep : stepOf? line with
    | none => exact absurd ⟨hskipped, hstep⟩ h
    | some step =>
      rw [parseLines, hskipped, hstep, hrest]
      rfl

end

/-- A line is skipped, bad, or a step. -/
theorem line_cases (line : List Char) :
    isSkipped line = true ∨ IsBad line ∨ isSkipped line = false ∧ ∃ step, stepOf? line = some step := by
  cases hskipped : isSkipped line with
  | true => exact .inl rfl
  | false =>
    cases hstep : stepOf? line with
    | none => exact .inr (.inl ⟨hskipped, hstep⟩)
    | some step => exact .inr (.inr ⟨rfl, step, rfl⟩)

theorem not_isBad_of_step {line : List Char} {step : Step} (h : stepOf? line = some step) : ¬IsBad line := fun hbad =>
  Option.some_ne_none step (h.symm.trans hbad.2)

theorem heldLines_skipped {line : List Char} (h : isSkipped line = true) (rest : List (List Char)) :
    heldLines (line :: rest) = heldLines rest := by
  rw [heldLines, List.filter_cons, h]
  rfl

theorem heldLines_held {line : List Char} (h : isSkipped line = false) (rest : List (List Char)) :
    heldLines (line :: rest) = line :: heldLines rest := by
  rw [heldLines, List.filter_cons, h]
  rfl

theorem heldLines_append (xs ys : List (List Char)) : heldLines (xs ++ ys) = heldLines xs ++ heldLines ys :=
  List.filter_append xs ys

/-- **The lines that are not skipped hold the steps**, one each and in their order. -/
theorem parseLines_eq_ok_iff {number : Nat} {lines : List (List Char)} {steps : List Step} :
    parseLines number lines = .ok steps ↔ (heldLines lines).map stepOf? = steps.map some := by
  induction lines generalizing number steps with
  | nil =>
    refine ⟨?_, fun h => ?_⟩
    · rintro ⟨⟩
      rfl
    · rw [List.map_eq_nil_iff.1 h.symm]
      rfl
  | cons line rest ih =>
    rcases line_cases line with hskipped | hbad | ⟨hheld, step, hstep⟩
    · rw [parseLines_skipped number rest hskipped, heldLines_skipped hskipped]
      exact ih
    · rw [parseLines_bad number rest hbad, heldLines_held hbad.1, List.map_cons, hbad.2]
      cases steps <;> simp
    · rw [heldLines_held hheld, List.map_cons, hstep]
      cases hrest : parseLines (number + 1) rest with
      | ok more =>
        rw [parseLines_step number rest hheld hstep hrest, ih.1 hrest, ← List.map_cons,
          List.map_inj_right fun _ _ => Option.some.inj, Except.ok.injEq]
      | error k =>
        rw [parseLines_fails number rest (not_isBad_of_step hstep) hrest]
        refine ⟨fun h => absurd h (by simp), fun h => ?_⟩
        obtain ⟨first, more, -, -, hmore⟩ := List.map_eq_cons_iff.1 h.symm
        exact absurd (hrest.symm.trans (ih.2 hmore.symm)) (by simp)

/-- **The number is that of the first bad line.** -/
theorem parseLines_eq_error_iff {number k : Nat} {lines : List (List Char)} :
    parseLines number lines = .error k ↔ ∃ before bad after, lines = before ++ bad :: after ∧
      (∀ line ∈ before, ¬IsBad line) ∧ IsBad bad ∧ k = number + before.length := by
  induction lines generalizing number with
  | nil =>
    refine ⟨?_, ?_⟩
    · rintro ⟨⟩
    · rintro ⟨before, bad, after, h, -⟩
      exact absurd h.symm (List.append_ne_nil_of_right_ne_nil before (List.cons_ne_nil bad after))
  | cons line rest ih =>
    by_cases hbad : IsBad line
    · rw [parseLines_bad number rest hbad]
      refine ⟨?_, ?_⟩
      · rintro ⟨⟩
        exact ⟨[], line, rest, rfl, fun _ h => absurd h List.not_mem_nil, hbad, rfl⟩
      · rintro ⟨before, bad, after, h, hgood, -, rfl⟩
        cases before with
        | nil => rfl
        | cons first before =>
          obtain ⟨rfl, -⟩ := List.cons.inj h
          exact absurd hbad (hgood line List.mem_cons_self)
    · -- a good line only moves the number
      have hnext : parseLines number (line :: rest) = .error k ↔ parseLines (number + 1) rest = .error k := by
        cases hrest : parseLines (number + 1) rest with
        | error k => rw [parseLines_fails number rest hbad hrest]
        | ok steps =>
          rcases line_cases line with hskipped | h | ⟨hheld, step, hstep⟩
          · rw [parseLines_skipped number rest hskipped, hrest]
          · exact absurd h hbad
          · rw [parseLines_step number rest hheld hstep hrest]
            exact iff_of_false (by simp) (by simp)
      rw [hnext, ih]
      refine ⟨?_, ?_⟩
      · rintro ⟨before, bad, after, rfl, hgood, h, rfl⟩
        refine ⟨line :: before, bad, after, rfl, List.forall_mem_cons.2 ⟨hbad, hgood⟩, h, ?_⟩
        rw [List.length_cons]
        omega
      · rintro ⟨before, bad, after, h, hgood, h', rfl⟩
        cases before with
        | nil =>
          obtain ⟨rfl, -⟩ := List.cons.inj h
          exact absurd h' hbad
        | cons first before =>
          obtain ⟨rfl, rfl⟩ := List.cons.inj h
          refine ⟨before, bad, after, rfl, (List.forall_mem_cons.1 hgood).2, h', ?_⟩
          rw [List.length_cons]
          omega

/-- Lines that are read hold no bad one. -/
theorem not_isBad_of_parseLines {number : Nat} {lines : List (List Char)} {steps : List Step}
    (h : parseLines number lines = .ok steps) : ∀ line ∈ lines, ¬IsBad line := by
  intro line hmem hbad
  have hheld : line ∈ heldLines lines := List.mem_filter.2 ⟨hmem, by rw [hbad.1]; rfl⟩
  have hstep : stepOf? line ∈ steps.map some := parseLines_eq_ok_iff.1 h ▸ List.mem_map_of_mem hheld
  obtain ⟨step, -, hstep⟩ := List.mem_map.1 hstep
  exact not_isBad_of_step hstep.symm hbad

/-- Skipped lines change no step. -/
theorem toOption_parseLines {m n : Nat} {xs ys : List (List Char)} (h : heldLines xs = heldLines ys) :
    (parseLines m xs).toOption = (parseLines n ys).toOption := by
  have hiff (steps : List Step) : parseLines m xs = .ok steps ↔ parseLines n ys = .ok steps := by
    rw [parseLines_eq_ok_iff, parseLines_eq_ok_iff, h]
  cases hxs : parseLines m xs with
  | ok steps => rw [(hiff steps).1 hxs]
  | error k =>
    cases hys : parseLines n ys with
    | ok steps => exact absurd (hxs.symm.trans ((hiff steps).2 hys)) (by simp)
    | error k => rfl

/-! ## Texts -/

theorem parseLines_bared {pieces lines : List (List Char)} (h : Text.Bared pieces lines) (number : Nat) :
    parseLines number pieces = parseLines number lines := by
  induction h generalizing number with
  | done => rfl
  | last line => rfl
  | plain line h ih => rw [parseLines, parseLines, ih]
  | returned line h ih => rw [parseLines, parseLines, isSkipped_return, stepOf?_return, ih]

/-- A transcript is read by the lines that its line ends make. -/
theorem parse_eq (text : String) : parse text = parseLines 1 (Text.endedLines text.toList) :=
  parseLines_bared (Text.bared_lines text.toList) 1

theorem lines_join (a b : String) : Text.lines (a ++ "\n" ++ b).toList = Text.lines a.toList ++ Text.lines b.toList := by
  rw [← Text.lines_append, String.toList_append, String.toList_append, List.append_assoc]
  rfl

end Transcript

open Transcript

/-- **Transcripts compose line by line.** Two transcripts that a line feed joins read as the steps of one and then those of
the other. If the first fails, the joined text fails on the same line. If only the second fails, its line moves by the lines
of the first. A blank line or a comment changes no step wherever it stands, and neither does any number of them. A text is
read when each of its lines is skipped or a step, and otherwise the line that is reported is the first that is neither. -/
theorem transcripts_compose :
    (∀ (a b : String) (xs ys : List Step), parse a = .ok xs → parse b = .ok ys →
      parse (a ++ "\n" ++ b) = .ok (xs ++ ys)) ∧
    (∀ (a b : String) (k : Nat), parse a = .error k → parse (a ++ "\n" ++ b) = .error k) ∧
    (∀ (a b : String) (xs : List Step) (k : Nat), parse a = .ok xs → parse b = .error k →
      parse (a ++ "\n" ++ b) = .error (k + 1 + a.toList.count '\n')) ∧
    (∀ a line b : String, '\n' ∉ line.toList → isSkipped line.toList = true →
      (parse (a ++ "\n" ++ line ++ "\n" ++ b)).toOption = (parse (a ++ "\n" ++ b)).toOption ∧
      (parse (line ++ "\n" ++ b)).toOption = (parse b).toOption ∧
      (parse (a ++ "\n" ++ line)).toOption = (parse a).toOption) ∧
    (∀ text text' : String,
      heldLines (Text.endedLines text.toList) = heldLines (Text.endedLines text'.toList) →
      (parse text).toOption = (parse text').toOption) ∧
    (∀ line : List Char, isSkipped line = true ↔ (∀ c ∈ line, Text.isBlank c = true) ∨
      ∃ blanks comment, line = blanks ++ '/' :: '/' :: comment ∧ ∀ c ∈ blanks, Text.isBlank c = true) ∧
    (∀ (text : String) (steps : List Step), parse text = .ok steps ↔
      (heldLines (Text.endedLines text.toList)).map stepOf? = steps.map some) ∧
    (∀ (text : String) (k : Nat), parse text = .error k ↔
      ∃ before bad after, Text.endedLines text.toList = before ++ bad :: after ∧ (∀ line ∈ before, ¬IsBad line) ∧
        IsBad bad ∧ k = before.length + 1) := by
  refine ⟨?_, ?_, ?_, ?_, ?_, isSkipped_iff, ?_, ?_⟩
  · intro a b xs ys ha hb
    rw [parse, parseLines_eq_ok_iff] at ha hb ⊢
    rw [lines_join, heldLines_append, List.map_append, List.map_append, ha, hb]
  · intro a b k ha
    obtain ⟨before, bad, after, hlines, hgood, hbad, hk⟩ := parseLines_eq_error_iff.1 ha
    refine parseLines_eq_error_iff.2 ⟨before, bad, after ++ Text.lines b.toList, ?_, hgood, hbad, hk⟩
    rw [lines_join, hlines, List.append_assoc, List.cons_append]
  · intro a b xs k ha hb
    obtain ⟨before, bad, after, hlines, hgood, hbad, hk⟩ := parseLines_eq_error_iff.1 hb
    refine parseLines_eq_error_iff.2 ⟨Text.lines a.toList ++ before, bad, after, ?_, ?_, hbad, ?_⟩
    · rw [lines_join, hlines, List.append_assoc]
    · exact List.forall_mem_append.2 ⟨not_isBad_of_parseLines ha, hgood⟩
    · rw [List.length_append, Text.length_lines, hk]
      omega
  · intro a line b hfeed hskipped
    have hline : heldLines (Text.lines line.toList) = [] := by
      rw [Text.lines_of_not_mem hfeed, heldLines_skipped hskipped]
      rfl
    refine ⟨toOption_parseLines ?_, toOption_parseLines ?_, toOption_parseLines ?_⟩
    · rw [lines_join, lines_join, lines_join, heldLines_append, heldLines_append, heldLines_append, hline, List.append_nil]
    · rw [lines_join, heldLines_append, hline, List.nil_append]
    · rw [lines_join, heldLines_append, hline, List.append_nil]
  · intro text text' h
    rw [parse_eq, parse_eq]
    exact toOption_parseLines h
  · intro text steps
    rw [parse_eq]
    exact parseLines_eq_ok_iff
  · intro text k
    rw [parse_eq, parseLines_eq_error_iff]
    simp only [Nat.add_comm 1]

end PanelBridge
