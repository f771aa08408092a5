import PanelBridge.Text.Blank
import PanelBridge.Text.Lowercase

/-!
# The lower case of a part of a text

Lower-casing goes character by character, except that a capital sigma is written differently at the end of a word. So a
part of a text need not have the same lower case alone as in the text: what stands around it may decide whether a sigma
ends a word. This module says when that happens.

* **`lowerWithin`**: the lower case of characters that stand between others. It is compatible with `++` (`lowerWithin_append`).
* **`AtOpenEnd`**, **`Ragged`**: a capital sigma with nothing but case-ignorable characters between it and an end of the text,
  such that what comes beyond that end decides.
* **`lower_infix_of_not_ragged`**, **`exists_missed_of_ragged`**: the lower case of a text occurs in the lower case of every text
  that the text occurs in, exactly if it is not ragged.
-/

namespace PanelBridge.Text

/-! ## Occurrences -/

theorem occursIn_iff {part cs : List Char} : occursIn part cs = true ↔ part <:+: cs := by
  induction cs with
  | nil => rw [occursIn, List.isEmpty_iff, List.infix_nil]
  | cons c cs ih => rw [occursIn, Bool.or_eq_true, ih, List.isPrefixOf_iff_prefix, List.infix_cons_iff]

theorem contains_iff {text part : String} : contains text part = true ↔ part.toList <:+: text.toList := occursIn_iff

theorem not_infix_of_count {a b : List Char} (c : Char) (h : b.count c < a.count c) : ¬a <:+: b := by
  intro hinfix
  have hle := hinfix.sublist.count_le c
  omega

/-! ## The next character that is not case-ignorable -/

theorem meetsCased_append_of_ignorable {a : List Char} (b : List Char) (h : a.all isCaseIgnorable = true) :
    meetsCased (a ++ b) = meetsCased b := by
  unfold meetsCased
  rw [List.dropWhile_append_of_pos (List.all_eq_true.1 h)]

theorem meetsCased_of_ignorable {a : List Char} (h : a.all isCaseIgnorable = true) : meetsCased a = false := by
  rw [← List.append_nil a, meetsCased_append_of_ignorable [] h]
  rfl

theorem meetsCased_append_of_stop {a : List Char} (b : List Char) (h : a.all isCaseIgnorable = false) :
    meetsCased (a ++ b) = meetsCased a := by
  induction a with
  | nil => cases h
  | cons c a ih =>
    unfold meetsCased at ih ⊢
    cases hc : isCaseIgnorable c with
    | true =>
      rw [List.all_cons, hc, Bool.true_and] at h
      rw [List.cons_append, List.dropWhile_cons_of_pos hc, List.dropWhile_cons_of_pos hc, ih h]
    | false =>
      have hstop : ¬isCaseIgnorable c = true := by simp [hc]
      rw [List.cons_append, List.dropWhile_cons_of_neg hstop, List.dropWhile_cons_of_neg hstop]
      rfl

theorem sigma_not_ignorable : isCaseIgnorable 'Σ' = false := by decide +kernel

/-- Nothing beyond a capital sigma is met. -/
theorem meetsCased_sigma (a b : List Char) : meetsCased (a ++ 'Σ' :: b) = meetsCased (a ++ ['Σ']) := by
  have hstop : (a ++ ['Σ']).all isCaseIgnorable = false := by simp [sigma_not_ignorable]
  rw [← meetsCased_append_of_stop b hstop, List.append_assoc, List.singleton_append]

theorem sigma_not_mem {cs : List Char} (h : cs.all isCaseIgnorable = true) : 'Σ' ∉ cs := by
  intro hmem
  have hsigma := List.all_eq_true.1 h 'Σ' hmem
  rw [sigma_not_ignorable] at hsigma
  cases hsigma

/-! ## Lower case within a text -/

/-- The lower case of a character between others; `before` lists those before it, nearest first. -/
def lowerBetween (before : List Char) (c : Char) (after : List Char) : List Char :=
  if c = 'Σ' then [if endsWord before after then 'ς' else 'σ'] else lowerChar c

/-- Lower-cases `cs`, which stand between `before`, nearest first, and `after`. -/
def lowerWithin (after : List Char) : (before cs : List Char) → List Char
  | _, [] => []
  | before, c :: cs => lowerBetween before c (cs ++ after) ++ lowerWithin after (c :: before) cs

theorem lowerAfter_eq (before cs : List Char) : lowerAfter before cs = lowerWithin [] before cs := by
  induction cs generalizing before with
  | nil => rfl
  | cons c cs ih =>
    rw [lowerAfter, lowerWithin, ih, List.append_nil]
    rfl

/-- **The lower case of two parts, each within the whole.** -/
theorem lowerWithin_append (after before a b : List Char) :
    lowerWithin after before (a ++ b) =
      lowerWithin (b ++ after) before a ++ lowerWithin after (a.reverse ++ before) b := by
  induction a generalizing before with
  | nil => rfl
  | cons c a ih =>
    rw [List.cons_append, lowerWithin, lowerWithin, ih, List.reverse_cons, List.append_assoc a, List.append_assoc,
      List.append_assoc, List.singleton_append]

/-- The lower case with one sigma of the text singled out. -/
theorem lowerWithin_sigma (after before a b : List Char) :
    lowerWithin after before (a ++ 'Σ' :: b) =
      lowerWithin ('Σ' :: (b ++ after)) before a
        ++ (if endsWord (a.reverse ++ before) (b ++ after) then 'ς' else 'σ')
          :: lowerWithin after ('Σ' :: (a.reverse ++ before)) b := by
  rw [lowerWithin_append, lowerWithin]
  rfl

/-- **What stands around a text matters to its capital sigmas only.** -/
theorem lowerWithin_congr {after after' before before' cs : List Char}
    (h : ∀ a b, cs = a ++ 'Σ' :: b →
      endsWord (a.reverse ++ before) (b ++ after) = endsWord (a.reverse ++ before') (b ++ after')) :
    lowerWithin after before cs = lowerWithin after' before' cs := by
  induction cs generalizing before before' with
  | nil => rfl
  | cons c cs ih =>
    have hhead : lowerBetween before c (cs ++ after) = lowerBetween before' c (cs ++ after') := by
      unfold lowerBetween
      split
      · rename_i hsigma
        have hends : endsWord before (cs ++ after) = endsWord before' (cs ++ after') := h [] cs (by rw [hsigma]; rfl)
        rw [hends]
      · rfl
    rw [lowerWithin, lowerWithin, hhead]
    congr 1
    -- a sigma further on has this character before it on both sides
    refine ih fun a b hcs => ?_
    have hlater := h (c :: a) b (by rw [hcs]; rfl)
    simpa [List.reverse_cons, List.append_assoc] using hlater

theorem lowerWithin_of_not_mem {cs : List Char} (h : 'Σ' ∉ cs) (after after' before before' : List Char) :
    lowerWithin after before cs = lowerWithin after' before' cs := by
  refine lowerWithin_congr fun a b hcs => absurd ?_ h
  rw [hcs]
  exact List.mem_append_right _ (List.mem_cons_self ..)

/-- Characters before a sigma do not depend on what comes after it. -/
theorem lowerWithin_before_sigma (after after' before cs : List Char) :
    lowerWithin ('Σ' :: after) before cs = lowerWithin ('Σ' :: after') before cs := by
  refine lowerWithin_congr fun a b _ => ?_
  unfold endsWord
  rw [meetsCased_sigma b after, meetsCased_sigma b after']

/-- Characters after a sigma do not depend on what comes before it. -/
theorem lowerWithin_after_sigma (after before before' cs : List Char) :
    lowerWithin after ('Σ' :: before) cs = lowerWithin after ('Σ' :: before') cs := by
  refine lowerWithin_congr fun a b _ => ?_
  unfold endsWord
  rw [meetsCased_sigma a.reverse before, meetsCased_sigma a.reverse before']

/-! ## Ragged texts -/

/-- Whether a capital sigma between these characters ends a word depends on what stands around them: it is not known to follow
a cased character and would end a word if it did, or it ends a word as long as no cased character follows. -/
def AtOpenEnd (before after : List Char) : Prop :=
  (before.all isCaseIgnorable = true ∧ meetsCased after = false)
    ∨ (after.all isCaseIgnorable = true ∧ meetsCased before = true)

instance (before after : List Char) : Decidable (AtOpenEnd before after) := inferInstanceAs (Decidable (_ ∨ _))

/-- A text with a capital sigma at an open end. -/
def Ragged (cs : List Char) : Prop := ∃ a b, cs = a ++ 'Σ' :: b ∧ AtOpenEnd a.reverse b

theorem ragged_iff_index {cs : List Char} :
    Ragged cs ↔ ∃ i < cs.length, cs[i]? = some 'Σ' ∧ AtOpenEnd (cs.take i).reverse (cs.drop (i + 1)) := by
  constructor
  · rintro ⟨a, b, rfl, hopen⟩
    exact ⟨a.length, by simp, by simp, by simpa using hopen⟩
  · rintro ⟨i, hi, hsigma, hopen⟩
    refine ⟨cs.take i, cs.drop (i + 1), ?_, hopen⟩
    rw [List.getElem?_eq_getElem hi] at hsigma
    rw [← Option.some.inj hsigma, List.getElem_cons_drop, List.take_append_drop]

instance (cs : List Char) : Decidable (Ragged cs) := decidable_of_iff _ ragged_iff_index.symm

theorem endsWord_of_not_open {before after : List Char} (h : ¬AtOpenEnd before after) (more more' : List Char) :
    endsWord (before ++ more) (after ++ more') = endsWord before after := by
  unfold AtOpenEnd at h
  rw [not_or, not_and, not_and] at h
  obtain ⟨hleft, hright⟩ := h
  unfold endsWord
  cases hbefore : before.all isCaseIgnorable with
  | true =>
    -- no cased character is known before it, but one follows for certain
    have hcased : meetsCased after = true := by simpa using hleft hbefore
    have hstop : after.all isCaseIgnorable = false := by
      refine Bool.eq_false_iff.2 fun hall => ?_
      rw [meetsCased_of_ignorable hall] at hcased
      cases hcased
    rw [meetsCased_append_of_stop more' hstop, hcased]
    simp
  | false =>
    rw [meetsCased_append_of_stop more hbefore]
    cases hafter : after.all isCaseIgnorable with
    | true => simp [Bool.eq_false_iff.2 (hright hafter)]
    | false => rw [meetsCased_append_of_stop more' hafter]

theorem lowerWithin_of_not_ragged {cs : List Char} (h : ¬Ragged cs) (after before : List Char) :
    lowerWithin after before cs = lowerWithin [] [] cs := by
  refine lowerWithin_congr fun a b hcs => ?_
  have hclosed : ¬AtOpenEnd a.reverse b := fun hopen => h ⟨a, b, hcs, hopen⟩
  rw [List.append_nil, List.append_nil, endsWord_of_not_open hclosed]

/-- **The lower case of a text that is not ragged occurs wherever the text does.** -/
theorem lower_infix_of_not_ragged {part text : List Char} (h : ¬Ragged part) (hoccurs : part <:+: text) :
    lowerAfter [] part <:+: lowerAfter [] text := by
  obtain ⟨a, b, rfl⟩ := hoccurs
  rw [lowerAfter_eq, lowerAfter_eq, lowerWithin_append, lowerWithin_append,
    lowerWithin_of_not_ragged h (b ++ [])]
  exact List.infix_append _ _ _

/-- A capital letter meets itself. -/
theorem meetsCased_capital : meetsCased ['A'] = true := by decide +kernel

/-- A cased character before a sigma that follows none makes it a final one, so an ordinary sigma is missing. -/
theorem count_lower_cons {a b : List Char} (ha : a.all isCaseIgnorable = true) (hb : meetsCased b = false) :
    (lowerAfter [] ('A' :: (a ++ 'Σ' :: b))).count 'σ' < (lowerAfter [] (a ++ 'Σ' :: b)).count 'σ' := by
  have harev : a.reverse.all isCaseIgnorable = true := by rwa [List.all_reverse]
  have hin : endsWord (a.reverse ++ ['A']) b = true := by
    unfold endsWord
    rw [meetsCased_append_of_ignorable _ harev, meetsCased_capital, hb]
    rfl
  have halone : endsWord a.reverse b = false := by
    unfold endsWord
    rw [meetsCased_of_ignorable harev, Bool.false_and]
  have hcapital : lowerBetween [] 'A' ((a ++ 'Σ' :: b) ++ []) = ['a'] := rfl
  -- no sigma stands before this one, and those after it do not see beyond it: all else is the same
  rw [lowerAfter_eq, lowerAfter_eq, lowerWithin, hcapital, lowerWithin_sigma, lowerWithin_sigma,
    lowerWithin_of_not_mem (sigma_not_mem ha) _ ('Σ' :: (b ++ [])) ['A'] [],
    lowerWithin_after_sigma [] (a.reverse ++ ['A']) (a.reverse ++ [])]
  simp [hin, halone]

/-- A cased character after a final sigma makes it an ordinary one, so a final sigma is missing. -/
theorem count_lower_concat {a b : List Char} (hb : b.all isCaseIgnorable = true) (ha : meetsCased a.reverse = true) :
    (lowerAfter [] ((a ++ 'Σ' :: b) ++ ['A'])).count 'ς' < (lowerAfter [] (a ++ 'Σ' :: b)).count 'ς' := by
  have hin : endsWord a.reverse (b ++ ['A']) = false := by
    unfold endsWord
    rw [meetsCased_append_of_ignorable _ hb, meetsCased_capital, Bool.not_true, Bool.and_false]
  have halone : endsWord a.reverse b = true := by
    unfold endsWord
    rw [meetsCased_of_ignorable hb, ha]
    rfl
  have hcapital : ∀ before, lowerWithin [] before ['A'] = ['a'] := fun _ => rfl
  -- the mirror image: no sigma stands after this one, and those before it do not see beyond it
  rw [lowerAfter_eq, lowerAfter_eq, lowerWithin_append, hcapital, lowerWithin_sigma, lowerWithin_sigma,
    lowerWithin_before_sigma _ (b ++ []), lowerWithin_of_not_mem (sigma_not_mem hb) _ [] _ ('Σ' :: (a.reverse ++ []))]
  simp [hin, halone]

/-- **A ragged text occurs in some text whose lower case its own does not occur in.** -/
theorem exists_missed_of_ragged {part : List Char} (h : Ragged part) :
    ∃ text, part <:+: text ∧ ¬lowerAfter [] part <:+: lowerAfter [] text := by
  obtain ⟨a, b, rfl, ⟨hbefore, hafter⟩ | ⟨hafter, hbefore⟩⟩ := h
  · rw [List.all_reverse] at hbefore
    exact ⟨'A' :: (a ++ 'Σ' :: b), (List.suffix_cons ..).isInfix, not_infix_of_count 'σ' (count_lower_cons hbefore hafter)⟩
  · exact ⟨(a ++ 'Σ' :: b) ++ ['A'], (List.prefix_append ..).isInfix,
      not_infix_of_count 'ς' (count_lower_concat hafter hbefore)⟩

end PanelBridge.Text
