import PanelBridge.Proofs.ReadBack

/-!
# A carriage return behind a text

A carriage return may stand between tokens, so one at the end of a text changes nothing that the text says. It does change how
far the readers come: a number or a word that the end of the text would stop is now stopped by the return, and there is more text
for the bound on items. So each reader is followed on both texts at once:

* **`Alongside`**: both readings fail, or both give the same value and the return is left at the end.
* **`ReadAlongside`**: two readers do so on every text up to a length. The bound of the second is one larger.
* **`value_return`**: the readers of values do, by induction over the depth.
* **`readChars_return`**: so a text and the text with the return hold the same value, or both hold none.
-/

namespace PanelBridge

namespace Json

/-- What a reader makes of a text and of the text with a carriage return behind it: two failures, or one value and a rest
that ends in the return the second time. Fewer than `n` characters are left. -/
inductive Alongside {α : Type} (n : Nat) : (plain returned : Except Stop (α × List Char)) → Prop
  | ok (a : α) (rest : List Char) (h : rest.length < n) : Alongside n (.ok (a, rest)) (.ok (a, rest ++ ['\r']))
  | error (stop stop' : Stop) : Alongside n (.error stop) (.error stop')

section

variable {α : Type} {n m : Nat} {r r' : Except Stop (α × List Char)}

theorem Alongside.mono (h : Alongside n r r') (hle : n ≤ m) : Alongside m r r' := by
  cases h with
  | ok a rest h => exact .ok a rest (by omega)
  | error stop stop' => exact .error stop stop'

theorem Alongside.wrap (h : Alongside n r r') (f : α → Json) : Alongside n (wrap f r) (wrap f r') := by
  cases h with
  | ok a rest h => exact .ok (f a) rest h
  | error stop stop' => exact .error stop stop'

/-- Readings that branch alike go alongside if they do in each branch. -/
theorem Alongside.ite {c : Prop} [Decidable c] {s s' : Except Stop (α × List Char)} (hpos : c → Alongside n r r')
    (hneg : ¬c → Alongside n s s') : Alongside n (if c then r else s) (if c then r' else s') := by
  by_cases h : c
  · rw [if_pos h, if_pos h]
    exact hpos h
  · rw [if_neg h, if_neg h]
    exact hneg h

theorem Alongside.elim (h : Alongside n r r') :
    (∃ a rest, r = .ok (a, rest) ∧ r' = .ok (a, rest ++ ['\r']) ∧ rest.length < n) ∨
      ∃ stop stop', r = .error stop ∧ r' = .error stop' := by
  cases h with
  | ok a rest h => exact .inl ⟨a, rest, rfl, rfl, h⟩
  | error stop stop' => exact .inr ⟨stop, stop', rfl, rfl⟩

end

/-! ## Strings -/

theorem hexUnit?_return (a b c : Char) : hexUnit? a b c '\r' = none := by
  have hreturn : hexValue? '\r' = none := by decide
  simp only [hexUnit?, hreturn]
  cases hexValue? a <;> cases hexValue? b <;> cases hexValue? c <;> rfl

theorem stringBody_return (acc cs : List Char) :
    Alongside cs.length (stringBody acc cs) (stringBody acc (cs ++ ['\r'])) := by
  induction hn : cs.length using Nat.strongRecOn generalizing acc cs with
  | ind n ih =>
    subst hn
    have later (acc : List Char) {rest : List Char} (h : rest.length < cs.length) :
        Alongside cs.length (stringBody acc rest) (stringBody acc (rest ++ ['\r'])) :=
      (ih rest.length h acc rest rfl).mono (Nat.le_of_lt h)
    cases cs with
    | nil => exact .error ..
    | cons c cs =>
      rw [List.cons_append, stringBody.eq_def acc (c :: cs), stringBody.eq_def acc (c :: (cs ++ _))]
      refine .ite (fun _ => .ok _ cs (Nat.lt_succ_self _)) fun _ => .ite (fun _ => ?_) fun _ =>
        .ite (fun _ => .error ..) fun _ => later (c :: acc) (Nat.lt_succ_self _)
      -- an escape: the return is no letter of an escape and no digit
      cases cs with
      | nil => exact .error ..
      | cons e cs =>
        rw [List.cons_append]
        refine .ite (fun _ => ?_) fun _ => ?_
        · rcases cs with _ | ⟨h₁, _ | ⟨h₂, _ | ⟨h₃, _ | ⟨h₄, rest⟩⟩⟩⟩
          · exact .error ..
          · exact .error ..
          · exact .error ..
          · simp only [List.cons_append, List.nil_append, hexUnit?_return]
            exact .error ..
          simp only [List.cons_append]
          cases hexUnit? h₁ h₂ h₃ h₄ with
          | none => exact .error ..
          | some unit =>
            refine .ite (fun _ => .error ..) fun _ => .ite (fun _ => ?_) fun _ =>
              later (Char.ofNat unit :: acc) (by simp only [List.length_cons]; omega)
            -- the second unit of a pair
            cases rest with
            | nil => exact .error ..
            | cons b rest =>
              rw [List.cons_append]
              refine .ite (fun _ => .error ..) fun _ => ?_
              cases rest with
              | nil => exact .error ..
              | cons u rest =>
                rw [List.cons_append]
                refine .ite (fun _ => .error ..) fun _ => ?_
                rcases rest with _ | ⟨l₁, _ | ⟨l₂, _ | ⟨l₃, _ | ⟨l₄, rest⟩⟩⟩⟩
                · exact .error ..
                · exact .error ..
                · exact .error ..
                · simp only [List.cons_append, List.nil_append, hexUnit?_return]
                  exact .error ..
                simp only [List.cons_append]
                cases hexUnit? l₁ l₂ l₃ l₄ with
                | none => exact .error ..
                | some low =>
                  exact .ite (fun _ => later (pairChar unit low :: acc) (by simp only [List.length_cons]; omega))
                    fun _ => .error ..
        · cases letterEscape? e with
          | none => exact .error ..
          | some d => exact later (d :: acc) (by simp only [List.length_cons]; omega)

theorem string_return (cs : List Char) : Alongside cs.length (string cs) (string (cs ++ ['\r'])) := by
  unfold string
  rcases (stringBody_return [] cs).elim with ⟨body, rest, h, h', hlength⟩ | ⟨stop, stop', h, h'⟩
  · rw [h, h']
    exact .ok _ _ hlength
  · rw [h, h']
    exact .error ..

/-! ## Numbers -/

theorem takeWhile_digits_return (cs : List Char) : (cs ++ ['\r']).takeWhile Char.isDigit = cs.takeWhile Char.isDigit := by
  induction cs with
  | nil => rfl
  | cons c cs ih =>
    rw [List.cons_append, List.takeWhile_cons, List.takeWhile_cons, ih]

theorem dropWhile_digits_return (cs : List Char) :
    (cs ++ ['\r']).dropWhile Char.isDigit = cs.dropWhile Char.isDigit ++ ['\r'] := by
  induction cs with
  | nil => rfl
  | cons c cs ih =>
    rw [List.cons_append, List.dropWhile_cons, List.dropWhile_cons, ih]
    split <;> rfl

theorem startsWithDigit_return (cs : List Char) : startsWithDigit (cs ++ ['\r']) = startsWithDigit cs := by
  cases cs <;> rfl

theorem absorb_return (significand count : Nat) (cs : List Char) :
    absorb significand count (cs ++ ['\r']) =
      ((absorb significand count cs).1, (absorb significand count cs).2.1, (absorb significand count cs).2.2 ++ ['\r']) := by
  induction cs generalizing significand count with
  | nil => rfl
  | cons c cs ih =>
    rw [List.cons_append, absorb, absorb]
    split
    · exact ih ..
    · rfl

theorem length_absorb (significand count : Nat) (cs : List Char) :
    (absorb significand count cs).2.2.length ≤ cs.length := by
  induction cs generalizing significand count with
  | nil => exact Nat.le_refl _
  | cons c cs ih =>
    rw [absorb]
    split
    · exact Nat.le_succ_of_le (ih ..)
    · exact Nat.le_refl _

theorem exponentSign_return (cs : List Char) :
    exponentSign (cs ++ ['\r']) = ((exponentSign cs).1, (exponentSign cs).2 ++ ['\r']) := by
  fun_cases exponentSign cs with
  | case1 cs => rfl
  | case2 cs => rfl
  | case3 cs hplus hminus =>
    cases cs with
    | nil => rfl
    | cons c cs =>
      have hplus : c ≠ '+' := fun h => hplus cs (h ▸ rfl)
      have hminus : c ≠ '-' := fun h => hminus cs (h ▸ rfl)
      simp [exponentSign, hplus, hminus]

theorem length_exponentSign (cs : List Char) : (exponentSign cs).2.length ≤ cs.length := by
  fun_cases exponentSign cs with
  | case1 cs => exact Nat.le_succ _
  | case2 cs => exact Nat.le_succ _
  | case3 cs => exact Nat.le_refl _

/-- The digits of an exponent end before a carriage return, whether the exponent is too large or not. -/
theorem exponentDigits_return (exponent : Nat) (cs : List Char) :
    (∃ e rest, exponentDigits exponent cs = .ok (e, rest) ∧ exponentDigits exponent (cs ++ ['\r']) = .ok (e, rest ++ ['\r']) ∧
      rest.length ≤ cs.length) ∨
    ∃ rest, exponentDigits exponent cs = .error rest ∧ exponentDigits exponent (cs ++ ['\r']) = .error (rest ++ ['\r']) ∧
      rest.length ≤ cs.length := by
  induction cs generalizing exponent with
  | nil => exact .inl ⟨exponent, [], rfl, rfl, Nat.le_refl _⟩
  | cons c cs ih =>
    simp only [List.cons_append, exponentDigits]
    split
    · split
      · rcases ih (exponent * 10 + digitValue c) with ⟨e, rest, h, h', hlength⟩ | ⟨rest, h, h', hlength⟩
        · exact .inl ⟨e, rest, h, h', Nat.le_succ_of_le hlength⟩
        · exact .inr ⟨rest, h, h', Nat.le_succ_of_le hlength⟩
      · exact .inr ⟨cs, rfl, rfl, Nat.le_succ _⟩
    · exact .inl ⟨exponent, c :: cs, rfl, rfl, Nat.le_refl _⟩

section

variable {n : Nat} {cs : List Char} (negative : Bool) (significand : Nat) (exponent : Int)

theorem finishFloat_return (h : cs.length < n) :
    Alongside n (finishFloat negative significand exponent cs) (finishFloat negative significand exponent (cs ++ ['\r'])) := by
  unfold finishFloat
  cases scale significand exponent with
  | some f => exact .ok _ _ h
  | none => exact .error ..

theorem exponentPart_return (h : cs.length < n) :
    Alongside n (exponentPart negative significand exponent cs) (exponentPart negative significand exponent (cs ++ ['\r'])) := by
  have hsign := length_exponentSign cs
  simp only [exponentPart, exponentSign_return]
  generalize exponentSign cs = signed at hsign ⊢
  obtain ⟨positive, cs⟩ := signed
  cases cs with
  | nil => exact .error ..
  | cons c digits =>
    simp only [List.cons_append]
    split
    · rcases exponentDigits_return 0 (c :: digits) with ⟨e, rest, h, h', hlength⟩ | ⟨rest, h, h', hlength⟩
      · rw [List.cons_append] at h'
        simp only [h, h']
        exact finishFloat_return negative significand _ (by simp only at hsign; omega)
      · rw [List.cons_append] at h'
        simp only [h, h', dropWhile_digits_return]
        split
        · exact .error ..
        · have hdropped := (List.dropWhile_suffix Char.isDigit (l := rest)).length_le
          exact .ok _ _ (by simp only at hsign; omega)
    · exact .error ..

theorem exponentOrEnd_return (h : cs.length < n) :
    Alongside n (exponentOrEnd negative significand exponent cs)
      (exponentOrEnd negative significand exponent (cs ++ ['\r'])) := by
  cases cs with
  | nil => exact finishFloat_return negative significand exponent h
  | cons c rest =>
    simp only [List.cons_append, exponentOrEnd]
    split
    · exact exponentPart_return negative significand exponent (Nat.lt_of_succ_lt h)
    · exact finishFloat_return negative significand exponent h

theorem fractionPart_return (h : cs.length < n) :
    Alongside n (fractionPart negative significand exponent cs) (fractionPart negative significand exponent (cs ++ ['\r'])) := by
  have habsorb := length_absorb significand 0 cs
  simp only [fractionPart, absorb_return, startsWithDigit_return, dropWhile_digits_return]
  generalize absorb significand 0 cs = absorbed at habsorb ⊢
  obtain ⟨significand, count, rest⟩ := absorbed
  simp only at habsorb ⊢
  split
  · have hdropped := (List.dropWhile_suffix Char.isDigit (l := rest)).length_le
    exact exponentOrEnd_return negative significand _ (by omega)
  split
  · cases rest <;> exact .error ..
  · exact exponentOrEnd_return negative significand _ (by omega)

theorem afterInteger_return (h : cs.length < n) :
    Alongside n (afterInteger negative significand cs) (afterInteger negative significand (cs ++ ['\r'])) := by
  cases cs with
  | nil => exact .ok (integer negative significand) [] h
  | cons c rest =>
    simp only [List.cons_append, afterInteger]
    split
    · exact fractionPart_return negative significand 0 (Nat.lt_of_succ_lt h)
    split
    · exact exponentPart_return negative significand 0 (Nat.lt_of_succ_lt h)
    · exact .ok (integer negative significand) (c :: rest) h

theorem afterLongInteger_return (h : cs.length < n) :
    Alongside n (afterLongInteger negative significand cs) (afterLongInteger negative significand (cs ++ ['\r'])) := by
  have hdropped := (List.dropWhile_suffix Char.isDigit (l := cs)).length_le
  simp only [afterLongInteger, takeWhile_digits_return, dropWhile_digits_return]
  generalize cs.dropWhile Char.isDigit = rest at hdropped ⊢
  cases rest with
  | nil => exact exponentOrEnd_return negative significand _ (by omega)
  | cons c rest =>
    rw [List.cons_append]
    split
    · next fraction hfraction =>
      cases hfraction
      exact fractionPart_return negative significand _ (Nat.lt_of_le_of_lt (Nat.le_of_succ_le hdropped) h)
    · next hpoint =>
      split
      · next fraction hfraction =>
        cases hfraction
        exact (hpoint rest rfl).elim
      · exact exponentOrEnd_return negative significand _ (by omega)

end

/-- The first digit of a number is always absorbed. -/
theorem absorb_first {c : Char} (h : c.isDigit = true) (rest : List Char) :
    absorb 0 0 (c :: rest) = absorb (digitValue c) 1 rest := by
  have hrange : 48 ≤ c.toNat ∧ c.toNat ≤ 57 := by simpa [Char.isDigit, UInt32.le_iff_toNat_le] using h
  have hfits : digitValue c < UInt64.size := Nat.lt_of_le_of_lt (by unfold digitValue; omega) (by decide : 9 < UInt64.size)
  rw [absorb, h, Bool.true_and, Nat.zero_mul, Nat.zero_add, if_pos (decide_eq_true hfits)]

theorem number_return (negative : Bool) (cs : List Char) :
    Alongside cs.length (number negative cs) (number negative (cs ++ ['\r'])) := by
  cases cs with
  | nil => exact .error ..
  | cons c rest =>
    simp only [List.cons_append, number, startsWithDigit_return]
    split
    · split
      · exact .error ..
      · exact afterInteger_return negative 0 (Nat.lt_succ_self _)
    split
    · next hdigit =>
      have habsorb := Nat.lt_succ_of_le (length_absorb (digitValue c) 1 rest)
      simp only [absorb_first hdigit, absorb_return, startsWithDigit_return]
      split
      · exact afterLongInteger_return negative _ habsorb
      · exact afterInteger_return negative _ habsorb
    · exact .error ..

/-! ## Values -/

theorem dropWhile_return {p : Char → Bool} (hreturn : p '\r' = true) (cs : List Char) :
    (cs.dropWhile p = [] ∧ (cs ++ ['\r']).dropWhile p = []) ∨
      ∃ c rest, cs.dropWhile p = c :: rest ∧ (cs ++ ['\r']).dropWhile p = c :: (rest ++ ['\r']) ∧
        rest.length < cs.length := by
  induction cs with
  | nil => exact .inl ⟨rfl, by rw [List.nil_append, List.dropWhile_cons, if_pos hreturn]; rfl⟩
  | cons c cs ih =>
    rw [List.cons_append, List.dropWhile_cons, List.dropWhile_cons]
    split
    · rcases ih with h | ⟨d, rest, h, h', hlength⟩
      · exact .inl h
      · exact .inr ⟨d, rest, h, h', Nat.lt_succ_of_lt hlength⟩
    · exact .inr ⟨c, cs, rfl, rfl, Nat.lt_succ_self _⟩

theorem skipSpace_return (cs : List Char) :
    (skipSpace cs = [] ∧ skipSpace (cs ++ ['\r']) = []) ∨
      ∃ c rest, skipSpace cs = c :: rest ∧ skipSpace (cs ++ ['\r']) = c :: (rest ++ ['\r']) ∧ rest.length < cs.length :=
  dropWhile_return (by decide) cs

theorem word_return {letters : List Char} (hletters : '\r' ∉ letters) (v : Json) {n : Nat} {cs : List Char}
    (h : cs.length < n) :
    Alongside n ((word letters cs).map (v, ·)) ((word letters (cs ++ ['\r'])).map (v, ·)) := by
  induction letters generalizing cs with
  | nil => exact .ok v cs h
  | cons letter letters ih =>
    obtain ⟨hletter, hletters⟩ := not_or.1 (mt List.mem_cons.2 hletters)
    cases cs with
    | nil =>
      rw [List.nil_append, word, word, if_neg hletter]
      exact .error ..
    | cons c cs =>
      rw [List.cons_append, word, word]
      split
      · exact ih hletters (Nat.lt_of_succ_lt h)
      · exact .error ..

/-- One reader on a text and the other on the text with a return behind it go alongside, for texts up to a length. -/
def ReadAlongside {α : Type} (limit : Nat) (plain returned : Reads α) : Prop :=
  ∀ cs, cs.length ≤ limit → Alongside cs.length (plain cs) (returned (cs ++ ['\r']))

section

variable {limit : Nat} {item item' : Reads Json} (hitem : ReadAlongside limit item item')
include hitem

theorem items_return {fuel : Nat} (hfuel : fuel ≤ limit) (acc : List Json) (cs : List Char) (hcs : cs.length ≤ fuel) :
    Alongside cs.length (items item fuel acc cs) (items item' (fuel + 1) acc (cs ++ ['\r'])) := by
  induction fuel generalizing acc cs with
  | zero =>
    obtain rfl := List.length_eq_zero_iff.1 (Nat.le_zero.1 hcs)
    rcases (hitem [] (Nat.zero_le _)).elim with ⟨v, rest, -, -, hlength⟩ | ⟨stop, stop', h, h'⟩
    · exact absurd hlength (Nat.not_lt_zero _)
    · rw [items, items, h']
      exact .error ..
  | succ fuel ih =>
    rw [items, items]
    rcases (hitem cs (by omega)).elim with ⟨v, rest, h, h', hlength⟩ | ⟨stop, stop', h, h'⟩ <;> rw [h, h']
    · rcases skipSpace_return rest with ⟨hs, hs'⟩ | ⟨c, rest, hs, hs', hrest⟩ <;> simp only [hs, hs']
      · exact .error ..
      refine .ite (fun _ => .ok _ rest (by omega)) fun _ => .ite (fun _ => ?_) fun _ => .error ..
      rcases skipSpace_return rest with ⟨hn, hn'⟩ | ⟨d, next, hn, hn', hnext⟩ <;> simp only [hn, hn']
      · exact .error ..
      have hlength : (d :: next).length ≤ rest.length := hnext
      exact .ite (fun _ => .error ..) fun _ => (ih (by omega) (v :: acc) (d :: next) (by omega)).mono (by omega)
    · exact .error ..

theorem list_return : ReadAlongside limit (list item limit) (list item' (limit + 1)) := by
  intro cs hcs
  unfold list
  rcases skipSpace_return cs with ⟨hs, hs'⟩ | ⟨c, rest, hs, hs', hrest⟩ <;> simp only [hs, hs']
  · exact .error ..
  · exact .ite (fun _ => .ok _ rest hrest) fun _ =>
      (items_return hitem (Nat.le_refl _) [] (c :: rest) (Nat.le_trans hrest hcs)).mono hrest

theorem keyed_return : ReadAlongside limit (keyed item) (keyed item') := by
  intro cs hcs
  unfold keyed
  rcases (string_return cs).elim with ⟨key, rest, h, h', hlength⟩ | ⟨stop, stop', h, h'⟩ <;> simp only [h, h']
  · unfold colon
    rcases skipSpace_return rest with ⟨hs, hs'⟩ | ⟨c, rest, hs, hs', hrest⟩ <;> simp only [hs, hs']
    · exact .error ..
    by_cases hcolon : c = ':'
    · rcases (hitem rest (by omega)).elim with ⟨v, rest, hv, hv', hlength⟩ | ⟨stop, stop', hv, hv'⟩ <;>
        simp only [if_pos hcolon, hv, hv']
      · exact .ok _ rest (by omega)
      · exact .error ..
    · simp only [if_neg hcolon]
      exact .error ..
  · exact .error ..

theorem memberList_return {fuel : Nat} (hfuel : fuel ≤ limit) (acc : List (String × Json)) (cs : List Char)
    (hcs : cs.length ≤ fuel) :
    Alongside cs.length (memberList item fuel acc cs) (memberList item' (fuel + 1) acc (cs ++ ['\r'])) := by
  induction fuel generalizing acc cs with
  | zero =>
    obtain rfl := List.length_eq_zero_iff.1 (Nat.le_zero.1 hcs)
    rcases (keyed_return hitem [] (Nat.zero_le _)).elim with ⟨m, rest, -, -, hlength⟩ | ⟨stop, stop', h, h'⟩
    · exact absurd hlength (Nat.not_lt_zero _)
    · rw [memberList, memberList, h']
      exact .error ..
  | succ fuel ih =>
    rw [memberList, memberList]
    rcases (keyed_return hitem cs (by omega)).elim with ⟨m, rest, h, h', hlength⟩ | ⟨stop, stop', h, h'⟩ <;> rw [h, h']
    · rcases skipSpace_return rest with ⟨hs, hs'⟩ | ⟨c, rest, hs, hs', hrest⟩ <;> simp only [hs, hs']
      · exact .error ..
      refine .ite (fun _ => .ok _ rest (by omega)) fun _ => .ite (fun _ => ?_) fun _ => .error ..
      rcases skipSpace_return rest with ⟨hn, hn'⟩ | ⟨d, next, hn, hn', hnext⟩ <;> simp only [hn, hn']
      · exact .error ..
      exact .ite (fun _ => (ih (by omega) (m :: acc) next (by omega)).mono (by omega)) fun _ =>
        .ite (fun _ => .error ..) fun _ => .error ..
    · exact .error ..

theorem object_return : ReadAlongside limit (object item limit) (object item' (limit + 1)) := by
  intro cs hcs
  unfold object
  rcases skipSpace_return cs with ⟨hs, hs'⟩ | ⟨c, rest, hs, hs', hrest⟩ <;> simp only [hs, hs']
  · exact .error ..
  · exact .ite (fun _ => .ok _ rest hrest) fun _ =>
      .ite (fun _ => (memberList_return hitem (Nat.le_refl _) [] rest (by omega)).mono (Nat.le_of_lt hrest)) fun _ => .error ..

end

/-- Containers hold what readers alongside each other read, or neither reader may open one. -/
inductive InnerAlongside (limit : Nat) : (inner inner' : Option (Reads Json)) → Prop
  | none : InnerAlongside limit none none
  | some {item item' : Reads Json} (h : ReadAlongside limit item item') : InnerAlongside limit (some item) (some item')

theorem valueWith_return {limit : Nat} {inner inner' : Option (Reads Json)} (hinner : InnerAlongside limit inner inner') :
    ReadAlongside limit (valueWith limit inner) (valueWith (limit + 1) inner') := by
  intro cs hcs
  unfold valueWith
  rcases skipSpace_return cs with ⟨hs, hs'⟩ | ⟨c, rest, hs, hs', hrest⟩ <;> rw [hs, hs']
  · exact .error ..
  refine .ite (fun _ => word_return (by decide) .null hrest) fun _ => ?_
  refine .ite (fun _ => word_return (by decide) (.bool true) hrest) fun _ => ?_
  refine .ite (fun _ => word_return (by decide) (.bool false) hrest) fun _ => ?_
  refine .ite (fun _ => ((number_return true rest).wrap .num).mono (Nat.le_of_lt hrest)) fun _ => ?_
  refine .ite (fun _ => ((number_return false (c :: rest)).wrap .num).mono hrest) fun _ => ?_
  refine .ite (fun _ => ((string_return rest).wrap .str).mono (Nat.le_of_lt hrest)) fun _ => ?_
  refine .ite (fun _ => ?_) fun _ => .ite (fun _ => ?_) fun _ => .error ..
  · cases hinner with
    | none => exact .error ..
    | some hitem => exact ((list_return hitem rest (by omega)).wrap .arr).mono (Nat.le_of_lt hrest)
  · cases hinner with
    | none => exact .error ..
    | some hitem => exact ((object_return hitem rest (by omega)).wrap .obj).mono (Nat.le_of_lt hrest)

theorem value_return (limit depth : Nat) : ReadAlongside limit (value limit depth) (value (limit + 1) depth) := by
  induction depth with
  | zero => exact valueWith_return .none
  | succ depth ih => exact valueWith_return (.some ih)

/-- **A carriage return behind a text changes nothing that the text says.** -/
theorem readChars_return (cs : List Char) : (readChars (cs ++ ['\r'])).toOption = (readChars cs).toOption := by
  unfold readChars
  rw [List.length_append, List.length_singleton]
  rcases (value_return cs.length maxDepth cs (Nat.le_refl _)).elim with ⟨v, rest, h, h', -⟩ | ⟨stop, stop', h, h'⟩
  · simp only [h, h']
    rcases skipSpace_return rest with ⟨hs, hs'⟩ | ⟨c, rest, hs, hs', -⟩
    · simp only [hs, hs']
    · simp only [hs, hs']
      rfl
  · simp only [h, h']
    rfl

end Json

end PanelBridge
