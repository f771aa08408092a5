import PanelBridge.Message
import PanelBridge.Proofs.JsonValues

/-!
# Reading what was written

The compact text of a value reads back as that value. The argument follows the text: digits, one escaped character,
strings, the items of a list, the members of an object, and then values by induction over their parts. A number has no end
of its own, so every step says what may come after it:

* **`Delimited`**: what follows a value in a compact text, which is nothing, a comma or a closing bracket.
* **`ReadsBack`**: a reader takes the text of a value off the front and leaves the rest.
* **`value_readsBack`**: the reader of values does so for values that nest no deeper than it goes.
* **`parse_render`**: so a canonical value is what its own text says.
-/

namespace PanelBridge

namespace Json

/-- What may follow a value in a compact text. -/
def Delimited (rest : List Char) : Prop := ∀ c ∈ rest.head?, c = ',' ∨ c = ']' ∨ c = '\x7d'

theorem delimited_nil : Delimited [] := fun _ h => by cases h

theorem delimited_itemChars (items : List Json) (rest : List Char) : Delimited (itemChars items ++ rest) := by
  cases items with
  | nil =>
    rintro c ⟨⟩
    exact .inr (.inl rfl)
  | cons =>
    rintro c ⟨⟩
    exact .inl rfl

theorem delimited_memberChars (members : List (String × Json)) (rest : List Char) :
    Delimited (memberChars members ++ rest) := by
  cases members with
  | nil =>
    rintro c ⟨⟩
    exact .inr (.inr rfl)
  | cons =>
    rintro c ⟨⟩
    exact .inl rfl

/-! ## Numbers -/

theorem Delimited.startsWithDigit {rest : List Char} (h : Delimited rest) : startsWithDigit rest = false := by
  cases rest with
  | nil => rfl
  | cons c rest => rcases h c rfl with rfl | rfl | rfl <;> rfl

/-- Digits only add to what stands before them. -/
theorem le_ofDigitChars (digits : List Char) (start : Nat) : start ≤ Nat.ofDigitChars 10 digits start := by
  have hpower : 0 < 10 ^ digits.length := Nat.pow_pos (by decide)
  have hscaled : start ≤ 10 ^ digits.length * start := Nat.le_mul_of_pos_left start hpower
  rw [Nat.ofDigitChars_eq_ofDigitChars_zero]
  omega

/-- Digits whose value fits in 64 bits are absorbed one and all. -/
theorem absorb_digits {digits rest : List Char} (hdigits : ∀ c ∈ digits, c.isDigit = true)
    (hrest : startsWithDigit rest = false) (start count : Nat)
    (hfits : Nat.ofDigitChars 10 digits start < UInt64.size) :
    absorb start count (digits ++ rest) = (Nat.ofDigitChars 10 digits start, count + digits.length, rest) := by
  induction digits generalizing start count with
  | nil =>
    cases rest with
    | nil => rfl
    | cons c rest =>
      have hc : c.isDigit = false := hrest
      simp [absorb, hc]
  | cons c digits ih =>
    obtain ⟨hc, hdigits⟩ := List.forall_mem_cons.1 hdigits
    have hnext : start * 10 + digitValue c = 10 * start + (c.toNat - '0'.toNat) := by
      rw [Nat.mul_comm]
      rfl
    rw [Nat.ofDigitChars_cons, ← hnext] at hfits ⊢
    -- the value so far is at most the value of all digits
    have hsofar : start * 10 + digitValue c < UInt64.size := Nat.lt_of_le_of_lt (le_ofDigitChars ..) hfits
    rw [List.cons_append, absorb, hc, Bool.true_and, if_pos (decide_eq_true hsofar), ih hdigits _ _ hfits,
      List.length_cons, Nat.add_right_comm, Nat.add_assoc]

/-- The first digit of a positive number is not zero. -/
theorem toDigits_head {n : Nat} (h : 0 < n) :
    ∃ d rest, Nat.toDigits 10 n = d :: rest ∧ d ≠ '0' ∧ d.isDigit = true := by
  induction n using Nat.strongRecOn with
  | ind n ih =>
    by_cases hn : n < 10
    · have hdigit : ∀ k < 10, 0 < k → k.digitChar ≠ '0' ∧ k.digitChar.isDigit = true := by decide
      exact ⟨n.digitChar, [], Nat.toDigits_of_lt_base hn, hdigit n hn h⟩
    · obtain ⟨d, rest, hdigits, hd⟩ := ih (n / 10) (by omega) (by omega)
      refine ⟨d, rest ++ [(n % 10).digitChar], ?_, hd⟩
      rw [Nat.toDigits_of_base_le (by decide) (by omega), hdigits]
      rfl

theorem afterInteger_delimited (negative : Bool) (n : Nat) {rest : List Char} (h : Delimited rest) :
    afterInteger negative n rest = .ok (integer negative n, rest) := by
  cases rest with
  | nil => rfl
  | cons c rest => rcases h c rfl with rfl | rfl | rfl <;> rfl

theorem number_natChars (negative : Bool) {n : Nat} (hn : n < UInt64.size) {rest : List Char} (h : Delimited rest) :
    number negative (Decimal.natChars n ++ rest) = .ok (integer negative n, rest) := by
  rcases Nat.eq_zero_or_pos n with rfl | hpos
  · show number negative ('0' :: rest) = _
    rw [number, if_pos rfl, h.startsWithDigit]
    exact afterInteger_delimited negative 0 h
  · obtain ⟨d, digits, hdigits, hzero, hd⟩ := toDigits_head hpos
    have hall : ∀ c ∈ Nat.toDigits 10 n, c.isDigit = true := fun c hc =>
      Nat.isDigit_of_mem_toDigits (by decide) (by decide) hc
    have hvalue : Nat.ofDigitChars 10 (Nat.toDigits 10 n) 0 = n := Nat.ofDigitChars_ten_toDigits
    have habsorb := absorb_digits hall h.startsWithDigit 0 0 (hvalue.symm ▸ hn)
    rw [hvalue, hdigits] at habsorb
    rw [Decimal.natChars, hdigits, List.cons_append, number, if_neg hzero, if_pos hd]
    rw [List.cons_append] at habsorb
    simp only [habsorb, h.startsWithDigit]
    exact afterInteger_delimited negative n h

theorem integer_negative {n : Nat} (hpos : 0 < n) (hn : n ≤ Nat.pow 2 63) : integer true n = .int (-(n : Int)) := by
  simp [integer, hpos, hn]

/-! ## Strings -/

theorem hexValue?_hexDigit : ∀ n < 16, hexValue? (hexDigit n) = some n := by decide

/-- The escape of a control character names it. -/
theorem hexUnit?_hexDigits {n : Nat} (h : n < 0x20) :
    hexUnit? '0' '0' (hexDigit (n / 16)) (hexDigit (n % 16)) = some n := by
  have hhigh := hexValue?_hexDigit (n / 16) (by omega)
  have hlow := hexValue?_hexDigit (n % 16) (by omega)
  have hzero : hexValue? '0' = some 0 := by decide
  have hn : ((0 * 16 + 0) * 16 + n / 16) * 16 + n % 16 = n := by omega
  simp only [hexUnit?, hhigh, hlow, hzero]
  exact congrArg some hn

theorem stringBody_quote (acc rest : List Char) : stringBody acc ('"' :: rest) = .ok (acc.reverse, rest) := by
  rw [stringBody.eq_def]
  simp only [if_true]

theorem stringBody_plain (acc : List Char) {c : Char} (hquote : c ≠ '"') (hslash : c ≠ '\\') (hcontrol : ¬c.toNat < 0x20)
    (rest : List Char) : stringBody acc (c :: rest) = stringBody (c :: acc) rest := by
  rw [stringBody.eq_def]
  simp only [hquote, hslash, hcontrol, if_false]

theorem stringBody_letter (acc : List Char) {e c : Char} (he : e ≠ 'u') (h : letterEscape? e = some c)
    (rest : List Char) : stringBody acc ('\\' :: e :: rest) = stringBody (c :: acc) rest := by
  rw [stringBody.eq_def]
  simp only [he, h, if_true, if_false, Char.reduceEq]

theorem stringBody_control (acc : List Char) {c : Char} (h : c.toNat < 0x20) (rest : List Char) :
    stringBody acc ('\\' :: 'u' :: '0' :: '0' :: hexDigit (c.toNat / 16) :: hexDigit (c.toNat % 16) :: rest)
      = stringBody (c :: acc) rest := by
  have hlow : isLowSurrogate c.toNat = false := by
    simp only [isLowSurrogate, Bool.and_eq_false_iff, decide_eq_false_iff_not]
    omega
  have hhigh : isHighSurrogate c.toNat = false := by
    simp only [isHighSurrogate, Bool.and_eq_false_iff, decide_eq_false_iff_not]
    omega
  rw [stringBody.eq_def]
  simp only [hexUnit?_hexDigits h, hlow, hhigh, Char.ofNat_toNat, if_true, if_false, Char.reduceEq, Bool.false_eq_true]

/-- **A character is read back from its escaped form.** -/
theorem stringBody_escapeChar (acc : List Char) (c : Char) (rest : List Char) :
    stringBody acc (escapeChar c ++ rest) = stringBody (c :: acc) rest := by
  have letter {n : Nat} {e : Char} (hc : c.toNat = n) (he : e ≠ 'u') (h : letterEscape? e = some (Char.ofNat n)) :
      stringBody acc ('\\' :: e :: rest) = stringBody (c :: acc) rest := by
    rw [← hc, Char.ofNat_toNat] at h
    exact stringBody_letter acc he h rest
  unfold escapeChar
  split
  · exact letter (congrArg Char.toNat ‹c = '"'›) (by decide) rfl
  split
  · exact letter (congrArg Char.toNat ‹c = '\\'›) (by decide) rfl
  split
  · -- five controls have a letter of their own, the others are written by their number
    split
    · exact letter ‹_› (by decide) rfl
    split
    · exact letter ‹_› (by decide) rfl
    split
    · exact letter ‹_› (by decide) rfl
    split
    · exact letter ‹_› (by decide) rfl
    split
    · exact letter ‹_› (by decide) rfl
    exact stringBody_control acc ‹_› rest
  · exact stringBody_plain acc ‹_› ‹_› ‹_› rest

theorem stringBody_escaped (acc cs rest : List Char) :
    stringBody acc (cs.flatMap escapeChar ++ '"' :: rest) = .ok (acc.reverse ++ cs, rest) := by
  induction cs generalizing acc with
  | nil => rw [List.append_nil]; exact stringBody_quote acc rest
  | cons c cs ih =>
    rw [List.flatMap_cons, List.append_assoc, stringBody_escapeChar, ih, List.reverse_cons, List.append_assoc]
    rfl

/-- A string is read back from what follows its opening quote. -/
theorem string_escaped (s : String) (rest : List Char) :
    string (s.toList.flatMap escapeChar ++ '"' :: rest) = .ok (s, rest) := by
  rw [string, stringBody_escaped, List.reverse_nil, List.nil_append]
  simp only [String.ofList_toList]

/-! ## Lists and objects -/

/-- The reader takes the text of the value off the front of a text. -/
def ReadsBack (item : Reads Json) (v : Json) : Prop :=
  ∀ rest, Delimited rest → item (chars v ++ rest) = .ok (v, rest)

theorem skipSpace_cons {c : Char} (h : isSpace c = false) (rest : List Char) : skipSpace (c :: rest) = c :: rest := by
  rw [skipSpace, List.dropWhile_cons, h]
  rfl

/-- A text begins with neither a blank nor the end of a list. -/
def Opens (cs : List Char) : Prop := ∃ c rest, cs = c :: rest ∧ isSpace c = false ∧ c ≠ ']'

theorem natChars_head (n : Nat) : ∃ d rest, Decimal.natChars n = d :: rest ∧ d.isDigit = true := by
  cases hdigits : Nat.toDigits 10 n with
  | nil => exact absurd hdigits Nat.toDigits_ne_nil
  | cons d rest =>
    have hmem : d ∈ Nat.toDigits 10 n := hdigits ▸ List.mem_cons_self
    exact ⟨d, rest, hdigits, Nat.isDigit_of_mem_toDigits (by decide) (by decide) hmem⟩

theorem isSpace_of_digit {c : Char} (h : c.isDigit = true) : isSpace c = false := by
  refine Bool.eq_false_iff.2 fun hspace => ?_
  simp only [isSpace, Bool.or_eq_true, decide_eq_true_eq] at hspace
  rcases hspace with ((rfl | rfl) | rfl) | rfl <;> exact absurd h (by decide)

theorem opens_intChars (n : Int) : Opens (Decimal.intChars n) := by
  cases n with
  | ofNat n =>
    obtain ⟨d, rest, hdigits, hd⟩ := natChars_head n
    refine ⟨d, rest, hdigits, isSpace_of_digit hd, ?_⟩
    rintro rfl
    exact absurd hd (by decide)
  | negSucc n => exact ⟨'-', _, rfl, rfl, by decide⟩

theorem opens_chars {v : Json} (h : v.Whole) : Opens (chars v) := by
  cases v with
  | num n =>
    cases n with
    | int n => exact opens_intChars n
    | float => exact h.elim
  | null => exact ⟨'n', _, rfl, rfl, by decide⟩
  | bool b => cases b with
    | true => exact ⟨'t', _, rfl, rfl, by decide⟩
    | false => exact ⟨'f', _, rfl, rfl, by decide⟩
  | str s => exact ⟨'"', _, rfl, rfl, by decide⟩
  | arr items => cases items <;> exact ⟨'[', _, rfl, rfl, by decide⟩
  | obj members => cases members <;> exact ⟨'\x7b', _, rfl, rfl, by decide⟩

/-- The items of a list are read back, those in `acc` coming first. -/
theorem items_chars {item : Reads Json} {v : Json} {rest : List Json} (hitem : ∀ w ∈ v :: rest, ReadsBack item w)
    (hopens : ∀ w ∈ rest, Opens (chars w)) {fuel : Nat} (hfuel : rest.length < fuel) (acc : List Json)
    (after : List Char) :
    items item fuel acc (chars v ++ (itemChars rest ++ after)) = .ok (acc.reverse ++ v :: rest, after) := by
  induction rest generalizing v fuel acc with
  | nil =>
    obtain ⟨fuel, rfl⟩ := Nat.exists_eq_succ_of_ne_zero (Nat.ne_of_gt hfuel)
    have hv := hitem v (.head _) (itemChars [] ++ after) (delimited_itemChars [] after)
    have hclose : skipSpace (itemChars [] ++ after) = ']' :: after := skipSpace_cons (by decide) after
    rw [items, hv]
    simp only [hclose, if_true, List.reverse_cons]
  | cons w rest ih =>
    obtain ⟨fuel, rfl⟩ := Nat.exists_eq_succ_of_ne_zero (Nat.ne_of_gt (Nat.zero_lt_of_lt hfuel))
    obtain ⟨⟨c, cs, hw, hspace, hbracket⟩, hopens⟩ := List.forall_mem_cons.1 hopens
    have hv := hitem v (.head _) (itemChars (w :: rest) ++ after) (delimited_itemChars (w :: rest) after)
    have hcomma : skipSpace (itemChars (w :: rest) ++ after) = ',' :: (chars w ++ (itemChars rest ++ after)) := by
      rw [itemChars, List.cons_append, List.append_assoc]
      exact skipSpace_cons (by decide) _
    have ih := ih (fun x hx => hitem x (.tail _ hx)) hopens (Nat.lt_of_succ_lt_succ hfuel) (v :: acc)
    rw [hw, List.cons_append] at hcomma ih
    rw [items, hv]
    simp only [hcomma, skipSpace_cons hspace, hbracket, if_false, if_true, Char.reduceEq]
    rw [ih, List.reverse_cons, List.append_assoc]
    rfl

theorem list_chars {item : Reads Json} {vs : List Json} (hitem : ∀ v ∈ vs, ReadsBack item v)
    (hopens : ∀ v ∈ vs, Opens (chars v)) {fuel : Nat} (hfuel : vs.length ≤ fuel) (after : List Char) :
    wrap .arr (list item fuel ((chars (.arr vs)).tail ++ after)) = .ok (.arr vs, after) := by
  cases vs with
  | nil =>
    have hclose : skipSpace (']' :: after) = ']' :: after := skipSpace_cons (by decide) after
    show wrap .arr (list item fuel (']' :: after)) = _
    simp only [list, hclose, if_true, wrap]
  | cons v rest =>
    obtain ⟨⟨c, cs, hv, hspace, hbracket⟩, hopens⟩ := List.forall_mem_cons.1 hopens
    have hread := items_chars hitem hopens hfuel [] after
    rw [hv, List.cons_append] at hread
    rw [chars, List.tail_cons, List.append_assoc, hv, List.cons_append]
    simp only [list, skipSpace_cons hspace, hbracket, if_false, hread, wrap, List.reverse_nil, List.nil_append]

/-- A member is read back from what follows the opening quote of its key. -/
theorem keyed_chars {item : Reads Json} {v : Json} (hitem : ReadsBack item v) (key : String) {rest : List Char}
    (h : Delimited rest) :
    keyed item (key.toList.flatMap escapeChar ++ '"' :: ':' :: (chars v ++ rest)) = .ok ((key, v), rest) := by
  have hcolon : skipSpace (':' :: (chars v ++ rest)) = ':' :: (chars v ++ rest) := skipSpace_cons (by decide) _
  rw [keyed, string_escaped]
  simp only [colon, hcolon, if_true, hitem rest h]

/-- The members of an object are read back, those in `acc` coming first. -/
theorem memberList_chars {item : Reads Json} {key : String} {v : Json} {rest : List (String × Json)}
    (hitem : ∀ m ∈ (key, v) :: rest, ReadsBack item m.2) {fuel : Nat} (hfuel : rest.length < fuel)
    (acc : List (String × Json)) (after : List Char) :
    memberList item fuel acc (key.toList.flatMap escapeChar ++ '"' :: ':' :: (chars v ++ (memberChars rest ++ after)))
      = .ok (acc.reverse ++ (key, v) :: rest, after) := by
  induction rest generalizing key v fuel acc with
  | nil =>
    obtain ⟨fuel, rfl⟩ := Nat.exists_eq_succ_of_ne_zero (Nat.ne_of_gt hfuel)
    have hm := keyed_chars (hitem (key, v) (.head _)) key (delimited_memberChars [] after)
    have hclose : skipSpace (memberChars [] ++ after) = '\x7d' :: after := skipSpace_cons (by decide) after
    rw [memberList, hm]
    simp only [hclose, if_true, List.reverse_cons]
  | cons m rest ih =>
    obtain ⟨fuel, rfl⟩ := Nat.exists_eq_succ_of_ne_zero (Nat.ne_of_gt (Nat.zero_lt_of_lt hfuel))
    obtain ⟨key', w⟩ := m
    have hm := keyed_chars (hitem (key, v) (.head _)) key (delimited_memberChars ((key', w) :: rest) after)
    have hcomma : skipSpace (memberChars ((key', w) :: rest) ++ after) =
        ',' :: '"' :: (key'.toList.flatMap escapeChar ++ '"' :: ':' :: (chars w ++ (memberChars rest ++ after))) := by
      simp only [memberChars, stringChars, List.cons_append, List.append_assoc, List.nil_append]
      exact skipSpace_cons (by decide) _
    have hquote (cs : List Char) : skipSpace ('"' :: cs) = '"' :: cs := skipSpace_cons (by decide) cs
    have ih := ih (fun x hx => hitem x (.tail _ hx)) (Nat.lt_of_succ_lt_succ hfuel) ((key, v) :: acc)
    rw [memberList, hm]
    simp only [hcomma, hquote, if_false, if_true, Char.reduceEq]
    rw [ih, List.reverse_cons, List.append_assoc]
    rfl

theorem object_chars {item : Reads Json} {members : List (String × Json)} (hitem : ∀ m ∈ members, ReadsBack item m.2)
    {fuel : Nat} (hfuel : members.length ≤ fuel) (after : List Char) :
    wrap .obj (object item fuel ((chars (.obj members)).tail ++ after)) = .ok (.obj members, after) := by
  cases members with
  | nil =>
    have hclose : skipSpace ('\x7d' :: after) = '\x7d' :: after := skipSpace_cons (by decide) after
    show wrap .obj (object item fuel ('\x7d' :: after)) = _
    simp only [object, hclose, if_true, wrap]
  | cons m rest =>
    obtain ⟨key, v⟩ := m
    have hread := memberList_chars hitem hfuel [] after
    have hquote (cs : List Char) : skipSpace ('"' :: cs) = '"' :: cs := skipSpace_cons (by decide) cs
    simp only [chars, stringChars, List.tail_cons, List.cons_append, List.append_assoc, List.nil_append]
    simp only [object, hquote, hread, wrap, if_false, if_true, Char.reduceEq, List.reverse_nil, List.nil_append]

/-! ## Values

The reader counts the items of a container against the length of the whole text, so each part has to be shorter than its
container. -/

theorem length_itemChars_le (items : List Json) : (itemChars items).length ≤ (chars (.arr items)).length := by
  cases items with
  | nil => exact Nat.le_succ 1
  | cons v rest =>
    rw [itemChars, chars]
    exact Nat.le_refl _

theorem length_memberChars_le (members : List (String × Json)) :
    (memberChars members).length ≤ (chars (.obj members)).length := by
  cases members with
  | nil => exact Nat.le_succ 1
  | cons m rest =>
    rw [memberChars, chars]
    exact Nat.le_refl _

theorem length_items_le (items : List Json) :
    items.length ≤ (itemChars items).length ∧ ∀ v ∈ items, (chars v).length ≤ (itemChars items).length := by
  induction items with
  | nil => exact ⟨Nat.zero_le _, fun v hv => by cases hv⟩
  | cons w rest ih =>
    rw [itemChars, List.length_cons, List.length_cons, List.length_append]
    refine ⟨by omega, fun v hv => ?_⟩
    rcases List.mem_cons.1 hv with rfl | hv
    · omega
    · have := ih.2 v hv
      omega

theorem length_members_le (members : List (String × Json)) :
    members.length ≤ (memberChars members).length ∧ ∀ m ∈ members, (chars m.2).length ≤ (memberChars members).length := by
  induction members with
  | nil => exact ⟨Nat.zero_le _, fun m hm => by cases hm⟩
  | cons w rest ih =>
    rw [memberChars, List.length_cons, List.length_cons, List.length_append, List.length_cons, List.length_append]
    refine ⟨by omega, fun m hm => ?_⟩
    rcases List.mem_cons.1 hm with rfl | hm
    · omega
    · have := ih.2 m hm
      omega

theorem value_eq_valueWith (fuel depth : Nat) : ∃ inner, value fuel depth = valueWith fuel inner := by
  cases depth with
  | zero => exact ⟨none, rfl⟩
  | succ depth => exact ⟨some (value fuel depth), rfl⟩

theorem valueWith_intChars (fuel : Nat) (inner : Option (Reads Json)) {n : Int} (hword : (Number.int n).IsWord)
    {rest : List Char} (h : Delimited rest) :
    valueWith fuel inner (Decimal.intChars n ++ rest) = .ok (.num (.int n), rest) := by
  obtain ⟨hlow, hhigh⟩ := hword
  cases n with
  | negSucc n =>
    have hbound : n + 1 ≤ Nat.pow 2 63 := by omega
    have hnumber := number_natChars true (Nat.lt_of_le_of_lt hbound (by decide)) h
    rw [integer_negative (Nat.succ_pos n) hbound] at hnumber
    show wrap .num (number true (Decimal.natChars (n + 1) ++ rest)) = _
    rw [hnumber]
    rfl
  | ofNat n =>
    have hnumber := number_natChars false (Int.ofNat_lt.1 hhigh) h
    obtain ⟨d, digits, hdigits, hd⟩ := natChars_head n
    -- a digit begins no other kind of value
    have hne {c : Char} (hc : c.isDigit = false) : d ≠ c := by
      rintro rfl
      cases hc.symm.trans hd
    rw [hdigits, List.cons_append] at hnumber
    rw [Decimal.intChars, hdigits, List.cons_append, valueWith, skipSpace_cons (isSpace_of_digit hd)]
    simp only [hne (c := 'n') rfl, hne (c := 't') rfl, hne (c := 'f') rfl, hne (c := '-') rfl, hd, hnumber, if_false,
      if_true, wrap]
    rfl

/-- **The reader of values reads back what was written**, if it goes deep enough and counts far enough. -/
theorem value_readsBack {v : Json} (hwhole : v.Whole) {fuel depth : Nat} (hdepth : v.depth ≤ depth)
    (hfuel : (chars v).length ≤ fuel) : ReadsBack (value fuel depth) v := by
  intro rest hrest
  induction v using Json.induction generalizing depth rest with
  | null =>
    obtain ⟨inner, hinner⟩ := value_eq_valueWith fuel depth
    rw [hinner]
    rfl
  | bool b =>
    obtain ⟨inner, hinner⟩ := value_eq_valueWith fuel depth
    rw [hinner]
    cases b <;> rfl
  | num n =>
    obtain ⟨inner, hinner⟩ := value_eq_valueWith fuel depth
    rw [hinner]
    cases n with
    | int n => exact valueWith_intChars fuel inner hwhole hrest
    | float => exact hwhole.elim
  | str s =>
    obtain ⟨inner, hinner⟩ := value_eq_valueWith fuel depth
    have hread := string_escaped s rest
    rw [hinner, chars, stringChars, List.cons_append, List.append_assoc]
    show wrap .str (string (s.toList.flatMap escapeChar ++ '"' :: rest)) = _
    rw [hread]
    rfl
  | arr items ih =>
    rw [Whole, wholeItems_iff] at hwhole
    rw [Json.depth] at hdepth
    obtain ⟨depth, rfl⟩ := Nat.exists_eq_succ_of_ne_zero (Nat.ne_of_gt (Nat.lt_of_lt_of_le (Nat.succ_pos _) hdepth))
    have hlength := Nat.le_trans (length_itemChars_le items) hfuel
    have hitems : ∀ v ∈ items, ReadsBack (value fuel depth) v := fun v hv rest hrest =>
      ih v hv (hwhole v hv) (Nat.le_trans (depth_le_itemsDepth hv) (Nat.le_of_succ_le_succ hdepth))
        (Nat.le_trans ((length_items_le items).2 v hv) hlength) rest hrest
    have hread := list_chars hitems (fun v hv => opens_chars (hwhole v hv))
      (Nat.le_trans (length_items_le items).1 hlength) rest
    have hopen : chars (.arr items) = '[' :: (chars (.arr items)).tail := by cases items <;> rfl
    rw [hopen]
    exact hread
  | obj members ih =>
    rw [Whole, wholeMembers_iff] at hwhole
    rw [Json.depth] at hdepth
    obtain ⟨depth, rfl⟩ := Nat.exists_eq_succ_of_ne_zero (Nat.ne_of_gt (Nat.lt_of_lt_of_le (Nat.succ_pos _) hdepth))
    have hlength := Nat.le_trans (length_memberChars_le members) hfuel
    have hmembers : ∀ m ∈ members, ReadsBack (value fuel depth) m.2 := fun m hm rest hrest =>
      ih m hm (hwhole m hm) (Nat.le_trans (depth_le_membersDepth hm) (Nat.le_of_succ_le_succ hdepth))
        (Nat.le_trans ((length_members_le members).2 m hm) hlength) rest hrest
    have hread := object_chars hmembers (Nat.le_trans (length_members_le members).1 hlength) rest
    have hopen : chars (.obj members) = '\x7b' :: (chars (.obj members)).tail := by cases members <;> rfl
    rw [hopen]
    exact hread

/-! ## Texts -/

/-- **The text of a value says that value**, members in their order. -/
theorem read_render {v : Json} (hwhole : v.Whole) (hdepth : v.depth ≤ maxDepth) : read v.render = .ok v := by
  have hvalue := value_readsBack hwhole hdepth (Nat.le_refl _) [] delimited_nil
  rw [List.append_nil] at hvalue
  have hchars : readChars (chars v) = .ok v := by
    simp only [readChars, hvalue]
    rfl
  rw [read, render, String.toList_ofList, hchars]

theorem parse_render {v : Json} (hcanonical : v.Canonical) (hwhole : v.Whole) (hdepth : v.depth ≤ maxDepth) :
    parse v.render = .ok v := by
  rw [parse, read_render hwhole hdepth]
  exact congrArg Except.ok (canonical_eq_self hcanonical)

end Json

/-- **A message as text and as a value says the same.** For every canonical value whose numbers are integers of 64 bits and
whose containers nest no deeper than the reader goes, and for every limit, the compact text of the value and the value
itself decode to the same event or to the same fault. -/
theorem text_decodes_as_value (v : Json) (limit : Nat) (hcanonical : v.Canonical) (hwhole : v.Whole)
    (hdepth : v.depth ≤ Json.maxDepth) : (Message.text v.render).decode limit = (Message.json v).decode limit := by
  have hsize : (Message.text v.render).byteSize = (Message.json v).byteSize := rfl
  have hvalue : (Message.text v.render).value = (Message.json v).value := by
    show (Json.parse v.render).mapError _ = .ok v
    rw [Json.parse_render hcanonical hwhole hdepth]
    rfl
  rw [Message.decode, Message.decode, hsize, hvalue]

/-- A message with a line feed, a control character, a quote and a letter beyond ASCII in its strings, with the extreme
integers, and with a payload of the wrong shape. -/
def crookedMessage : Json :=
  .obj [("correlationId", .str "corr-\n\u0001\"é"), ("kind", .str "test-result"),
    ("payload", .arr [.int (-9223372036854775808), .arr [.obj []], .arr [], .null]), ("sequence", .nat 18446744073709551615)]

theorem text_decodes_as_value_crooked :
    (crookedMessage.Canonical ∧ crookedMessage.Whole ∧ crookedMessage.depth ≤ Json.maxDepth)
      ∧ (Message.text crookedMessage.render).decode 1048576 = (Message.json crookedMessage).decode 1048576 := by
  have hcanonical : crookedMessage.Canonical := by
    simp only [crookedMessage, Json.Canonical, Json.CanonicalMembers, Json.CanonicalItems, Json.int, Json.nat, Ascending]
    decide
  have hwhole : crookedMessage.Whole := by
    simp only [crookedMessage, Json.Whole, Json.WholeMembers, Json.WholeItems, Json.int, Json.nat, Number.IsWord]
    decide
  have hdepth : crookedMessage.depth ≤ Json.maxDepth := by decide
  exact ⟨⟨hcanonical, hwhole, hdepth⟩, text_decodes_as_value crookedMessage 1048576 hcanonical hwhole hdepth⟩

end PanelBridge
