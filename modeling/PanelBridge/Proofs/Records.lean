import PanelBridge.Proofs.Restatements
import PanelBridge.Schema.Record

/-!
# Records that are read and written

A decoder looks up the members of an object, so the order in which they stand cannot change what it reads. What is written is
therefore said up to an *arrangement* of the members: as they were written, or sorted by key.

* **`Arrangement`**: a way to arrange the members of objects that leaves every look-up as it is.
* **`Arrangement.Keeps`**: what a decoder has read, it reads again from what the encoder writes, arranged; and what is written
  restates what was given.
* **`Arrangement.KeepsField`**: the same for one field of a record, with one lemma for each kind of field.
* **`Arrangement.Builds`**: how a record is built from its fields, one after the other.
* **`Arrangement.record`**: a record is kept if its fields are.
-/

namespace PanelBridge

open Schema

/-- A way to arrange the members of all objects in a value. In settled values they stand in that way already. -/
structure Arrangement where
  apply : Json → Json
  Settled : Json → Prop
  settled_null : Settled .null
  settled_bool : ∀ b, Settled (.bool b)
  settled_num : ∀ n, Settled (.num n)
  settled_str : ∀ s, Settled (.str s)
  settled_items : ∀ {items}, Settled (.arr items) → ∀ v ∈ items, Settled v
  settled_members : ∀ {members}, Settled (.obj members) → ∀ m ∈ members, Settled m.2
  apply_settled : ∀ {v}, Settled v → apply v = v
  apply_arr : ∀ items, apply (.arr items) = .arr (items.map apply)
  apply_obj : ∀ members, (members.map (·.1)).Nodup → ∃ arranged, apply (.obj members) = .obj arranged
    ∧ (arranged.map (·.1)).Nodup ∧ ∀ key, arranged.lookup key = (members.lookup key).map apply

namespace Arrangement

/-- Members stay where they were written. -/
def asWritten : Arrangement where
  apply := id
  Settled _ := True
  settled_null := trivial
  settled_bool _ := trivial
  settled_num _ := trivial
  settled_str _ := trivial
  settled_items _ _ _ := trivial
  settled_members _ _ _ := trivial
  apply_settled _ := rfl
  apply_arr items := by rw [List.map_id, id]
  apply_obj members h := ⟨members, rfl, h, fun key => by rw [Option.map_id, id]⟩

/-- Members are sorted by key. -/
def sorted : Arrangement where
  apply := Json.canonical
  Settled := Json.Canonical
  settled_null := trivial
  settled_bool _ := trivial
  settled_num _ := trivial
  settled_str _ := trivial
  settled_items h := Json.canonicalItems_iff.1 h
  settled_members h := Json.canonicalMembers_iff.1 h.2
  apply_settled h := Json.canonical_eq_self h
  apply_arr items := by rw [Json.canonical, Json.canonicalItems_eq]
  apply_obj members h := by
    refine ⟨Json.canonicalMembers members [], rfl, ?_, fun key => ?_⟩
    · exact Json.nodup_of_ascending (Json.canonicalMembers_ascending members .nil)
    · rw [Json.lookup_canonicalMembers h, List.lookup_nil, Option.or_none]

variable (A : Arrangement)

/-- What was read from a settled value is read again from what is written, and what is written restates the value. -/
structure Keeps {α : Type} (d : Decoder α) (encode : α → Json) (r : Restatement) : Prop where
  again : ∀ v a, A.Settled v → d v = .ok a → d (A.apply (encode a)) = .ok a
  restates : ∀ v a, d v = .ok a → r v (encode a)

/-! ## Scalars, lists and choices -/

theorem keeps_string : A.Keeps string .str .same where
  again v s _ _ := by
    rw [A.apply_settled (A.settled_str s)]
    rfl
  restates v s h := by
    cases v with
    | str =>
      cases h
      rfl
    | _ => cases h

theorem keeps_boolean : A.Keeps boolean .bool .same where
  again v b _ _ := by
    rw [A.apply_settled (A.settled_bool b)]
    rfl
  restates v b h := by
    cases v with
    | bool =>
      cases h
      rfl
    | _ => cases h

theorem natural_nat {limit n : Nat} (expected : String) (h : n < limit) : natural limit expected (.nat n) = .ok n := by
  have hrange : 0 ≤ (n : Int) ∧ (n : Int) < limit := by omega
  rw [Json.nat, natural, if_pos hrange, Int.toNat_natCast]

/-- A number that was read is below the limit, and it is the number that was given. -/
theorem natural_eq_ok {limit n : Nat} {expected : String} {v : Json} (h : natural limit expected v = .ok n) :
    n < limit ∧ v = .nat n := by
  unfold natural at h
  split at h
  · rename_i k
    split at h
    · rename_i hrange
      cases h
      refine ⟨by omega, ?_⟩
      rw [Json.nat, Int.toNat_of_nonneg hrange.1]
    · cases h
  · cases h

theorem keeps_natural (limit : Nat) (expected : String) : A.Keeps (natural limit expected) .nat .same where
  again v n _ h := by
    rw [A.apply_settled (v := .nat n) (A.settled_num _)]
    exact natural_nat expected (natural_eq_ok h).1
  restates v n h := (natural_eq_ok h).2.symm

theorem keeps_word64 : A.Keeps word64 .nat .same := A.keeps_natural UInt64.size "u64"

theorem keeps_word32 : A.Keeps word32 .nat .same := A.keeps_natural UInt32.size "u32"

theorem keeps_anything : A.Keeps anything id .same where
  again := by
    rintro v _ hv ⟨⟩
    exact congrArg Except.ok (A.apply_settled hv)
  restates := by
    rintro v _ ⟨⟩
    rfl

theorem keeps_members : A.Keeps members .obj .same where
  again v ms hv h := by
    cases v with
    | obj =>
      cases h
      rw [A.apply_settled hv]
      rfl
    | _ => cases h
  restates v ms h := by
    cases v with
    | obj =>
      cases h
      rfl
    | _ => cases h

/-- The items are read one by one. -/
theorem decodeItems_eq_ok_iff {α : Type} {d : Decoder α} {items : List Json} {as : List α} :
    decodeItems d items = .ok as ↔ List.Forall₂ (fun v a => d v = .ok a) items as := by
  induction items generalizing as with
  | nil =>
    rw [List.forall₂_nil_left_iff, decodeItems, Except.ok.injEq]
    exact eq_comm
  | cons v rest ih =>
    rw [decodeItems, List.forall₂_cons_left_iff]
    cases hhead : d v with
    | error e => simp
    | ok a =>
      cases htail : decodeItems d rest with
      | error e => simp [← ih, htail]
      | ok others => simp [← ih, htail, eq_comm]

theorem keeps_items {α : Type} {d : Decoder α} {encode : α → Json} {r : Restatement} (hd : A.Keeps d encode r)
    {items : List Json} {as : List α} (hitems : ∀ v ∈ items, A.Settled v)
    (h : List.Forall₂ (fun v a => d v = .ok a) items as) :
    List.Forall₂ (fun v a => d v = .ok a) ((as.map encode).map A.apply) as := by
  induction h with
  | nil => exact .nil
  | cons hfirst _ ih =>
    obtain ⟨hv, hrest⟩ := List.forall_mem_cons.1 hitems
    exact .cons (hd.again _ _ hv hfirst) (ih hrest)

theorem keeps_list {α : Type} {d : Decoder α} {encode : α → Json} {r : Restatement} (hd : A.Keeps d encode r) :
    A.Keeps (listOf d) (Json.ofList encode) (.each r) where
  again v as hv h := by
    cases v with
    | arr items =>
      rw [Json.ofList, A.apply_arr]
      exact decodeItems_eq_ok_iff.2 (A.keeps_items hd (A.settled_items hv) (decodeItems_eq_ok_iff.1 h))
    | _ => cases h
  restates v as h := by
    cases v with
    | arr items =>
      refine ⟨items, as.map encode, rfl, rfl, ?_⟩
      rw [List.forall₂_map_right_iff]
      exact (decodeItems_eq_ok_iff.1 h).imp fun v a => hd.restates v a
    | _ => cases h

/-- A name that is found stands for a choice with that name. -/
theorem choiceNamed_eq_ok {α : Type} {choices : List α} {name : α → String} {key : String} {a : α}
    (h : choiceNamed choices name key = .ok a) : a ∈ choices ∧ name a = key := by
  unfold choiceNamed at h
  split at h
  · rename_i hfind
    cases h
    have hfound := List.find?_some hfind
    exact ⟨List.mem_of_find?_eq_some hfind, eq_of_beq hfound⟩
  · cases h

/-- A choice is given by its name, which may also be the only key of an object. -/
theorem choice_eq_ok {α : Type} {choices : List α} {name : α → String} {v : Json} {a : α}
    (h : choice choices name v = .ok a) :
    choiceNamed choices name (name a) = .ok a ∧ (v = .str (name a) ∨ v = .obj [(name a, .null)]) := by
  unfold choice at h
  split at h
  · obtain ⟨-, rfl⟩ := choiceNamed_eq_ok h
    exact ⟨h, .inl rfl⟩
  · rename_i key v
    cases hnamed : choiceNamed choices name key with
    | error =>
      simp only [hnamed] at h
      cases h
    | ok b =>
      simp only [hnamed] at h
      split at h
      · rename_i hnull
        cases h
        obtain ⟨-, rfl⟩ := choiceNamed_eq_ok hnamed
        cases v with
        | null => exact ⟨hnamed, .inr rfl⟩
        | _ => cases hnull
      · cases h
  · cases h
  · cases h

/-- A choice is written by its name, also if it was read off an object. -/
theorem keeps_choice {α : Type} (choices : List α) (name : α → String) :
    A.Keeps (choice choices name) (.str <| name ·) (.oneOf (choices.map name)) where
  again v a _ h := by
    rw [A.apply_settled (A.settled_str _)]
    exact (choice_eq_ok h).1
  restates v a h := by
    obtain ⟨hnamed, hgiven⟩ := choice_eq_ok h
    exact ⟨name a, List.mem_map_of_mem (choiceNamed_eq_ok hnamed).1, hgiven, rfl⟩

/-! ## Fields -/

/-- The members of a record, given by its names, each with the value that is written under it, if any. -/
def membersOf (slots : List (String × Option Json)) : List (String × Json) :=
  slots.filterMap fun slot => slot.2.map (slot.1, ·)

theorem membersOf_sublist (slots : List (String × Option Json)) :
    ((membersOf slots).map (·.1)).Sublist (slots.map (·.1)) := by
  induction slots with
  | nil => exact .slnil
  | cons slot rest ih =>
    obtain ⟨name, written⟩ := slot
    cases written with
    | none => exact .cons _ ih
    | some v => exact .cons_cons _ ih

/-- Under each name stands what its slot has. -/
theorem lookup_membersOf {slots : List (String × Option Json)} (h : (slots.map (·.1)).Nodup) {slot : String × Option Json}
    (hslot : slot ∈ slots) : (membersOf slots).lookup slot.1 = slot.2 := by
  cases hwritten : slot.2 with
  | some v =>
    have hmem : (slot.1, v) ∈ membersOf slots := List.mem_filterMap.2 ⟨slot, hslot, by rw [hwritten]; rfl⟩
    exact Json.lookup_of_mem (h.sublist (membersOf_sublist slots)) hmem
  | none =>
    refine List.lookup_eq_none_iff.2 fun m hm => bne_iff_ne.2 fun hname => ?_
    -- a member of that name would come from a slot that has something
    obtain ⟨other, hother, hsome⟩ := List.mem_filterMap.1 hm
    obtain ⟨v, hv, rfl⟩ := Option.map_eq_some_iff.1 hsome
    have hsame := Json.lookup_of_mem h hslot
    have hname : slot.1 = other.1 := hname
    rw [hname, Json.lookup_of_mem h hother, hv, hwritten] at hsame
    cases hsame

/-- The field finds nothing wrong with its value among the members, if it has one. -/
def Passes (f : Field) (members : List (String × Json)) : Prop := ∀ v, members.lookup f.name = some v → f.check v = .ok ()

/-- What was read of a field among settled members is read again, and passes its check, among members where it is written;
and what is written for it is what the part asks for. -/
structure KeepsField {α : Type} (f : Field) (p : Part) (read : List (String × Json) → Except SchemaError α)
    (slot : α → Option Json) : Prop where
  name_eq : p.name = f.name
  again : ∀ ⦃ms written a⦄, (∀ m ∈ ms, A.Settled m.2) → read ms = .ok a →
    written.lookup f.name = (slot a).map A.apply → Passes f written ∧ read written = .ok a
  holds : ∀ ⦃ms a⦄, read ms = .ok a → p.Holds (ms.lookup f.name) (slot a)

theorem check_of_ok {α : Type} {d : Decoder α} {v : Json} {a : α} (h : d v = .ok a) (name : String) :
    (field name d).check v = .ok () := by
  show (d v).map _ = _
  rw [h]
  rfl

/-- What is read of a field that is written is what its decoder makes of it. -/
theorem keeps_written {α : Type} {d : Decoder α} {written : List (String × Json)} {name : String} {w : Json} {a : α}
    (hlookup : written.lookup name = some w) (h : d w = .ok a) :
    (∀ v, written.lookup name = some v → (d v).map (fun _ => ()) = .ok ()) ∧ required written name d = .ok a
      ∧ ∀ default, defaulted written name d default = .ok a := by
  refine ⟨fun v hv => ?_, ?_, fun default => ?_⟩
  · cases hlookup.symm.trans hv
    exact check_of_ok h name
  · simp only [required, hlookup, h]
  · simp only [defaulted, hlookup, h]

theorem required_eq_ok {α : Type} {d : Decoder α} {ms : List (String × Json)} {name : String} {a : α}
    (h : required ms name d = .ok a) : ∃ v, ms.lookup name = some v ∧ d v = .ok a := by
  unfold required at h
  split at h
  · rename_i v hv
    exact ⟨v, hv, h⟩
  · cases h

theorem defaulted_eq_ok {α : Type} {d : Decoder α} {ms : List (String × Json)} {name : String} {default a : α}
    (h : defaulted ms name d default = .ok a) :
    (∃ v, ms.lookup name = some v ∧ d v = .ok a) ∨ ms.lookup name = none ∧ default = a := by
  unfold defaulted at h
  split at h
  · rename_i v hv
    exact .inl ⟨v, hv, h⟩
  · rename_i hnone
    exact .inr ⟨hnone, Except.ok.inj h⟩

section Fields

variable {α : Type} {d : Decoder α} {encode : α → Json} {r : Restatement}

theorem keeps_required (hd : A.Keeps d encode r) (name : String) :
    A.KeepsField (field name d) (.required name r) (required · name d) (some <| encode ·) where
  name_eq := rfl
  again ms written a hms h hlookup := by
    obtain ⟨v, hv, hread⟩ := required_eq_ok h
    obtain ⟨hpasses, hagain, -⟩ := keeps_written hlookup (hd.again v a (hms _ (Json.mem_of_lookup hv)) hread)
    exact ⟨hpasses, hagain⟩
  holds ms a h := by
    obtain ⟨v, hv, hread⟩ := required_eq_ok h
    have hv : ms.lookup (field name d).name = some v := hv
    rw [hv]
    exact .kept (hd.restates v a hread) fun hskipped => by cases hskipped

/-- A field with a default may be left out when it has its default. -/
theorem keeps_defaulted (hd : ∀ v a, A.Settled v → d v = .ok a → d (A.apply (encode a)) = .ok a) {default : α}
    (hdefault : d (A.apply (encode default)) = .ok default) {name : String} {slot : α → Option Json}
    (hslot : ∀ a, slot a = some (encode a) ∨ slot a = none ∧ a = default) {p : Part} (hname : p.name = name)
    (hgiven : ∀ v a, d v = .ok a → p.Holds (some v) (slot a)) (hmissing : p.Holds none (slot default)) :
    A.KeepsField (fieldOr name d) p (defaulted · name d default) slot where
  name_eq := hname
  again ms written a hms h hlookup := by
    have hagain : d (A.apply (encode a)) = .ok a := by
      rcases defaulted_eq_ok h with ⟨v, hv, hread⟩ | ⟨-, rfl⟩
      · exact hd v a (hms _ (Json.mem_of_lookup hv)) hread
      · exact hdefault
    rcases hslot a with hsome | ⟨hnone, rfl⟩
    · rw [hsome] at hlookup
      obtain ⟨hpasses, -, hread⟩ := keeps_written hlookup hagain
      exact ⟨hpasses, hread default⟩
    · have hlookup : written.lookup name = none := by rw [hnone] at hlookup; exact hlookup
      refine ⟨fun v hv => ?_, ?_⟩
      · cases hlookup.symm.trans hv
      · show defaulted written name d a = .ok a
        simp only [defaulted, hlookup]
  holds ms a h := by
    show p.Holds (ms.lookup name) (slot a)
    rcases defaulted_eq_ok h with ⟨v, hv, hread⟩ | ⟨hnone, rfl⟩
    · rw [hv]
      exact hgiven v a hread
    · rw [hnone]
      exact hmissing

/-- A field that is always written, with its default if it was not given. -/
theorem keeps_filled (hd : A.Keeps d encode r) {default : α} (hdefault : d (A.apply (encode default)) = .ok default)
    (name : String) :
    A.KeepsField (fieldOr name d) (.filled name (encode default) r) (defaulted · name d default) (some <| encode ·) :=
  A.keeps_defaulted hd.again hdefault (fun _ => .inl rfl) rfl
    (fun v a h => .kept (hd.restates v a h) fun hskipped => by cases hskipped) (.filled rfl)

theorem nullable_of_ne (d : Decoder α) {v : Json} (h : v ≠ .null) : nullable d v = (d v).map some := by
  cases v with
  | null => exact absurd rfl h
  | _ => rfl

/-- What may be null was null, or it was read as what it is. -/
theorem nullable_eq_ok {v : Json} {a : Option α} (h : nullable d v = .ok a) :
    v = .null ∧ a = none ∨ v ≠ .null ∧ ∃ b, a = some b ∧ d v = .ok b := by
  by_cases hne : v = .null
  · rw [hne] at h
    cases h
    exact .inl ⟨hne, rfl⟩
  · rw [nullable_of_ne d hne] at h
    cases hd : d v with
    | error => rw [hd] at h; cases h
    | ok b =>
      rw [hd] at h
      cases h
      exact .inr ⟨hne, b, rfl, rfl⟩

/-- A field that may be left out or null is left out when there is no value. What is read otherwise must not be written as null,
or it would be read as no value. -/
theorem keeps_optional_of (hd : A.Keeps d encode r)
    (hnull : ∀ v a, A.Settled v → v ≠ .null → d v = .ok a → A.apply (encode a) ≠ .null) (name : String) :
    A.KeepsField (fieldOr name (nullable d)) (.skipped name .null r) (optional · name d) (Option.map encode) := by
  have hempty : nullable d (A.apply (.ofOption encode none)) = .ok none := by
    rw [A.apply_settled (v := .ofOption encode none) A.settled_null]
    rfl
  have hagain : ∀ v a, A.Settled v → nullable d v = .ok a → nullable d (A.apply (.ofOption encode a)) = .ok a := by
    intro v a hv h
    rcases nullable_eq_ok h with ⟨-, rfl⟩ | ⟨hne, b, rfl, hread⟩
    · exact hempty
    · show nullable d (A.apply (encode b)) = _
      rw [nullable_of_ne d (hnull v b hv hne hread), hd.again v b hv hread]
      rfl
  refine A.keeps_defaulted hagain hempty (fun a => ?_) rfl (fun v a h => ?_) (.skipped rfl (.inl rfl))
  · cases a with
    | none => exact .inr ⟨rfl, rfl⟩
    | some a => exact .inl rfl
  · rcases nullable_eq_ok h with ⟨rfl, rfl⟩ | ⟨hne, b, rfl, hread⟩
    · exact .skipped rfl (.inr rfl)
    · exact .kept (hd.restates v b hread) fun hskipped => hne (Presence.skipped.inj hskipped).symm

/-- Nothing that a decoder reads is written as null if the decoder refuses null. -/
theorem keeps_optional (hd : A.Keeps d encode r) (hrefuses : ∀ a, d .null ≠ .ok a) (name : String) :
    A.KeepsField (fieldOr name (nullable d)) (.skipped name .null r) (optional · name d) (Option.map encode) := by
  refine A.keeps_optional_of hd (fun v a hv _ h hnull => ?_) name
  have hagain := hd.again v a hv h
  rw [hnull] at hagain
  exact hrefuses a hagain

theorem keeps_emptyList (d : Decoder α) (encode : α → Json) : listOf d (A.apply (.ofList encode [])) = .ok [] := by
  rw [Json.ofList, A.apply_arr]
  rfl

theorem keeps_listField (hd : A.Keeps d encode r) (name : String) :
    A.KeepsField (fieldOr name (listOf d)) (.filled name (.arr []) (.each r)) (defaulted · name (listOf d) [])
      (some <| .ofList encode ·) :=
  A.keeps_filled (A.keeps_list hd) (A.keeps_emptyList d encode) name

/-- A list that is left out when it is empty. -/
theorem keeps_nonempty (hd : A.Keeps d encode r) (name : String) :
    A.KeepsField (fieldOr name (listOf d)) (.skipped name (.arr []) (.each r)) (defaulted · name (listOf d) [])
      (fun as => if !as.isEmpty then some (.ofList encode as) else none) := by
  have hlist := A.keeps_list hd
  refine A.keeps_defaulted hlist.again (A.keeps_emptyList d encode) (fun as => ?_) rfl (fun v as h => ?_)
    (.skipped rfl (.inl rfl))
  · cases as with
    | nil => exact .inr ⟨rfl, rfl⟩
    | cons => exact .inl rfl
  · have hrestates := hlist.restates v as h
    obtain ⟨items, written, rfl, hwritten, hitems⟩ := hlist.restates v as h
    obtain rfl := Json.arr.inj hwritten
    cases as with
    | nil =>
      rw [List.forall₂_nil_right_iff.1 hitems]
      exact .skipped rfl (.inr rfl)
    | cons a rest =>
      refine .kept hrestates fun hskipped => ?_
      cases hskipped
      cases hitems

end Fields

/-- Any value but null is written as it is. -/
theorem keeps_optionalAny (name : String) :
    A.KeepsField (fieldOr name (nullable anything)) (.skipped name .null .same) (optional · name anything) (Option.map id) := by
  refine A.keeps_optional_of A.keeps_anything (fun v a hv hne h => ?_) name
  cases h
  rw [id, A.apply_settled hv]
  exact hne

theorem keeps_flag (name : String) :
    A.KeepsField (fieldOr name boolean) (.filled name (.bool false) .same) (defaulted · name boolean false)
      (some <| .bool ·) := by
  refine A.keeps_filled A.keeps_boolean ?_ name
  rw [A.apply_settled (A.settled_bool false)]
  rfl

/-- A number with a default in its range. -/
theorem keeps_limit {limit default : Nat} (expected : String) (h : default < limit) (name : String) :
    A.KeepsField (fieldOr name (natural limit expected)) (.filled name (.nat default) .same)
      (defaulted · name (natural limit expected) default) (some <| .nat ·) := by
  refine A.keeps_filled (A.keeps_natural limit expected) ?_ name
  rw [A.apply_settled (v := .nat default) (A.settled_num _)]
  exact natural_nat expected h

/-- A field for any value, left out when it is null. -/
theorem keeps_anyField (name : String) :
    A.KeepsField (fieldOr name anything) (.skipped name .null .same) (defaulted · name anything .null)
      (fun v => if !v.isNull then some v else none) := by
  have hempty : anything (A.apply .null) = .ok .null := congrArg Except.ok (A.apply_settled A.settled_null)
  refine A.keeps_defaulted A.keeps_anything.again hempty (fun v => ?_) rfl (fun v a h => ?_) (.skipped rfl (.inl rfl))
  · cases v with
    | null => exact .inr ⟨rfl, rfl⟩
    | _ => exact .inl rfl
  · cases h
    cases v with
    | null => exact .skipped rfl (.inr rfl)
    | _ => exact .kept rfl fun hskipped => by cases hskipped

/-! ## Records -/

theorem scan_eq_ok {shape : Shape} {members : List (String × Json)} (hdistinct : (members.map (·.1)).Nodup)
    (hknown : ∀ m ∈ members, ∃ f, shape.fields.find? (fun f => f.name == m.1) = some f ∧ f.check m.2 = .ok ())
    {seen : List String} (hseen : ∀ m ∈ members, m.1 ∉ seen) : shape.scan seen members = .ok () := by
  induction members generalizing seen with
  | nil => rfl
  | cons m rest ih =>
    obtain ⟨hnew, hdistinct⟩ := List.nodup_cons.1 hdistinct
    obtain ⟨⟨f, hfind, hcheck⟩, hknown⟩ := List.forall_mem_cons.1 hknown
    obtain ⟨hunseen, hseen⟩ := List.forall_mem_cons.1 hseen
    rw [Shape.scan, hfind]
    simp only [List.contains_eq_mem, hunseen, hcheck, decide_false, Bool.false_eq_true, if_false]
    refine ih hdistinct hknown fun other hother hmem => ?_
    rcases List.mem_cons.1 hmem with heq | hmem
    · exact hnew (List.mem_map.2 ⟨other, hother, heq⟩)
    · exact hseen other hother hmem

/-- An object is accepted if its keys are distinct names of fields and every field passes its check. -/
theorem open?_obj {shape : Shape} {members : List (String × Json)} (hdistinct : (members.map (·.1)).Nodup)
    (hknown : ∀ m ∈ members, m.1 ∈ shape.names) (hpasses : ∀ f ∈ shape.fields, Passes f members) :
    shape.open? (.obj members) = .ok members := by
  have hscan : shape.scan [] members = .ok () := by
    refine scan_eq_ok hdistinct (fun m hm => ?_) fun _ _ => List.not_mem_nil
    obtain ⟨f, hf, hname⟩ := List.mem_map.1 (hknown m hm)
    have hsome : ∃ f ∈ shape.fields, (f.name == m.1) = true := ⟨f, hf, beq_iff_eq.2 hname⟩
    obtain ⟨g, hg⟩ := Option.isSome_iff_exists.1 (List.find?_isSome.2 hsome)
    have hgname : g.name = m.1 := by
      have hfound := List.find?_some hg
      exact eq_of_beq hfound
    refine ⟨g, hg, hpasses g (List.mem_of_find?_eq_some hg) m.2 ?_⟩
    rw [hgname]
    exact Json.lookup_of_mem hdistinct hm
  show (shape.scan [] members).map _ = _
  rw [hscan]
  rfl

/-- A record is opened to the members of an object, or to the items of a list with the names of the fields. -/
theorem open?_eq_ok {shape : Shape} {v : Json} {members : List (String × Json)} (h : shape.open? v = .ok members) :
    v = .obj members ∧ shape.scan [] members = .ok ()
      ∨ ∃ items, v = .arr items ∧ members = shape.names.zip items ∧ items.length ≤ shape.names.length := by
  cases v with
  | obj ms =>
    have h : (shape.scan [] ms).map (fun _ => ms) = .ok members := h
    cases hscan : shape.scan [] ms with
    | error => rw [hscan] at h; cases h
    | ok =>
      rw [hscan] at h
      cases h
      exact .inl ⟨rfl, hscan⟩
  | arr items =>
    have h : shape.ofItems items = .ok members := h
    unfold Shape.ofItems at h
    simp only at h
    split at h
    · cases h
    · split at h
      · cases h
      · split at h
        · cases h
        · rename_i hlength
          cases h
          refine .inr ⟨items, rfl, rfl, ?_⟩
          rw [Shape.names, List.length_map]
          exact Nat.le_of_not_lt hlength
  | _ => cases h

/-- What a record is opened to are parts of the value, whether it is an object or a list. -/
theorem open?_settled {shape : Shape} {v : Json} {members : List (String × Json)} (h : shape.open? v = .ok members)
    (hv : A.Settled v) : ∀ m ∈ members, A.Settled m.2 := by
  rcases open?_eq_ok h with ⟨rfl, -⟩ | ⟨items, rfl, rfl, -⟩
  · exact A.settled_members hv
  · exact fun m hm => A.settled_items hv _ (List.of_mem_zip hm).2

/-- A member that was scanned is a field that was not seen before, or the record is open and the member is none of its fields. -/
theorem scan_cons_eq_ok {shape : Shape} {m : String × Json} {rest : List (String × Json)} {seen : List String}
    (h : shape.scan seen (m :: rest) = .ok ()) :
    m.1 ∈ shape.names ∧ m.1 ∉ seen ∧ shape.scan (m.1 :: seen) rest = .ok ()
      ∨ m.1 ∉ shape.names ∧ shape.isOpen = true ∧ shape.scan seen rest = .ok () := by
  rw [Shape.scan] at h
  split at h
  · rename_i hfind
    have hother : m.1 ∉ shape.names := by
      intro hmem
      obtain ⟨f, hf, hname⟩ := List.mem_map.1 hmem
      exact List.find?_eq_none.1 hfind f hf (beq_iff_eq.2 hname)
    split at h
    · rename_i hopen
      exact .inr ⟨hother, hopen, h⟩
    · cases h
  · rename_i f hfind
    have hfield : m.1 ∈ shape.names := by
      have hname := List.find?_some hfind
      exact List.mem_map.2 ⟨f, List.mem_of_find?_eq_some hfind, eq_of_beq hname⟩
    split at h
    · cases h
    · rename_i hseen
      split at h
      · cases h
      · exact .inl ⟨hfield, by simpa using hseen, h⟩

/-- Members that were scanned are fields, each given once; an open record lets others pass. -/
theorem fields_of_scan {shape : Shape} {members : List (String × Json)} {seen : List String}
    (h : shape.scan seen members = .ok ()) :
    ((members.map (·.1)).filter (· ∈ shape.names)).Nodup
      ∧ (∀ m ∈ members, m.1 ∈ shape.names → m.1 ∉ seen)
      ∧ (shape.isOpen = false → ∀ m ∈ members, m.1 ∈ shape.names) := by
  induction members generalizing seen with
  | nil => exact ⟨.nil, List.forall_mem_nil _, fun _ => List.forall_mem_nil _⟩
  | cons m rest ih =>
    rw [List.map_cons]
    rcases scan_cons_eq_ok h with ⟨hfield, hunseen, hrest⟩ | ⟨hother, hopen, hrest⟩
    · obtain ⟨hdistinct, hnew, hknown⟩ := ih hrest
      rw [List.filter_cons_of_pos (by simpa using hfield)]
      refine ⟨List.nodup_cons.2 ⟨fun hmem => ?_, hdistinct⟩, List.forall_mem_cons.2 ⟨fun _ => hunseen, ?_⟩,
        fun hclosed => List.forall_mem_cons.2 ⟨hfield, hknown hclosed⟩⟩
      · -- a later member of that name would be one that was seen
        obtain ⟨other, hother, hname⟩ := List.mem_map.1 (List.mem_of_mem_filter hmem)
        exact hnew other hother (hname ▸ hfield) (hname ▸ List.mem_cons_self)
      · exact fun other hother hmem hseen => hnew other hother hmem (List.mem_cons_of_mem _ hseen)
    · obtain ⟨hdistinct, hnew, -⟩ := ih hrest
      rw [List.filter_cons_of_neg (by simpa using hother)]
      refine ⟨hdistinct, List.forall_mem_cons.2 ⟨fun hmem => absurd hmem hother, hnew⟩, fun hclosed => ?_⟩
      cases hopen.symm.trans hclosed

/-- Items that are named in order are found by place. -/
theorem lookup_zip {names : List String} (hnames : names.Nodup) (items : List Json) {place : Nat} {name : String}
    (hplace : names[place]? = some name) : (names.zip items).lookup name = items[place]? := by
  induction names generalizing items place with
  | nil => cases hplace
  | cons first rest ih =>
    obtain ⟨hfirst, hrest⟩ := List.nodup_cons.1 hnames
    cases items with
    | nil => rfl
    | cons item items =>
      rw [List.zip_cons_cons]
      cases place with
      | zero =>
        cases hplace
        rw [List.lookup_cons_self]
        rfl
      | succ place =>
        have hplace : rest[place]? = some name := hplace
        have hne : name ≠ first := by
          rintro rfl
          exact hfirst (List.mem_of_getElem? hplace)
        rw [List.lookup_cons, beq_eq_false_iff_ne.2 hne]
        exact ih hrest items hplace

/-- What a record is opened to has under each name what the value has for that field. -/
theorem open?_fieldOf {shape : Shape} (hdistinct : shape.names.Nodup) {v : Json} {members : List (String × Json)}
    (h : shape.open? v = .ok members) :
    Restatement.OnlyFields shape.isOpen shape.names v
      ∧ ∀ (place : Nat) (name : String), shape.names[place]? = some name →
        members.lookup name = Restatement.fieldOf v name place := by
  rcases open?_eq_ok h with ⟨rfl, hscan⟩ | ⟨items, rfl, rfl, hlength⟩
  · obtain ⟨hdistinct, -, hknown⟩ := fields_of_scan hscan
    exact ⟨⟨hdistinct, hknown⟩, fun _ _ _ => rfl⟩
  · exact ⟨hlength, fun _ _ hplace => lookup_zip hdistinct items hplace⟩

/-- How a record is built from members: one field after the other is read, and what was read is written in slots of the same
names. `slots` are those of the fields that were read before. -/
inductive Builds {β : Type} (encode : β → Json) : List Field → List Part → List (String × Option Json) →
    (List (String × Json) → Except SchemaError β) → Prop where
  | done {slots : List (String × Option Json)} {b : β} (written : encode b = .obj (membersOf slots)) :
      Builds encode [] [] slots (fun _ => pure b)
  | field {α : Type} {f : Field} {p : Part} {read : List (String × Json) → Except SchemaError α} {slot : α → Option Json}
      {fields : List Field} {parts : List Part} {slots : List (String × Option Json)}
      {build : α → List (String × Json) → Except SchemaError β} (kept : A.KeepsField f p read slot)
      (rest : ∀ a, Builds encode fields parts (slots ++ [(f.name, slot a)]) (build a)) :
      Builds encode (f :: fields) (p :: parts) slots (fun ms => read ms >>= fun a => build a ms)

/-- What was built is written with a slot for each field, which has what the field's part asks for, and it is built again from
members that the slots are among. -/
theorem Builds.keeps {β : Type} {encode : β → Json} {fields : List Field} {parts : List Part}
    {slots : List (String × Option Json)} {build : List (String × Json) → Except SchemaError β}
    (h : A.Builds encode fields parts slots build) {ms : List (String × Json)} {b : β} (hb : build ms = .ok b) :
    ∃ more, encode b = .obj (membersOf (slots ++ more)) ∧ more.map (·.1) = fields.map (·.name)
      ∧ parts.map (·.name) = fields.map (·.name)
      ∧ (∀ p ∈ parts, ∃ slot ∈ more, slot.1 = p.name ∧ p.Holds (ms.lookup p.name) slot.2)
      ∧ ((∀ m ∈ ms, A.Settled m.2) → ∀ written, (∀ slot ∈ more, written.lookup slot.1 = slot.2.map A.apply) →
        (∀ f ∈ fields, Passes f written) ∧ build written = .ok b) := by
  induction h with
  | done hwritten =>
    cases hb
    refine ⟨[], ?_, rfl, rfl, List.forall_mem_nil _, fun _ _ _ => ⟨List.forall_mem_nil _, rfl⟩⟩
    rw [List.append_nil]
    exact hwritten
  | @field α f p read slot fields parts slots build kept rest ih =>
    obtain ⟨a, hread, hb⟩ := bind_eq_ok_iff.1 hb
    obtain ⟨more, hencode, hnames, hparts, hholds, hagain⟩ := ih a hb
    refine ⟨(f.name, slot a) :: more, ?_, ?_, ?_, List.forall_mem_cons.2 ⟨?_, fun q hq => ?_⟩, fun hms written hwritten => ?_⟩
    · rw [hencode, List.append_assoc, List.singleton_append]
    · rw [List.map_cons, List.map_cons, hnames]
    · rw [List.map_cons, List.map_cons, hparts, kept.name_eq]
    · refine ⟨_, List.mem_cons_self, kept.name_eq.symm, ?_⟩
      rw [kept.name_eq]
      exact kept.holds hread
    · obtain ⟨slot, hslot, hq⟩ := hholds q hq
      exact ⟨slot, List.mem_cons_of_mem _ hslot, hq⟩
    · -- the first slot is read by its field, the others by the fields that follow
      obtain ⟨hslot, hmore⟩ := List.forall_mem_cons.1 hwritten
      obtain ⟨hpasses, hreads⟩ := kept.again hms hread hslot
      obtain ⟨hothers, hbuilds⟩ := hagain hms written hmore
      exact ⟨List.forall_mem_cons.2 ⟨hpasses, hothers⟩, bind_eq_ok_iff.2 ⟨a, hreads, hbuilds⟩⟩

section Record

variable {β : Type} {encode : β → Json} {shape : Shape} {parts : List Part}
  {build : List (String × Json) → Except SchemaError β}

/-- What is written for a record is opened and built again. -/
theorem record_again (hdistinct : shape.names.Nodup) (hbuilds : A.Builds encode shape.fields parts [] build)
    {ms : List (String × Json)} (hms : ∀ m ∈ ms, A.Settled m.2) {b : β} (hb : build ms = .ok b) :
    (shape.open? (A.apply (encode b)) >>= build) = .ok b := by
  obtain ⟨slots, hencode, hnames, -, -, hagain⟩ := hbuilds.keeps A hb
  have hslots : (slots.map (·.1)).Nodup := hnames ▸ hdistinct
  obtain ⟨written, happly, hwritten, hlookup⟩ := A.apply_obj (membersOf slots) (hslots.sublist (membersOf_sublist slots))
  obtain ⟨hpasses, hagain⟩ := hagain hms written fun slot hslot => by rw [hlookup, lookup_membersOf hslots hslot]
  have hknown : ∀ m ∈ written, m.1 ∈ shape.names := by
    intro m hm
    have hm := Json.lookup_of_mem hwritten hm
    rw [hlookup] at hm
    obtain ⟨w, hw, -⟩ := Option.map_eq_some_iff.1 hm
    show m.1 ∈ shape.fields.map (·.name)
    rw [← hnames]
    exact (membersOf_sublist slots).subset (List.mem_map.2 ⟨_, Json.mem_of_lookup hw, rfl⟩)
  rw [hencode, List.nil_append, happly]
  exact bind_eq_ok_iff.2 ⟨written, open?_obj hwritten hknown hpasses, hagain⟩

/-- What is written for a record restates what it was opened from. -/
theorem record_restates (hdistinct : shape.names.Nodup) (hbuilds : A.Builds encode shape.fields parts [] build) {v : Json}
    {ms : List (String × Json)} (hopen : shape.open? v = .ok ms) {b : β} (hb : build ms = .ok b) :
    Restatement.record shape.isOpen parts v (encode b) := by
  obtain ⟨slots, hencode, hnames, hparts, hholds, -⟩ := hbuilds.keeps A hb
  have hslots : (slots.map (·.1)).Nodup := hnames ▸ hdistinct
  have hparts : parts.map (·.name) = shape.names := hparts
  obtain ⟨honly, hfield⟩ := open?_fieldOf hdistinct hopen
  refine ⟨hparts ▸ honly, membersOf slots, hencode, ?_, fun place p hplace => ?_⟩
  · rw [hparts, Shape.names, ← hnames]
    exact membersOf_sublist slots
  · -- what was looked up by name is what the value has in that place
    obtain ⟨slot, hslot, hname, hp⟩ := hholds p (List.mem_of_getElem? hplace)
    have hat : shape.names[place]? = some p.name := by rw [← hparts, List.getElem?_map, hplace]; rfl
    rw [← hfield place p.name hat, ← hname, lookup_membersOf hslots hslot, hname]
    exact hp

/-- **A record is kept if its fields are.** -/
theorem record (hdistinct : shape.names.Nodup) (hbuilds : A.Builds encode shape.fields parts [] build) :
    A.Keeps (fun v => shape.open? v >>= build) encode (.record shape.isOpen parts) where
  again v b hv h := by
    obtain ⟨ms, hopen, hb⟩ := bind_eq_ok_iff.1 h
    exact A.record_again hdistinct hbuilds (A.open?_settled hopen hv) hb
  restates v b h := by
    obtain ⟨ms, hopen, hb⟩ := bind_eq_ok_iff.1 h
    exact A.record_restates hdistinct hbuilds hopen hb

end Record

/-! How the members of a record are written, as slots. -/

theorem whenSome_eq {α : Type} (name : String) (encode : α → Json) (a : Option α) :
    whenSome name encode a = (a.map encode).map (name, ·) := by
  cases a <;> rfl

theorem whenTrue_eq (condition : Bool) (name : String) (v : Json) :
    whenTrue condition name v = (if condition then some v else none).map (name, ·) := by
  cases condition <;> rfl

end Arrangement

end PanelBridge
