import PanelBridge.Json.Canonical

/-!
# JSON values by their parts

A value is a scalar or a container of values. What is proved about all values is proved here once for containers, from
their parts:

* **`Json.induction`**: induction over a value, with one case for lists and one for objects.
* **`Json.depth`**, **`Json.Whole`**: how deep containers nest, and whether all numbers are integers of 64 bits.
* **`canonical_eq_self`**: sorting the members of a value that is sorted already changes nothing.
* **`lookup_canonicalMembers`**: sorting does not change what can be looked up, if no key repeats.
-/

namespace PanelBridge

/-- An integer that fits in 64 bits, signed or not. -/
def Number.IsWord : Number → Prop
  | .int n => -(Nat.pow 2 63 : Int) ≤ n ∧ n < (UInt64.size : Int)
  | .float _ => False

namespace Json

/-- What holds of the scalars, and of a container if it holds of its parts, holds of every value. -/
@[elab_as_elim]
theorem induction {P : Json → Prop} (null : P .null) (bool : ∀ b, P (.bool b)) (num : ∀ n, P (.num n))
    (str : ∀ s, P (.str s)) (arr : ∀ items, (∀ v ∈ items, P v) → P (.arr items))
    (obj : ∀ members, (∀ m ∈ members, P m.2) → P (.obj members)) (v : Json) : P v :=
  @Json.rec P (fun items => ∀ v ∈ items, P v) (fun members => ∀ m ∈ members, P m.2) (fun m => P m.2)
    null bool num str arr obj
    (fun _ h => by cases h) (fun _ _ hv hrest => List.forall_mem_cons.2 ⟨hv, hrest⟩)
    (fun _ h => by cases h) (fun _ _ hm hrest => List.forall_mem_cons.2 ⟨hm, hrest⟩)
    (fun _ _ hv => hv) v

/-! ## Depth and numbers -/

mutual

/-- The number of containers that are open at once, at most. -/
def depth : Json → Nat
  | .arr items => itemsDepth items + 1
  | .obj members => membersDepth members + 1
  | _ => 0

def itemsDepth : List Json → Nat
  | [] => 0
  | v :: rest => max (depth v) (itemsDepth rest)

def membersDepth : List (String × Json) → Nat
  | [] => 0
  | (_, v) :: rest => max (depth v) (membersDepth rest)

end

mutual

/-- Whether every number in the value is an integer of 64 bits. -/
def Whole : Json → Prop
  | .num n => n.IsWord
  | .arr items => WholeItems items
  | .obj members => WholeMembers members
  | _ => True

def WholeItems : List Json → Prop
  | [] => True
  | v :: rest => Whole v ∧ WholeItems rest

def WholeMembers : List (String × Json) → Prop
  | [] => True
  | (_, v) :: rest => Whole v ∧ WholeMembers rest

end

theorem depth_le_itemsDepth {items : List Json} {v : Json} (h : v ∈ items) : v.depth ≤ itemsDepth items := by
  induction items with
  | nil => cases h
  | cons head rest ih =>
    rw [itemsDepth]
    rcases List.mem_cons.1 h with rfl | h
    · exact Nat.le_max_left ..
    · exact Nat.le_trans (ih h) (Nat.le_max_right ..)

theorem depth_le_membersDepth {members : List (String × Json)} {m : String × Json} (h : m ∈ members) :
    m.2.depth ≤ membersDepth members := by
  induction members with
  | nil => cases h
  | cons head rest ih =>
    rw [membersDepth]
    rcases List.mem_cons.1 h with rfl | h
    · exact Nat.le_max_left ..
    · exact Nat.le_trans (ih h) (Nat.le_max_right ..)

theorem wholeItems_iff {items : List Json} : WholeItems items ↔ ∀ v ∈ items, v.Whole := by
  induction items with
  | nil => simp [WholeItems]
  | cons v rest ih => rw [WholeItems, ih, List.forall_mem_cons]

theorem wholeMembers_iff {members : List (String × Json)} : WholeMembers members ↔ ∀ m ∈ members, m.2.Whole := by
  induction members with
  | nil => simp [WholeMembers]
  | cons m rest ih => rw [WholeMembers, ih, List.forall_mem_cons]

/-! ## Sorted members -/

theorem canonicalItems_iff {items : List Json} : CanonicalItems items ↔ ∀ v ∈ items, v.Canonical := by
  induction items with
  | nil => simp [CanonicalItems]
  | cons v rest ih => rw [CanonicalItems, ih, List.forall_mem_cons]

theorem canonicalMembers_iff {members : List (String × Json)} :
    CanonicalMembers members ↔ ∀ m ∈ members, m.2.Canonical := by
  induction members with
  | nil => simp [CanonicalMembers]
  | cons m rest ih => rw [CanonicalMembers, ih, List.forall_mem_cons]

theorem canonicalItems_eq (items : List Json) : canonicalItems items = items.map canonical := by
  induction items with
  | nil => rfl
  | cons v rest ih => rw [canonicalItems, ih, List.map_cons]

/-- An entry that comes after all others is put at the end. -/
theorem insertEntry_last {key : String} {v : Json} {sorted : List (String × Json)}
    (h : ∀ e ∈ sorted, compare e.1 key = .lt) : Table.insertEntry key v sorted = sorted ++ [(key, v)] := by
  induction sorted with
  | nil => rfl
  | cons e rest ih =>
    obtain ⟨hhead, hrest⟩ := List.forall_mem_cons.1 h
    have hgt : compare key e.1 = .gt := Std.OrientedCmp.gt_of_lt hhead
    rw [Table.insertEntry, hgt, ih hrest]
    rfl

/-- Members that are sorted stay in their places. -/
theorem canonicalMembers_eq_append {members sorted : List (String × Json)} (hascending : Ascending (sorted ++ members))
    (hvalues : ∀ m ∈ members, m.2.canonical = m.2) : canonicalMembers members sorted = sorted ++ members := by
  induction members generalizing sorted with
  | nil => rw [canonicalMembers, List.append_nil]
  | cons m rest ih =>
    obtain ⟨hv, hrest⟩ := List.forall_mem_cons.1 hvalues
    have hlast : ∀ e ∈ sorted, compare e.1 m.1 = .lt := fun e he =>
      (List.pairwise_append.1 hascending).2.2 e he m (.head _)
    rw [canonicalMembers, hv, insertEntry_last hlast, ih (List.append_cons .. ▸ hascending) hrest, ← List.append_cons]

/-- **A canonical value is its own canonical form.** -/
theorem canonical_eq_self {v : Json} (h : v.Canonical) : v.canonical = v := by
  induction v using Json.induction with
  | null | bool | num | str => rfl
  | arr items ih =>
    rw [Canonical, canonicalItems_iff] at h
    rw [canonical, canonicalItems_eq, List.map_congr_left fun v hv => ih v hv (h v hv), List.map_id']
  | obj members ih =>
    rw [Canonical, canonicalMembers_iff] at h
    have hsorted : Ascending ([] ++ members) := h.1
    rw [canonical, canonicalMembers_eq_append hsorted fun m hm => ih m hm (h.2 m hm), List.nil_append]

/-! ## Members by key -/

theorem lookup_of_mem {α : Type} {members : List (String × α)} (h : (members.map (·.1)).Nodup) {m : String × α}
    (hm : m ∈ members) : members.lookup m.1 = some m.2 := by
  induction members with
  | nil => cases hm
  | cons head rest ih =>
    obtain ⟨hnew, hrest⟩ := List.nodup_cons.1 h
    rcases List.mem_cons.1 hm with rfl | hm
    · rw [List.lookup_cons_self]
    · have hne : (m.1 == head.1) = false := beq_false_of_ne fun heq => hnew (List.mem_map.2 ⟨m, hm, heq⟩)
      rw [List.lookup_cons, hne]
      exact ih hrest hm

theorem mem_of_lookup {members : List (String × Json)} {key : String} {v : Json} (h : members.lookup key = some v) :
    (key, v) ∈ members := by
  obtain ⟨before, after, rfl, -⟩ := List.lookup_eq_some_iff.1 h
  simp

theorem findEntry_eq_lookup (key : String) (members : List (String × Json)) :
    Table.findEntry key members = members.lookup key := by
  induction members with
  | nil => rfl
  | cons m rest ih =>
    rw [Table.findEntry, List.lookup_cons, ih]
    by_cases h : key = m.1
    · rw [if_pos (h ▸ Std.ReflCmp.compare_self), beq_iff_eq.2 h]
    · rw [if_neg fun heq => h (Std.LawfulEqCmp.eq_of_compare heq), beq_false_of_ne h]

theorem nodup_of_ascending {members : List (String × Json)} (h : Ascending members) : (members.map (·.1)).Nodup := by
  rw [List.Nodup, List.pairwise_map]
  refine h.imp fun {a b} hlt heq => ?_
  have hself : compare a.1 b.1 = .eq := heq ▸ Std.ReflCmp.compare_self
  cases hlt.symm.trans hself

theorem canonicalMembers_ascending (members : List (String × Json)) {sorted : List (String × Json)}
    (h : Ascending sorted) : Ascending (canonicalMembers members sorted) := by
  induction members generalizing sorted with
  | nil => exact h
  | cons m rest ih => exact ih (Table.ascending_insertEntry h)

/-- What can be looked up after members were put into a sorted list: they come before what was there. -/
theorem lookup_canonicalMembers {members : List (String × Json)} (h : (members.map (·.1)).Nodup)
    (sorted : List (String × Json)) (key : String) :
    (canonicalMembers members sorted).lookup key = ((members.lookup key).map canonical).or (sorted.lookup key) := by
  induction members generalizing sorted with
  | nil => rfl
  | cons m rest ih =>
    obtain ⟨hnew, hrest⟩ := List.nodup_cons.1 h
    rw [canonicalMembers, ih hrest, ← findEntry_eq_lookup key (Table.insertEntry ..), Table.findEntry_insertEntry,
      findEntry_eq_lookup, List.lookup_cons]
    by_cases hkey : key = m.1
    · -- the key does not come again, so the member put in last stays
      have hnone : rest.lookup key = none := by
        refine List.lookup_eq_none_iff.2 fun other hother => ?_
        exact bne_iff_ne.2 fun heq => hnew (List.mem_map.2 ⟨other, hother, heq.symm.trans hkey⟩)
      rw [hnone, if_pos (hkey ▸ Std.ReflCmp.compare_self), beq_iff_eq.2 hkey]
      rfl
    · rw [if_neg fun heq => hkey (Std.LawfulEqCmp.eq_of_compare heq), beq_false_of_ne hkey]

end Json

end PanelBridge
