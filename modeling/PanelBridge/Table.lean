/-!
# Ordered tables

A table maps keys to values and lists its entries in ascending key order. The order is part of the type, so
two tables with the same look-ups are the same table (`Table.ext_get?`), whatever the order of the
insertions that built them.
-/

namespace PanelBridge

open Std

/-- Entries in strictly ascending key order. -/
def Ascending {κ α : Type} [Ord κ] (entries : List (κ × α)) : Prop :=
  entries.Pairwise (fun a b => compare a.1 b.1 = .lt)

/-- A finite map whose entries are listed in ascending key order, one entry per key. -/
structure Table (κ α : Type) [Ord κ] where
  entries : List (κ × α)
  ascending : Ascending entries

namespace Table

variable {κ α β : Type} [Ord κ]

/-! ## Entry lists -/

/-- The value of the entry with key `k`. -/
def findEntry (k : κ) : List (κ × α) → Option α
  | [] => none
  | (k', v) :: rest => if compare k k' = .eq then some v else findEntry k rest

/-- Puts an entry in its place, replacing the entry with an equal key. -/
def insertEntry (k : κ) (v : α) : List (κ × α) → List (κ × α)
  | [] => [(k, v)]
  | (k', v') :: rest =>
    match compare k k' with
    | .lt => (k, v) :: (k', v') :: rest
    | .eq => (k, v) :: rest
    | .gt => (k', v') :: insertEntry k v rest

theorem mem_insertEntry {k : κ} {v : α} {e : κ × α} {l : List (κ × α)}
    (h : e ∈ insertEntry k v l) : e = (k, v) ∨ e ∈ l := by
  induction l with
  | nil => simpa [insertEntry] using h
  | cons head rest ih =>
    obtain ⟨k', v'⟩ := head
    rw [insertEntry] at h
    split at h <;> simp only [List.mem_cons] at h ⊢
    · exact h
    · rcases h with h | h
      · exact .inl h
      · exact .inr (.inr h)
    · rcases h with h | h
      · exact .inr (.inl h)
      · exact (ih h).imp_right .inr

theorem ascending_insertEntry [TransOrd κ] {k : κ} {v : α} {l : List (κ × α)} (h : Ascending l) :
    Ascending (insertEntry k v l) := by
  induction l with
  | nil => simp [insertEntry, Ascending]
  | cons head rest ih =>
    obtain ⟨k', v'⟩ := head
    have hrest : Ascending rest := (List.pairwise_cons.1 h).2
    have hhead := (List.pairwise_cons.1 h).1
    rw [insertEntry]
    split
    · rename_i hlt
      refine List.pairwise_cons.2 ⟨fun e he => ?_, h⟩
      rcases List.mem_cons.1 he with rfl | he
      · exact hlt
      · exact TransCmp.lt_trans hlt (hhead e he)
    · rename_i heq
      exact List.pairwise_cons.2 ⟨fun e he => TransCmp.lt_of_eq_of_lt heq (hhead e he), hrest⟩
    · rename_i hgt
      refine List.pairwise_cons.2 ⟨fun e he => ?_, ih hrest⟩
      rcases mem_insertEntry he with rfl | he
      · exact OrientedCmp.lt_of_gt hgt
      · exact hhead e he

/-! ## Operations -/

def empty : Table κ α := ⟨[], List.Pairwise.nil⟩

instance : Inhabited (Table κ α) := ⟨empty⟩

def get? (t : Table κ α) (k : κ) : Option α := findEntry k t.entries

def contains (t : Table κ α) (k : κ) : Bool := (t.get? k).isSome

/-- Puts a value under a key, replacing what was there. -/
def insert [TransOrd κ] (t : Table κ α) (k : κ) (v : α) : Table κ α :=
  ⟨insertEntry k v t.entries, ascending_insertEntry t.ascending⟩

/-- Keeps the entries that satisfy a test. -/
def filter (t : Table κ α) (keep : κ → α → Bool) : Table κ α :=
  ⟨t.entries.filter fun e => keep e.1 e.2, t.ascending.filter _⟩

def erase (t : Table κ α) (k : κ) : Table κ α :=
  t.filter fun k' _ => compare k k' != .eq

def mapValues (t : Table κ α) (f : κ → α → β) : Table κ β :=
  ⟨t.entries.map fun e => (e.1, f e.1 e.2), by
    rw [Ascending, List.pairwise_map]; exact t.ascending⟩

def keys (t : Table κ α) : List κ := t.entries.map (·.1)

def values (t : Table κ α) : List α := t.entries.map (·.2)

def size (t : Table κ α) : Nat := t.entries.length

def isEmpty (t : Table κ α) : Bool := t.entries.isEmpty

/-- Whether both tables have the same keys with equal values. -/
def beq [BEq κ] [BEq α] (s t : Table κ α) : Bool := s.entries == t.entries

instance [BEq κ] [BEq α] : BEq (Table κ α) := ⟨beq⟩

@[ext]
theorem ext {s t : Table κ α} (h : s.entries = t.entries) : s = t := by
  cases s; cases t; cases h; rfl

instance [DecidableEq κ] [DecidableEq α] : DecidableEq (Table κ α) := fun s t =>
  if h : s.entries = t.entries then isTrue (ext h) else isFalse fun e => h (e ▸ rfl)

/-! ## Look-ups -/

@[simp]
theorem get?_empty (k : κ) : (empty : Table κ α).get? k = none := rfl

theorem findEntry_insertEntry [TransOrd κ] (k k' : κ) (v : α) (l : List (κ × α)) :
    findEntry k' (insertEntry k v l) = if compare k' k = .eq then some v else findEntry k' l := by
  induction l with
  | nil => rfl
  | cons head rest ih =>
    obtain ⟨k₀, v₀⟩ := head
    rw [insertEntry]
    split
    · rfl
    · rename_i heq
      have hcongr : compare k' k = compare k' k₀ := TransCmp.congr_right heq
      by_cases h : compare k' k₀ = .eq <;> simp [findEntry, hcongr, h]
    · rename_i hgt
      by_cases h : compare k' k₀ = .eq
      · have hne : compare k' k ≠ .eq := by
          intro he
          have : compare k k₀ = .eq := TransCmp.eq_trans (OrientedCmp.eq_symm he) h
          rw [hgt] at this
          cases this
        simp [findEntry, h, hne]
      · simp [findEntry, h, ih]

theorem get?_insert [TransOrd κ] (t : Table κ α) (k k' : κ) (v : α) :
    (t.insert k v).get? k' = if compare k' k = .eq then some v else t.get? k' :=
  findEntry_insertEntry k k' v t.entries

theorem findEntry_eq_some_iff [TransOrd κ] [LawfulEqOrd κ] {k : κ} {v : α} {l : List (κ × α)}
    (h : Ascending l) : findEntry k l = some v ↔ (k, v) ∈ l := by
  induction l with
  | nil => simp [findEntry]
  | cons head rest ih =>
    obtain ⟨k', v'⟩ := head
    have hhead := (List.pairwise_cons.1 h).1
    have hrest : Ascending rest := (List.pairwise_cons.1 h).2
    rw [findEntry]
    split
    · rename_i heq
      obtain rfl := LawfulEqCmp.eq_of_compare heq
      have habs : (k, v) ∉ rest := by
        intro hm
        have := hhead _ hm
        simp at this
      simp [habs, eq_comm]
    · rename_i hne
      have hk : k ≠ k' := fun he => hne (he ▸ ReflCmp.compare_self)
      simp [ih hrest, hk]

theorem get?_eq_some_iff [TransOrd κ] [LawfulEqOrd κ] {t : Table κ α} {k : κ} {v : α} :
    t.get? k = some v ↔ (k, v) ∈ t.entries :=
  findEntry_eq_some_iff t.ascending

theorem get?_filter [TransOrd κ] [LawfulEqOrd κ] (t : Table κ α) (keep : κ → α → Bool) (k : κ) :
    (t.filter keep).get? k = (t.get? k).filter (keep k) := by
  apply Option.ext
  intro v
  rw [get?_eq_some_iff, Option.filter_eq_some_iff, get?_eq_some_iff]
  simp [filter]

theorem get?_erase [TransOrd κ] [LawfulEqOrd κ] (t : Table κ α) (k k' : κ) :
    (t.erase k).get? k' = if compare k k' = .eq then none else t.get? k' := by
  rw [erase, get?_filter]
  by_cases h : compare k k' = .eq <;> cases t.get? k' <;> simp [h]

@[simp]
theorem get?_insert_self [TransOrd κ] (t : Table κ α) (k : κ) (v : α) :
    (t.insert k v).get? k = some v := by
  rw [get?_insert, if_pos ReflCmp.compare_self]

theorem get?_insert_of_ne [TransOrd κ] [LawfulEqOrd κ] (t : Table κ α) {k k' : κ} (v : α)
    (h : k' ≠ k) : (t.insert k v).get? k' = t.get? k' := by
  rw [get?_insert, if_neg fun he => h (LawfulEqCmp.eq_of_compare he)]

@[simp]
theorem get?_erase_self [TransOrd κ] [LawfulEqOrd κ] (t : Table κ α) (k : κ) :
    (t.erase k).get? k = none := by
  rw [get?_erase, if_pos ReflCmp.compare_self]

theorem get?_erase_of_ne [TransOrd κ] [LawfulEqOrd κ] (t : Table κ α) {k k' : κ} (h : k' ≠ k) :
    (t.erase k).get? k' = t.get? k' := by
  rw [get?_erase, if_neg fun he => h (LawfulEqCmp.eq_of_compare he).symm]

theorem findEntry_map [LawfulEqOrd κ] (k : κ) (f : κ → α → β) (l : List (κ × α)) :
    findEntry k (l.map fun e => (e.1, f e.1 e.2)) = (findEntry k l).map (f k) := by
  induction l with
  | nil => rfl
  | cons e rest ih =>
    rw [List.map_cons, findEntry, findEntry]
    by_cases h : compare k e.1 = .eq
    · obtain rfl := LawfulEqCmp.eq_of_compare h
      simp
    · simp [h, ih]

@[simp]
theorem get?_mapValues [LawfulEqOrd κ] (t : Table κ α) (f : κ → α → β) (k : κ) :
    (t.mapValues f).get? k = (t.get? k).map (f k) :=
  findEntry_map k f t.entries

theorem keys_mapValues (t : Table κ α) (f : κ → α → β) : (t.mapValues f).keys = t.keys := by
  simp [keys, mapValues, Function.comp_def]

theorem values_mapValues (t : Table κ α) (f : α → β) : (t.mapValues fun _ v => f v).values = t.values.map f := by
  simp [values, mapValues, Function.comp_def]

theorem mem_values_iff [TransOrd κ] [LawfulEqOrd κ] {t : Table κ α} {v : α} :
    v ∈ t.values ↔ ∃ k, t.get? k = some v := by
  simp [values, get?_eq_some_iff]

theorem mem_keys_iff [TransOrd κ] [LawfulEqOrd κ] {t : Table κ α} {k : κ} :
    k ∈ t.keys ↔ ∃ v, t.get? k = some v := by
  simp [keys, get?_eq_some_iff]

theorem get?_insert_eq [DecidableEq κ] [TransOrd κ] [LawfulEqOrd κ] (t : Table κ α) (k k' : κ) (v : α) :
    (t.insert k v).get? k' = if k' = k then some v else t.get? k' := by
  split
  · rename_i heq
    rw [heq, get?_insert_self]
  · rename_i hne
    rw [get?_insert_of_ne t v hne]

theorem get?_erase_eq [DecidableEq κ] [TransOrd κ] [LawfulEqOrd κ] (t : Table κ α) (k k' : κ) :
    (t.erase k).get? k' = if k' = k then none else t.get? k' := by
  split
  · rename_i heq
    rw [heq, get?_erase_self]
  · rename_i hne
    rw [get?_erase_of_ne t hne]

/-- A filter that drops no entry changes nothing. -/
theorem filter_eq_self_of_size {t : Table κ α} {keep : κ → α → Bool}
    (h : (t.filter keep).size = t.size) : t.filter keep = t := by
  apply ext
  exact List.filter_sublist.eq_of_length h

theorem eq_empty_of_isEmpty {t : Table κ α} (h : t.isEmpty) : t = empty :=
  ext (List.isEmpty_iff.1 h)

/-- Sorted entry lists with the same members are the same list. -/
theorem entries_eq_of_mem_iff [TransOrd κ] {l₁ l₂ : List (κ × α)} (h₁ : Ascending l₁)
    (h₂ : Ascending l₂) (h : ∀ e, e ∈ l₁ ↔ e ∈ l₂) : l₁ = l₂ := by
  have irrefl : ∀ e : κ × α, compare e.1 e.1 ≠ .lt := fun e => by simp
  induction l₁ generalizing l₂ with
  | nil =>
    cases l₂ with
    | nil => rfl
    | cons b l₂ => exact absurd ((h b).2 (List.mem_cons_self ..)) (by simp)
  | cons a l₁ ih =>
    cases l₂ with
    | nil => exact absurd ((h a).1 (List.mem_cons_self ..)) (by simp)
    | cons b l₂ =>
      have ha := List.pairwise_cons.1 h₁
      have hb := List.pairwise_cons.1 h₂
      have hab : a = b := by
        rcases List.mem_cons.1 ((h a).1 (List.mem_cons_self ..)) with e | hm
        · exact e
        · rcases List.mem_cons.1 ((h b).2 (List.mem_cons_self ..)) with e | hm'
          · exact e.symm
          · exact absurd (TransCmp.lt_trans (ha.1 b hm') (hb.1 a hm)) (irrefl a)
      subst hab
      congr 1
      refine ih ha.2 hb.2 fun e => ⟨fun he => ?_, fun he => ?_⟩
      · rcases List.mem_cons.1 ((h e).1 (List.mem_cons_of_mem _ he)) with rfl | hm
        · exact absurd (ha.1 _ he) (irrefl _)
        · exact hm
      · rcases List.mem_cons.1 ((h e).2 (List.mem_cons_of_mem _ he)) with rfl | hm
        · exact absurd (hb.1 _ he) (irrefl _)
        · exact hm

/-- Tables that answer every look-up alike are equal. -/
theorem ext_get? [TransOrd κ] [LawfulEqOrd κ] {s t : Table κ α} (h : ∀ k, s.get? k = t.get? k) :
    s = t := by
  apply ext
  apply entries_eq_of_mem_iff s.ascending t.ascending
  rintro ⟨k, v⟩
  rw [← get?_eq_some_iff, ← get?_eq_some_iff, h]

end Table

end PanelBridge
