import PanelBridge.Snapshot.Index

/-!
# Diagnostics are kept by file

An update clears some files, groups the diagnostics it brings, and puts each group in place of its file's. What that
comes to is said file by file:

* **`Table.get?_insertAll`**: entries put into a table one after the other are found before those that were there.
* **`DiagnosticIndex.get?_group`**: the group of a file is the diagnostics of that file, in their order.
* **`DiagnosticIndex.get?_merge`**: what is found under a file after an update. Everything else here follows from it.
* **`DiagnosticIndex.toList_eq_flatMap`**: all diagnostics, as the files in their order.
-/

namespace PanelBridge

namespace Table

open Std

variable {κ α : Type} [Ord κ] [TransOrd κ] [LawfulEqOrd κ]

/-- Entries with ascending keys, put into a table one after the other. -/
theorem get?_insertAll (t : Table κ α) {entries : List (κ × α)} (h : Ascending entries) (k : κ) :
    (entries.foldl (fun t e => t.insert e.1 e.2) t).get? k = (findEntry k entries).or (t.get? k) := by
  induction entries generalizing t with
  | nil => rfl
  | cons e rest ih =>
    obtain ⟨hhead, hrest⟩ := List.pairwise_cons.1 h
    rw [List.foldl_cons, ih _ hrest, findEntry, get?_insert]
    by_cases hk : compare k e.1 = .eq
    · -- later entries have larger keys, so none of them has this one
      have hlater : findEntry k rest = none := by
        refine Option.eq_none_iff_forall_ne_some.2 fun v hv => ?_
        have hlt := hhead _ ((findEntry_eq_some_iff hrest).1 hv)
        rw [LawfulEqCmp.eq_of_compare hk] at hlt
        simp at hlt
      rw [if_pos hk, if_pos hk, hlater, Option.none_or, Option.some_or]
    · rw [if_neg hk, if_neg hk]

end Table

namespace DiagnosticIndex

/-! ## One update -/

/-- To have no diagnostic of a file left is to have none of that file. -/
theorem ite_filter_file {α : Type} (ds : List Diagnostic) (file : String) (without found : α) :
    (if ds.filter (·.file = file) = [] then without else found) =
      if ∃ d ∈ ds, d.file = file then found else without := by
  have hnil : ds.filter (·.file = file) = [] ↔ ¬∃ d ∈ ds, d.file = file := by simp
  by_cases hbrought : ∃ d ∈ ds, d.file = file
  · rw [if_neg fun h => hnil.1 h hbrought, if_pos hbrought]
  · rw [if_pos (hnil.2 hbrought), if_neg hbrought]

/-- **Grouping, one diagnostic after the other**: what is found under a file is followed by the diagnostics of that
file. -/
theorem get?_addAll (groups : Table String (List Diagnostic)) (ds : List Diagnostic) (file : String) :
    (ds.foldl addToGroup groups).get? file =
      if ds.filter (·.file = file) = [] then groups.get? file
      else some ((groups.get? file).getD [] ++ ds.filter (·.file = file)) := by
  induction ds generalizing groups with
  | nil => rfl
  | cons d rest ih =>
    rw [List.foldl_cons, ih, addToGroup, Table.get?_insert_eq]
    by_cases hd : d.file = file
    · subst hd
      by_cases hrest : rest.filter (·.file = d.file) = []
      · simp [hrest]
      · simp [hrest]
    · have hother : ¬ file = d.file := fun h => hd h.symm
      simp [hd, hother]

theorem get?_group (ds : List Diagnostic) (file : String) :
    (group ds).get? file = if ds.filter (·.file = file) = [] then none else some (ds.filter (·.file = file)) :=
  get?_addAll .empty ds file

theorem get?_putGroups (index : DiagnosticIndex) (groups : Table String (List Diagnostic)) (file : String) :
    (index.putGroups groups).byFile.get? file = (groups.get? file).or (index.byFile.get? file) :=
  Table.get?_insertAll index.byFile groups.ascending file

theorem get?_clearAll (index : DiagnosticIndex) (files : List String) (file : String) :
    (files.foldl clearFile index).byFile.get? file =
      if file ∈ files then none else index.byFile.get? file := by
  induction files generalizing index with
  | nil => simp
  | cons first rest ih =>
    have hfirst : (index.clearFile first).byFile.get? file =
        if file = first then none else index.byFile.get? file := Table.get?_erase_eq index.byFile first file
    rw [List.foldl_cons, ih, hfirst]
    by_cases hrest : file ∈ rest
    · simp [hrest]
    · simp [hrest]

/-- **What an update leaves under a file**: the diagnostics that it brings for the file, if there are any; otherwise
nothing if the file is cleared, and what was there if not. -/
theorem get?_merge (index : DiagnosticIndex) (payload : DiagnosticsPayload) (file : String) :
    (index.merge payload).byFile.get? file =
      if payload.diagnostics.filter (·.file = file) = [] then
        if file ∈ payload.clearedFiles then none else index.byFile.get? file
      else some (payload.diagnostics.filter (·.file = file)) := by
  rw [merge, get?_putGroups, get?_group, get?_clearAll]
  split
  · rw [Option.none_or]
  · rw [Option.some_or]

/-- An index is determined by what is found under the files. -/
theorem ext_get? {index other : DiagnosticIndex} (h : ∀ file, index.byFile.get? file = other.byFile.get? file) :
    index = other := by
  cases index
  cases other
  exact congrArg mk (Table.ext_get? h)

/-- A list on its own is an update of nothing. -/
theorem ofList_eq_merge (ds : List Diagnostic) : ofList ds = empty.merge ⟨ds, []⟩ := rfl

theorem forFile_merge (index : DiagnosticIndex) (payload : DiagnosticsPayload) (file : String) :
    (index.merge payload).forFile file =
      if payload.diagnostics.filter (·.file = file) = [] then
        if file ∈ payload.clearedFiles then [] else index.forFile file
      else payload.diagnostics.filter (·.file = file) := by
  unfold forFile
  rw [get?_merge]
  split
  · split <;> rfl
  · rfl

theorem forFile_ofList (ds : List Diagnostic) (file : String) :
    (ofList ds).forFile file = ds.filter (·.file = file) := by
  rw [ofList_eq_merge, forFile_merge]
  split
  · rename_i hnone
    rw [hnone]
    rfl
  · rfl

/-! ## All diagnostics -/

/-- **All diagnostics are those of the files, file after file.** -/
theorem toList_eq_flatMap (index : DiagnosticIndex) : index.toList = index.byFile.keys.flatMap index.forFile := by
  have hvalues : index.byFile.values = index.byFile.keys.map index.forFile := by
    unfold Table.values Table.keys
    rw [List.map_map]
    refine List.map_congr_left fun e he => ?_
    show e.2 = (index.byFile.get? e.1).getD []
    rw [Table.get?_eq_some_iff.2 he, Option.getD_some]
  rw [toList, hvalues, List.flatMap_def]

theorem length_flatten_from (groups : List (List Diagnostic)) (n : Nat) :
    groups.foldl (fun n ds => n + ds.length) n = n + groups.flatten.length := by
  induction groups generalizing n with
  | nil => rfl
  | cons ds rest ih =>
    rw [List.foldl_cons, ih, List.flatten_cons, List.length_append]
    omega

/-- Counting file by file counts them all. -/
theorem size_eq_length (index : DiagnosticIndex) : index.size = index.toList.length := by
  rw [size, length_flatten_from, Nat.zero_add, toList]

/-! ## Histories -/

/-- No file is listed without a diagnostic. -/
def Filled (index : DiagnosticIndex) : Prop := ∀ file, index.byFile.get? file ≠ some []

theorem merge_filled {index : DiagnosticIndex} (h : index.Filled) (payload : DiagnosticsPayload) :
    (index.merge payload).Filled := by
  intro file
  rw [get?_merge]
  split
  · split
    · simp
    · exact h file
  · rename_i hsome
    simpa using hsome

theorem ofList_filled (ds : List Diagnostic) : (ofList ds).Filled :=
  merge_filled (fun _ => by simp) ⟨ds, []⟩

theorem mergeAll_filled {index : DiagnosticIndex} (h : index.Filled) (payloads : List DiagnosticsPayload) :
    (payloads.foldl merge index).Filled := by
  induction payloads generalizing index with
  | nil => exact h
  | cons payload rest ih => exact ih (merge_filled h payload)

/-- The files that are listed are those with diagnostics. -/
theorem Filled.mem_keys {index : DiagnosticIndex} (h : index.Filled) (file : String) :
    file ∈ index.byFile.keys ↔ index.forFile file ≠ [] := by
  rw [Table.mem_keys_iff, forFile]
  cases hget : index.byFile.get? file with
  | none => simp
  | some ds =>
    have hds : ds ≠ [] := fun hnil => h file (hnil ▸ hget)
    simpa using hds

/-- The files that are listed stand in ascending order. -/
theorem keys_ascending (index : DiagnosticIndex) : index.byFile.keys.Pairwise (· < ·) := by
  refine List.pairwise_map.2 (index.byFile.ascending.imp fun {a b} h => ?_)
  exact compareOfLessAndEq_eq_lt.1 h

end DiagnosticIndex

/-- **Diagnostics are replaced by file.** Take any index that comes from a list by updates. After one more update, what is
found under a file is the diagnostics that the update brings for it, in their order; if there is none, nothing for a
cleared file and what was there for any other. All diagnostics are those of the files that have some, file after file in
ascending order; the number of diagnostics and of errors are counted in that list, and the diagnostics of a function are
selected from it. -/
theorem diagnostics_replaced_by_file (first : List Diagnostic) (updates : List DiagnosticsPayload) :
    let index := updates.foldl DiagnosticIndex.merge (.ofList first)
    (∀ file, (DiagnosticIndex.ofList first).forFile file = first.filter (·.file = file))
      ∧ (∀ payload file, (index.merge payload).forFile file =
          if ∃ d ∈ payload.diagnostics, d.file = file then payload.diagnostics.filter (·.file = file)
          else if file ∈ payload.clearedFiles then [] else index.forFile file)
      ∧ (∃ files : List String, files.Pairwise (· < ·) ∧ (∀ file, file ∈ files ↔ index.forFile file ≠ [])
          ∧ index.toList = files.flatMap index.forFile)
      ∧ index.size = index.toList.length
      ∧ index.errorCount = (index.toList.filter (·.severity = .error)).length
      ∧ ∀ function, index.forFunction function = index.toList.filter (·.function = some function) := by
  intro index
  have hfilled : index.Filled := DiagnosticIndex.mergeAll_filled (DiagnosticIndex.ofList_filled first) updates
  refine ⟨DiagnosticIndex.forFile_ofList first, fun payload file => ?_, ?_, index.size_eq_length, ?_, fun function => ?_⟩
  · rw [DiagnosticIndex.forFile_merge, DiagnosticIndex.ite_filter_file]
  · exact ⟨index.byFile.keys, index.keys_ascending, hfilled.mem_keys, index.toList_eq_flatMap⟩
  · exact List.countP_eq_length_filter
  · refine List.filter_congr fun d _ => Bool.eq_iff_iff.2 ?_
    rw [beq_iff_eq, decide_eq_true_iff]

end PanelBridge
