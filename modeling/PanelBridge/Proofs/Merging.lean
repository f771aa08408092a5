import PanelBridge.Proofs.DiagnosticsByFile
import PanelBridge.Proofs.SnapshotRules

/-!
# What an update makes of a snapshot

An incremental update drops the removed functions and then puts its own in place one after the other, each by a search
through a list that the functions before it have changed. No function gets in the way of another, because no id repeats:

* **`Snapshot.putAll_eq`**: the loop at once. What is kept stays in its place with its newest definition, and what is new
  follows in the order of the update.
* **`Snapshot.function?_merge`**: what is found under an id after an update.
* **`Snapshot.get?_diagnostics_merge`**: what is found under a file.
-/

namespace PanelBridge

namespace Snapshot

/-! ## One function put in place -/

theorem putFunction_of_new {functions : List FunctionDefinition} {f : FunctionDefinition}
    (h : f.id ∉ functions.map (·.id)) : putFunction functions f = functions ++ [f] := by
  induction functions with
  | nil => rfl
  | cons first rest ih =>
    simp only [List.map_cons, List.mem_cons, not_or] at h
    rw [putFunction, if_neg (Ne.symm h.1), ih h.2, List.cons_append]

/-- Only the first function with the id is replaced, and there is no other one. -/
theorem putFunction_of_present {functions : List FunctionDefinition} {f : FunctionDefinition}
    (hdistinct : (functions.map (·.id)).Nodup) (h : f.id ∈ functions.map (·.id)) :
    putFunction functions f = functions.map fun g => if g.id = f.id then f else g := by
  induction functions with
  | nil => cases h
  | cons first rest ih =>
    obtain ⟨hfirst, hrest⟩ := List.nodup_cons.1 hdistinct
    rw [putFunction, List.map_cons]
    by_cases hid : first.id = f.id
    · have hothers : rest.map (fun g => if g.id = f.id then f else g) = rest := by
        refine (List.map_congr_left fun g hg => if_neg fun hsame => ?_).trans (List.map_id' rest)
        exact hfirst (List.mem_map.2 ⟨g, hg, hsame.trans hid.symm⟩)
      rw [if_pos hid, if_pos hid, hothers]
    · have hlater : f.id ∈ rest.map (·.id) := (List.mem_cons.1 h).resolve_left (Ne.symm hid)
      rw [if_neg hid, if_neg hid, ih hrest hlater]

theorem find?_putFunction (functions : List FunctionDefinition) (f : FunctionDefinition) (id : String) :
    (putFunction functions f).find? (·.id == id) =
      if f.id = id then some f else functions.find? (·.id == id) := by
  induction functions with
  | nil => by_cases hid : f.id = id <;> simp [putFunction, hid]
  | cons first rest ih =>
    rw [putFunction]
    by_cases hid : f.id = id
    · subst hid
      by_cases hfirst : first.id = f.id
      · simp [hfirst]
      · simp [hfirst, ih]
    · by_cases hfirst : first.id = f.id
      · simp [hfirst, hid]
      · simp only [if_neg hfirst, if_neg hid, List.find?_cons, ih]

/-! ## The loop -/

theorem find?_none_of_new {functions : List FunctionDefinition} {id : String} (h : id ∉ functions.map (·.id)) :
    functions.find? (·.id == id) = none := by
  refine List.find?_eq_none.2 fun f hf hid => h ?_
  exact List.mem_map.2 ⟨f, hf, eq_of_beq hid⟩

/-- What is found under an id after functions were put in place. -/
theorem find?_putAll (kept : List FunctionDefinition) {functions : List FunctionDefinition}
    (h : (functions.map (·.id)).Nodup) (id : String) :
    (functions.foldl putFunction kept).find? (·.id == id) =
      (functions.find? (·.id == id)).or (kept.find? (·.id == id)) := by
  induction functions generalizing kept with
  | nil => rfl
  | cons f rest ih =>
    obtain ⟨hf, hrest⟩ := List.nodup_cons.1 h
    rw [List.foldl_cons, ih _ hrest, find?_putFunction, List.find?_cons]
    by_cases hid : f.id = id
    · -- the functions after this one have other ids
      subst hid
      rw [find?_none_of_new hf, if_pos rfl, beq_self_eq_true]
      rfl
    · have hother : (f.id == id) = false := beq_false_of_ne hid
      rw [if_neg hid, hother]

/-- One function before the others: in place of the one with its id, or as the first new one. -/
theorem placed_cons {kept : List FunctionDefinition} {f : FunctionDefinition} {rest : List FunctionDefinition}
    (hkept : (kept.map (·.id)).Nodup) (hf : f.id ∉ rest.map (·.id)) :
    (putFunction kept f).map (fun g => (rest.find? (·.id == g.id)).getD g)
        ++ rest.filter (·.id ∉ (putFunction kept f).map (·.id)) =
      kept.map (fun g => ((f :: rest).find? (·.id == g.id)).getD g)
        ++ (f :: rest).filter (·.id ∉ kept.map (·.id)) := by
  have hself : (rest.find? (·.id == f.id)).getD f = f := by rw [find?_none_of_new hf, Option.getD_none]
  by_cases hpresent : f.id ∈ kept.map (·.id)
  · rw [putFunction_ids, if_pos hpresent, putFunction_of_present hkept hpresent, List.map_map,
      List.filter_cons_of_neg (by simpa using hpresent)]
    congr 1
    refine List.map_congr_left fun g _ => ?_
    by_cases hg : g.id = f.id
    · simp [hg, hself]
    · have hother : (f.id == g.id) = false := beq_false_of_ne (Ne.symm hg)
      simp [hg, hother]
  · rw [putFunction_of_new hpresent, List.map_append, List.filter_cons_of_pos (by simpa using hpresent),
      List.append_assoc]
    congr 1
    · refine List.map_congr_left fun g hg => ?_
      have hother : (f.id == g.id) = false :=
        beq_false_of_ne fun hsame => hpresent (hsame ▸ List.mem_map_of_mem hg)
      simp [hother]
    · rw [List.map_singleton, hself, List.singleton_append]
      congr 1
      -- none of the others has the id that is new
      refine List.filter_congr fun g hg => ?_
      have hother : g.id ≠ f.id := fun hsame => hf (hsame ▸ List.mem_map_of_mem hg)
      simp [hother]

/-- **Putting functions in place one after the other, said at once.** -/
theorem putAll_eq {kept functions : List FunctionDefinition} (hkept : (kept.map (·.id)).Nodup)
    (hfunctions : (functions.map (·.id)).Nodup) :
    functions.foldl putFunction kept =
      kept.map (fun f => (functions.find? (·.id == f.id)).getD f)
        ++ functions.filter (·.id ∉ kept.map (·.id)) := by
  induction functions generalizing kept with
  | nil => simp
  | cons f rest ih =>
    obtain ⟨hf, hrest⟩ := List.nodup_cons.1 hfunctions
    rw [List.foldl_cons, ih (putFunction_distinct f hkept) hrest, placed_cons hkept hf]

/-! ## An update -/

/-- The functions that an update does not remove. -/
def keptBy (s : Snapshot) (payload : ProjectPayload) : List FunctionDefinition :=
  s.functions.filter (·.id ∉ payload.removed)

theorem merge_functions (s : Snapshot) (sequence : Nat) (payload : ProjectPayload) :
    (s.merge sequence payload).functions = payload.functions.foldl putFunction (s.keptBy payload) := by
  have hkept : (s.functions.filter fun f => !payload.removed.contains f.id) = s.keptBy payload :=
    List.filter_congr fun f _ => by simp
  rw [merge, hkept]

theorem keptBy_distinct {s : Snapshot} (h : (s.functions.map (·.id)).Nodup) (payload : ProjectPayload) :
    ((s.keptBy payload).map (·.id)).Nodup :=
  h.sublist (List.filter_sublist.map _)

/-- What is kept is found where it was. -/
theorem find?_keptBy (s : Snapshot) (payload : ProjectPayload) (id : String) :
    (s.keptBy payload).find? (·.id == id) = if id ∈ payload.removed then none else s.function? id := by
  rw [keptBy, List.find?_filter, function?]
  split
  · rename_i hremoved
    refine List.find?_eq_none.2 fun f _ h => ?_
    simp only [decide_eq_true_eq, beq_iff_eq] at h
    exact h.1 (h.2 ▸ hremoved)
  · rename_i hkept
    congr 1
    funext f
    by_cases hid : f.id = id
    · simp [hid, hkept]
    · simp [hid]

/-- **What is found under an id after an update**: what the update has there, or else what was there unless it is
removed. -/
theorem function?_merge (s : Snapshot) (sequence : Nat) {payload : ProjectPayload}
    (h : (payload.functions.map (·.id)).Nodup) (id : String) :
    (s.merge sequence payload).function? id =
      (payload.functions.find? (·.id == id)).or (if id ∈ payload.removed then none else s.function? id) := by
  rw [function?, merge_functions, find?_putAll _ h, find?_keptBy]

/-- **What is found under a file after an update**: the diagnostics that the update brings for it, or else what was
there. -/
theorem get?_diagnostics_merge (s : Snapshot) (sequence : Nat) (payload : ProjectPayload) (file : String) :
    (s.merge sequence payload).diagnostics.byFile.get? file =
      if payload.diagnostics.filter (·.file = file) = [] then s.diagnostics.byFile.get? file
      else some (payload.diagnostics.filter (·.file = file)) := by
  rw [merge]
  split
  · rename_i hempty
    rw [List.isEmpty_iff.1 hempty]
    rfl
  · rw [DiagnosticIndex.get?_merge]
    simp

end Snapshot

/-- **An update, said at once.** If no id repeats in the snapshot or in the update, then after the update: the functions
that are not removed stand in their old order, each with the definition that the update has for its id, if it has one;
after them stand the functions of the update whose id is not among those, in the order of the update. The sequence number
is the given one, the settings are those of the update or else the old ones, and the diagnostics of a file are those that
the update brings for it or, if it brings none, the old ones. -/
theorem update_replaces_and_appends (s : Snapshot) (sequence : Nat) (payload : ProjectPayload)
    (hsnapshot : (s.functions.map (·.id)).Nodup) (hpayload : (payload.functions.map (·.id)).Nodup) :
    let kept := s.functions.filter (·.id ∉ payload.removed)
    let merged := s.merge sequence payload
    merged.functions =
        kept.map (fun f => (payload.functions.find? (·.id == f.id)).getD f)
          ++ payload.functions.filter (·.id ∉ kept.map (·.id))
      ∧ merged.sequence = sequence
      ∧ (∀ settings, payload.settings = some settings → merged.settings = some settings)
      ∧ (payload.settings = none → merged.settings = s.settings)
      ∧ ∀ file, merged.diagnostics.byFile.get? file =
          if ∃ d ∈ payload.diagnostics, d.file = file then some (payload.diagnostics.filter (·.file = file))
          else s.diagnostics.byFile.get? file := by
  intro kept merged
  refine ⟨?_, rfl, fun settings h => ?_, fun h => ?_, fun file => ?_⟩
  · show (s.merge sequence payload).functions = _
    rw [Snapshot.merge_functions, Snapshot.putAll_eq (Snapshot.keptBy_distinct hsnapshot payload) hpayload]
    rfl
  · show payload.settings.or s.settings = some settings
    rw [h, Option.some_or]
  · show payload.settings.or s.settings = s.settings
    rw [h, Option.none_or]
  · rw [Snapshot.get?_diagnostics_merge, DiagnosticIndex.ite_filter_file]

/-- The functions `f`, `g` and `h`, with a diagnostic in each of two files. -/
def threeFunctions : Snapshot :=
  .ofPayload 1 ⟨[⟨"f", "fn f()", []⟩, ⟨"g", "fn g()", []⟩, ⟨"h", "fn h()", []⟩],
    [⟨"a.rs", .error, "old", none, none⟩, ⟨"b.rs", .info, "old", none, none⟩], none, false, []⟩

/-- An update that brings `k`, `h` and `g`, removes `g` twice and an unknown function, and has news of one file. -/
def crossedUpdate : ProjectPayload :=
  ⟨[⟨"k", "fn k()", []⟩, ⟨"h", "fn h(x)", []⟩, ⟨"g", "fn g(x)", []⟩], [⟨"a.rs", .warning, "new", none, none⟩],
    some [], true, ["g", "x", "g"]⟩

/-- A function that is removed and brought at once goes to the end. -/
theorem crossedUpdate_replaces_and_appends :
    (threeFunctions.functions.map (·.id)).Nodup ∧ (crossedUpdate.functions.map (·.id)).Nodup
      ∧ (threeFunctions.merge 2 crossedUpdate).functions.map (fun f => (f.id, f.signature)) =
          [("f", "fn f()"), ("h", "fn h(x)"), ("k", "fn k()"), ("g", "fn g(x)")] := by
  have hsnapshot : (threeFunctions.functions.map (·.id)).Nodup := by decide
  have hpayload : (crossedUpdate.functions.map (·.id)).Nodup := by decide
  refine ⟨hsnapshot, hpayload, ?_⟩
  rw [(update_replaces_and_appends threeFunctions 2 crossedUpdate hsnapshot hpayload).1]
  decide

end PanelBridge
