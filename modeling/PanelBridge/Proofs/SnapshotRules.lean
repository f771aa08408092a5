import Mathlib.Data.List.Nodup
import PanelBridge.Proofs.PayloadRules
import PanelBridge.Proofs.Turns

/-!
# The snapshot obeys the rules

The rules are checked for one payload at a time, but a snapshot is put together from many: updates put functions in place
of others, drop some and add some, and diagnostics are replaced by file. The rules carry over:

* **`Snapshot.putFunction_ids`**: to put a function in place keeps the ids or adds one at the end, so none repeats.
* **`DiagnosticIndex.Grouped`**: under each file there are diagnostics of that file. Grouping, clearing and replacing
  whole files preserve it.
* **`Store.batch_sound`**: a batch whose mutations bring in only what obeys the rules leaves such a snapshot, and the
  mutations of every turn do (`Effect.sound`).
-/

namespace PanelBridge

/-! ## Diagnostics by file -/

namespace DiagnosticIndex

/-- Each file of a table has diagnostics, and they are about that file. -/
def Grouped (groups : Table String (List Diagnostic)) : Prop :=
  ∀ file ds, groups.get? file = some ds → ds ≠ [] ∧ ∀ d ∈ ds, d.file = file ∧ d.WellFormed

namespace Grouped

variable {groups : Table String (List Diagnostic)}

theorem empty : Grouped .empty := by
  intro file ds h
  cases h

theorem insert (h : Grouped groups) {file : String} {ds : List Diagnostic} (hne : ds ≠ [])
    (hds : ∀ d ∈ ds, d.file = file ∧ d.WellFormed) : Grouped (groups.insert file ds) := by
  intro other found hfound
  rw [Table.get?_insert_eq] at hfound
  split at hfound
  · rename_i heq
    cases hfound
    rw [heq]
    exact ⟨hne, hds⟩
  · exact h other found hfound

theorem erase (h : Grouped groups) (file : String) : Grouped (groups.erase file) := by
  intro other found hfound
  rw [Table.get?_erase_eq] at hfound
  split at hfound
  · cases hfound
  · exact h other found hfound

theorem addToGroup (h : Grouped groups) {d : Diagnostic} (hd : d.WellFormed) :
    Grouped (addToGroup groups d) := by
  refine h.insert (by simp) fun e he => ?_
  rcases List.mem_append.1 he with he | he
  · cases hget : groups.get? d.file with
    | none =>
      rw [hget] at he
      cases he
    | some ds =>
      rw [hget] at he
      exact (h d.file ds hget).2 e he
  · cases List.mem_singleton.1 he
    exact ⟨rfl, hd⟩

theorem addAll (h : Grouped groups) {ds : List Diagnostic} (hds : ∀ d ∈ ds, d.WellFormed) :
    Grouped (ds.foldl DiagnosticIndex.addToGroup groups) := by
  induction ds generalizing groups with
  | nil => exact h
  | cons d rest ih =>
    obtain ⟨hd, hrest⟩ := List.forall_mem_cons.1 hds
    exact ih (h.addToGroup hd) hrest

theorem insertAll (h : Grouped groups) {entries : List (String × List Diagnostic)}
    (hentries : ∀ e ∈ entries, e.2 ≠ [] ∧ ∀ d ∈ e.2, d.file = e.1 ∧ d.WellFormed) :
    Grouped (entries.foldl (fun t e => t.insert e.1 e.2) groups) := by
  induction entries generalizing groups with
  | nil => exact h
  | cons e rest ih =>
    obtain ⟨he, hrest⟩ := List.forall_mem_cons.1 hentries
    exact ih (h.insert he.1 he.2) hrest

theorem clearAll {index : DiagnosticIndex} (h : Grouped index.byFile) (files : List String) :
    Grouped (files.foldl clearFile index).byFile := by
  induction files generalizing index with
  | nil => exact h
  | cons file rest ih => exact ih (h.erase file)

end Grouped

theorem group_grouped {ds : List Diagnostic} (h : ∀ d ∈ ds, d.WellFormed) : Grouped (group ds) :=
  Grouped.empty.addAll h

theorem putGroups_grouped {index : DiagnosticIndex} {groups : Table String (List Diagnostic)}
    (hindex : Grouped index.byFile) (hgroups : Grouped groups) : Grouped (index.putGroups groups).byFile :=
  hindex.insertAll fun e he => hgroups e.1 e.2 (Table.get?_eq_some_iff.2 he)

theorem ofList_grouped {ds : List Diagnostic} (h : ∀ d ∈ ds, d.WellFormed) : Grouped (ofList ds).byFile :=
  putGroups_grouped Grouped.empty (group_grouped h)

/-- **A merge keeps the diagnostics grouped.** -/
theorem merge_grouped {index : DiagnosticIndex} {payload : DiagnosticsPayload} (hindex : Grouped index.byFile)
    (h : ∀ d ∈ payload.diagnostics, d.WellFormed) : Grouped (index.merge payload).byFile :=
  putGroups_grouped (hindex.clearAll payload.clearedFiles) (group_grouped h)

end DiagnosticIndex

/-! ## Functions put in place -/

/-- The functions of a snapshot have ids and test cases by the rules, no id repeats, and diagnostics stand under their
files. -/
structure Snapshot.WellFormed (s : Snapshot) : Prop where
  functions : ∀ f ∈ s.functions, f.WellFormed
  distinct : (s.functions.map (·.id)).Nodup
  diagnostics : DiagnosticIndex.Grouped s.diagnostics.byFile

namespace Snapshot

theorem mem_putFunction {functions : List FunctionDefinition} {f g : FunctionDefinition}
    (h : g ∈ putFunction functions f) : g = f ∨ g ∈ functions := by
  induction functions with
  | nil => exact .inl (List.mem_singleton.1 h)
  | cons first rest ih =>
    rw [putFunction] at h
    split at h <;> rcases List.mem_cons.1 h with rfl | h
    · exact .inl rfl
    · exact .inr (List.mem_cons_of_mem _ h)
    · exact .inr (List.mem_cons_self ..)
    · exact (ih h).imp_right (List.mem_cons_of_mem _)

/-- **The ids after a function was put in place**: the same ones, or one more at the end. -/
theorem putFunction_ids (functions : List FunctionDefinition) (f : FunctionDefinition) :
    (putFunction functions f).map (·.id) =
      if f.id ∈ functions.map (·.id) then functions.map (·.id) else functions.map (·.id) ++ [f.id] := by
  induction functions with
  | nil => rfl
  | cons first rest ih =>
    rw [putFunction]
    by_cases hfirst : first.id = f.id
    · simp [hfirst]
    · have hne : f.id ≠ first.id := Ne.symm hfirst
      simp only [if_neg hfirst, List.map_cons, ih, List.mem_cons, hne, false_or]
      split <;> rfl

theorem putFunction_distinct {functions : List FunctionDefinition} (f : FunctionDefinition)
    (h : (functions.map (·.id)).Nodup) : ((putFunction functions f).map (·.id)).Nodup := by
  rw [putFunction_ids]
  split
  · exact h
  · rename_i hnew
    rw [← List.concat_eq_append]
    exact h.concat hnew

/-- What holds of the functions before and of those that are put in place holds after. -/
theorem putAll_wellFormed {kept functions : List FunctionDefinition} (hkept : ∀ f ∈ kept, f.WellFormed)
    (hdistinct : (kept.map (·.id)).Nodup) (hfunctions : ∀ f ∈ functions, f.WellFormed) :
    (∀ f ∈ functions.foldl putFunction kept, f.WellFormed)
      ∧ ((functions.foldl putFunction kept).map (·.id)).Nodup := by
  induction functions generalizing kept with
  | nil => exact ⟨hkept, hdistinct⟩
  | cons f rest ih =>
    obtain ⟨hf, hrest⟩ := List.forall_mem_cons.1 hfunctions
    refine ih (fun g hg => ?_) (putFunction_distinct f hdistinct) hrest
    rcases mem_putFunction hg with rfl | hg
    · exact hf
    · exact hkept g hg

theorem ofPayload_wellFormed (sequence : Nat) {payload : ProjectPayload} (h : payload.WellFormed) :
    (ofPayload sequence payload).WellFormed :=
  ⟨h.functions, h.distinct, DiagnosticIndex.ofList_grouped h.diagnostics⟩

theorem mergeDiagnostics_wellFormed {s : Snapshot} (hs : s.WellFormed) {payload : DiagnosticsPayload}
    (h : payload.WellFormed) : (s.mergeDiagnostics payload).WellFormed :=
  ⟨hs.functions, hs.distinct, DiagnosticIndex.merge_grouped hs.diagnostics h.diagnostics⟩

/-- **An incremental update keeps the rules.** -/
theorem merge_wellFormed {s : Snapshot} (hs : s.WellFormed) (sequence : Nat) {payload : ProjectPayload}
    (h : payload.WellFormed) : (s.merge sequence payload).WellFormed := by
  have hkept : ∀ f ∈ s.functions.filter fun f => !payload.removed.contains f.id, f.WellFormed :=
    fun f hf => hs.functions f (List.mem_filter.1 hf).1
  have hdistinct : ((s.functions.filter fun f => !payload.removed.contains f.id).map (·.id)).Nodup :=
    hs.distinct.sublist (List.filter_sublist.map _)
  obtain ⟨hfunctions, hids⟩ := putAll_wellFormed hkept hdistinct h.functions
  refine ⟨hfunctions, hids, ?_⟩
  show DiagnosticIndex.Grouped (if _ then _ else _ : DiagnosticIndex).byFile
  split
  · exact hs.diagnostics
  · exact DiagnosticIndex.merge_grouped hs.diagnostics h.diagnostics

end Snapshot

/-! ## Along a session -/

/-- What a mutation brings into the snapshot obeys the rules. -/
def Mutation.Sound : Mutation → Prop
  | .replaceSnapshot snapshot => snapshot.WellFormed
  | .mergeSnapshot _ payload => payload.WellFormed
  | .mergeDiagnostics payload => payload.WellFormed
  | _ => True

/-- The snapshot of a store, if it has one, obeys the rules. -/
def Store.Sound (s : Store) : Prop := ∀ snapshot, s.snapshot = some snapshot → snapshot.WellFormed

namespace Store

/-- A mutation of other slices leaves the whole snapshot as it is. -/
theorem apply_snapshot_of_scope (s : Store) {m : Mutation} (hsnapshot : .snapshot ∉ m.scope)
    (hdiagnostics : .diagnostics ∉ m.scope) : (s.apply m).1.snapshot = s.snapshot := by
  cases m with
  | replaceSnapshot | mergeSnapshot | clearSnapshot => simp [Mutation.scope] at hsnapshot
  | mergeDiagnostics => simp [Mutation.scope] at hdiagnostics
  | _ =>
    simp only [apply]
    repeat' split
    all_goals rfl

theorem apply_sound {s : Store} (hs : s.Sound) {m : Mutation} (hm : m.Sound) : (s.apply m).1.Sound := by
  intro snapshot h
  cases m with
  | replaceSnapshot new =>
    cases h
    exact hm
  | mergeSnapshot sequence payload =>
    cases hold : s.snapshot with
    | none => simp [apply, hold] at h
    | some old =>
      simp only [apply, hold] at h
      cases h
      exact Snapshot.merge_wellFormed (hs old hold) sequence hm
  | mergeDiagnostics payload =>
    cases hold : s.snapshot with
    | none => simp [apply, hold] at h
    | some old =>
      simp only [apply, hold] at h
      cases h
      exact Snapshot.mergeDiagnostics_wellFormed (hs old hold) hm
  | clearSnapshot => cases hold : s.snapshot <;> simp [apply, hold] at h
  | _ =>
    rw [apply_snapshot_of_scope s (by simp [Mutation.scope]) (by simp [Mutation.scope])] at h
    exact hs snapshot h

theorem applyAll_sound {s : Store} (hs : s.Sound) (touched : SliceSet) {mutations : List Mutation}
    (h : ∀ m ∈ mutations, m.Sound) : (s.applyAll touched mutations).1.Sound := by
  induction mutations generalizing s touched with
  | nil => exact hs
  | cons m rest ih =>
    obtain ⟨hm, hrest⟩ := List.forall_mem_cons.1 h
    rw [applyAll_cons]
    exact ih (apply_sound hs hm) _ hrest

theorem batch_sound {s : Store} (hs : s.Sound) {mutations : List Mutation} (h : ∀ m ∈ mutations, m.Sound) :
    (s.batch mutations).1.Sound := by
  intro snapshot hsnapshot
  rw [batch_snapshot] at hsnapshot
  exact applyAll_sound hs .empty h snapshot hsnapshot

end Store

/-- **The mutations of a turn bring in only what obeys the rules**: of the three that write to the snapshot, each has
its payload from an event that was read. -/
theorem Effect.sound {p : Panel} {cause : Cause} {mutations : List Mutation} {ledger : Ledger}
    (h : Effect p cause mutations ledger) : ∀ m ∈ mutations, m.Sound := by
  cases h with
  | @projectChanged _ event sequence project _ hears kind plan =>
    have hevent := Message.decode_wellFormed hears.decodes
    have hproject : project.WellFormed := by
      rcases kind with rfl | rfl
      · exact hevent.1
      · exact hevent
    rcases (Dispatcher.planProject_commit plan).2 with ⟨-, -, rfl⟩ | rfl
    · simpa [Mutation.Sound] using hproject
    · simpa [Mutation.Sound, Dispatcher.becomeReady] using Snapshot.ofPayload_wellFormed sequence hproject
  | diagnosed hears =>
    have hpayload : DiagnosticsPayload.WellFormed _ := Message.decode_wellFormed hears.decodes
    simpa [Mutation.Sound] using hpayload
  | _ => simp [Mutation.Sound, or_imp, forall_and]

theorem Turn.sound {p q : Panel} {cause : Cause} (turn : Turn p cause q) (hp : p.store.Sound) : q.store.Sound := by
  obtain ⟨mutations, ledger, heffect, hcontent, -⟩ := turn
  have hsnapshot : q.store.snapshot = (p.store.batch mutations).1.snapshot := congrArg Content.snapshot hcontent
  intro snapshot h
  rw [hsnapshot] at h
  exact Store.batch_sound hp heffect.sound snapshot h

theorem Path.sound {p q : Panel} {moments : List Moment} (path : Path p moments q) (hp : p.store.Sound) :
    q.store.Sound :=
  path.invariant (I := fun _ p => p.store.Sound) (fun _ _ _ _ h turn => turn.sound h) [] hp

/-- **The snapshot obeys the rules, whatever the host sent.** At the end of every session that leaves a snapshot: its
functions have different ids, and each of them different test cases; every id of either kind has a character that is not
blank and at most 256 characters; and every file of the diagnostics has a name that is not blank and at least one
diagnostic, each of them about that file and none with a span that runs backwards. -/
theorem snapshot_obeys_rules (config : PanelConfig) (channel : MemoryChannel) (now : Instant) (ops : List Operation)
    (snapshot : Snapshot)
    (hsnapshot : ((Panel.new config channel now).performAll ops).2.store.snapshot = some snapshot) :
    (snapshot.functions.map (·.id)).Nodup
      ∧ (∀ f ∈ snapshot.functions, f.testCases.Nodup ∧ ∀ id ∈ f.id :: f.testCases,
          (∃ c ∈ id.toList, Text.isBlank c = false) ∧ id.length ≤ 256)
      ∧ ∀ file ds, snapshot.diagnostics.byFile.get? file = some ds →
          ds ≠ [] ∧ (∃ c ∈ file.toList, Text.isBlank c = false)
            ∧ ∀ d ∈ ds, d.file = file ∧ ∀ span, d.span = some span → span.start ≤ span.finish := by
  have hnew : (Panel.new config channel now).store.Sound := by
    intro x hx
    cases hx
  have h : snapshot.WellFormed := (Panel.history_path _ ops).sound hnew snapshot hsnapshot
  refine ⟨h.distinct, fun f hf => ⟨(h.functions f hf).distinct, fun id hid => ?_⟩, fun file ds hds => ?_⟩
  · have hisId : IsId id := by
      rcases List.mem_cons.1 hid with rfl | hid
      · exact (h.functions f hf).id
      · exact (h.functions f hf).testCases id hid
    exact ⟨Text.isBlankText_eq_false_iff.1 hisId.1, hisId.2⟩
  · obtain ⟨hne, hfile⟩ := h.diagnostics file ds hds
    refine ⟨hne, ?_, fun d hd => ⟨(hfile d hd).1, (hfile d hd).2.span⟩⟩
    -- the name of the file is known from any of its diagnostics
    obtain ⟨d, rest, rfl⟩ := List.exists_cons_of_ne_nil hne
    obtain ⟨rfl, hd⟩ := hfile d (List.mem_cons_self ..)
    exact Text.isBlankText_eq_false_iff.1 hd.file

/-- A project, and then an update that puts one of its functions in place, adds another and brings a diagnostic. -/
def mergingSession : List Operation :=
  let f : FunctionDefinition := ⟨"f", "fn f()", ["c"]⟩
  let g : FunctionDefinition := ⟨"g", "fn g()", ["c", "d"]⟩
  let remark : Diagnostic := ⟨"main.rs", .error, "unused", some ⟨3, 7⟩, some "g"⟩
  let full : Envelope := ⟨"ready", some 1, none, ProjectPayload.encode ⟨[f], [], none, false, []⟩⟩
  let update : Envelope := ⟨"project-updated", some 2, none, ProjectPayload.encode ⟨[g, f], [remark], none, true, ["h"]⟩⟩
  [.mount, .deliver (.json full.encode.canonical), .deliver (.json update.encode.canonical)]

theorem merged_snapshot_obeys_rules :
    let p := ((Panel.new {} .accepting ⟨1700000000, 0⟩).performAll mergingSession).2
    p.store.snapshot.map (fun s => (s.functions.map (·.id), s.diagnostics.byFile.keys)) =
        some (["f", "g"], ["main.rs"])
      ∧ ∃ snapshot, p.store.snapshot = some snapshot ∧ (snapshot.functions.map (·.id)).Nodup
        ∧ ∀ f ∈ snapshot.functions, f.testCases.Nodup := by
  intro p
  have hshown : p.store.snapshot.map (fun s => (s.functions.map (·.id), s.diagnostics.byFile.keys)) =
      some (["f", "g"], ["main.rs"]) := by decide +kernel
  obtain ⟨snapshot, hsnapshot, -⟩ := Option.map_eq_some_iff.1 hshown
  obtain ⟨hids, hfunctions, -⟩ := snapshot_obeys_rules {} .accepting ⟨1700000000, 0⟩ mergingSession snapshot hsnapshot
  exact ⟨hshown, snapshot, hsnapshot, hids, fun f hf => (hfunctions f hf).1⟩

end PanelBridge
