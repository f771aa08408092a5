import PanelBridge.Proofs.CommitReports
import PanelBridge.Proofs.LowerCase
import PanelBridge.Proofs.OrphanedResults

/-!
# What the filter finds

The filter and the texts of a function are lower-cased apart from each other, and then the one is searched in the other.

* **`Store.filteredFunctions_moveAll`**: a store that was run from a new one shows the functions its filter selects, whatever its
  views remember.
* **`literal_matches_found_iff`**: a filter finds every function that contains it literally exactly if its trimmed text is not
  ragged, that is, unless it has a capital sigma whose form depends on what stands around the filter in the text.
-/

namespace PanelBridge

namespace Text

theorem trim_of_blank {s : String} (h : isBlankText s = true) : trim s = "" := by
  have hstart : trimStart s.toList = [] := List.dropWhile_eq_nil_iff.2 (List.all_eq_true.1 h)
  unfold trim trimChars
  rw [hstart]
  rfl

theorem toList_lowercase (s : String) : (lowercase s).toList = lowerAfter [] s.toList := String.toList_ofList

end Text

/-- A text occurs literally in the id or the signature of a function. -/
def FunctionDefinition.Mentions (f : FunctionDefinition) (part : List Char) : Prop :=
  part <:+: f.id.toList ∨ part <:+: f.signature.toList

namespace Store

theorem matchesNeedle_lowercase_iff {text : String} {f : FunctionDefinition} :
    matchesNeedle (Text.lowercase text) f = true ↔
      Text.lowerAfter [] text.toList <:+: Text.lowerAfter [] f.id.toList
        ∨ Text.lowerAfter [] text.toList <:+: Text.lowerAfter [] f.signature.toList := by
  unfold matchesNeedle
  rw [Bool.or_eq_true, Bool.or_eq_true, Text.contains_iff, Text.contains_iff, Text.toList_lowercase, Text.toList_lowercase,
    Text.toList_lowercase, or_assoc]
  -- the empty text is no case of its own, since it occurs everywhere
  refine or_iff_right_of_imp fun hempty => .inl ?_
  have hnil : (Text.lowercase text).toList = [] := by rw [String.isEmpty_iff.1 hempty]; rfl
  rw [← Text.toList_lowercase, hnil]
  exact List.nil_infix

theorem matchesNeedle_of_mentions {text : String} {f : FunctionDefinition} (hragged : ¬Text.Ragged text.toList)
    (h : f.Mentions text.toList) : matchesNeedle (Text.lowercase text) f = true :=
  matchesNeedle_lowercase_iff.2 (h.imp (Text.lower_infix_of_not_ragged hragged) (Text.lower_infix_of_not_ragged hragged))

/-! ## The view of a store -/

theorem remembered_moveAll {past : List ViewEvent} {s : Store} (h : ∀ v, Remembered past s v) (moves : List StoreMove) :
    ∃ later, ∀ v, Remembered later (s.moveAll moves) v := by
  induction moves generalizing past s with
  | nil => exact ⟨past, h⟩
  | cons m rest ih => exact ih (continues_move h m).remembered

theorem filteredFunctions_moveAll (capacity : Nat) (moves : List StoreMove) :
    ((Store.new capacity).moveAll moves).filteredFunctions.1
      = ((Store.new capacity).moveAll moves).computeFilteredFunctions := by
  obtain ⟨past, hpast⟩ := remembered_moveAll (remembered_new capacity) moves
  exact (readView_right (hpast .filteredFunctions)).1

/-- A store that was run from a new one, with a snapshot and a filter. -/
structure Shows (s : Store) (snapshot : Snapshot) (filter : String) : Prop where
  reached : ∃ capacity moves, s = (Store.new capacity).moveAll moves
  snapshot : s.snapshot = some snapshot
  filter : s.filter = filter

theorem Shows.filteredFunctions {s : Store} {snapshot : Snapshot} {filter : String} (h : s.Shows snapshot filter) :
    s.filteredFunctions.1 = snapshot.functions.filter (matchesNeedle (Text.lowercase (Text.trim filter))) := by
  obtain ⟨⟨capacity, moves, rfl⟩, hsnapshot, hfilter⟩ := h
  rw [filteredFunctions_moveAll]
  unfold computeFilteredFunctions
  rw [hsnapshot, hfilter]

theorem batch_filter (s : Store) (mutations : List Mutation) :
    (s.batch mutations).1.filter = (s.applyAll .empty mutations).1.filter := by
  rw [batch_eq]
  cases h : (s.applyAll .empty mutations).2.contains .snapshot with
  | true => rw [settle_of_touched _ h]
  | false => rw [settle_of_untouched _ h]

theorem apply_setFilter (s : Store) (filter : String) : (s.apply (.setFilter filter)).1 = { s with filter } := by
  rw [apply]
  split
  · rename_i hsame
    rw [← hsame]
  · rfl

/-- Any snapshot can be shown under any filter. -/
theorem exists_shows (snapshot : Snapshot) (filter : String) : ∃ s : Store, s.Shows snapshot filter := by
  let mutations : List Mutation := [.replaceSnapshot snapshot, .setFilter filter]
  have hcontent := commit_content (.new 0) mutations
  have hset : ((Store.new 0).applyAll .empty mutations).1 = { Store.new 0 with snapshot := some snapshot, filter } :=
    apply_setFilter _ filter
  refine ⟨((Store.new 0).commit mutations).2, ⟨0, [.commit mutations], rfl⟩, ?_, ?_⟩
  · exact (congrArg Content.snapshot hcontent).trans ((batch_snapshot ..).trans (congrArg Store.snapshot hset))
  · exact (congrArg Content.filter hcontent).trans ((batch_filter ..).trans (congrArg Store.filter hset))

end Store

/-! ## Literal matches -/

/-- **What the filter finds.** The filtered functions are some of the snapshot's in their order, and all of them under a blank
filter. Every function that contains the trimmed filter literally is among them, in all stores with that filter, exactly if
the trimmed filter is not ragged. -/
theorem literal_matches_found_iff (filter : String) :
    (∀ (s : Store) (snapshot : Snapshot), s.Shows snapshot filter →
      s.filteredFunctions.1.Sublist snapshot.functions
        ∧ (Text.isBlankText filter = true → s.filteredFunctions.1 = snapshot.functions))
    ∧ ((∀ (s : Store) (snapshot : Snapshot), s.Shows snapshot filter →
          ∀ f ∈ snapshot.functions, f.Mentions (Text.trim filter).toList → f ∈ s.filteredFunctions.1)
        ↔ ¬Text.Ragged (Text.trim filter).toList) := by
  refine ⟨fun s snapshot hshows => ?_, fun hfound hragged => ?_, fun hragged s snapshot hshows f hf hmentions => ?_⟩
  · rw [hshows.filteredFunctions]
    refine ⟨List.filter_sublist, fun hblank => List.filter_eq_self.2 fun f _ => ?_⟩
    rw [Text.trim_of_blank hblank]
    rfl
  · -- a function whose texts are one that the filter is missed in
    obtain ⟨text, hoccurs, hmissed⟩ := Text.exists_missed_of_ragged hragged
    let f : FunctionDefinition := ⟨String.ofList text, String.ofList text, []⟩
    obtain ⟨s, hshows⟩ := Store.exists_shows ⟨0, [f], .ofList [], none⟩ filter
    have hmentions : f.Mentions (Text.trim filter).toList := .inl (by rwa [String.toList_ofList])
    have hmem := hfound s _ hshows f (List.mem_singleton_self f) hmentions
    rw [hshows.filteredFunctions, List.mem_filter, Store.matchesNeedle_lowercase_iff, String.toList_ofList, or_self] at hmem
    exact hmissed hmem.2
  · rw [hshows.filteredFunctions, List.mem_filter]
    exact ⟨hf, Store.matchesNeedle_of_mentions hragged hmentions⟩

/-- A sigma inside the filter does no harm: the function `ΓΑΣΒ` is found under `ΑΣΒ` with a blank. -/
theorem literal_matches_found_inner_sigma :
    ∃ s : Store, ∃ snapshot : Snapshot, s.Shows snapshot " ΑΣΒ"
      ∧ ⟨"ΓΑΣΒ", "fn", []⟩ ∈ snapshot.functions ∧ ⟨"ΓΑΣΒ", "fn", []⟩ ∈ s.filteredFunctions.1 := by
  obtain ⟨s, hshows⟩ := Store.exists_shows ⟨0, [⟨"ΓΑΣΒ", "fn", []⟩], .ofList [], none⟩ " ΑΣΒ"
  refine ⟨s, _, hshows, List.mem_singleton_self _, ?_⟩
  exact (literal_matches_found_iff " ΑΣΒ").2.2 (by decide +kernel) s _ hshows _ (List.mem_singleton_self _)
    (.inl ⟨['Γ'], [], by decide +kernel⟩)

/-- A function with the id `ΑΣΒ` is loaded and the filter is set to `ΑΣ`. -/
def finalSigmaSession : List Operation :=
  [.mount, .deliver (projectMessage .ready 1 "ΑΣΒ" "c"), .act (.setFilter "ΑΣ")]

/-- The sigma ends the filter but not the word in the id, so their lower cases differ and nothing is found. -/
theorem final_sigma_not_found :
    let p := ((Panel.new {} .accepting ⟨1700000000, 0⟩).performAll finalSigmaSession).2
    p.store.snapshot.map (·.functions.map (·.id)) = some ["ΑΣΒ"] ∧ Text.contains "ΑΣΒ" (Text.trim p.store.filter) = true
      ∧ p.store.filteredFunctions.1 = [] := by
  decide +kernel

end PanelBridge
