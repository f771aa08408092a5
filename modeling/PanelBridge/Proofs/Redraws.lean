import PanelBridge.Proofs.Turns

/-!
# How the snapshot is set and cleared

Two kinds of moments write the snapshot: an event about the project is applied, or the panel is reloaded out of its error
state. Both also move the readiness and settle the selection, so what they do is said here once:

* **`Dispatcher.Decides`**: the four things that can be decided about an event of the project, with their guards.
* **`Panel.TakesProject`**: the panel after an event about the project was applied (`Turn.takesProject`).
* **`Panel.StartsOver`**: the panel after a reload (`Turn.startsOver`).
-/

namespace PanelBridge

/-- The sequence number and the payload of an event about the project. -/
def Event.project? : Event → Option (Nat × ProjectPayload)
  | .ready sequence project | .projectUpdated sequence project => some (sequence, project)
  | _ => none

theorem Event.project?_of_kind {event : Event} {sequence : Nat} {project : ProjectPayload}
    (h : event = .ready sequence project ∨ event = .projectUpdated sequence project) :
    event.project? = some (sequence, project) := by
  rcases h with rfl | rfl <;> rfl

/-! ## Readiness, sequence and selection in a batch -/

namespace Store

variable (s : Store) {mutations : List Mutation}

theorem sequence_of_none {s : Store} (h : s.snapshot = none) : s.sequence = none := by
  rw [sequence, h, Option.map_none]

theorem sequence_of_some {s : Store} {snapshot : Snapshot} (h : s.snapshot = some snapshot) :
    s.sequence = some snapshot.sequence := by
  rw [sequence, h, Option.map_some]

theorem sequence_of_part {s t : Store} (h : s.part .snapshot = t.part .snapshot) : s.sequence = t.sequence := by
  have hmap := congrArg (Option.map fun part => part.1) h
  simpa [part, sequence, Function.comp_def] using hmap

theorem batch_readiness : (s.batch mutations).1.readiness = (s.applyAll .empty mutations).1.readiness := by
  rw [batch_eq]
  cases h : (s.applyAll .empty mutations).2.contains .snapshot with
  | true => rw [settle_of_touched _ h]
  | false => rw [settle_of_untouched _ h]

theorem batch_readiness_of_scope (h : ∀ m ∈ mutations, .readiness ∉ m.scope) :
    (s.batch mutations).1.readiness = s.readiness := by
  rw [batch_readiness]
  exact (applyAll_untouched s .empty h).2

theorem apply_setReadiness (readiness : Readiness) :
    (s.apply (.setReadiness readiness)).1.readiness = readiness := by
  by_cases h : s.readiness = readiness
  · rw [apply, if_pos h]
    exact h
  · rw [apply, if_neg h]

theorem batch_setReadiness (readiness : Readiness) :
    (s.batch [.setReadiness readiness]).1.readiness = readiness := by
  rw [batch_readiness]
  exact apply_setReadiness s readiness

theorem batch_selection_of_touched (htouched : (s.applyAll .empty mutations).2.contains .snapshot = true)
    (hscope : ∀ m ∈ mutations, .selection ∉ m.scope) :
    (s.batch mutations).1.selection = fittingSelection s.selection (s.batch mutations).1.snapshot := by
  have hkept : (s.applyAll .empty mutations).1.selection = s.selection :=
    (applyAll_untouched s .empty hscope).2
  rw [batch_eq, settle_of_touched _ htouched, hkept]

theorem batch_selection_of_scope (hsnapshot : ∀ m ∈ mutations, .snapshot ∉ m.scope)
    (hselection : ∀ m ∈ mutations, .selection ∉ m.scope) :
    (s.batch mutations).1.selection = s.selection := by
  rw [batch_of_scope s hsnapshot]
  exact (applyAll_untouched s .empty hselection).2

end Store

/-! ## Events about the project -/

namespace Dispatcher

/-- What is decided about an event of the project: it is behind the snapshot, it has no snapshot to be added to, it is
added to the snapshot, or it takes the snapshot's place. -/
inductive Decides (s : Store) (sequence : Nat) (project : ProjectPayload) : Plan → Prop where
  | behind {current : Nat} (visible : s.sequence = some current) (lt : sequence < current) :
      Decides s sequence project (.discard (.sequenceRegression sequence current))
  | baseless (absent : s.snapshot = none) (incremental : project.incremental = true) :
      Decides s sequence project (.discard (.noBaseSnapshot (some sequence)))
  | added {snapshot : Snapshot} (base : s.snapshot = some snapshot) (le : snapshot.sequence ≤ sequence)
      (incremental : project.incremental = true) :
      Decides s sequence project (.commit [.mergeSnapshot sequence project])
  | replaced (le : ∀ current, s.sequence = some current → current ≤ sequence)
      (full : project.incremental = false) :
      Decides s sequence project (.commit (.replaceSnapshot (.ofPayload sequence project) :: becomeReady s))

theorem planProject_decides (s : Store) (sequence : Nat) (project : ProjectPayload) :
    Decides s sequence project (planProject s sequence project) := by
  unfold planProject
  cases hs : s.snapshot with
  | none =>
    simp only
    split
    · rename_i hincremental
      exact .baseless hs hincremental
    · rename_i hfull
      exact .replaced (by simp [Store.sequence_of_none hs]) (Bool.eq_false_iff.2 hfull)
  | some snapshot =>
    have hsome : s.sequence = some snapshot.sequence := Store.sequence_of_some hs
    simp only
    split
    · rename_i hlt
      exact .behind hsome hlt
    · rename_i hge
      have hle : snapshot.sequence ≤ sequence := Nat.le_of_not_lt hge
      split
      · rename_i hincremental
        exact .added hs hle hincremental
      · rename_i hfull
        refine .replaced (fun current hcurrent => ?_) (Bool.eq_false_iff.2 hfull)
        rw [hsome] at hcurrent
        cases hcurrent
        exact hle

/-- A panel that hears events is ready after a full one. -/
theorem becomeReady_readiness {s t : Store} (touched : SliceSet) (htr : t.readiness = s.readiness)
    (hs : s.readiness = .loading ∨ s.readiness = .ready) :
    (t.applyAll touched (becomeReady s)).1.readiness = .ready := by
  unfold becomeReady
  rcases hs with hs | hs
  · rw [hs]
    exact Store.apply_setReadiness t .ready
  · rw [hs]
    exact htr.trans hs

end Dispatcher

/-- What an event about the project leaves behind, and when it is applied at all: the new snapshot has the sequence number
of the event, which is not behind the old one, and the selection fits it. -/
structure Panel.TakesProject (p : Panel) (sequence : Nat) (project : ProjectPayload) (q : Panel) : Prop where
  listening : p.store.readiness = .loading ∨ p.store.readiness = .ready
  based : project.incremental = true → p.store.snapshot ≠ none
  notBehind : ∀ current, p.store.sequence = some current → current ≤ sequence
  sequence : q.store.sequence = some sequence
  selection : q.store.selection = Store.fittingSelection p.store.selection q.store.snapshot
  readiness : q.store.readiness = if project.incremental then p.store.readiness else .ready

/-- What a reload out of the error state leaves behind. -/
structure Panel.StartsOver (p q : Panel) : Prop where
  readiness : q.store.readiness = .loading
  snapshot : q.store.snapshot = none
  selection : p.store.snapshot ≠ none → q.store.selection = .none
  unselected : p.store.snapshot = none → q.store.selection = p.store.selection

theorem Panel.Hears.listening {p : Panel} {m : Message} {event : Event} (h : p.Hears m event) :
    p.store.readiness = .loading ∨ p.store.readiness = .ready := by
  cases hr : p.store.readiness with
  | uninitialized => exact absurd hr h.mounted
  | loading => exact .inl rfl
  | ready => exact .inr rfl
  | error fault => exact absurd hr (h.noError fault)

/-- The sequence and the readiness that a plan for an event of the project leaves. -/
theorem Dispatcher.Decides.batch {s : Store} {sequence : Nat} {project : ProjectPayload}
    {mutations : List Mutation} (h : Decides s sequence project (.commit mutations))
    (hs : s.readiness = .loading ∨ s.readiness = .ready) :
    (s.batch mutations).1.sequence = some sequence
      ∧ (s.batch mutations).1.readiness = if project.incremental then s.readiness else .ready := by
  have hsequence : (s.batch mutations).1.sequence = (s.applyAll .empty mutations).1.sequence := by
    rw [Store.sequence, Store.sequence, Store.batch_snapshot]
  rw [hsequence]
  cases h with
  | added base _ hincremental =>
    constructor
    · simp only [Store.applyAll, Store.apply, base]
      rfl
    · rw [hincremental]
      exact Store.batch_readiness_of_scope s (by simp [Mutation.scope])
  | replaced _ hfull =>
    rw [Store.batch_readiness, hfull, Store.applyAll_cons]
    -- becoming ready comes after the snapshot and leaves it alone
    have hscope : ∀ m ∈ becomeReady s, .snapshot ∉ m.scope := by simp [becomeReady, Mutation.scope]
    exact ⟨Store.sequence_of_part (Store.applyAll_untouched _ _ hscope).2, becomeReady_readiness _ rfl hs⟩

/-- An event that is applied is not behind the snapshot. -/
theorem Dispatcher.Decides.notBehind {s : Store} {sequence : Nat} {project : ProjectPayload}
    {mutations : List Mutation} (h : Decides s sequence project (.commit mutations)) :
    ∀ current, s.sequence = some current → current ≤ sequence := by
  cases h with
  | added base hle =>
    intro current hcurrent
    rw [Store.sequence_of_some base] at hcurrent
    cases hcurrent
    exact hle
  | replaced hle => exact hle

theorem Dispatcher.Decides.based {s : Store} {sequence : Nat} {project : ProjectPayload}
    {mutations : List Mutation} (h : Decides s sequence project (.commit mutations))
    (hincremental : project.incremental = true) : s.snapshot ≠ none := by
  cases h with
  | added base => simp [base]
  | replaced _ hfull => cases hfull.symm.trans hincremental

theorem Dispatcher.Decides.selection_scope {s : Store} {sequence : Nat} {project : ProjectPayload}
    {mutations : List Mutation} (h : Decides s sequence project (.commit mutations)) :
    ∀ m ∈ mutations, .selection ∉ m.scope := by
  cases h with
  | added => simp [Mutation.scope]
  | replaced => simp [Mutation.scope, becomeReady]

namespace Turn

variable {p q : Panel} {cause : Cause}

theorem takesProject {m : Message} {event : Event} {sequence : Nat} {project : ProjectPayload}
    (turn : Turn p (.handled m (.applied event)) q) (hproject : event.project? = some (sequence, project)) :
    p.TakesProject sequence project q := by
  obtain ⟨mutations, ledger, heffect, hcontent, -⟩ := turn
  cases heffect with
  | idle hidle => exact hidle.elim
  | diagnosed | answered => cases hproject
  | @projectChanged _ _ n payload _ hears hkind hplan =>
    cases (Event.project?_of_kind hkind).symm.trans hproject
    have hdecides := Dispatcher.planProject_decides p.store sequence project
    rw [hplan] at hdecides
    have htouched := (Dispatcher.planProject_touches hplan).1
    have hsnapshot : q.store.snapshot = (p.store.batch mutations).1.snapshot :=
      congrArg Content.snapshot hcontent
    have hselection : q.store.selection = (p.store.batch mutations).1.selection :=
      congrArg Content.selection hcontent
    have hreadiness : q.store.readiness = (p.store.batch mutations).1.readiness :=
      congrArg Content.readiness hcontent
    obtain ⟨hbatch, hready⟩ := hdecides.batch hears.listening
    refine ⟨hears.listening, hdecides.based, hdecides.notBehind, ?_, ?_, hreadiness.trans hready⟩
    · rw [← hbatch, Store.sequence, Store.sequence, hsnapshot]
    · rw [hselection, hsnapshot]
      exact Store.batch_selection_of_touched _ htouched hdecides.selection_scope

/-- **What a reload does.** Without a snapshot there is nothing to clear, and the selection is left as it is. -/
theorem startsOver (turn : Turn p cause q) (hreloads : (⟨p, cause, q⟩ : Moment).Reloads) :
    p.StartsOver q := by
  obtain ⟨mutations, ledger, heffect, hcontent, -⟩ := turn
  obtain ⟨report, fault, rfl, herror⟩ := hreloads
  cases heffect with
  | idle hidle => exact absurd herror (hidle fault)
  | reloaded =>
    have hsnapshot : q.store.snapshot = _ := congrArg Content.snapshot hcontent
    have hselection : q.store.selection = _ := congrArg Content.selection hcontent
    have hreadiness : q.store.readiness = _ := congrArg Content.readiness hcontent
    -- only the first of the three mutations is about the snapshot
    have hrest : ∀ m ∈ [Mutation.clearPending, .setReadiness .loading], .snapshot ∉ m.scope := by
      simp [Mutation.scope]
    have hcleared : (p.store.batch [.clearSnapshot, .clearPending, .setReadiness .loading]).1.snapshot = none := by
      rw [Store.batch_snapshot, Store.applyAll_cons]
      refine Store.snapshot_none_of_part (Store.applyAll_untouched _ _ hrest).2 ?_
      cases hs : p.store.snapshot with
      | none => simp only [Store.apply, hs]
      | some snapshot => simp only [Store.apply, hs]
    refine ⟨?_, hsnapshot.trans hcleared, fun hs => ?_, fun hs => ?_⟩
    · rw [hreadiness]
      show (p.store.batch _).1.readiness = _
      rw [Store.batch_readiness, Store.applyAll_cons, Store.applyAll_cons]
      exact Store.apply_setReadiness _ .loading
    · obtain ⟨snapshot, hs⟩ := Option.ne_none_iff_exists'.1 hs
      have htouched : (p.store.applyAll .empty
          [.clearSnapshot, .clearPending, .setReadiness .loading]).2.contains .snapshot = true :=
        Store.applyAll_touched_of_head _ (by simp [Store.apply, hs])
      rw [hselection]
      show (p.store.batch _).1.selection = _
      rw [Store.batch_selection_of_touched _ htouched (by simp [Mutation.scope]), hcleared]
      rfl
    · rw [hselection]
      show (p.store.batch _).1.selection = _
      rw [Store.batch_clearSnapshot_of_none _ hs]
      exact Store.batch_selection_of_scope _ hrest (by simp [Mutation.scope])

end Turn

end PanelBridge
