import PanelBridge.Proofs.Merging
import PanelBridge.Proofs.Queue
import PanelBridge.Proofs.Selection
import PanelBridge.Proofs.Sequence

/-!
# A project event that arrives twice

An event with the sequence number of the snapshot is applied, so the host may send one twice. The second time it does
nothing that shows, because each part of it does nothing the second time:

* **`Snapshot.merge_again`**: an update that was merged already finds its functions and its diagnostics there. Only the order of
  the functions may change, if the update removes a function and brings it back (`Snapshot.merge_again_functions`).
* **`Store.fittingSelection_again`**: a selection that was made to fit fits.
* **`Panel.Redrawn`**: everything that an event about the project does to the state, so that twice can be compared with once.
-/

namespace PanelBridge

theorem Table.filter_filter_self {κ α : Type} [Ord κ] (t : Table κ α) (keep : κ → α → Bool) :
    (t.filter keep).filter keep = t.filter keep := by
  apply ext
  show (t.entries.filter _).filter _ = t.entries.filter _
  rw [List.filter_filter]
  simp only [Bool.and_self]

/-! ## Snapshots -/

/-- Two snapshots say the same, but for the order of the functions. -/
structure Snapshot.SameButOrder (s t : Snapshot) : Prop where
  sequence : s.sequence = t.sequence
  settings : s.settings = t.settings
  diagnostics : s.diagnostics = t.diagnostics
  functions : ∀ id, s.function? id = t.function? id

namespace Snapshot

theorem SameButOrder.refl (s : Snapshot) : s.SameButOrder s := ⟨rfl, rfl, rfl, fun _ => rfl⟩

/-- To put a function in its own place changes nothing. -/
theorem putFunction_self {functions : List FunctionDefinition} {f : FunctionDefinition}
    (h : functions.find? (·.id == f.id) = some f) : putFunction functions f = functions := by
  induction functions with
  | nil => cases h
  | cons first rest ih =>
    rw [List.find?_cons] at h
    rw [putFunction]
    by_cases hid : first.id = f.id
    · rw [hid, beq_self_eq_true] at h
      rw [if_pos hid, Option.some.inj h]
    · rw [beq_false_of_ne hid] at h
      rw [if_neg hid, ih h]

theorem putAll_self {kept functions : List FunctionDefinition}
    (h : ∀ f ∈ functions, kept.find? (·.id == f.id) = some f) : functions.foldl putFunction kept = kept := by
  induction functions with
  | nil => rfl
  | cons f rest ih =>
    obtain ⟨hf, hrest⟩ := List.forall_mem_cons.1 h
    rw [List.foldl_cons, putFunction_self hf, ih hrest]

theorem mem_putAll {kept functions : List FunctionDefinition} {g : FunctionDefinition}
    (h : g ∈ functions.foldl putFunction kept) : g ∈ functions ∨ g ∈ kept := by
  induction functions generalizing kept with
  | nil => exact .inr h
  | cons f rest ih =>
    rcases ih h with hrest | hput
    · exact .inl (List.mem_cons_of_mem _ hrest)
    · rcases mem_putFunction hput with rfl | hkept
      · exact .inl (List.mem_cons_self ..)
      · exact .inr hkept

theorem find?_of_mem {functions : List FunctionDefinition} (h : (functions.map (·.id)).Nodup) {f : FunctionDefinition}
    (hf : f ∈ functions) : functions.find? (·.id == f.id) = some f := by
  induction functions with
  | nil => cases hf
  | cons first rest ih =>
    obtain ⟨hfirst, hrest⟩ := List.nodup_cons.1 h
    rw [List.find?_cons]
    rcases List.mem_cons.1 hf with rfl | hlater
    · rw [beq_self_eq_true]
    · have hother : first.id ≠ f.id := fun hsame => hfirst (List.mem_map.2 ⟨f, hlater, hsame.symm⟩)
      rw [beq_false_of_ne hother, ih hrest hlater]

variable (s : Snapshot) (sequence : Nat) {payload : ProjectPayload}

/-- **An update that was merged already changes nothing**, but for the order of the functions. -/
theorem merge_again (h : (payload.functions.map (·.id)).Nodup) :
    ((s.merge sequence payload).merge sequence payload).SameButOrder (s.merge sequence payload) := by
  refine ⟨rfl, ?_, DiagnosticIndex.ext_get? fun file => ?_, fun id => ?_⟩
  · show payload.settings.or (payload.settings.or s.settings) = payload.settings.or s.settings
    rw [← Option.or_assoc, Option.or_self]
  · rw [get?_diagnostics_merge, get?_diagnostics_merge]
    split <;> rfl
  · rw [function?_merge _ _ h, function?_merge _ _ h]
    cases payload.functions.find? (·.id == id) with
    | some f => rfl
    | none =>
      rw [Option.none_or, Option.none_or]
      split <;> rfl

/-- The order changes only if a function is removed and brought back. -/
theorem merge_again_functions (h : (payload.functions.map (·.id)).Nodup)
    (hdisjoint : ∀ id ∈ payload.removed, id ∉ payload.functions.map (·.id)) :
    ((s.merge sequence payload).merge sequence payload).functions = (s.merge sequence payload).functions := by
  have hkept : (s.merge sequence payload).keptBy payload = (s.merge sequence payload).functions := by
    refine List.filter_eq_self.2 fun g hg => decide_eq_true fun hremoved => ?_
    rw [merge_functions] at hg
    rcases mem_putAll hg with hbrought | hstayed
    · exact hdisjoint _ hremoved (List.mem_map_of_mem hbrought)
    · exact of_decide_eq_true (List.mem_filter.1 hstayed).2 hremoved
  rw [merge_functions _ _ payload, hkept]
  refine putAll_self fun f hf => ?_
  rw [merge_functions, find?_putAll _ h, find?_of_mem h hf, Option.some_or]

theorem SameButOrder.nil {s t : Snapshot} (h : s.SameButOrder t) (ht : t.functions = []) : s.functions = [] := by
  cases hs : s.functions with
  | nil => rfl
  | cons f rest =>
    have hfound : s.function? f.id = some f := function?_first (by rw [hs, List.head?_cons])
    rw [h.functions, function?, ht] at hfound
    cases hfound

end Snapshot

/-! ## Stores -/

/-- Two stores show the same, but for the order of the functions. -/
structure Store.SameButOrder (s t : Store) : Prop where
  readiness : s.readiness = t.readiness
  sequence : s.sequence = t.sequence
  settings : s.snapshot.bind (·.settings) = t.snapshot.bind (·.settings)
  diagnostics : s.snapshot.map (·.diagnostics) = t.snapshot.map (·.diagnostics)
  selection : s.selection = t.selection
  filter : s.filter = t.filter
  pending : s.pending = t.pending
  results : s.results = t.results
  functions : ∀ id, s.function? id = t.function? id

namespace Store

/-- **A selection that was made to fit fits**, also when the functions have changed places. -/
theorem fittingSelection_again (selection : Selection) {s t : Snapshot} (h : t.SameButOrder s) :
    fittingSelection (fittingSelection selection (some s)) (some t) = fittingSelection selection (some s) := by
  have hfits : (fittingSelection selection (some s)).Fits (some s.functions) := fittingSelection_fits selection (some s)
  generalize fittingSelection selection (some s) = chosen at hfits ⊢
  obtain ⟨function, testCase⟩ := chosen
  cases function with
  | none =>
    -- nothing is selected, so there is nothing to select
    have hempty : s.functions = [] := by simpa using hfits.unselected.1 rfl
    have hcase : testCase = none := hfits.caseless rfl
    rw [fittingSelection_nil _ (h.nil hempty), hcase]
    rfl
  | some id =>
    obtain ⟨_, f, ⟨⟩, -, hfind, hnone, hlisted⟩ := hfits.selected id rfl
    have hfound : t.function? id = some f := (h.functions id).trans hfind
    have hid : f.id = id := Snapshot.function?_id hfound
    have hchosen : ((some id).bind t.function?).or t.functions.head? = some f := by
      rw [Option.bind_some, hfound, Option.some_or]
    rw [fittingSelection_some hchosen, hid]
    cases testCase with
    | none => simp [hnone.1 rfl]
    | some case => simp [hlisted case rfl]

theorem hasTestCase_of_function? {s t : Store} (h : ∀ id, s.function? id = t.function? id) (function testCase : String) :
    s.hasTestCase function testCase = t.hasTestCase function testCase := by
  rw [hasTestCase_eq_any, hasTestCase_eq_any, h]

end Store

/-! ## Events -/

theorem Event.WellFormed.project {event : Event} (h : event.WellFormed) {sequence : Nat} {project : ProjectPayload}
    (hproject : event.project? = some (sequence, project)) : project.WellFormed := by
  cases event with
  | ready =>
    cases hproject
    exact h.1
  | projectUpdated =>
    cases hproject
    exact h
  | _ => cases hproject

/-- The event about the project that was applied. -/
def Outcome.project? : Outcome → Option (Nat × ProjectPayload)
  | .applied event => event.project?
  | _ => none

theorem Outcome.exists_of_project? {outcome : Outcome} {project : Nat × ProjectPayload}
    (h : outcome.project? = some project) : ∃ event, outcome = .applied event ∧ event.project? = some project := by
  cases outcome with
  | applied event => exact ⟨event, rfl, h⟩
  | discarded | faulted | ignored => cases h

/-- Everything that an event about the project does to what a panel shows. -/
structure Panel.Redrawn (p : Panel) (sequence : Nat) (project : ProjectPayload) (q : Panel) : Prop where
  takes : p.TakesProject sequence project q
  replaced : project.incremental = false → q.store.snapshot = some (.ofPayload sequence project)
  merged : project.incremental = true →
    ∃ old, p.store.snapshot = some old ∧ q.store.snapshot = some (old.merge sequence project)
  results : q.store.results = p.store.results.filter fun target _ =>
    q.store.hasTestCase target.function target.testCase
  pending : q.store.pending = p.store.pending
  filter : q.store.filter = p.store.filter

/-- The snapshot that a plan for an event of the project leaves. -/
theorem Dispatcher.Decides.snapshot {s : Store} {sequence : Nat} {project : ProjectPayload} {mutations : List Mutation}
    (h : Decides s sequence project (.commit mutations)) :
    (project.incremental = false → (s.batch mutations).1.snapshot = some (.ofPayload sequence project))
      ∧ (project.incremental = true →
          ∃ old, s.snapshot = some old ∧ (s.batch mutations).1.snapshot = some (old.merge sequence project)) := by
  rw [Store.batch_snapshot]
  cases h with
  | @added old base _ hincremental =>
    refine ⟨fun hfull => ?_, fun _ => ⟨old, base, ?_⟩⟩
    · cases hfull.symm.trans hincremental
    · simp only [Store.applyAll, Store.apply, base]
  | replaced _ hfull =>
    refine ⟨fun _ => ?_, fun hincremental => ?_⟩
    · -- becoming ready leaves the snapshot alone
      rw [Store.applyAll_cons, becomeReady]
      cases s.readiness.next .fullSnapshot with
      | none => rfl
      | some readiness =>
        exact Store.apply_snapshot_of_scope _ (m := .setReadiness readiness) (by simp [Mutation.scope])
          (by simp [Mutation.scope])
    · cases hfull.symm.trans hincremental

namespace Turn

variable {p q : Panel} {m : Message} {event : Event} {sequence : Nat} {project : ProjectPayload}

theorem hears (turn : Turn p (.handled m (.applied event)) q) : p.Hears m event := by
  obtain ⟨mutations, ledger, heffect, -, -⟩ := turn
  cases heffect with
  | idle hidle => exact hidle.elim
  | projectChanged hears => exact hears
  | diagnosed hears => exact hears
  | answered hears => exact hears

/-- **What an event about the project does.** -/
theorem redrawnBy (turn : Turn p (.handled m (.applied event)) q) (hproject : event.project? = some (sequence, project)) :
    p.Redrawn sequence project q := by
  have htakes := turn.takesProject hproject
  have hredraws : (⟨p, .handled m (.applied event), q⟩ : Moment).Redraws := by
    refine .inl ⟨m, event, rfl, ?_⟩
    cases event with
    | ready | projectUpdated => simp [Event.projectSequence]
    | _ => cases hproject
  have hresults := (turn.redrawn hredraws).resolve_left fun hnone => by
    cases (Store.sequence_of_none hnone.2.1).symm.trans htakes.sequence
  obtain ⟨mutations, ledger, heffect, hcontent, -⟩ := turn
  cases heffect with
  | idle hidle => exact hidle.elim
  | diagnosed | answered => cases hproject
  | projectChanged _ hkind hplan =>
    cases (Event.project?_of_kind hkind).symm.trans hproject
    have hdecides := Dispatcher.planProject_decides p.store sequence project
    rw [hplan] at hdecides
    have hsnapshot : q.store.snapshot = (p.store.batch mutations).1.snapshot := congrArg Content.snapshot hcontent
    have hpending : q.store.pending = (p.store.batch mutations).1.pending := congrArg Content.pending hcontent
    have hfilter : q.store.filter = (p.store.batch mutations).1.filter := congrArg Content.filter hcontent
    obtain ⟨hreplaced, hmerged⟩ := hdecides.snapshot
    rw [← hsnapshot] at hreplaced hmerged
    refine ⟨htakes, hreplaced, hmerged, hresults, ?_, ?_⟩
    · rw [hpending, Store.batch_pending_of_scope _ (Dispatcher.planProject_scope hplan)]
    · have hscope : ∀ m ∈ mutations, .filter ∉ m.scope := by
        cases hdecides with
        | added => simp [Mutation.scope]
        | replaced => simp [Mutation.scope, Dispatcher.becomeReady]
      have hpart : (p.store.batch mutations).1.part .filter = p.store.part .filter :=
        Store.batch_part_of_scope p.store hscope (by decide) (by decide)
      exact hfilter.trans hpart

end Turn

namespace Panel

variable {p q r : Panel} {m : Message} {event : Event} {sequence : Nat} {project : ProjectPayload}

/-- After an event about the project the panel takes the same event again. -/
theorem Redrawn.takesAgain (h : p.Redrawn sequence project q) (hproject : event.project? = some (sequence, project))
    (hdecodes : m.decode q.dispatcher.maxMessageBytes = .ok event) : (q.handle m).1 = .applied event := by
  have hlistening : q.store.readiness = .loading ∨ q.store.readiness = .ready := by
    rw [h.takes.readiness]
    split
    · exact h.takes.listening
    · exact .inr rfl
  refine (q.projectOutcome hlistening hdecodes hproject).applied.2 ⟨fun current hcurrent => ?_, fun hbaseless => ?_⟩
  · -- the number that is shown is the event's own
    rw [h.takes.sequence] at hcurrent
    cases hcurrent
    exact Nat.lt_irrefl sequence
  · cases (Store.sequence_of_none hbaseless.2).symm.trans h.takes.sequence

section Twice

variable (first : p.Redrawn sequence project q) (second : q.Redrawn sequence project r)
include first second

/-- The snapshots after the event and after the same event again. -/
theorem Redrawn.snapshots (hdistinct : (project.functions.map (·.id)).Nodup) :
    ∃ s t, q.store.snapshot = some s ∧ r.store.snapshot = some t ∧ t.SameButOrder s
      ∧ (project.incremental = false ∨ (∀ id ∈ project.removed, id ∉ project.functions.map (·.id)) →
          t.functions = s.functions) := by
  cases hincremental : project.incremental with
  | false =>
    have hfirst := first.replaced hincremental
    have hsecond := second.replaced hincremental
    exact ⟨_, _, hfirst, hsecond, .refl _, fun _ => rfl⟩
  | true =>
    obtain ⟨old, -, hfirst⟩ := first.merged hincremental
    obtain ⟨base, hbase, hsecond⟩ := second.merged hincremental
    cases hfirst.symm.trans hbase
    refine ⟨_, _, hfirst, hsecond, old.merge_again sequence hdistinct, fun horder => ?_⟩
    exact old.merge_again_functions sequence hdistinct (horder.resolve_left (by simp))

/-- **The same event twice leaves what it leaves once**, but for the order of the functions. -/
theorem Redrawn.sameButOrder (hdistinct : (project.functions.map (·.id)).Nodup) : r.store.SameButOrder q.store := by
  obtain ⟨s, t, hs, ht, hsame, -⟩ := first.snapshots second hdistinct
  have hfunctions (id : String) : r.store.function? id = q.store.function? id := by
    rw [Store.function?, Store.function?, hs, ht]
    exact hsame.functions id
  refine ⟨?_, ?_, ?_, ?_, ?_, second.filter, second.pending, ?_, hfunctions⟩
  · rw [second.takes.readiness, first.takes.readiness]
    split <;> rfl
  · rw [second.takes.sequence, first.takes.sequence]
  · rw [hs, ht]
    exact hsame.settings
  · rw [hs, ht]
    exact congrArg some hsame.diagnostics
  · rw [second.takes.selection, first.takes.selection, hs, ht]
    exact Store.fittingSelection_again p.store.selection hsame
  · -- the test cases are the same, so what stayed the first time stays again
    rw [second.results]
    simp only [Store.hasTestCase_of_function? hfunctions]
    rw [first.results, Table.filter_filter_self]

end Twice

end Panel

/-- **A project event that arrives twice does no harm.** If an event about the project is applied, whatever the state of the
panel, then the same message delivered once more is applied again. It leaves readiness, sequence number, settings,
diagnostics, selection, filter, pending runs and results as they are, and under every id the same function. The functions
also keep their order if the event is a full one, or if it removes no function that it brings. -/
theorem redelivery_changes_nothing (p : Panel) (m : Message) (sequence : Nat) (project : ProjectPayload)
    (h : (p.deliver m).1.project? = some (sequence, project)) :
    let q := (p.deliver m).2
    let r := (q.deliver m).2
    (q.deliver m).1 = (p.deliver m).1
      ∧ r.store.SameButOrder q.store
      ∧ (project.incremental = false ∨ (∀ id ∈ project.removed, id ∉ project.functions.map (·.id)) →
          r.store.snapshot.map (·.functions) = q.store.snapshot.map (·.functions)) := by
  intro q r
  -- what waited is handled before the message, and nothing waits after it
  have hq : q = (p.pump.2.handle m).2 := congrArg Prod.snd (p.deliver_eq m)
  have hunqueued : q.transport.inbound = [] := by
    rw [hq, Panel.handle_transport, Panel.pump_inbound]
  have hagain : q.deliver m = q.handle m := Panel.deliver_of_unqueued hunqueued m
  obtain ⟨event, happlied, hproject⟩ := Outcome.exists_of_project? h
  rw [p.deliver_eq] at happlied
  have turn : Turn p.pump.2 (.handled m (.applied event)) q := by
    rw [hq, ← happlied]
    exact p.pump.2.handle_turn m
  have first := turn.redrawnBy hproject
  have hdecodes : m.decode q.dispatcher.maxMessageBytes = .ok event := by
    rw [hq, Panel.handle_limit]
    exact turn.hears.decodes
  have happlies : (q.handle m).1 = .applied event := first.takesAgain hproject hdecodes
  have turnAgain : Turn q (.handled m (.applied event)) r := by
    show Turn q _ (q.deliver m).2
    rw [hagain, ← happlies]
    exact q.handle_turn m
  have second := turnAgain.redrawnBy hproject
  have hdistinct : (project.functions.map (·.id)).Nodup :=
    (Event.WellFormed.project (Message.decode_wellFormed hdecodes) hproject).distinct
  refine ⟨by rw [hagain, happlies, p.deliver_eq, happlied], first.sameButOrder second hdistinct, fun horder => ?_⟩
  obtain ⟨s, t, hs, ht, -, hfunctions⟩ := first.snapshots second hdistinct
  rw [hs, ht]
  exact congrArg some (hfunctions horder)

/-- A project with one function is shown. -/
def loadedSession : List Operation := [.mount, .deliver (projectMessage .ready 1 "f" "c")]

/-- The function goes and another one comes. -/
def shiftMessage : Message :=
  .json (.obj
    [("kind", .str "project-updated"),
     ("payload", .obj
       [("functions", .arr [.obj [("id", .str "g"), ("signature", .str "fn g()"), ("testCases", .arr [.str "d"])]]),
        ("incremental", .bool true), ("removed", .arr [.str "f"])]),
     ("sequence", .nat 1)])

/-- The selection moves to the new function, and stays there when the update comes again. -/
theorem shiftMessage_changes_nothing :
    let p := ((Panel.new {} .accepting ⟨1700000000, 0⟩).performAll loadedSession).2
    let q := (p.deliver shiftMessage).2
    let r := (q.deliver shiftMessage).2
    q.store.selection = ⟨some "g", some "d"⟩
      ∧ ∃ project, (p.deliver shiftMessage).1.project? = some (1, project) ∧ project.incremental = true
        ∧ (q.deliver shiftMessage).1 = (p.deliver shiftMessage).1
        ∧ r.store.SameButOrder q.store
        ∧ r.store.snapshot.map (·.functions) = q.store.snapshot.map (·.functions) := by
  intro p q r
  have hread : q.store.selection = ⟨some "g", some "d"⟩
      ∧ (p.deliver shiftMessage).1.project?.map (fun x => (x.1, x.2.incremental, x.2.removed, x.2.functions.map (·.id))) =
          some (1, true, ["f"], ["g"]) := by decide +kernel
  obtain ⟨hselection, hproject⟩ := hread
  obtain ⟨⟨sequence, project⟩, happlied, hparts⟩ := Option.map_eq_some_iff.1 hproject
  obtain ⟨rfl, hincremental, hremoved, hfunctions⟩ : sequence = 1 ∧ project.incremental = true
      ∧ project.removed = ["f"] ∧ project.functions.map (·.id) = ["g"] := by simpa using hparts
  have hdisjoint : ∀ id ∈ project.removed, id ∉ project.functions.map (·.id) := by
    rw [hremoved, hfunctions]
    decide
  obtain ⟨hagain, hsame, horder⟩ := redelivery_changes_nothing p shiftMessage 1 project happlied
  exact ⟨hselection, project, happlied, hincremental, hagain, hsame, horder (.inr hdisjoint)⟩

end PanelBridge
