import PanelBridge.Proofs.OrphanedResults
import PanelBridge.Proofs.Selection

/-!
# The readiness machine and what depends on it

The readiness of a panel moves along four edges, and the rest of the state is tied to it:

* **`Readiness.Moves`**: the four edges, each with what brings it about. A turn moves the readiness whenever there is an edge
  for it, and else leaves it as it is (`Turn.moves`).
* **`Panel.Coupled`**: a ready panel has a snapshot, one that has not got that far has none, and without a snapshot there
  are no runs, no results and no selection. The last is not enforced anywhere: clearing the snapshot does nothing where there
  is none. It follows along sessions.
* **`Path.faults_eq`**: every fault but the last was answered by a reload.
-/

namespace PanelBridge

/-- The edges of the readiness machine. -/
inductive Readiness.Moves : Readiness → Cause → Readiness → Prop where
  | mount {report : Report} : Moves .uninitialized (.operated .mount report) .loading
  | fullSnapshot {message : Message} {event : Event} {sequence : Nat} {project : ProjectPayload}
      (about : event.project? = some (sequence, project)) (full : project.incremental = false) :
      Moves .loading (.handled message (.applied event)) .ready
  | fault {readiness : Readiness} {message : Message} {fault : Fault}
      (noError : ∀ earlier, readiness ≠ .error earlier) :
      Moves readiness (.handled message (.faulted fault)) (.error fault)
  | reload {fault : Fault} {report : Report} : Moves (.error fault) (.operated (.act .reload) report) .loading

/-- Whether there is an edge that a cause can bring about. -/
def Cause.atEdge : Cause → Bool
  | .operated .mount _ | .operated (.act .reload) _ | .handled _ (.faulted _) => true
  | .handled _ (.applied event) => event.project?.isSome
  | _ => false

theorem Readiness.Moves.atEdge {readiness next : Readiness} {cause : Cause} (h : readiness.Moves cause next) :
    cause.atEdge = true := by
  cases h with
  | fullSnapshot habout => rw [Cause.atEdge, habout, Option.isSome_some]
  | mount | fault | reload => rfl

/-- A message is a fault. -/
def Moment.isFault (m : Moment) : Bool :=
  match m.cause with
  | .handled _ (.faulted _) => true
  | _ => false

/-- A reload leaves the error state. -/
def Moment.isRecovery (m : Moment) : Bool :=
  match m.cause with
  | .operated (.act .reload) _ =>
    m.before.store.readiness.fault?.isSome && m.after.store.readiness.fault?.isNone
  | _ => false

/-! ## One turn -/

namespace Turn

variable {p q : Panel} {cause : Cause}

theorem readiness_of_scope {mutations : List Mutation}
    (hcontent : q.store.content = (p.store.batch mutations).1.content)
    (h : ∀ m ∈ mutations, .readiness ∉ m.scope) : q.store.readiness = p.store.readiness := by
  have hreadiness : q.store.readiness = (p.store.batch mutations).1.readiness :=
    congrArg Content.readiness hcontent
  rw [hreadiness, Store.batch_readiness_of_scope _ h]

/-- Where there is no edge the readiness stays. -/
theorem stays_of_scope {mutations : List Mutation}
    (hcontent : q.store.content = (p.store.batch mutations).1.content)
    (h : ∀ m ∈ mutations, .readiness ∉ m.scope) (hedge : cause.atEdge = false) :
    p.store.readiness.Moves cause q.store.readiness
      ∨ q.store.readiness = p.store.readiness ∧ ∀ next, ¬p.store.readiness.Moves cause next := by
  refine .inr ⟨readiness_of_scope hcontent h, fun next hmoves => ?_⟩
  rw [hmoves.atEdge] at hedge
  cases hedge

theorem not_moves_of_idle (hidle : cause.MayIdle p) (next : Readiness) : ¬p.store.readiness.Moves cause next := by
  intro hmoves
  generalize hp : p.store.readiness = readiness at hmoves
  cases hmoves with
  | mount => exact hidle hp
  | fullSnapshot | fault => exact hidle
  | reload => exact hidle _ hp

/-- **A turn moves the readiness along the edge for it, and stays if there is none.** -/
theorem moves (turn : Turn p cause q) :
    p.store.readiness.Moves cause q.store.readiness
      ∨ q.store.readiness = p.store.readiness ∧ ∀ next, ¬p.store.readiness.Moves cause next := by
  obtain ⟨mutations, ledger, heffect, hcontent, -⟩ := id turn
  have hreadiness : q.store.readiness = (p.store.batch mutations).1.readiness :=
    congrArg Content.readiness hcontent
  cases heffect with
  | idle hidle => exact .inr ⟨readiness_of_scope hcontent (by simp), not_moves_of_idle hidle⟩
  | mounted hp =>
    rw [hreadiness, Store.batch_setReadiness, hp]
    exact .inl .mount
  | faulted noError =>
    rw [hreadiness, Store.batch_setReadiness]
    exact .inl (.fault noError)
  | reloaded herror =>
    rw [(turn.startsOver ⟨_, _, rfl, herror⟩).readiness, herror]
    exact .inl .reload
  | @projectChanged _ _ sequence project _ _ hkind _ =>
    have habout := Event.project?_of_kind hkind
    have htakes := turn.takesProject habout
    cases hincremental : project.incremental with
    | true =>
      refine .inr ⟨by rw [htakes.readiness, hincremental, if_pos rfl], fun next hmoves => ?_⟩
      generalize p.store.readiness = readiness at hmoves
      cases hmoves with
      | fullSnapshot habout' hfull =>
        cases habout.symm.trans habout'
        cases hincremental.symm.trans hfull
    | false =>
      have hq : q.store.readiness = .ready := by
        rw [htakes.readiness, hincremental]
        rfl
      -- a full snapshot is an edge for a panel that is loading; one that is ready stays so
      rcases htakes.listening with hp | hp
      · rw [hq, hp]
        exact .inl (.fullSnapshot habout hincremental)
      · rw [hq, hp]
        exact .inr ⟨rfl, nofun⟩
  | started | ticked | tickedAt =>
    refine stays_of_scope hcontent ?_ rfl
    simp [Mutation.scope, or_imp, forall_and]
  | functionSelected | testCaseSelected | filtered | calledOff | diagnosed | answered | discarded =>
    exact stays_of_scope hcontent (by simp [Mutation.scope]) rfl

/-- A panel in error stays in that error unless it is reloaded. -/
theorem error_stays (turn : Turn p cause q) {fault : Fault} (hp : p.store.readiness = .error fault)
    (hcause : ∀ report, cause ≠ .operated (.act .reload) report) : q.store.readiness = .error fault := by
  rcases turn.moves with hmoves | ⟨hsame, -⟩
  · rw [hp] at hmoves
    generalize q.store.readiness = readiness at hmoves ⊢
    cases hmoves with
    | fault noError => exact absurd rfl (noError fault)
    | reload => exact absurd rfl (hcause _)
  · exact hsame.trans hp

theorem error_ignores {message : Message} {outcome : Outcome} (turn : Turn p (.handled message outcome) q)
    {fault : Fault} (hp : p.store.readiness = .error fault) : outcome = .ignored := by
  obtain ⟨mutations, ledger, heffect, -, -⟩ := turn
  cases heffect with
  | idle hidle =>
    cases outcome with
    | ignored => rfl
    | _ => exact hidle.elim
  | projectChanged hears | diagnosed hears | answered hears => exact absurd hp (hears.noError fault)
  | discarded noError | faulted noError => exact absurd hp (noError fault)

/-- A fault takes a panel that is not in error there. -/
theorem fault_moves {message : Message} {fault : Fault} (turn : Turn p (.handled message (.faulted fault)) q) :
    (∀ earlier, p.store.readiness ≠ .error earlier) ∧ q.store.readiness = .error fault := by
  have noError : ∀ earlier, p.store.readiness ≠ .error earlier := by
    intro earlier hp
    cases turn.error_ignores hp
  refine ⟨noError, ?_⟩
  rcases turn.moves with hmoves | ⟨-, hstays⟩
  · generalize p.store.readiness = before, q.store.readiness = after at hmoves ⊢
    cases hmoves
    rfl
  · exact absurd (.fault noError) (hstays _)

end Turn

/-! ## One operation -/

theorem Panel.pumpMoments_not_reload (p : Panel) (report : Report) :
    ∀ m ∈ p.pumpMoments, m.cause ≠ .operated (.act .reload) report := by
  intro m hm hreload
  rcases pumpMoments_handled p m hm with hcause | ⟨message, hcause⟩ <;> cases hcause.symm.trans hreload

/-- Of all operations only a reload has a moment that is a reload. -/
theorem Panel.moments_not_reload (p : Panel) {op : Operation} (hop : op ≠ .act .reload) (report : Report) :
    ∀ m ∈ p.moments op, m.cause ≠ .operated (.act .reload) report := by
  have single (m : Moment) (hm : m ∈ [p.moment op]) : m.cause ≠ .operated (.act .reload) report := by
    cases List.mem_singleton.1 hm
    intro hreload
    exact hop (Cause.operated.inj hreload).1
  cases op with
  | pump => exact pumpMoments_not_reload p report
  | deliver message =>
    intro m hm hreload
    cases hm with
    | head => cases hreload
    | tail _ hm => exact pumpMoments_not_reload _ report m hm hreload
  | _ => exact single

theorem Path.error_stays {p q : Panel} {moments : List Moment} (path : Path p moments q) {fault : Fault}
    (hp : p.store.readiness = .error fault)
    (hcause : ∀ report, ∀ m ∈ moments, m.cause ≠ .operated (.act .reload) report) :
    q.store.readiness = .error fault := by
  induction path with
  | nil => exact hp
  | cons turn _ ih =>
    have hnext := turn.error_stays hp fun report => hcause report _ (.head _)
    exact ih hnext fun report m hm => hcause report m (.tail _ hm)

/-- **Only a reload leaves the error state.** -/
theorem Panel.perform_error (p : Panel) {fault : Fault} (hp : p.store.readiness = .error fault) {op : Operation}
    (hop : op ≠ .act .reload) : (p.perform op).2.store.readiness = .error fault :=
  (moments_path p op).error_stays hp fun report => moments_not_reload p hop report

/-! ## Faults and reloads of a session -/

/-- A message that is a fault takes the panel into the error state, a recovery takes it out, and nothing else does either. -/
theorem Turn.error_balance {p q : Panel} {cause : Cause} (turn : Turn p cause q) :
    (if p.store.readiness.fault?.isSome then 1 else 0) + (if (⟨p, cause, q⟩ : Moment).isFault then 1 else 0)
      = (if q.store.readiness.fault?.isSome then 1 else 0)
        + if (⟨p, cause, q⟩ : Moment).isRecovery then 1 else 0 := by
  rcases turn.moves with hmoves | ⟨hsame, hstays⟩
  · generalize hp : p.store.readiness = before, hq : q.store.readiness = after at hmoves
    cases hmoves with
    | mount => simp [Moment.isFault, Moment.isRecovery, Readiness.fault?]
    | fullSnapshot => simp [Moment.isFault, Moment.isRecovery, Readiness.fault?]
    | fault noError =>
      have hnone : before.fault? = none := by
        cases before with
        | error fault => exact absurd rfl (noError fault)
        | _ => rfl
      rw [hnone]
      simp [Moment.isFault, Moment.isRecovery, Readiness.fault?]
    | reload => simp [Moment.isFault, Moment.isRecovery, hp, hq, Readiness.fault?]
  · have hfault : (⟨p, cause, q⟩ : Moment).isFault = false := by
      refine Bool.eq_false_iff.2 fun hfault => ?_
      unfold Moment.isFault at hfault
      split at hfault
      · rename_i message fault hcause
        obtain rfl : cause = _ := hcause
        exact hstays _ (.fault turn.fault_moves.1)
      · cases hfault
    have hrecovery : (⟨p, cause, q⟩ : Moment).isRecovery = false := by
      unfold Moment.isRecovery
      simp only [hsame]
      split
      · cases p.store.readiness.fault? <;> rfl
      · rfl
    rw [hfault, hrecovery, hsame]

/-- **The faults of a session are its recoveries, and one more while it is in error.** -/
theorem Path.faults_eq {p q : Panel} {moments : List Moment} (path : Path p moments q)
    (hp : p.store.readiness.fault? = none) :
    moments.countP Moment.isFault =
      moments.countP Moment.isRecovery + if q.store.readiness.fault?.isSome then 1 else 0 := by
  have hinvariant := path.invariant (I := fun past p => past.countP Moment.isFault =
      past.countP Moment.isRecovery + if p.store.readiness.fault?.isSome then 1 else 0)
    (fun past p cause q h turn => by
      have hbalance := turn.error_balance
      rw [List.countP_append, List.countP_append, List.countP_singleton, List.countP_singleton, h]
      omega)
    [] (by simp [hp])
  simpa using hinvariant

/-! ## What depends on the readiness -/

/-- The state of a panel is tied to its readiness. -/
structure Panel.Coupled (p : Panel) : Prop where
  agrees : p.Agrees
  grounded : p.Grounded
  selectionFits : p.store.SelectionFits
  loaded : p.store.readiness = .ready → p.store.snapshot ≠ none
  unloaded : p.store.readiness = .uninitialized ∨ p.store.readiness = .loading → p.store.snapshot = none

namespace Panel.Coupled

variable {p q : Panel} {cause : Cause}

/-- A ready panel has a snapshot: it got one when it became ready, and only a reload takes it away. -/
theorem turn_loaded (h : p.Coupled) (turn : Turn p cause q) (hq : q.store.readiness = .ready) :
    q.store.snapshot ≠ none := by
  intro hnone
  rcases turn.snapshot_none hnone with hp | hreloads
  · rcases turn.moves with hmoves | ⟨hsame, -⟩
    · rw [hq] at hmoves
      generalize p.store.readiness = readiness at hmoves
      cases hmoves with
      | fullSnapshot habout =>
        have hsequence := (turn.takesProject habout).sequence
        cases (Store.sequence_of_none hnone).symm.trans hsequence
    · exact h.loaded (hsame.symm.trans hq) hp
  · cases hq.symm.trans (turn.startsOver hreloads).readiness

/-- A panel that waits has no snapshot: the first one makes it ready. -/
theorem turn_unloaded (h : p.Coupled) (turn : Turn p cause q)
    (hq : q.store.readiness = .uninitialized ∨ q.store.readiness = .loading) : q.store.snapshot = none := by
  by_cases hreloads : (⟨p, cause, q⟩ : Moment).Reloads
  · exact (turn.startsOver hreloads).snapshot
  have hp : p.store.readiness = .uninitialized ∨ p.store.readiness = .loading := by
    rcases turn.moves with hmoves | ⟨hsame, -⟩
    · generalize hbefore : p.store.readiness = before, hafter : q.store.readiness = after at hmoves
      cases hmoves with
      | mount => exact .inl rfl
      | fullSnapshot => exact .inr rfl
      | fault => simp [hafter] at hq
      | reload => exact absurd ⟨_, _, rfl, hbefore⟩ hreloads
    · rw [hsame] at hq
      exact hq
  have hnone := h.unloaded hp
  by_cases hredraws : (⟨p, cause, q⟩ : Moment).Redraws
  · rcases hredraws with ⟨message, event, hcause, hproject⟩ | hreloads'
    · -- an update has nothing to be added to, and a full snapshot would have made the panel ready
      obtain rfl : cause = _ := hcause
      obtain ⟨⟨sequence, project⟩, habout⟩ : ∃ x, event.project? = some x := by
        cases event with
        | ready sequence project | projectUpdated sequence project => exact ⟨_, rfl⟩
        | _ => exact absurd rfl hproject
      have htakes := turn.takesProject habout
      cases hincremental : project.incremental with
      | true => exact absurd hnone (htakes.based hincremental)
      | false =>
        have hready := htakes.readiness
        rw [hincremental] at hready
        rw [hready] at hq
        simp at hq
    · exact absurd hreloads' hreloads
  · exact Store.snapshot_none_of_part (turn.part_snapshot hredraws) hnone

theorem turn (h : p.Coupled) (turn : Turn p cause q) : q.Coupled where
  agrees := h.agrees.turn turn
  grounded := h.grounded.turn h.agrees.wellFormed turn
  selectionFits := turn.selectionFits h.selectionFits
  loaded := h.turn_loaded turn
  unloaded := h.turn_unloaded turn

/-- Without a snapshot there is nothing. -/
theorem empty (h : p.Coupled) (hnone : p.store.snapshot = none) :
    p.store.pending = .empty ∧ p.store.results = .empty ∧ p.store.selection = .none ∧ p.ledger.intents = [] := by
  obtain ⟨hresults, hlive⟩ := h.grounded hnone
  have hledger : p.ledger.live = .empty := Table.ext_get? hlive
  refine ⟨Table.ext_get? fun target => ?_, Table.ext_get? hresults, ?_, ?_⟩
  · rw [h.agrees.shown target, Ledger.liveIntent, hledger]
    cases p.ledger.liveByTarget.get? target <;> rfl
  · have hfits := h.selectionFits
    rw [Store.SelectionFits, hnone] at hfits
    exact hfits.eq_none
  · rw [Ledger.intents, hledger]
    rfl

end Panel.Coupled

theorem Panel.new_coupled (config : PanelConfig) (channel : MemoryChannel) (now : Instant) :
    (new config channel now).Coupled where
  agrees := new_agrees config channel now
  grounded _ := ⟨fun _ => rfl, fun _ => rfl⟩
  selectionFits := new_selectionFits config channel now
  loaded h := by cases (show Readiness.uninitialized = .ready from h)
  unloaded _ := rfl

theorem Path.coupled {p q : Panel} {moments : List Moment} (path : Path p moments q) (h : p.Coupled) :
    q.Coupled :=
  path.invariant (I := fun _ p => p.Coupled) (fun _ _ _ _ h turn => h.turn turn) [] h

/-- **The readiness machine, and what is tied to it.** In every session:

* the readiness moves along the edges of the machine and only there; in the error state no operation but a reload changes it,
  and every message is ignored;
* a panel that is ready has a snapshot, one that is not mounted or still loading has none, and without a snapshot there are
  no pending runs, no results, no selection and no live runs;
* there is at most one fault more than there are reloads out of the error state. -/
theorem readiness_moves_and_couples (config : PanelConfig) (channel : MemoryChannel) (now : Instant)
    (ops : List Operation) :
    let history := (Panel.new config channel now).history ops
    let p := ((Panel.new config channel now).performAll ops).2
    ((∀ m ∈ history, m.before.store.readiness.Moves m.cause m.after.store.readiness
          ∨ m.after.store.readiness = m.before.store.readiness
            ∧ ∀ next, ¬m.before.store.readiness.Moves m.cause next)
      ∧ (∀ fault op, p.store.readiness = .error fault → op ≠ .act .reload →
          (p.perform op).2.store.readiness = .error fault)
      ∧ ∀ m ∈ history, ∀ fault message outcome, m.before.store.readiness = .error fault →
          m.cause = .handled message outcome → outcome = .ignored)
    ∧ ((p.store.readiness = .ready → p.store.snapshot ≠ none)
      ∧ (p.store.readiness = .uninitialized ∨ p.store.readiness = .loading → p.store.snapshot = none)
      ∧ (p.store.snapshot = none → p.store.pending = .empty ∧ p.store.results = .empty
          ∧ p.store.selection = .none ∧ p.ledger.intents = []))
    ∧ history.countP Moment.isFault ≤ 1 + history.countP Moment.isRecovery := by
  intro history p
  have path : Path _ history p := Panel.history_path _ ops
  have hcoupled : p.Coupled := path.coupled (Panel.new_coupled config channel now)
  refine ⟨⟨fun m hm => (path.turn_of_mem hm).moves, fun fault op hp hop => p.perform_error hp hop, ?_⟩,
    ⟨hcoupled.loaded, hcoupled.unloaded, hcoupled.empty⟩, ?_⟩
  · intro m hm fault message outcome hp hcause
    have turn := path.turn_of_mem hm
    rw [hcause] at turn
    exact turn.error_ignores hp
  · rw [path.faults_eq rfl]
    split <;> omega

end PanelBridge
