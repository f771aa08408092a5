import PanelBridge.Proofs.Readiness

/-!
# Actions whose command is refused

The channel may refuse a command. A run is entered only after its command was taken, so a refused one leaves no trace. The
other actions that have a command and change the state, calling off a run, selecting a function and reloading, change it
first, and what they changed stays when the command is refused:

* **`Panel.SameState`**: store and ledger are as they were, revisions included.
* **`Panel.act_transport`**: what such an action does to store and ledger does not depend on the channel.
* **`refused_command_unchanged_iff`**: after a refused command the state is as before only if the function was selected
  already. A run whose cancelling was refused cannot be called off again, and a panel whose reload was refused cannot be
  reloaded again.
-/

namespace PanelBridge

/-- Why the command of an action was not taken. -/
def Report.refusal? : Report → Option TransportError
  | .started (.error (.transport e)) | .acted (.error (.transport e)) => some e
  | _ => none

/-- Whether an action changes the state before it sends its command. -/
def Action.changesFirst : Action → Bool
  | .cancelRun _ | .selectFunction _ | .reload => true
  | _ => false

/-- The two panels agree on everything that user and host have brought about: the content and the revisions of the store,
and the ledger. -/
structure Panel.SameState (p q : Panel) : Prop where
  content : q.store.content = p.store.content
  revisions : q.store.revisions = p.store.revisions
  revision : q.store.revision = p.store.revision
  ledger : q.ledger = p.ledger

theorem Report.refusal?_acted {result : Except ActionError Unit} {e : TransportError}
    (h : (Report.acted result).refusal? = some e) : result = .error (.transport e) := by
  unfold refusal? at h
  split at h
  · rename_i hreport
    cases hreport
  · rename_i hreport
    cases hreport
    cases h
    rfl
  · cases h

/-! ## Selecting what is selected -/

theorem Store.commit_select_self (s : Store) : (s.commit [.select s.selection]).2 = s := by
  have happly : s.apply (.select s.selection) = (s, .empty) := by rw [apply, if_pos rfl]
  have hall : s.applyAll .empty [.select s.selection] = (s, SliceSet.empty.union .empty) := by
    rw [applyAll_cons, happly]
    rfl
  have hbatch : s.batch [.select s.selection] = (s, SliceSet.empty.union .empty) := by
    rw [batch_eq, hall]
    exact settle_of_untouched s (by simp)
  have hempty : (SliceSet.empty.union .empty).isEmpty = true := by decide
  unfold commit
  rw [hbatch]
  simp only [hempty, if_true]

namespace Panel

variable (p : Panel)

/-! ## Which calls are refused -/

theorem cancelRun_refused {text : String} {e : TransportError} (h : (p.cancelRun text).1 = .error (.transport e)) :
    ∃ id, CorrelationId.ofText? text = some id ∧ p.ledger.live.get? id ≠ none := by
  unfold cancelRun at h
  cases hid : CorrelationId.ofText? text with
  | none =>
    simp only [hid] at h
    cases h
  | some id =>
    refine ⟨id, rfl, fun hlive => ?_⟩
    simp only [hid, Ledger.cancelRun, Ledger.retire_of_not_live hlive] at h
    cases h

theorem selectFunction_refused {function : String} {e : TransportError}
    (h : (p.selectFunction function).1 = .error (.transport e)) : ∃ f, p.store.function? function = some f := by
  unfold selectFunction Dispatcher.selectFunction at h
  cases hf : p.dispatcher.store.function? function with
  | none =>
    simp only [hf] at h
    cases h
  | some f => exact ⟨f, hf⟩

theorem reload_refused {e : TransportError} (h : p.reload.1 = .error (.transport e)) :
    ∃ fault, p.store.readiness = .error fault := by
  unfold reload Dispatcher.reload at h
  cases hr : p.dispatcher.store.readiness with
  | error fault => exact ⟨fault, hr⟩
  | _ =>
    rw [hr] at h
    cases h

/-! ## What a refused call leaves -/

theorem cancelRun_not_live {text : String} {id : CorrelationId} (hid : CorrelationId.ofText? text = some id)
    (hlive : p.ledger.live.get? id = none) : (p.cancelRun text).1 = .error (.notLive id.text) := by
  unfold cancelRun
  simp only [hid, Ledger.cancelRun, Ledger.retire_of_not_live hlive]

theorem reload_unavailable (h : p.store.readiness = .loading) : p.reload.1 = .error .reloadUnavailable := by
  have hnext : p.dispatcher.store.readiness.next .reload = none := by
    show p.store.readiness.next .reload = none
    rw [h]
    rfl
  unfold reload Dispatcher.reload
  simp only [hnext]

theorem selectFunction_selection {function : String} {f : FunctionDefinition}
    (hf : p.store.function? function = some f) :
    (p.selectFunction function).2.store.selection = ⟨some f.id, f.testCases.head?⟩ := by
  obtain ⟨mutations, ledger, heffect, hcontent, -⟩ := selectFunction_turn p function .done
  have hselection := congrArg Content.selection hcontent
  cases heffect with
  | idle hidle => cases hf.symm.trans hidle
  | functionSelected hknown =>
    cases hf.symm.trans hknown
    rw [Store.batch_select] at hselection
    exact hselection

/-- Selecting a function anew with its first test case changes nothing. -/
theorem selectFunction_sameState {function : String} {f : FunctionDefinition}
    (hf : p.store.function? function = some f) (hselected : p.store.selection = ⟨some f.id, f.testCases.head?⟩) :
    p.SameState (p.selectFunction function).2 := by
  have hcommit : (p.dispatcher.commit [.select ⟨some f.id, f.testCases.head?⟩]).store = p.dispatcher.store := by
    rw [← hselected]
    exact Store.commit_select_self p.store
  have hstore : (p.selectFunction function).2.store = { p.store with outbox := [] } := by
    unfold selectFunction Dispatcher.selectFunction
    rw [show p.dispatcher.store.function? function = some f from hf]
    show { (p.dispatcher.commit [.select ⟨some f.id, f.testCases.head?⟩]).store with outbox := [] } = _
    rw [hcommit]
    rfl
  have hledger : (p.selectFunction function).2.ledger = p.ledger := by
    unfold selectFunction Dispatcher.selectFunction
    rw [show p.dispatcher.store.function? function = some f from hf]
    rfl
  refine ⟨?_, ?_, ?_, hledger⟩
  · rw [hstore]
    rfl
  · rw [hstore]
  · rw [hstore]

/-! ## The channel does not matter -/

/-- Whatever the channel does with the command, an action that changes the state first changes it in the same way. -/
theorem act_transport {action : Action} (h : action.changesFirst = true) (transport : Transport MemoryChannel) :
    ∃ after, ({ p with transport }.act action).2 = { (p.act action).2 with transport := after } := by
  cases action with
  | cancelRun text =>
    show ∃ after, ({ p with transport }.cancelRun text).2 = { (p.cancelRun text).2 with transport := after }
    unfold cancelRun
    split
    · exact ⟨transport, rfl⟩
    · simp only
      split
      · exact ⟨transport, rfl⟩
      · exact ⟨_, rfl⟩
  | selectFunction function =>
    show ∃ after, ({ p with transport }.selectFunction function).2
      = { (p.selectFunction function).2 with transport := after }
    unfold selectFunction
    simp only
    split
    · exact ⟨transport, rfl⟩
    · exact ⟨_, rfl⟩
  | reload =>
    show ∃ after, ({ p with transport }.reload).2 = { p.reload.2 with transport := after }
    unfold reload
    simp only
    split
    · exact ⟨transport, rfl⟩
    · exact ⟨_, rfl⟩
  | runTest | selectTestCase | setFilter | requestSettings => cases h

/-! ## Trying again -/

/-- A run whose cancelling was refused is called off all the same, and cannot be called off again. -/
theorem cancelRun_refused_after (hp : p.Agrees) {text : String} {e : TransportError}
    (h : (p.cancelRun text).1 = .error (.transport e)) :
    ¬p.SameState (p.cancelRun text).2
      ∧ ∃ id, CorrelationId.ofText? text = some id
        ∧ ((p.cancelRun text).2.cancelRun text).1 = .error (.notLive id.text) := by
  obtain ⟨id, hid, hlive⟩ := cancelRun_refused p h
  have hgone : (p.cancelRun text).2.ledger.live.get? id = none :=
    (cancelRun_turn p text .done).calledOff hp.wellFormed hid
  -- the run was live, so the ledger is not the one of before
  refine ⟨fun hsame => ?_, id, hid, cancelRun_not_live _ hid hgone⟩
  rw [hsame.ledger] at hgone
  exact hlive hgone

/-- A panel whose reload was refused has left the error state all the same, and cannot be reloaded again. -/
theorem reload_refused_after {e : TransportError} (h : p.reload.1 = .error (.transport e)) :
    ¬p.SameState p.reload.2 ∧ p.reload.2.store.readiness = .loading
      ∧ p.reload.2.reload.1 = .error .reloadUnavailable := by
  obtain ⟨fault, hp⟩ := reload_refused p h
  have hloading := ((reload_turn p .done).startsOver ⟨_, fault, rfl, hp⟩).readiness
  refine ⟨fun hsame => ?_, hloading, reload_unavailable _ hloading⟩
  have hkept : p.reload.2.store.readiness = p.store.readiness := congrArg Content.readiness hsame.content
  rw [hloading, hp] at hkept
  cases hkept

theorem selectFunction_refused_iff {function : String} {e : TransportError}
    (h : (p.selectFunction function).1 = .error (.transport e)) :
    p.SameState (p.selectFunction function).2
      ↔ ∃ f, p.store.function? function = some f ∧ p.store.selection = ⟨some f.id, f.testCases.head?⟩ := by
  constructor
  · intro hsame
    obtain ⟨f, hf⟩ := selectFunction_refused p h
    have hkept : (p.selectFunction function).2.store.selection = p.store.selection :=
      congrArg Content.selection hsame.content
    exact ⟨f, hf, hkept.symm.trans (selectFunction_selection p hf)⟩
  · rintro ⟨f, hf, hselected⟩
    exact selectFunction_sameState p hf hselected

end Panel

/-- **What a refused command leaves.** At the end of every session, when the command of an action that changes the state first
is refused:

* the state is as it was exactly if the action selects a function that was selected already, with its first test case;
* but for the transport the panel is the one that the action leaves whatever the channel does, so also if it takes the command;
* a run that was to be called off is not live any more, and a panel that was to be reloaded is loading: neither action can be
  tried again. -/
theorem refused_command_unchanged_iff (config : PanelConfig) (channel : MemoryChannel) (now : Instant)
    (ops : List Operation) (action : Action) (e : TransportError) :
    let p := ((Panel.new config channel now).performAll ops).2
    let q := (p.act action).2
    action.changesFirst = true → (p.act action).1.refusal? = some e →
      (p.SameState q ↔ ∃ function f, action = .selectFunction function ∧ p.store.function? function = some f
        ∧ p.store.selection = ⟨some f.id, f.testCases.head?⟩)
      ∧ (∀ transport, ∃ after, ({ p with transport }.act action).2 = { q with transport := after })
      ∧ (∀ text, action = .cancelRun text → ∃ id, CorrelationId.ofText? text = some id
          ∧ (q.cancelRun text).1 = .error (.notLive id.text))
      ∧ (action = .reload → q.store.readiness = .loading ∧ q.reload.1 = .error .reloadUnavailable) := by
  intro p q hfirst hrefused
  have hagrees : p.Agrees := (Panel.history_path _ ops).agrees (Panel.new_agrees config channel now)
  refine ⟨?_, fun transport => p.act_transport hfirst transport, ?_, ?_⟩
  · cases action with
    | cancelRun text =>
      have hchanged := (p.cancelRun_refused_after hagrees (Report.refusal?_acted hrefused)).1
      exact ⟨fun hsame => absurd hsame hchanged, nofun⟩
    | reload =>
      have hchanged := (p.reload_refused_after (Report.refusal?_acted hrefused)).1
      exact ⟨fun hsame => absurd hsame hchanged, nofun⟩
    | selectFunction function =>
      refine (p.selectFunction_refused_iff (Report.refusal?_acted hrefused)).trans ⟨?_, ?_⟩
      · rintro ⟨f, hf, hselected⟩
        exact ⟨function, f, rfl, hf, hselected⟩
      · rintro ⟨_, f, ⟨⟩, hf, hselected⟩
        exact ⟨f, hf, hselected⟩
    | runTest | selectTestCase | setFilter | requestSettings => cases hfirst
  · rintro text rfl
    exact (p.cancelRun_refused_after hagrees (Report.refusal?_acted hrefused)).2
  · rintro rfl
    exact (p.reload_refused_after (Report.refusal?_acted hrefused)).2

/-- A channel that takes no command. -/
def MemoryChannel.disposed : MemoryChannel := .withRefusal fun _ _ => some "webview disposed"

/-- The first function is selected when a project arrives, so a refused command to select it leaves the state as it was. -/
theorem refused_selection_unchanged :
    let p := ((Panel.new {} .disposed ⟨1700000000, 0⟩).performAll
      [.mount, .deliver (projectMessage .ready 1 "f1" "c1")]).2
    (p.act (.selectFunction "f1")).1.refusal? = some (.channelClosed "webview disposed")
      ∧ p.SameState (p.act (.selectFunction "f1")).2 := by
  intro p
  have hrefused : (p.act (.selectFunction "f1")).1.refusal? = some (.channelClosed "webview disposed") := by
    decide +kernel
  have hselected : p.store.function? "f1" = some ⟨"f1", "fn f1()", ["c1"]⟩
      ∧ p.store.selection = ⟨some "f1", some "c1"⟩ := by
    decide +kernel
  have hleft := refused_command_unchanged_iff {} .disposed ⟨1700000000, 0⟩
    [.mount, .deliver (projectMessage .ready 1 "f1" "c1")] (.selectFunction "f1") _ rfl hrefused
  exact ⟨hrefused, hleft.1.2 ⟨"f1", _, rfl, hselected⟩⟩

/-- A panel in error whose reload is refused is loading, and reloading it again is refused without a command. -/
theorem refused_reload_strands_panel :
    let p := ((Panel.new {} .disposed ⟨1700000000, 0⟩).performAll
      [.mount, .deliver (.json (.obj [("kind", .str "bogus")]))]).2
    p.store.readiness = .error (.protocol (.unknownKind "bogus"))
      ∧ (p.act .reload).1.refusal? = some (.channelClosed "webview disposed")
      ∧ p.reload.2.store.readiness = .loading
      ∧ p.reload.2.reload.1 = .error .reloadUnavailable := by
  intro p
  have hloading : p.reload.2.store.readiness = .loading := by decide +kernel
  exact ⟨by decide +kernel, by decide +kernel, hloading, Panel.reload_unavailable _ hloading⟩

end PanelBridge
