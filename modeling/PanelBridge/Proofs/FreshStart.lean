import PanelBridge.Proofs.Outcomes
import PanelBridge.Proofs.SentCommands

/-!
# Reloading starts over

A reload leaves the error state with an empty store, but the panel is not a new one: it goes on counting messages and runs,
it keeps its filter and its log, and it remembers the runs that were live. None of that shows in what messages from the
host do to it.

* **`Store.face`**: what messages act on. A mutation sees nothing else of a store (`Store.apply_alike`), and neither does a
  commit (`Store.commit_face`).
* **`Outcome.Alike`**: outcomes that differ at most in the reason why a result is late. Only the ledger knows that reason.
* **`Panel.Abreast`**: two panels with one face and without live runs. Each message keeps them abreast (`Abreast.deliver`),
  and so does any list of them (`Abreast.deliverAll`).
* **`reload_starts_fresh`**: a panel that was reloaded is abreast of a new one.
-/

namespace PanelBridge

/-! ## The face of a store -/

/-- The part of a store that messages from the host act on. -/
structure Face where
  readiness : Readiness
  snapshot : Option Snapshot
  selection : Selection
  pending : Table Target PendingRun
  results : Table Target CompletedRun

namespace Store

def face (s : Store) : Face := ⟨s.readiness, s.snapshot, s.selection, s.pending, s.results⟩

theorem face_of_content {s t : Store} (h : s.content = t.content) : s.face = t.face := by
  have hface := congrArg (fun c : Content => Face.mk c.readiness c.snapshot c.selection c.pending c.results) h
  exact hface

/-- Two stores with the same face, and the snapshot was touched on the way to both or to neither. -/
def Alike (x y : Store × SliceSet) : Prop := x.1.face = y.1.face ∧ x.2.contains .snapshot = y.2.contains .snapshot

theorem Alike.ite {c : Prop} [Decidable c] {x x' y y' : Store × SliceSet} (hx : Alike x x') (hy : Alike y y') :
    Alike (if c then x else y) (if c then x' else y') := by
  split
  · exact hx
  · exact hy

variable {s t : Store}

/-- **A mutation sees only the face of a store.** -/
theorem apply_alike (h : s.face = t.face) (m : Mutation) : Alike (s.apply m) (t.apply m) := by
  obtain ⟨readiness, snapshot, selection, _, pending, results⟩ := s
  obtain ⟨_, _, _, _, _, _⟩ := t
  obtain ⟨rfl, rfl, rfl, rfl, rfl⟩ := Face.mk.inj h
  cases m with
  | setReadiness | select | runCleared | clearPending => exact .ite ⟨rfl, rfl⟩ ⟨rfl, rfl⟩
  | setFilter filter =>
    -- the filters may differ, but neither face nor snapshot depend on them
    simp only [apply]
    split <;> split <;> exact ⟨rfl, rfl⟩
  | mergeSnapshot | clearSnapshot | mergeDiagnostics => cases snapshot <;> exact ⟨rfl, rfl⟩
  | runStalled intent =>
    simp only [apply]
    cases pending.get? intent.target with
    | none => exact ⟨rfl, rfl⟩
    | some run => exact .ite ⟨rfl, rfl⟩ ⟨rfl, rfl⟩
  | replaceSnapshot | runPending | runCompleted | recordDiscard => exact ⟨rfl, rfl⟩

theorem applyAll_alike (h : s.face = t.face) {touched touched' : SliceSet}
    (htouched : touched.contains .snapshot = touched'.contains .snapshot) (mutations : List Mutation) :
    Alike (s.applyAll touched mutations) (t.applyAll touched' mutations) := by
  induction mutations generalizing s t touched touched' with
  | nil => exact ⟨h, htouched⟩
  | cons m rest ih =>
    obtain ⟨hface, hcontains⟩ := apply_alike h m
    rw [applyAll_cons, applyAll_cons]
    refine ih hface ?_
    rw [SliceSet.contains_union, SliceSet.contains_union, htouched, hcontains]

theorem settle_face (h : s.face = t.face) {touched touched' : SliceSet}
    (htouched : touched.contains .snapshot = touched'.contains .snapshot) :
    (s.settle touched).1.face = (t.settle touched').1.face := by
  cases hsnapshot : touched.contains .snapshot with
  | true =>
    rw [settle_of_touched s hsnapshot, settle_of_touched t (htouched ▸ hsnapshot)]
    obtain ⟨hreadiness, hsame, hselection, hpending, hresults⟩ := Face.mk.inj h
    simp only [face, hasTestCase, hreadiness, hsame, hselection, hpending, hresults]
  | false =>
    rw [settle_of_untouched s hsnapshot, settle_of_untouched t (htouched ▸ hsnapshot)]
    exact h

/-- **So does a commit.** -/
theorem commit_face (h : s.face = t.face) (mutations : List Mutation) :
    (s.commit mutations).2.face = (t.commit mutations).2.face := by
  obtain ⟨hface, htouched⟩ := applyAll_alike h (rfl : SliceSet.empty.contains .snapshot = _) mutations
  calc (s.commit mutations).2.face
    _ = (s.batch mutations).1.face := face_of_content (commit_content s mutations)
    _ = (t.batch mutations).1.face := settle_face hface htouched
    _ = (t.commit mutations).2.face := (face_of_content (commit_content t mutations)).symm

/-- A note about a discarded event is not on the face. -/
theorem commit_recordDiscard_face (s : Store) (record : DiscardRecord) :
    (s.commit [.recordDiscard record]).2.face = s.face := by
  rw [face_of_content (commit_content s _), batch_single s (by simp [Mutation.scope])]
  rfl

end Store

/-! ## One message -/

/-- The reasons to discard a result for a run that is not live. -/
inductive DiscardReason.Late (text : String) : DiscardReason → Prop where
  | unknown : Late text (.unknownCorrelation text)
  | cancelled {id : CorrelationId} (names : CorrelationId.ofText? text = some id) : Late text (.cancelled id.text)
  | superseded {id : CorrelationId} (names : CorrelationId.ofText? text = some id) : Late text (.superseded id.text)

/-- Two outcomes of a message are the same, up to the reason why a result is late. -/
inductive Outcome.Alike (limit : Nat) (m : Message) : Outcome → Outcome → Prop where
  | same (outcome : Outcome) : Alike limit m outcome outcome
  | late {text : String} {result : TestResult} {reason reason' : DiscardReason}
      (decodes : m.decode limit = .ok (.testResult text result)) (hlate : reason.Late text) (hlate' : reason'.Late text) :
      Alike limit m (.discarded reason) (.discarded reason')

/-- No run is live. -/
def Ledger.Idle (l : Ledger) : Prop := ∀ n, l.live.get? n = none

theorem Ledger.Idle.admitResult {l : Ledger} (h : l.Idle) (text : String) :
    ∃ reason, l.admitResult text = (.discard reason, l) ∧ reason.Late text := by
  cases hid : CorrelationId.ofText? text with
  | none => exact ⟨_, by simp only [Ledger.admitResult, hid], .unknown⟩
  | some id =>
    simp only [Ledger.admitResult, hid, h id]
    split
    · exact ⟨_, rfl, .cancelled hid⟩
    · exact ⟨_, rfl, .superseded hid⟩
    · exact ⟨_, rfl, .unknown⟩

namespace Dispatcher

variable {s t : Store} {l k : Ledger}

theorem planProject_face (h : s.face = t.face) (sequence : Nat) (project : ProjectPayload) :
    planProject s sequence project = planProject t sequence project := by
  obtain ⟨hreadiness, hsnapshot, -, -, -⟩ := Face.mk.inj h
  simp only [planProject, becomeReady, hreadiness, hsnapshot]

/-- What is planned for an event depends on the face only, unless the event is a late result. -/
theorem plan_alike (h : s.face = t.face) (hl : l.Idle) (hk : k.Idle) (event : Event) :
    ∃ decided decided', plan s l event = (decided, l) ∧ plan t k event = (decided', k)
      ∧ (decided = decided' ∨ ∃ text result reason reason', event = .testResult text result
        ∧ decided = .discard reason ∧ decided' = .discard reason' ∧ reason.Late text ∧ reason'.Late text) := by
  obtain ⟨hreadiness, hsnapshot, -, -, -⟩ := Face.mk.inj h
  unfold plan
  rw [← hreadiness, ← hsnapshot]
  by_cases hmounted : s.readiness = .uninitialized
  · rw [if_pos hmounted, if_pos hmounted]
    exact ⟨_, _, rfl, rfl, .inl rfl⟩
  · rw [if_neg hmounted, if_neg hmounted]
    cases event with
    | ready sequence project | projectUpdated sequence project =>
      exact ⟨_, _, rfl, rfl, .inl (planProject_face h sequence project)⟩
    | diagnostics sequence payload =>
      cases s.snapshot <;> exact ⟨_, _, rfl, rfl, .inl rfl⟩
    | testResult text result =>
      obtain ⟨reason, hanswer, hlate⟩ := hl.admitResult text
      obtain ⟨reason', hanswer', hlate'⟩ := hk.admitResult text
      refine ⟨.discard reason, .discard reason', ?_, ?_, .inr ⟨text, result, _, _, rfl, rfl, rfl, hlate, hlate'⟩⟩
      · simp only [hanswer]
      · simp only [hanswer']
    | hostError => exact ⟨_, _, rfl, rfl, .inl rfl⟩

/-- The dispatcher after one more message, for which the mutations are committed. -/
def after (d : Dispatcher) (mutations : List Mutation) : Dispatcher := { d with received := d.received + 1 }.commit mutations

variable {d e : Dispatcher} {m : Message}

theorem dispatch_undecoded {fault : Fault} (noError : ∀ fault, d.store.readiness ≠ .error fault)
    (hdecode : m.decode d.maxMessageBytes = .error fault) :
    d.dispatch l m = (.faulted fault, d.after [.setReadiness (.error fault)], l) := by
  have hfail := fail_eq { d with received := d.received + 1 } fault noError
  simp only [dispatch, hdecode, hfail, after]

/-- What becomes of a message once it is known what to do about its event. -/
theorem dispatch_planned {event : Event} {decided : Plan} (noError : ∀ fault, d.store.readiness ≠ .error fault)
    (hdecode : m.decode d.maxMessageBytes = .ok event) (hplan : plan d.store l event = (decided, l)) :
    d.dispatch l m = match decided with
      | .commit mutations => (.applied event, d.after mutations, l)
      | .discard reason => (.discarded reason, d.after [.recordDiscard ⟨d.received + 1, some event.kind, reason⟩], l)
      | .fault fault => (.faulted fault, d.after [.setReadiness (.error fault)], l) := by
  simp only [dispatch, hdecode, hplan]
  cases decided with
  | commit | discard => rfl
  | fault fault =>
    have hfail := fail_eq { d with received := d.received + 1 } fault noError
    simp only [hfail, after]

theorem after_face (h : d.store.face = e.store.face) (mutations : List Mutation) :
    (d.after mutations).store.face = (e.after mutations).store.face := Store.commit_face h mutations

theorem after_recordDiscard_face (d : Dispatcher) (record : DiscardRecord) :
    (d.after [.recordDiscard record]).store.face = d.store.face := Store.commit_recordDiscard_face d.store record

/-- **A message does the same to two stores with one face**, as long as no run is live. -/
theorem dispatch_alike (h : d.store.face = e.store.face) (hlimit : d.maxMessageBytes = e.maxMessageBytes) (hl : l.Idle)
    (hk : k.Idle) (m : Message) :
    Outcome.Alike e.maxMessageBytes m (d.dispatch l m).1 (e.dispatch k m).1
      ∧ (d.dispatch l m).2.1.store.face = (e.dispatch k m).2.1.store.face
      ∧ (d.dispatch l m).2.2 = l ∧ (e.dispatch k m).2.2 = k := by
  have hreadiness : d.store.readiness = e.store.readiness := congrArg Face.readiness h
  by_cases herror : ∃ fault, e.store.readiness = .error fault
  · obtain ⟨fault, herror⟩ := herror
    have hignored {f : Dispatcher} (hf : f.store.readiness = .error fault) (l : Ledger) :
        f.dispatch l m = (.ignored, { f with received := f.received + 1 }, l) := by
      simp only [dispatch, hf]
    rw [hignored herror, hignored (hreadiness.trans herror)]
    exact ⟨.same _, h, rfl, rfl⟩
  have noError' : ∀ fault, e.store.readiness ≠ .error fault := fun fault hfault => herror ⟨fault, hfault⟩
  have noError : ∀ fault, d.store.readiness ≠ .error fault := hreadiness ▸ noError'
  cases hdecode : m.decode e.maxMessageBytes with
  | error fault =>
    rw [dispatch_undecoded noError' hdecode, dispatch_undecoded noError (hlimit ▸ hdecode)]
    exact ⟨.same _, after_face h _, rfl, rfl⟩
  | ok event =>
    obtain ⟨decided, decided', hplan, hplan', hsame⟩ := plan_alike h hl hk event
    rw [dispatch_planned noError' hdecode hplan', dispatch_planned noError (hlimit ▸ hdecode) hplan]
    rcases hsame with rfl | ⟨text, result, reason, reason', rfl, rfl, rfl, hlate, hlate'⟩
    · cases decided with
      | commit mutations => exact ⟨.same _, after_face h mutations, rfl, rfl⟩
      | discard reason =>
        refine ⟨.same _, ?_, rfl, rfl⟩
        rw [after_recordDiscard_face, after_recordDiscard_face, h]
      | fault fault => exact ⟨.same _, after_face h _, rfl, rfl⟩
    · refine ⟨.late hdecode hlate hlate', ?_, rfl, rfl⟩
      rw [after_recordDiscard_face, after_recordDiscard_face, h]

end Dispatcher

/-! ## Panels abreast -/

/-- Two panels that messages from the host cannot drive apart: they have one face and one limit, no run is live, and no
message waits. -/
structure Panel.Abreast (p q : Panel) : Prop where
  face : p.store.face = q.store.face
  limit : p.dispatcher.maxMessageBytes = q.dispatcher.maxMessageBytes
  idle : p.ledger.Idle ∧ q.ledger.Idle
  unqueued : p.transport.inbound = [] ∧ q.transport.inbound = []

/-- The outcomes of messages, one for each, are alike. -/
inductive Outcome.AllAlike (limit : Nat) : List Message → List Outcome → List Outcome → Prop where
  | nil : AllAlike limit [] [] []
  | cons {m : Message} {outcome outcome' : Outcome} {messages : List Message} {outcomes outcomes' : List Outcome}
      (first : Outcome.Alike limit m outcome outcome') (rest : AllAlike limit messages outcomes outcomes') :
      AllAlike limit (m :: messages) (outcome :: outcomes) (outcome' :: outcomes')

namespace Panel

/-- Delivers messages one after the other. -/
def deliverAll (p : Panel) : List Message → List Outcome × Panel
  | [] => ([], p)
  | m :: rest =>
    let (outcome, p) := p.deliver m
    let (outcomes, p) := p.deliverAll rest
    (outcome :: outcomes, p)

theorem deliverAll_cons (p : Panel) (m : Message) (rest : List Message) :
    p.deliverAll (m :: rest)
      = ((p.deliver m).1 :: ((p.deliver m).2.deliverAll rest).1, ((p.deliver m).2.deliverAll rest).2) := rfl

/-- With an empty queue a message is handled at once. -/
theorem deliver_of_unqueued {p : Panel} (h : p.transport.inbound = []) (m : Message) : p.deliver m = p.handle m := by
  obtain ⟨config, ⟨channel, inbound, sentCount⟩, dispatcher, ledger, listeners, now, journal⟩ := p
  obtain rfl : inbound = [] := h
  rfl

theorem handle_limit (p : Panel) (m : Message) :
    (p.handle m).2.dispatcher.maxMessageBytes = p.dispatcher.maxMessageBytes := by
  obtain ⟨store, hdispatcher⟩ := p.handle_dispatcher m
  rw [hdispatcher]

variable {p q : Panel}

/-- **A message keeps panels abreast**, and its outcomes are alike. -/
theorem Abreast.deliver (h : p.Abreast q) (m : Message) :
    Outcome.Alike q.dispatcher.maxMessageBytes m (p.deliver m).1 (q.deliver m).1
      ∧ (p.deliver m).2.Abreast (q.deliver m).2 := by
  obtain ⟨halike, hface, hledger, hledger'⟩ := Dispatcher.dispatch_alike h.face h.limit h.idle.1 h.idle.2 m
  rw [deliver_of_unqueued h.unqueued.1, deliver_of_unqueued h.unqueued.2]
  rw [← handle_fst, ← handle_fst] at halike
  rw [← handle_ledger] at hledger hledger'
  refine ⟨halike, ⟨?_, ?_, ?_, ?_⟩⟩
  · rw [Store.face_of_content (handle_content p m), Store.face_of_content (handle_content q m), hface]
  · rw [handle_limit, handle_limit, h.limit]
  · rw [hledger, hledger']
    exact h.idle
  · rw [handle_transport, handle_transport]
    exact h.unqueued

/-- **So do any messages**, one after the other. -/
theorem Abreast.deliverAll (h : p.Abreast q) (messages : List Message) :
    Outcome.AllAlike q.dispatcher.maxMessageBytes messages (p.deliverAll messages).1 (q.deliverAll messages).1
      ∧ (p.deliverAll messages).2.Abreast (q.deliverAll messages).2 := by
  induction messages generalizing p q with
  | nil => exact ⟨.nil, h⟩
  | cons m rest ih =>
    obtain ⟨hfirst, hnext⟩ := h.deliver m
    obtain ⟨hrest, hlast⟩ := ih hnext
    have hlimit : (q.deliver m).2.dispatcher.maxMessageBytes = q.dispatcher.maxMessageBytes := by
      rw [deliver_of_unqueued h.unqueued.2, handle_limit]
    rw [hlimit] at hrest
    rw [deliverAll_cons, deliverAll_cons]
    exact ⟨.cons hfirst hrest, hlast⟩

/-! ## Panels that load -/

/-- A panel that loads has nothing on its face. -/
theorem Coupled.loading_face (h : p.Coupled) (hloading : p.store.readiness = .loading) :
    p.store.face = ⟨.loading, none, .none, .empty, .empty⟩ ∧ p.ledger.Idle := by
  have hnone : p.store.snapshot = none := h.unloaded (.inr hloading)
  obtain ⟨hpending, hresults, hselection, -⟩ := h.empty hnone
  refine ⟨?_, (h.grounded hnone).2⟩
  rw [Store.face, hloading, hnone, hpending, hresults, hselection]

theorem send_inbound (p : Panel) (c : Command) : (p.send c).2.transport.inbound = p.transport.inbound := by
  rcases p.send_cases c with ⟨e, hsend⟩ | hsend
  · rw [hsend]
    rfl
  · rw [hsend]
    rfl

theorem reload_inbound (p : Panel) : p.reload.2.transport.inbound = p.transport.inbound := by
  unfold reload
  split
  · rfl
  · exact send_inbound ..

end Panel

theorem Moment.Performed.limit {m : Moment} (h : m.Performed) :
    m.after.dispatcher.maxMessageBytes = m.before.dispatcher.maxMessageBytes := by
  cases h with
  | operated p hsingle =>
    obtain ⟨store, hdispatcher⟩ := Panel.perform_dispatcher p hsingle
    have hlimit := congrArg Dispatcher.maxMessageBytes hdispatcher
    exact hlimit
  | queueTaken p => rfl
  | handled p message => exact Panel.handle_limit p message

/-- The limit of messages stays the one that the panel was made with. -/
theorem Panel.performAll_limit (p : Panel) (ops : List Operation) :
    (p.performAll ops).2.dispatcher.maxMessageBytes = p.dispatcher.maxMessageBytes := by
  refine history_invariant (I := fun _ q => q.dispatcher.maxMessageBytes = p.dispatcher.maxMessageBytes) ?_ p ops rfl
  intro past r cause q hr _ hperformed
  exact hperformed.limit.trans hr

/-- **Reloading starts over.** A panel in error whose queue is empty loads after a reload, whether or not the host took the
command, and nothing of what it had is left. From then on messages from the host do to it what they do to a new panel of
the same configuration that was just mounted: whatever messages are delivered, the outcomes are alike one by one, and both
panels have one face in the end. -/
theorem reload_starts_fresh (config : PanelConfig) (channel : MemoryChannel) (now : Instant) (ops : List Operation) :
    let p := ((Panel.new config channel now).performAll ops).2
    ∀ fault, p.store.readiness = .error fault → p.transport.inbound = [] →
      let q := p.reload.2
      (q.store.readiness = .loading ∧ q.store.snapshot = none ∧ q.store.sequence = none ∧ q.store.pending = .empty
        ∧ q.store.results = .empty ∧ q.store.selection = .none ∧ q.ledger.intents = [])
      ∧ ∀ (other : MemoryChannel) (later : Instant) (messages : List Message),
        let fresh := (Panel.new config other later).mount.2
        Outcome.AllAlike config.maxMessageBytes messages (q.deliverAll messages).1 (fresh.deliverAll messages).1
          ∧ (q.deliverAll messages).2.store.face = (fresh.deliverAll messages).2.store.face := by
  intro p fault herror hqueue q
  have path : Path _ _ p := Panel.history_path _ ops
  have turn : Turn p (.operated (.act .reload) .done) q := p.reload_turn .done
  have hcoupled : q.Coupled := (path.coupled (Panel.new_coupled config channel now)).turn turn
  have hover : p.StartsOver q := turn.startsOver ⟨.done, fault, rfl, herror⟩
  obtain ⟨hpending, hresults, hselection, hintents⟩ := hcoupled.empty hover.snapshot
  have hsequence : q.store.sequence = none := Store.sequence_of_none hover.snapshot
  refine ⟨⟨hover.readiness, hover.snapshot, hsequence, hpending, hresults, hselection, hintents⟩, ?_⟩
  intro other later messages fresh
  have hfresh : fresh.Coupled := (Panel.new_coupled config other later).turn (Panel.mount_turn _ .done)
  obtain ⟨hface, hidle⟩ := hcoupled.loading_face hover.readiness
  obtain ⟨hface', hidle'⟩ := hfresh.loading_face rfl
  have habreast : q.Abreast fresh := by
    refine ⟨hface.trans hface'.symm, ?_, ⟨hidle, hidle'⟩, ⟨?_, rfl⟩⟩
    · obtain ⟨store, hdispatcher⟩ := p.act_dispatcher .reload
      have hlimit := congrArg Dispatcher.maxMessageBytes hdispatcher
      exact hlimit.trans (Panel.performAll_limit _ ops)
    · rw [Panel.reload_inbound, hqueue]
  obtain ⟨halike, hlast⟩ := habreast.deliverAll messages
  exact ⟨halike, hlast.face⟩

/-- A run is started, and then a message cannot be read. -/
def brokenSession : List Operation :=
  [.mount, .deliver (projectMessage .ready 7 "f1" "c1"), .act (.runTest "f1" "c1"),
    .deliver (.json (.obj [("kind", .str "bogus")]))]

/-- The result of the run, and a project with a lower number than before. -/
def belatedMessages : List Message :=
  [.json (.obj [("correlationId", .str "corr-1"), ("kind", .str "test-result"),
      ("payload", .obj [("status", .str "success")])]),
    projectMessage .ready 1 "f1" "c1"]

/-- The reasons why the result is late differ, and nothing else does. -/
theorem brokenSession_starts_fresh :
    let p := ((Panel.new {} .accepting ⟨1700000000, 0⟩).performAll brokenSession).2
    let fresh := (Panel.new {} .accepting ⟨1700000000, 0⟩).mount.2
    p.store.readiness = .error (.protocol (.unknownKind "bogus")) ∧ p.transport.inbound = [] ∧ p.reload.1 = .ok ()
      ∧ p.ledger.intents ≠ [] ∧ p.store.sequence = some 7
      ∧ p.reload.2.ledger.intents = [] ∧ p.reload.2.store.sequence = none
      ∧ (p.reload.2.deliverAll belatedMessages).2.store.discards.map (·.reason) = [.superseded "corr-1"]
      ∧ (fresh.deliverAll belatedMessages).2.store.discards.map (·.reason) = [.unknownCorrelation "corr-1"]
      ∧ (p.reload.2.deliverAll belatedMessages).2.store.face = (fresh.deliverAll belatedMessages).2.store.face := by
  intro p fresh
  have hbefore : p.store.readiness = .error (.protocol (.unknownKind "bogus"))
      ∧ p.ledger.intents ≠ [] ∧ p.store.sequence = some 7 := by decide +kernel
  have hreasons : (p.reload.2.deliverAll belatedMessages).2.store.discards.map (·.reason) = [.superseded "corr-1"]
      ∧ (fresh.deliverAll belatedMessages).2.store.discards.map (·.reason) = [.unknownCorrelation "corr-1"] := by
    decide +kernel
  have hqueue : p.transport.inbound = [] := rfl
  obtain ⟨⟨-, -, hsequence, -, -, -, hintents⟩, hafter⟩ :=
    reload_starts_fresh {} .accepting ⟨1700000000, 0⟩ brokenSession _ hbefore.1 hqueue
  exact ⟨hbefore.1, hqueue, rfl, hbefore.2.1, hbefore.2.2, hintents, hsequence, hreasons.1, hreasons.2,
    (hafter .accepting ⟨1700000000, 0⟩ belatedMessages).2⟩

end PanelBridge
