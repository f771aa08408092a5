import PanelBridge.Proofs.Queue

/-!
# What listeners hear

A listener is called for the applied events of its kind from its registration on until it is removed. Both may happen
anywhere between messages, so what is heard of a message is told by the past of that message:

* **`listening`**: the listeners that some moments have registered and not removed since. It is the list that the panel keeps
  (`Panel.Listening`).
* **`Moment.heard`**: the calls that a moment makes after its past. The calls of a session are those of its moments, one after
  the other (`heardAfter`).
* **`Panel.Unheard`**: nothing but an applied event makes a call. One lemma for each way in which a panel changes.
* **`Listeners.remove_cases`**: a number names one listener at most, so removing it removes that listener and no other.
-/

namespace PanelBridge

/-! ## Numbers of listeners -/

/-- Something that is done to the listeners. -/
inductive ListenerMove where
  | register (kind : EventKind) (label : String)
  | remove (id : Nat)
  | clear

namespace Listeners

/-- Carries a move out, and gives the number of a listener that is registered. -/
def move (l : Listeners) : ListenerMove → Option Nat × Listeners
  | .register kind label =>
    let (id, l) := l.register kind label
    (some id, l)
  | .remove id => (none, (l.remove id).2)
  | .clear => (none, l.clear)

/-- The numbers that moves give out, one after the other. -/
def numbers (l : Listeners) : List ListenerMove → List Nat
  | [] => []
  | m :: rest => (l.move m).1.toList ++ (l.move m).2.numbers rest

/-- **Numbers only grow**, also when listeners are removed or all are cleared. -/
theorem numbers_ascending (l : Listeners) (moves : List ListenerMove) :
    (l.numbers moves).Pairwise (· < ·) ∧ ∀ n ∈ l.numbers moves, l.lastId < n := by
  induction moves generalizing l with
  | nil => exact ⟨.nil, fun n hn => by cases hn⟩
  | cons m rest ih =>
    cases m with
    | remove id => exact ih (l.remove id).2
    | clear => exact ih l.clear
    | register kind label =>
      obtain ⟨hascending, habove⟩ := ih (l.register kind label).2
      refine ⟨List.pairwise_cons.2 ⟨habove, hascending⟩, fun n hn => ?_⟩
      rcases List.mem_cons.1 hn with rfl | hn
      · exact Nat.lt_succ_self _
      · have hlt : l.lastId + 1 < n := habove n hn
        omega

/-- **A listener that is registered is removed, and no other**; a number that none has removes nothing. -/
theorem remove_cases {l : Listeners} (hdistinct : (l.entries.map (·.id)).Nodup) (id : Nat) :
    (∃ before listener after, l.entries = before ++ listener :: after ∧ listener.id = id
        ∧ l.remove id = (true, { l with entries := before ++ after }))
      ∨ (∀ listener ∈ l.entries, listener.id ≠ id) ∧ l.remove id = (false, l) := by
  by_cases hregistered : ∃ listener ∈ l.entries, listener.id = id
  · obtain ⟨listener, hmem, rfl⟩ := hregistered
    obtain ⟨before, after, hsplit⟩ := List.append_of_mem hmem
    refine .inl ⟨before, listener, after, hsplit, rfl, ?_⟩
    -- the numbers before and after it are others, so the test keeps all of them
    rw [hsplit, List.map_append, List.map_cons, List.nodup_append] at hdistinct
    obtain ⟨-, hafter, hbefore⟩ := hdistinct
    have hkeptBefore : before.filter (fun entry => entry.id != listener.id) = before := by
      refine List.filter_eq_self.2 fun entry hentry => ?_
      have hne := hbefore entry.id (List.mem_map_of_mem hentry) listener.id (.head _)
      exact bne_iff_ne.2 hne
    have hkeptAfter : after.filter (fun entry => entry.id != listener.id) = after := by
      refine List.filter_eq_self.2 fun entry hentry => ?_
      refine bne_iff_ne.2 fun heq => ?_
      exact (List.nodup_cons.1 hafter).1 (heq ▸ List.mem_map_of_mem hentry)
    have hrest : l.entries.filter (fun entry => entry.id != listener.id) = before ++ after := by
      rw [hsplit, List.filter_append, List.filter_cons, hkeptBefore, hkeptAfter]
      simp
    unfold remove
    simp only [hrest]
    rw [hsplit]
    simp
  · have hnone : ∀ listener ∈ l.entries, listener.id ≠ id := fun listener hmem heq => hregistered ⟨listener, hmem, heq⟩
    have hrest : l.entries.filter (fun entry => entry.id != id) = l.entries :=
      List.filter_eq_self.2 fun entry hentry => bne_iff_ne.2 (hnone entry hentry)
    refine .inr ⟨hnone, ?_⟩
    unfold remove
    simp only [hrest, bne_self_eq_false]

end Listeners

/-! ## Who listens -/

namespace Cause

/-- The listener that was registered, if one was. -/
def registered? : Cause → Option Listener
  | .operated (.on kind label) (.registered id) => some ⟨id, kind, label⟩
  | _ => none

/-- Whether the listener with a number was to be removed. -/
def removes (id : Nat) : Cause → Bool
  | .operated (.off n) _ => n = id
  | _ => false

end Cause

/-- The listeners that were registered in the past and not removed since, in the order of their registration. -/
def listening : (past : List Moment) → List Listener
  | [] => []
  | m :: rest =>
    (m.cause.registered?.filter fun listener => !rest.any fun later => later.cause.removes listener.id).toList
      ++ listening rest

theorem listening_snoc (past : List Moment) (m : Moment) :
    listening (past ++ [m]) =
      (listening past).filter (fun listener => !m.cause.removes listener.id) ++ m.cause.registered?.toList := by
  induction past with
  | nil =>
    show (m.cause.registered?.filter fun _ => true).toList ++ [] = _
    cases m.cause.registered? <;> rfl
  | cons first rest ih =>
    rw [List.cons_append, listening, listening, ih, List.filter_append, List.append_assoc]
    congr 1
    cases first.cause.registered? with
    | none => rfl
    | some listener =>
      -- one that was registered first stays if it was not removed before the last moment nor in it
      simp only [Option.filter_some, List.any_append, List.any_cons, List.any_nil, Bool.or_false]
      cases rest.any fun later => later.cause.removes listener.id <;> cases hlast : m.cause.removes listener.id <;>
        simp [hlast]

/-- Those who listen are among those who were registered, in the same order. -/
theorem listening_sublist (past : List Moment) :
    (listening past).Sublist (past.filterMap (·.cause.registered?)) := by
  induction past with
  | nil => exact .slnil
  | cons m rest ih =>
    rw [listening, filterMap_head]
    refine .append ?_ ih
    cases m.cause.registered? with
    | none => exact .slnil
    | some listener =>
      rw [Option.filter_some]
      split
      · exact .refl _
      · exact List.nil_sublist _

/-! ## Who is called -/

/-- The call of a listener, if it is one. -/
def Call.listener? : Call → Option ListenerCall
  | .listener call => some call
  | .notice _ => none

/-- The calls of listeners so far. -/
def Panel.listenerCalls (p : Panel) : List ListenerCall := p.journal.filterMap Call.listener?

/-- The calls that a moment makes after its past: if an event is applied, one for each who listens to its kind, with the event and
the store of the panel after the moment. -/
def Moment.heard (past : List Moment) (m : Moment) : List ListenerCall :=
  match m.cause with
  | .handled _ (.applied event) =>
    ((listening past).filter fun listener => listener.kind = event.kind).map fun listener =>
      ⟨listener, event, m.after.store⟩
  | _ => []

/-- The calls that moments make after a past, one after the other. -/
def heardAfter (past : List Moment) : List Moment → List ListenerCall
  | [] => []
  | m :: rest => m.heard past ++ heardAfter (past ++ [m]) rest

theorem heardAfter_snoc (past moments : List Moment) (m : Moment) :
    heardAfter past (moments ++ [m]) = heardAfter past moments ++ m.heard (past ++ moments) := by
  induction moments generalizing past with
  | nil =>
    rw [List.append_nil]
    exact List.append_nil _
  | cons first rest ih =>
    rw [List.cons_append, heardAfter, heardAfter, ih, List.append_assoc, List.append_assoc, List.singleton_append]

/-! ## Nothing but an applied event makes a call -/

/-- The listeners are the same, and none was called. -/
structure Panel.Unheard (p q : Panel) : Prop where
  listeners : q.listeners = p.listeners
  calls : q.listenerCalls = p.listenerCalls

namespace Panel

variable (p : Panel)

theorem Unheard.of_same {p q : Panel} (hlisteners : q.listeners = p.listeners) (hjournal : q.journal = p.journal) :
    p.Unheard q :=
  ⟨hlisteners, by rw [listenerCalls, hjournal]; rfl⟩

/-- The notices of a change go to the subscribers of the store. -/
theorem update_calls (d : Dispatcher) : (p.update d).listenerCalls = p.listenerCalls := by
  show (p.journal ++ d.store.outbox.map Call.notice).filterMap Call.listener? = p.journal.filterMap Call.listener?
  rw [List.filterMap_append, List.filterMap_map]
  have hnotices : d.store.outbox.filterMap (Call.listener? ∘ Call.notice) = [] :=
    List.filterMap_eq_nil_iff.2 fun _ _ => rfl
  rw [hnotices, List.append_nil]

variable {p} in
/-- Neither the ledger nor what is sent is told to listeners. -/
theorem unheard_of_update {d : Dispatcher} {q : Panel} (hlisteners : q.listeners = p.listeners)
    (hjournal : q.journal = (p.update d).journal) : p.Unheard q := by
  refine ⟨hlisteners, ?_⟩
  rw [listenerCalls, hjournal]
  exact p.update_calls d

theorem runTest_unheard (function testCase : String) : p.Unheard (p.runTest function testCase).2 := by
  unfold runTest
  split
  · exact .of_same rfl rfl
  · split
    · exact .of_same rfl rfl
    · rcases p.send_cases (p.ledger.prepareRun ⟨function, testCase⟩) with ⟨e, hsend⟩ | hsend
      · simp only [hsend]
        exact .of_same rfl rfl
      · simp only [hsend]
        exact unheard_of_update rfl rfl

theorem cancelRun_unheard (text : String) : p.Unheard (p.cancelRun text).2 := by
  unfold cancelRun
  split
  · exact .of_same rfl rfl
  · split
    · exact .of_same rfl rfl
    · exact unheard_of_update rfl rfl

theorem selectFunction_unheard (function : String) : p.Unheard (p.selectFunction function).2 := by
  unfold selectFunction
  split
  · exact .of_same rfl rfl
  · exact unheard_of_update rfl rfl

theorem reload_unheard : p.Unheard p.reload.2 := by
  unfold reload
  split
  · exact .of_same rfl rfl
  · exact unheard_of_update rfl rfl

theorem act_unheard (action : Action) : p.Unheard (p.act action).2 := by
  cases action with
  | runTest function testCase => exact p.runTest_unheard function testCase
  | cancelRun text => exact p.cancelRun_unheard text
  | selectFunction function => exact p.selectFunction_unheard function
  | selectTestCase | setFilter => exact unheard_of_update rfl rfl
  | requestSettings => exact .of_same rfl rfl
  | reload => exact p.reload_unheard

/-! ## Messages -/

theorem handle_store (m : Message) :
    (p.handle m).2.store = { (p.dispatcher.dispatch p.ledger m).2.1.store with outbox := [] } := by
  unfold handle
  cases hd : p.dispatcher.dispatch p.ledger m with
  | mk outcome rest => cases outcome <;> rfl

theorem handle_listeners (m : Message) : (p.handle m).2.listeners = p.listeners := by
  unfold handle
  cases hd : p.dispatcher.dispatch p.ledger m with
  | mk outcome rest => cases outcome <;> rfl

/-- The calls that an outcome brings about: if an event was applied, one for each listener of its kind, who is shown the store. -/
def publication (store : Store) : Outcome → List ListenerCall
  | .applied event => (p.listeners.forKind event.kind).map fun listener => ⟨listener, event, store⟩
  | _ => []

theorem publish_calls (event : Event) :
    (p.publish event).listenerCalls = p.listenerCalls ++ p.publication p.store (.applied event) := by
  show (p.journal ++ (p.listeners.forKind event.kind).map _).filterMap Call.listener? = _
  rw [List.filterMap_append, List.filterMap_map]
  show p.listenerCalls ++ List.filterMap (some ∘ fun listener => (⟨listener, event, p.store⟩ : ListenerCall)) _ = _
  rw [List.filterMap_eq_map]
  rfl

/-- **A message makes the calls of its outcome**, with the store that it leaves. -/
theorem handle_calls (m : Message) :
    (p.handle m).2.listenerCalls = p.listenerCalls ++ p.publication (p.handle m).2.store (p.handle m).1 := by
  unfold handle
  cases hd : p.dispatcher.dispatch p.ledger m with
  | mk outcome rest =>
    have hupdated : ({ p with ledger := rest.2 }.update rest.1).listenerCalls = p.listenerCalls :=
      update_calls { p with ledger := rest.2 } rest.1
    cases outcome with
    | applied event =>
      -- the calls follow the notices of the commit
      show (({ p with ledger := rest.2 }.update rest.1).publish event).listenerCalls = _
      rw [publish_calls, hupdated]
      rfl
    | discarded | faulted | ignored =>
      show ({ p with ledger := rest.2 }.update rest.1).listenerCalls = p.listenerCalls ++ []
      rw [hupdated, List.append_nil]

/-- An event that is applied is no error of the host, and the message leaves the store as the commit for the event does. -/
theorem handle_applied {m : Message} {event : Event} (h : (p.handle m).1 = .applied event) :
    event.kind ≠ .error ∧ ∃ mutations ledger, Dispatcher.plan p.store p.ledger event = (.commit mutations, ledger)
      ∧ (p.handle m).2.store = { (p.store.commit mutations).2 with outbox := [] } := by
  obtain ⟨mutations, hends, hdispatcher⟩ := p.dispatcher.dispatch_ends p.ledger m
  have hstore := p.handle_store m
  rw [hdispatcher] at hstore
  rw [handle_fst] at h
  generalize (p.dispatcher.dispatch p.ledger m).1 = outcome, (p.dispatcher.dispatch p.ledger m).2.2 = ledger at h hends
  subst h
  cases hends with
  | applied noError hdecode hplan =>
    refine ⟨?_, mutations, ledger, hplan, hstore⟩
    cases effect_of_plan p noError hdecode hplan with
    | idle hidle => exact hidle.elim
    | projectChanged _ hkind _ => rcases hkind with rfl | rfl <;> simp [Event.kind]
    | diagnosed | answered => simp [Event.kind]

end Panel

/-! ## Along a session -/

/-- The listeners of a panel are those of its past, their numbers are 1, 2, 3 and so on, and the calls so far are those of the
moments. -/
structure Panel.Listening (past : List Moment) (p : Panel) : Prop where
  entries : p.listeners.entries = listening past
  numbers : (past.filterMap (·.cause.registered?)).map (·.id) = List.range' 1 p.listeners.lastId
  calls : p.listenerCalls = heardAfter [] past

namespace Panel.Listening

variable {past : List Moment} {p : Panel}

/-- A moment that neither is about listeners nor applies an event changes nothing. -/
theorem of_unheard {m : Moment} (h : m.before.Listening past) (hunheard : m.before.Unheard m.after)
    (hregistered : m.cause.registered? = none) (hremoves : ∀ id, m.cause.removes id = false)
    (hheard : m.heard past = []) : m.after.Listening (past ++ [m]) := by
  refine ⟨?_, ?_, ?_⟩
  · rw [listening_snoc, hregistered, hunheard.listeners, h.entries]
    simp [hremoves]
  · rw [filterMap_snoc, hregistered, hunheard.listeners, ← h.numbers]
    simp
  · rw [heardAfter_snoc, List.nil_append, hheard, hunheard.calls, h.calls, List.append_nil]

/-- A listener that is registered gets the next number and comes last. -/
theorem on (h : p.Listening past) (kind : EventKind) (label : String) :
    (p.on kind label).2.Listening (past ++ [p.moment (.on kind label)]) := by
  have hregistered : (p.moment (.on kind label)).cause.registered? = some ⟨p.listeners.lastId + 1, kind, label⟩ := rfl
  refine ⟨?_, ?_, ?_⟩
  · show p.listeners.entries ++ [_] = _
    rw [listening_snoc, hregistered, h.entries]
    have hkept : (listening past).filter (fun listener => !(p.moment (.on kind label)).cause.removes listener.id) =
        listening past := List.filter_eq_self.2 fun _ _ => rfl
    rw [hkept]
    rfl
  · show _ = List.range' 1 (p.listeners.lastId + 1)
    rw [filterMap_snoc, hregistered, List.map_append, h.numbers, List.range'_concat]
    simp [Nat.add_comm]
  · rw [heardAfter_snoc]
    show p.listenerCalls = _ ++ []
    rw [List.append_nil, h.calls]

/-- Removing a listener takes it out of the list. -/
theorem off (h : p.Listening past) (id : Nat) : (p.off id).2.Listening (past ++ [p.moment (.off id)]) := by
  refine ⟨?_, ?_, ?_⟩
  · show p.listeners.entries.filter (fun entry => entry.id != id) = _
    rw [listening_snoc, h.entries]
    show _ = (listening past).filter (fun listener => !decide (id = listener.id)) ++ []
    rw [List.append_nil]
    refine List.filter_congr fun listener _ => ?_
    by_cases hid : id = listener.id
    · simp [hid]
    · simp [hid, Ne.symm hid]
  · rw [filterMap_snoc, List.map_append, h.numbers]
    exact List.append_nil _
  · rw [heardAfter_snoc]
    show p.listenerCalls = _ ++ []
    rw [List.append_nil, h.calls]

theorem handle (h : p.Listening past) (message : Message) :
    (p.handle message).2.Listening
      (past ++ [⟨p, .handled message (p.handle message).1, (p.handle message).2⟩]) := by
  have hlisteners := p.handle_listeners message
  refine ⟨?_, ?_, ?_⟩
  · rw [listening_snoc, hlisteners, h.entries]
    show _ = (listening past).filter (fun _ => true) ++ []
    rw [List.filter_true, List.append_nil]
  · rw [filterMap_snoc, hlisteners, ← h.numbers]
    show ((past.filterMap _) ++ []).map _ = _
    rw [List.append_nil]
  · rw [heardAfter_snoc, List.nil_append, handle_calls, h.calls]
    congr 1
    unfold publication Moment.heard
    cases (p.handle message).1 with
    | applied event =>
      show (p.listeners.entries.filter _).map _ = _
      rw [h.entries]
    | discarded | faulted | ignored => rfl

/-- **Every moment keeps the account of who listens and who was called.** -/
theorem step {m : Moment} (h : m.before.Listening past) (hm : m.Performed) : m.after.Listening (past ++ [m]) := by
  cases hm with
  | queueTaken p => exact h.of_unheard (.of_same rfl rfl) rfl (fun _ => rfl) rfl
  | handled p message => exact h.handle message
  | @operated p op single =>
    cases op with
    | pump | deliver => cases single
    | on kind label => exact h.on kind label
    | off id => exact h.off id
    | act action => exact h.of_unheard (p.act_unheard action) rfl (fun _ => rfl) rfl
    | mount | tick | tickAt => exact h.of_unheard (unheard_of_update rfl rfl) rfl (fun _ => rfl) rfl
    | receive | setClock | subscribe | unsubscribe | read => exact h.of_unheard (.of_same rfl rfl) rfl (fun _ => rfl) rfl

end Panel.Listening

theorem Panel.new_listening (config : PanelConfig) (channel : MemoryChannel) (now : Instant) :
    (new config channel now).Listening [] := ⟨rfl, rfl, rfl⟩

/-- Whoever is called listens to the kind of the event. -/
theorem kind_of_mem_heardAfter {past moments : List Moment} {call : ListenerCall} (h : call ∈ heardAfter past moments) :
    call.listener.kind = call.event.kind
      ∧ ∃ m ∈ moments, ∃ message, m.cause = .handled message (.applied call.event) := by
  induction moments generalizing past with
  | nil => cases h
  | cons m rest ih =>
    rcases List.mem_append.1 h with hfirst | hrest
    · unfold Moment.heard at hfirst
      split at hfirst
      · rename_i message event hcause
        obtain ⟨listener, hlistener, rfl⟩ := List.mem_map.1 hfirst
        have hkind : listener.kind = event.kind := by simpa using (List.mem_filter.1 hlistener).2
        exact ⟨hkind, m, .head _, message, hcause⟩
      · cases hfirst
    · obtain ⟨hkind, later, hlater, hcause⟩ := ih hrest
      exact ⟨hkind, later, .tail _ hlater, hcause⟩

/-- **Listeners hear of the applied events, in order.** In every session, with listeners registered and removed at any time:

* the calls of listeners are, for one message after the other, one call for each who was registered for the kind of the applied
  event and not removed since, in the order of registration, with that event and the store after that message; the messages
  are handled in the order of their arrival;
* the store after a message whose event was applied is as the commit for the event has left it, its notices having been
  collected;
* a message that is discarded, ignored or a fault makes no call, and no event of kind `error` is applied, so a listener
  for that kind is never called;
* numbers of listeners only grow, on a panel as on any listeners that are registered, removed and cleared;
* those who listen are the listeners of the panel. Removing a number that one of them has removes that one and no other and
  says so; removing any other number changes nothing. -/
theorem listeners_hear_applied_events (config : PanelConfig) (channel : MemoryChannel) (now : Instant)
    (ops : List Operation) :
    let start := Panel.new config channel now
    let history := start.history ops
    let p := (start.performAll ops).2
    (p.listenerCalls = heardAfter [] history
      ∧ Panel.handledMessages history ++ p.transport.inbound = ops.filterMap Operation.message?)
    ∧ (∀ m ∈ history, ∀ message event, m.cause = .handled message (.applied event) → event.kind ≠ .error
        ∧ ∃ mutations ledger, Dispatcher.plan m.before.store m.before.ledger event = (.commit mutations, ledger)
          ∧ m.after.store = { (m.before.store.commit mutations).2 with outbox := [] })
    ∧ (∀ call ∈ p.listenerCalls, call.listener.kind = call.event.kind ∧ call.listener.kind ≠ .error)
    ∧ (((history.filterMap (·.cause.registered?)).map (·.id)).Pairwise (· < ·)
      ∧ ∀ moves, (Listeners.new.numbers moves).Pairwise (· < ·))
    ∧ p.listeners.entries = listening history
    ∧ ∀ id, (∃ before listener after, listening history = before ++ listener :: after ∧ listener.id = id
          ∧ p.off id = (true, { p with listeners := { p.listeners with entries := before ++ after } }))
        ∨ (∀ listener ∈ listening history, listener.id ≠ id) ∧ p.off id = (false, p) := by
  intro start history p
  have hlistening : p.Listening history :=
    Panel.history_invariant (fun _ _ _ _ h _ hperformed => h.step hperformed) start ops
      (Panel.new_listening config channel now)
  have happlied : ∀ m ∈ history, ∀ message event, m.cause = .handled message (.applied event) → event.kind ≠ .error
      ∧ ∃ mutations ledger, Dispatcher.plan m.before.store m.before.ledger event = (.commit mutations, ledger)
        ∧ m.after.store = { (m.before.store.commit mutations).2 with outbox := [] } := by
    intro m hm message event hcause
    cases Panel.history_performed start ops m hm with
    | operated | queueTaken => cases hcause
    | handled q =>
      obtain ⟨rfl, houtcome⟩ := Cause.handled.inj hcause
      exact q.handle_applied houtcome
  have hascending : ((history.filterMap (·.cause.registered?)).map (·.id)).Pairwise (· < ·) := by
    rw [hlistening.numbers]
    exact List.pairwise_lt_range'
  refine ⟨⟨hlistening.calls, start.history_arrivals ops⟩, happlied, fun call hcall => ?_,
    ⟨hascending, fun moves => (Listeners.new.numbers_ascending moves).1⟩, hlistening.entries, fun id => ?_⟩
  · rw [hlistening.calls] at hcall
    obtain ⟨hkind, m, hm, message, hcause⟩ := kind_of_mem_heardAfter hcall
    refine ⟨hkind, ?_⟩
    rw [hkind]
    exact (happlied m hm message call.event hcause).1
  · -- the numbers of those who listen are among those that were given out, which are all different
    have hdistinct : (p.listeners.entries.map (·.id)).Nodup := by
      rw [hlistening.entries]
      exact (hascending.imp Nat.ne_of_lt).sublist ((listening_sublist history).map _)
    rcases Listeners.remove_cases hdistinct id with ⟨before, listener, after, hsplit, hid, hremoved⟩ | ⟨hnone, hremoved⟩
    · refine .inl ⟨before, listener, after, hlistening.entries ▸ hsplit, hid, ?_⟩
      rw [Panel.off, hremoved]
    · refine .inr ⟨hlistening.entries ▸ hnone, ?_⟩
      rw [Panel.off, hremoved]

end PanelBridge
