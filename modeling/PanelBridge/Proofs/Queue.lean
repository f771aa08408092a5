import PanelBridge.Proofs.FreshStart

/-!
# The queue of messages

A message from the host waits in the queue until the queue is pumped. Delivering a message puts it behind those that wait and
pumps them all. Which calls a host makes must not show in what becomes of its messages:

* **`pump_next`**: a pump takes one message off the queue, handles it and goes on with the rest.
* **`deliver_eq`**: to deliver a message is to pump what waits and then to handle this very message.
* **`feed_then_pump`**: whatever one call does, with a pump after it the panel has handled what was waiting and then the message
  of the call. Hence so it is with any number of calls (`feedAll_then_pump`).
* **`history_arrivals`**: in every session, the messages that were handled and then those that wait are the messages that
  arrived.
-/

namespace PanelBridge

theorem filterMap_head {α β : Type} (f : α → Option β) (a : α) (l : List α) :
    (a :: l).filterMap f = (f a).toList ++ l.filterMap f := by
  rw [List.filterMap_cons]
  cases f a <;> rfl

/-! ## Handling and the transport -/

namespace Panel

variable (p : Panel)

/-- What becomes of a message does not depend on the transport, and leaves it alone. -/
theorem handle_withTransport (transport : Transport MemoryChannel) (m : Message) :
    { p with transport }.handle m = ((p.handle m).1, { (p.handle m).2 with transport }) := by
  unfold handle
  cases hd : p.dispatcher.dispatch p.ledger m with
  | mk outcome rest => cases outcome <;> rfl

theorem handleAll_cons (m : Message) (rest : List Message) :
    p.handleAll (m :: rest) =
      ((p.handle m).1 :: ((p.handle m).2.handleAll rest).1, ((p.handle m).2.handleAll rest).2) := rfl

theorem handleAll_transport (messages : List Message) : (p.handleAll messages).2.transport = p.transport := by
  induction messages generalizing p with
  | nil => rfl
  | cons m rest ih => rw [handleAll_cons, ih, handle_transport]

theorem handleAll_append (first second : List Message) :
    p.handleAll (first ++ second) =
      ((p.handleAll first).1 ++ ((p.handleAll first).2.handleAll second).1,
       ((p.handleAll first).2.handleAll second).2) := by
  induction first generalizing p with
  | nil => rfl
  | cons m rest ih =>
    rw [List.cons_append, handleAll_cons, handleAll_cons, ih]
    rfl

theorem length_handleAll (messages : List Message) : (p.handleAll messages).1.length = messages.length := by
  induction messages generalizing p with
  | nil => rfl
  | cons m rest ih => rw [handleAll_cons, List.length_cons, List.length_cons, ih]

/-! ## Pumping -/

theorem pump_eq : p.pump = p.takeQueue.handleAll p.transport.inbound := rfl

/-- A pump gives one outcome for each message that waits. -/
theorem length_pump : p.pump.1.length = p.transport.inbound.length := p.takeQueue.length_handleAll p.transport.inbound

/-- **A pump leaves the queue empty.** -/
theorem pump_inbound : p.pump.2.transport.inbound = [] := by
  rw [pump_eq, handleAll_transport]
  rfl

variable {p} in
theorem takeQueue_of_unqueued (h : p.transport.inbound = []) : p.takeQueue = p := by
  obtain ⟨_, ⟨_, inbound, _⟩, _, _, _, _, _⟩ := p
  obtain rfl : inbound = [] := h
  rfl

variable {p} in
theorem pump_of_unqueued (h : p.transport.inbound = []) : p.pump = ([], p) := by
  rw [pump_eq, h, takeQueue_of_unqueued h]
  rfl

theorem pump_again : p.pump.2.pump = ([], p.pump.2) := pump_of_unqueued p.pump_inbound

/-- **A pump takes the messages off the queue one at a time.** While one is handled, those behind it still wait. -/
theorem pump_next :
    p.pump = match p.transport.nextInbound with
      | (none, _) => ([], p)
      | (some m, transport) =>
        let (outcome, q) := { p with transport }.handle m
        (outcome :: q.pump.1, q.pump.2) := by
  cases hqueue : p.transport.inbound with
  | nil =>
    have hnext : p.transport.nextInbound = (none, p.transport) := by rw [Transport.nextInbound, hqueue]
    rw [hnext, pump_of_unqueued hqueue]
  | cons m rest =>
    have hnext : p.transport.nextInbound = (some m, { p.transport with inbound := rest }) := by
      rw [Transport.nextInbound, hqueue]
    -- the transport is put back in place after the message, with the rest of the queue still in it
    have hfirst := p.handle_withTransport { p.transport with inbound := rest } m
    have htaken : p.takeQueue.handle m = ((p.handle m).1, { (p.handle m).2 with transport := p.transport.clearInbound }) :=
      p.handle_withTransport p.transport.clearInbound m
    rw [hnext]
    simp only [hfirst]
    rw [pump_eq, hqueue, handleAll_cons, htaken]
    rfl

/-- A message that is received is handled by the next pump, after all that wait. -/
theorem pump_receive (m : Message) :
    (p.receive m).pump = (p.pump.1 ++ [(p.pump.2.handle m).1], (p.pump.2.handle m).2) := by
  have hpump : (p.receive m).pump = p.takeQueue.handleAll (p.transport.inbound ++ [m]) := rfl
  rw [hpump, handleAll_append]
  rfl

/-- **To deliver a message is to pump what waits and then to handle this very message.** -/
theorem deliver_eq (m : Message) : p.deliver m = p.pump.2.handle m := by
  have hdeliver : p.deliver m = ((p.receive m).pump.1.getLast?.getD .ignored, (p.receive m).pump.2) := rfl
  rw [hdeliver, pump_receive, List.getLast?_concat]
  rfl

variable {p} in
theorem deliverAll_of_unqueued (h : p.transport.inbound = []) (messages : List Message) :
    p.deliverAll messages = p.handleAll messages := by
  induction messages generalizing p with
  | nil => rfl
  | cons m rest ih =>
    have hnext : (p.handle m).2.transport.inbound = [] := by
      rw [handle_transport]
      exact h
    rw [deliverAll_cons, deliver_of_unqueued h, ih hnext, handleAll_cons]

end Panel

/-! ## Ways to feed a panel -/

/-- A call that hands a message over or has the queue handled. -/
inductive Feed where
  | receive (message : Message)
  | deliver (message : Message)
  | pump

namespace Feed

def operation : Feed → Operation
  | .receive m => .receive m
  | .deliver m => .deliver m
  | .pump => .pump

/-- The message that a call hands over. -/
def message? : Feed → Option Message
  | .receive m | .deliver m => some m
  | .pump => none

/-- Whether a call has the queue handled. -/
def pumps : Feed → Bool
  | .receive _ => false
  | .deliver _ | .pump => true

end Feed

namespace Panel

variable (p : Panel)

/-- The outcomes of the pump that a call makes. -/
def pumped : Feed → List Outcome
  | .receive _ => []
  | .deliver m => (p.receive m).pump.1
  | .pump => p.pump.1

/-- The outcomes of all pumps that calls make, one after the other. -/
def pumpedAll (p : Panel) : List Feed → List Outcome
  | [] => []
  | feed :: rest => p.pumped feed ++ (p.perform feed.operation).2.pumpedAll rest

theorem performAll_append (first second : List Operation) :
    (p.performAll (first ++ second)).2 = ((p.performAll first).2.performAll second).2 := by
  induction first generalizing p with
  | nil => rfl
  | cons op rest ih => exact ih (p.perform op).2

theorem feed_inbound {feed : Feed} (h : feed.pumps = true) : (p.perform feed.operation).2.transport.inbound = [] := by
  cases feed with
  | receive => cases h
  | deliver m => exact (p.receive m).pump_inbound
  | pump => exact p.pump_inbound

/-- **One call and a pump after it** handle what was waiting and then the message of the call. -/
theorem feed_then_pump (feed : Feed) :
    let q := (p.perform feed.operation).2
    let handled := p.pump.2.handleAll feed.message?.toList
    p.pumped feed ++ q.pump.1 = p.pump.1 ++ handled.1 ∧ q.pump.2 = handled.2 := by
  cases feed with
  | receive m =>
    show [] ++ (p.receive m).pump.1 = _ ∧ (p.receive m).pump.2 = _
    rw [pump_receive, List.nil_append]
    exact ⟨rfl, rfl⟩
  | deliver m =>
    show (p.receive m).pump.1 ++ (p.receive m).pump.2.pump.1 = _ ∧ (p.receive m).pump.2.pump.2 = _
    rw [pump_again, pump_receive, List.append_nil]
    exact ⟨rfl, rfl⟩
  | pump =>
    show p.pump.1 ++ p.pump.2.pump.1 = _ ∧ p.pump.2.pump.2 = _
    rw [pump_again]
    exact ⟨rfl, rfl⟩

/-- **Any calls and a pump after them** handle what was waiting and then the messages of the calls, in their order. -/
theorem feedAll_then_pump (feeds : List Feed) :
    let q := (p.performAll (feeds.map Feed.operation)).2
    let handled := p.pump.2.handleAll (feeds.filterMap Feed.message?)
    p.pumpedAll feeds ++ q.pump.1 = p.pump.1 ++ handled.1 ∧ q.pump.2 = handled.2 := by
  induction feeds generalizing p with
  | nil => exact ⟨(List.append_nil _).symm, rfl⟩
  | cons feed rest ih =>
    obtain ⟨houtcomes, hpanel⟩ := p.feed_then_pump feed
    obtain ⟨hrest, hlast⟩ := ih (p.perform feed.operation).2
    rw [hpanel] at hrest hlast
    rw [filterMap_head, handleAll_append]
    refine ⟨?_, hlast⟩
    show p.pumped feed ++ (p.perform feed.operation).2.pumpedAll rest
      ++ ((p.perform feed.operation).2.performAll (rest.map Feed.operation)).2.pump.1 = _
    rw [List.append_assoc, hrest, ← List.append_assoc, houtcomes, List.append_assoc]

end Panel

/-! ## Arrivals in a session -/

/-- The message that an operation hands over. -/
def Operation.message? : Operation → Option Message
  | .receive m | .deliver m => some m
  | _ => none

/-- The message that was handled, with its outcome. -/
def Cause.handled? : Cause → Option (Message × Outcome)
  | .handled message outcome => some (message, outcome)
  | _ => none

namespace Panel

variable (p : Panel)

theorem handleMoments_handled? (messages : List Message) :
    (p.handleMoments messages).filterMap (·.cause.handled?) = messages.zip (p.handleAll messages).1 := by
  induction messages generalizing p with
  | nil => rfl
  | cons m rest ih =>
    rw [handleAll_cons, List.zip_cons_cons, ← ih]
    rfl

theorem pumpMoments_handled? :
    p.pumpMoments.filterMap (·.cause.handled?) = p.transport.inbound.zip p.pump.1 :=
  handleMoments_handled? p.takeQueue p.transport.inbound

theorem act_inbound (action : Action) : (p.act action).2.transport.inbound = p.transport.inbound := by
  cases hcommand : action.hasCommand with
  | false =>
    cases action with
    | selectTestCase | setFilter => rfl
    | _ => cases hcommand
  | true =>
    have hcalled := p.act_called hcommand
    generalize (!(p.act action).1.isRefusal) = well, (Cause.operated (.act action) (p.act action).1).command? = command?,
      (p.act action).2.transport = t at hcalled ⊢
    cases hcalled with
    | silent | refused | taken => rfl

/-- An operation that does one thing puts its message, if it has one, at the end of the queue. -/
theorem perform_inbound {op : Operation} (h : op.isSingle = true) :
    (p.perform op).2.transport.inbound = p.transport.inbound ++ op.message?.toList := by
  cases op with
  | pump | deliver => cases h
  | receive => rfl
  | act action =>
    show (p.act action).2.transport.inbound = _
    rw [act_inbound]
    exact (List.append_nil _).symm
  | _ => exact (List.append_nil _).symm

/-- The messages that some moments are about, with their outcomes. -/
def handledIn (moments : List Moment) : List (Message × Outcome) := moments.filterMap (·.cause.handled?)

/-- The messages that the moments of a session handle. -/
def handledMessages (moments : List Moment) : List Message := (moments.filterMap (·.cause.handled?)).map Prod.fst

theorem handledMessages_append (first second : List Moment) :
    handledMessages (first ++ second) = handledMessages first ++ handledMessages second := by
  unfold handledMessages
  rw [List.filterMap_append, List.map_append]

theorem pumpMoments_messages : handledMessages p.pumpMoments = p.transport.inbound := by
  unfold handledMessages
  rw [pumpMoments_handled?, List.map_fst_zip (Nat.le_of_eq p.length_pump.symm)]

theorem pumpMoments_outcomes : (p.pumpMoments.filterMap (·.cause.handled?)).map Prod.snd = p.pump.1 := by
  rw [pumpMoments_handled?, List.map_snd_zip (Nat.le_of_eq p.length_pump)]

/-- The messages of one operation: those that it handles and those that wait after it are those that waited before it and its
own. -/
theorem moments_arrivals (op : Operation) :
    handledMessages (p.moments op) ++ (p.perform op).2.transport.inbound = p.transport.inbound ++ op.message?.toList := by
  cases op with
  | pump =>
    show handledMessages p.pumpMoments ++ p.pump.2.transport.inbound = _
    rw [pumpMoments_messages, pump_inbound]
    rfl
  | deliver m =>
    show handledMessages (p.receive m).pumpMoments ++ (p.receive m).pump.2.transport.inbound = _
    rw [pumpMoments_messages, pump_inbound, List.append_nil]
    rfl
  | _ => exact p.perform_inbound rfl

/-- The outcomes that the moments of a call record are those of its pump. -/
theorem moments_pumped (feed : Feed) :
    ((p.moments feed.operation).filterMap (·.cause.handled?)).map Prod.snd = p.pumped feed := by
  cases feed with
  | receive => rfl
  | deliver m => exact (p.receive m).pumpMoments_outcomes
  | pump => exact p.pumpMoments_outcomes

theorem history_pumped (feeds : List Feed) :
    ((p.history (feeds.map Feed.operation)).filterMap (·.cause.handled?)).map Prod.snd = p.pumpedAll feeds := by
  induction feeds generalizing p with
  | nil => rfl
  | cons feed rest ih =>
    show ((p.moments feed.operation ++ (p.perform feed.operation).2.history (rest.map Feed.operation)).filterMap _).map _ =
      p.pumped feed ++ (p.perform feed.operation).2.pumpedAll rest
    rw [List.filterMap_append, List.map_append, moments_pumped, ih]

/-- **No message is lost, handled twice or handled out of turn.** In every session, the messages that were handled and then
those that wait are those that waited at the start and then those that arrived. -/
theorem history_arrivals (ops : List Operation) :
    handledMessages (p.history ops) ++ (p.performAll ops).2.transport.inbound =
      p.transport.inbound ++ ops.filterMap Operation.message? := by
  induction ops generalizing p with
  | nil => exact (List.append_nil _).symm
  | cons op rest ih =>
    show handledMessages (p.moments op ++ (p.perform op).2.history rest)
      ++ ((p.perform op).2.performAll rest).2.transport.inbound = _
    rw [handledMessages_append, List.append_assoc, ih, ← List.append_assoc, moments_arrivals, filterMap_head,
      List.append_assoc]

end Panel

theorem Feed.operation_message? (feeds : List Feed) :
    (feeds.map Feed.operation).filterMap Operation.message? = feeds.filterMap Feed.message? := by
  rw [List.filterMap_map]
  congr 1
  funext feed
  cases feed <;> rfl

/-- **Queueing neither loses nor repeats nor reorders messages.** Feed a panel with an empty queue by any calls of which the last one
has the queue handled:

* the outcomes of all pumps and the panel in the end, with everything it holds and has told to the outside, are those that
  delivering the messages one at a time gives;
* there is one outcome for each message, and what was handled is each message with its outcome, in the order of arrival.

Moreover, on every panel: a pump takes the messages off the queue one at a time until none is left; and to deliver a message
is to pump what waits and then to handle this message, so that the answer is the last of the outcomes and its own. -/
theorem feeding_is_delivering (p : Panel) (front : List Feed) (last : Feed) (hempty : p.transport.inbound = [])
    (hlast : last.pumps = true) :
    let feeds := front ++ [last]
    let ops := feeds.map Feed.operation
    let messages := feeds.filterMap Feed.message?
    ((p.pumpedAll feeds, (p.performAll ops).2) = p.deliverAll messages
      ∧ (p.pumpedAll feeds).length = messages.length
      ∧ (p.history ops).filterMap (·.cause.handled?) = messages.zip (p.pumpedAll feeds))
    ∧ (∀ q : Panel, q.pump.2.transport.inbound = []
        ∧ q.pump = match q.transport.nextInbound with
          | (none, _) => ([], q)
          | (some m, transport) =>
            let (outcome, r) := { q with transport }.handle m
            (outcome :: r.pump.1, r.pump.2))
    ∧ ∀ (q : Panel) (m : Message), q.deliver m = q.pump.2.handle m
        ∧ (q.receive m).pump.1 = q.pump.1 ++ [(q.deliver m).1] := by
  intro feeds ops messages
  -- the last call leaves nothing for another pump to do
  have hops : (p.performAll ops).2.transport.inbound = [] := by
    have hsplit : ops = front.map Feed.operation ++ [last.operation] := by simp [ops, feeds]
    rw [hsplit, p.performAll_append]
    exact (p.performAll (front.map Feed.operation)).2.feed_inbound hlast
  obtain ⟨houtcomes, hpanel⟩ := p.feedAll_then_pump feeds
  rw [Panel.pump_of_unqueued hops, Panel.pump_of_unqueued hempty] at houtcomes hpanel
  rw [List.append_nil, List.nil_append] at houtcomes
  have hlength : (p.pumpedAll feeds).length = messages.length := by
    rw [houtcomes, Panel.length_handleAll]
  refine ⟨⟨?_, hlength, ?_⟩, fun q => ⟨q.pump_inbound, q.pump_next⟩, fun q m => ⟨q.deliver_eq m, ?_⟩⟩
  · rw [Panel.deliverAll_of_unqueued hempty, houtcomes]
    exact congrArg _ hpanel
  · have harrivals := p.history_arrivals ops
    rw [hops, hempty, Feed.operation_message?, List.append_nil, List.nil_append] at harrivals
    exact List.zip_of_prod harrivals (p.history_pumped feeds)
  · rw [Panel.pump_receive, Panel.deliver_eq]

/-- Calls of every kind, with messages that are applied, that come too late, and that cannot be read. -/
def mixedCalls : List Feed :=
  [.receive (projectMessage .ready 1 "f1" "c1"), .receive (projectMessage .projectUpdated 2 "f2" "c2"),
   .deliver (projectMessage .projectUpdated 1 "f1" "c1"), .pump, .receive (.text "[1,"),
   .receive (projectMessage .projectUpdated 3 "f1" "c1")]

theorem mixedCalls_deliver :
    let p := (Panel.new {} .accepting ⟨1700000000, 0⟩).mount.2
    let feeds := mixedCalls ++ [.pump]
    p.transport.inbound = [] ∧ Feed.pump.pumps = true
      ∧ (p.pumpedAll feeds, (p.performAll (feeds.map Feed.operation)).2) = p.deliverAll (feeds.filterMap Feed.message?)
      ∧ (p.pumpedAll feeds).length = 5 := by
  intro p feeds
  obtain ⟨⟨hdelivered, hlength, -⟩, -⟩ := feeding_is_delivering p mixedCalls .pump rfl rfl
  exact ⟨rfl, rfl, hdelivered, hlength⟩

end PanelBridge
