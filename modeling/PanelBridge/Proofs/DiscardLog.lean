import PanelBridge.Proofs.Forgetting
import PanelBridge.Proofs.Queue
import PanelBridge.Proofs.Redraws

/-!
# The log of discarded messages

A message that is discarded leaves a note. The note is numbered where messages are counted, before any of them is looked at;
it is kept where the state is, in a log with room for the last few, beside a total. A reload touches neither. So the
log has to be compared with all messages of a session, whatever became of them:

* **`discardNotes`**: the notes of a list of messages with their outcomes, each with the place of its message.
* **`Panel.Logged`**: what a panel has counted and kept is what the messages so far call for. Every moment of a session
  preserves this (`Logged.turn`).
* **`Panel.handle_regression`**: an event is set aside as behind only if its number is less than the one that is shown.
-/

namespace PanelBridge

/-! ## Notes -/

def Outcome.isDiscarded : Outcome → Bool
  | .discarded _ => true
  | _ => false

/-- The note that a message with its outcome leaves at a place among all messages; `limit` is the size up to which messages are
read. -/
def discardNote? (limit place : Nat) : Message × Outcome → Option DiscardRecord
  | (message, .discarded reason) => some ⟨place, (message.decode limit).toOption.map Event.kind, reason⟩
  | _ => none

/-- The notes of messages with their outcomes, in order. The first message has the place 1. -/
def discardNotes (limit : Nat) (handled : List (Message × Outcome)) : List DiscardRecord :=
  (handled.zipIdx 1).filterMap fun entry => discardNote? limit entry.2 entry.1

section Notes

variable {limit : Nat}

theorem discardNote?_eq_some_iff {place : Nat} {entry : Message × Outcome} {record : DiscardRecord} :
    discardNote? limit place entry = some record ↔
      entry.2 = .discarded record.reason ∧ record.ordinal = place
        ∧ record.kind = (entry.1.decode limit).toOption.map Event.kind := by
  obtain ⟨message, outcome⟩ := entry
  cases outcome with
  | discarded reason =>
    obtain ⟨ordinal, kind, reason'⟩ := record
    simp only [discardNote?, Option.some.injEq, DiscardRecord.mk.injEq, Outcome.discarded.injEq]
    constructor
    · rintro ⟨rfl, rfl, rfl⟩
      exact ⟨rfl, rfl, rfl⟩
    · rintro ⟨rfl, rfl, rfl⟩
      exact ⟨rfl, rfl, rfl⟩
  | applied | faulted | ignored => simp [discardNote?]

/-- One more message adds its own note, if it has one, with its own place. -/
theorem discardNotes_concat (handled : List (Message × Outcome)) (entry : Message × Outcome) :
    discardNotes limit (handled ++ [entry]) =
      discardNotes limit handled ++ (discardNote? limit (handled.length + 1) entry).toList := by
  rw [discardNotes, List.zipIdx_append, List.filterMap_append, Nat.add_comm 1]
  rfl

theorem length_discardNotes (handled : List (Message × Outcome)) :
    (discardNotes limit handled).length = handled.countP (·.2.isDiscarded) := by
  have hentries := List.countP_map (p := fun entry : Message × Outcome => entry.2.isDiscarded) (f := Prod.fst)
    (l := handled.zipIdx 1)
  rw [List.zipIdx_map_fst] at hentries
  rw [discardNotes, List.length_filterMap_eq_countP, hentries]
  refine List.countP_congr fun entry _ => ?_
  obtain ⟨⟨message, outcome⟩, place⟩ := entry
  cases outcome <;> rfl

/-- A note stands for the message at its place. -/
theorem mem_discardNotes {handled : List (Message × Outcome)} {record : DiscardRecord}
    (h : record ∈ discardNotes limit handled) :
    ∃ message, handled[record.ordinal - 1]? = some (message, .discarded record.reason)
      ∧ record.kind = (message.decode limit).toOption.map Event.kind
      ∧ 1 ≤ record.ordinal ∧ record.ordinal ≤ handled.length := by
  obtain ⟨⟨⟨message, outcome⟩, place⟩, hmem, hnote⟩ := List.mem_filterMap.1 h
  obtain ⟨houtcome, rfl, hkind⟩ := discardNote?_eq_some_iff.1 hnote
  obtain ⟨hle, hlt, hget⟩ := List.mem_zipIdx hmem
  obtain rfl : outcome = _ := houtcome
  refine ⟨message, ?_, hkind, hle, by omega⟩
  rw [List.getElem?_eq_getElem (by omega), hget]

theorem discardNotes_ascending (handled : List (Message × Outcome)) :
    (discardNotes limit handled).Pairwise fun a b => a.ordinal < b.ordinal := by
  have hplaces : (handled.zipIdx 1).Pairwise fun a b => a.2 < b.2 := by
    rw [← List.pairwise_map, List.zipIdx_map_snd]
    exact List.pairwise_lt_range'
  refine hplaces.filterMap _ fun a b hlt record hrecord record' hrecord' => ?_
  rw [(discardNote?_eq_some_iff.1 hrecord).2.1, (discardNote?_eq_some_iff.1 hrecord').2.1]
  exact hlt

end Notes

/-! ## Events that are behind -/

/-- A result is set aside for no other reason than that it is late. -/
theorem Ledger.late_of_discard {l : Ledger} {text : String} {reason : DiscardReason}
    (h : (l.admitResult text).1 = .discard reason) : reason.Late text := by
  cases hid : CorrelationId.ofText? text with
  | none =>
    simp only [admitResult, hid, Admission.discard.injEq] at h
    exact h ▸ .unknown
  | some id =>
    cases hlive : l.live.get? id with
    | some run =>
      rw [admitResult_of_live hid hlive] at h
      cases h
    | none =>
      rw [admitResult_of_not_live hid hlive] at h
      exact Admission.discard.inj h ▸ DiscardReason.ofTombstone_late hid _

/-- Only an event about the project is behind, and what is shown is ahead of it. -/
theorem Dispatcher.plan_regression {s : Store} {l : Ledger} {event : Event} {incoming current : Nat}
    (h : (plan s l event).1 = .discard (.sequenceRegression incoming current)) : incoming < current := by
  have project {sequence : Nat} {payload : ProjectPayload}
      (hplan : planProject s sequence payload = .discard (.sequenceRegression incoming current)) : incoming < current := by
    have hdecides := planProject_decides s sequence payload
    rw [hplan] at hdecides
    cases hdecides with
    | behind _ hlt => exact hlt
  unfold plan at h
  split at h
  · cases h
  · cases event with
    | ready | projectUpdated => exact project h
    | diagnostics =>
      simp only at h
      split at h <;> cases h
    | testResult text result =>
      cases hadmission : l.admitResult text with
      | mk admission left =>
        simp only [hadmission] at h
        cases admission with
        | live intent => cases h
        | discard reason =>
          obtain rfl : reason = _ := Plan.discard.inj h
          cases Ledger.late_of_discard (congrArg Prod.fst hadmission)
    | hostError => cases h

/-- A message that is discarded was read, and its event was planned to be set aside. -/
theorem Dispatcher.dispatch_discarded {d : Dispatcher} {l : Ledger} {m : Message} {reason : DiscardReason}
    (h : (d.dispatch l m).1 = .discarded reason) :
    ∃ event, m.decode d.maxMessageBytes = .ok event ∧ (plan d.store l event).1 = .discard reason := by
  unfold dispatch at h
  simp only at h
  split at h
  · cases h
  · cases hdecode : m.decode d.maxMessageBytes with
    | error fault => simp [hdecode] at h
    | ok event =>
      refine ⟨event, rfl, ?_⟩
      cases hplan : plan d.store l event with
      | mk decided ledger =>
        simp only [hdecode, hplan] at h
        cases decided with
        | commit | fault => cases h
        | discard => exact congrArg Plan.discard (Outcome.discarded.inj h)

/-! ## Counting and logging -/

namespace Store

theorem apply_discardCapacity (s : Store) (m : Mutation) : (s.apply m).1.discardCapacity = s.discardCapacity := by
  cases m <;> simp only [apply] <;> (repeat' split) <;> rfl

theorem applyAll_discardCapacity (s : Store) (touched : SliceSet) (mutations : List Mutation) :
    (s.applyAll touched mutations).1.discardCapacity = s.discardCapacity := by
  induction mutations generalizing s touched with
  | nil => rfl
  | cons m rest ih => rw [applyAll_cons, ih, apply_discardCapacity]

theorem batch_discardCapacity (s : Store) (mutations : List Mutation) :
    (s.batch mutations).1.discardCapacity = s.discardCapacity := by
  have happlied := applyAll_discardCapacity s .empty mutations
  rw [batch_eq]
  cases ht : (s.applyAll .empty mutations).2.contains .snapshot with
  | true =>
    rw [settle_of_touched _ ht]
    exact happlied
  | false =>
    rw [settle_of_untouched _ ht]
    exact happlied

end Store

theorem Turn.discardCapacity {p q : Panel} {cause : Cause} (turn : Turn p cause q) :
    q.store.discardCapacity = p.store.discardCapacity := by
  obtain ⟨mutations, ledger, -, hcontent, -⟩ := turn
  exact (congrArg Content.discardCapacity hcontent).trans (p.store.batch_discardCapacity mutations)

/-- A moment about a message is what the panel before it makes of the message. -/
theorem Moment.Performed.handled_eq {m : Moment} (h : m.Performed) {message : Message} {outcome : Outcome}
    (hcause : m.cause = .handled message outcome) :
    (m.before.handle message).1 = outcome ∧ m.after = (m.before.handle message).2 := by
  cases h with
  | operated | queueTaken => cases hcause
  | handled =>
    cases hcause
    exact ⟨rfl, rfl⟩

namespace Panel

/-- **The note of a discarded message goes to the end of the log**, with the kind of its event and its place. -/
theorem handle_discards (p : Panel) {m : Message} {reason : DiscardReason} (h : (p.handle m).1 = .discarded reason) :
    ∃ event, m.decode p.dispatcher.maxMessageBytes = .ok event
      ∧ (p.handle m).2.store.discards =
          pushRecent p.store.discardCapacity p.store.discards ⟨p.dispatcher.received + 1, some event.kind, reason⟩ := by
  obtain ⟨mutations, hends, hdispatcher⟩ := p.dispatcher.dispatch_ends p.ledger m
  have hcontent : (p.handle m).2.store.content = (p.store.batch mutations).1.content := by
    rw [handle_content, hdispatcher]
    exact Store.commit_content p.store mutations
  rw [← handle_fst, h] at hends
  generalize (p.dispatcher.dispatch p.ledger m).2.2 = ledger at hends
  cases hends with
  | @discarded event _ _ hdecode =>
    refine ⟨event, hdecode, (congrArg Content.discards hcontent).trans ?_⟩
    rw [Store.batch_single _ (by simp [Mutation.scope])]
    rfl

theorem handle_regression (p : Panel) {m : Message} {incoming current : Nat}
    (h : (p.handle m).1 = .discarded (.sequenceRegression incoming current)) : incoming < current := by
  rw [handle_fst] at h
  obtain ⟨event, -, hplan⟩ := Dispatcher.dispatch_discarded h
  exact Dispatcher.plan_regression hplan

/-- If a message was discarded, it had been read, and if it was behind, then of two numbers the first of which is less. -/
def DiscardedSoundly (limit : Nat) (entry : Message × Outcome) : Prop :=
  ∀ reason, entry.2 = .discarded reason → (∃ event, entry.1.decode limit = .ok event)
    ∧ ∀ incoming current, reason = .sequenceRegression incoming current → incoming < current

theorem handle_discardedSoundly (p : Panel) (m : Message) :
    DiscardedSoundly p.dispatcher.maxMessageBytes (m, (p.handle m).1) := by
  intro reason h
  obtain ⟨event, hdecode, -⟩ := p.handle_discards h
  refine ⟨⟨event, hdecode⟩, ?_⟩
  rintro incoming current rfl
  exact p.handle_regression h

/-- What a panel has counted and kept of the messages of its past. -/
structure Logged (config : PanelConfig) (past : List Moment) (p : Panel) : Prop where
  limit : p.dispatcher.maxMessageBytes = config.maxMessageBytes
  capacity : p.store.discardCapacity = config.discardLogCapacity
  received : p.dispatcher.received = (handledIn past).length
  discards : p.store.discards =
    recent config.discardLogCapacity (discardNotes config.maxMessageBytes (handledIn past))
  sound : ∀ entry ∈ handledIn past, DiscardedSoundly config.maxMessageBytes entry

theorem new_logged (config : PanelConfig) (channel : MemoryChannel) (now : Instant) :
    (Panel.new config channel now).Logged config [] :=
  ⟨rfl, rfl, rfl, List.drop_nil.symm, fun _ hentry => by cases hentry⟩

theorem handledIn_concat (past : List Moment) (m : Moment) :
    handledIn (past ++ [m]) = handledIn past ++ m.cause.handled?.toList := by
  rw [handledIn, List.filterMap_append]
  rfl

section Turn

variable {config : PanelConfig} {past : List Moment} {p q : Panel} {cause : Cause} (h : p.Logged config past)
  (hturn : Turn p cause q) (hperformed : (⟨p, cause, q⟩ : Moment).Performed)
include h hturn hperformed

theorem Logged.turn_discards : q.store.discards =
    recent config.discardLogCapacity (discardNotes config.maxMessageBytes (handledIn (past ++ [⟨p, cause, q⟩]))) := by
  have kept (hno : (⟨p, cause, q⟩ : Moment).discards = false) :
      q.store.discards = recent config.discardLogCapacity (discardNotes config.maxMessageBytes (handledIn past)) := by
    rw [← h.discards]
    exact (Prod.mk.inj (hturn.discards_kept hno)).1
  rw [handledIn_concat]
  cases cause with
  | operated | queueTaken =>
    rw [kept rfl]
    exact congrArg (recent _ <| discardNotes _ ·) (List.append_nil _).symm
  | handled message outcome =>
    show _ = recent _ (discardNotes _ (handledIn past ++ [(message, outcome)]))
    rw [discardNotes_concat]
    cases outcome with
    | applied | faulted | ignored =>
      rw [kept rfl]
      exact congrArg (recent _) (List.append_nil _).symm
    | discarded reason =>
      obtain ⟨houtcome, hq⟩ := hperformed.handled_eq rfl
      obtain ⟨event, hdecode, hdiscards⟩ := p.handle_discards houtcome
      have hnote : discardNote? config.maxMessageBytes ((handledIn past).length + 1) (message, .discarded reason) =
          some ⟨p.dispatcher.received + 1, some event.kind, reason⟩ := by
        rw [discardNote?, ← h.limit, hdecode, h.received]
        rfl
      rw [hnote, Option.toList_some, ← pushRecent_recent, ← h.discards, ← h.capacity, ← hdiscards]
      exact congrArg (·.store.discards) hq

/-- **Every moment of a session keeps count and log as they should be.** -/
theorem Logged.turn : q.Logged config (past ++ [⟨p, cause, q⟩]) where
  limit := by
    obtain ⟨store, hdispatcher⟩ := hperformed.dispatcher
    exact (congrArg Dispatcher.maxMessageBytes hdispatcher).trans h.limit
  capacity := hturn.discardCapacity.trans h.capacity
  received := by
    rw [hperformed.received, handledIn_concat, List.length_append, ← h.received]
    cases cause <;> rfl
  discards := h.turn_discards hturn hperformed
  sound := by
    intro entry hentry
    rw [handledIn_concat, List.mem_append, Option.mem_toList] at hentry
    rcases hentry with hentry | hentry
    · exact h.sound entry hentry
    · cases cause with
      | operated | queueTaken => cases hentry
      | handled message outcome =>
        cases hentry
        have houtcome : (p.handle message).1 = outcome := (hperformed.handled_eq rfl).1
        have hsound := p.handle_discardedSoundly message
        rw [houtcome, h.limit] at hsound
        exact hsound

end Turn

theorem countP_handledIn (moments : List Moment) :
    (handledIn moments).countP (·.2.isDiscarded) = moments.countP Moment.discards := by
  rw [handledIn, List.countP_filterMap]
  refine List.countP_congr fun m _ => ?_
  unfold Moment.discards
  cases m.cause with
  | operated | queueTaken => rfl
  | handled message outcome => cases outcome <;> rfl

end Panel

/-- **The log of discarded messages is the exact tail of their history.** At every point of a session, with a log of any
capacity, take all messages that were handled so far, those that were ignored or a fault included, each with its outcome.

* The panel has counted them, and the total is the number of those that were discarded.
* The log holds the notes of the last ones that were discarded, in order, as many as it has room for or as there are.
* The number in a note is the place of its message among all messages, so the numbers rise and none exceeds the count; the note
  gives the reason of the outcome and the kind of the event that the message was read as.
* A note that an event was behind says so of two numbers of which the first is less. -/
theorem discard_log_is_exact_tail (config : PanelConfig) (channel : MemoryChannel) (now : Instant)
    (ops : List Operation) (n : Nat) :
    let start := Panel.new config channel now
    let past := (start.history ops).take n
    let p := start.reached past
    let handled := past.filterMap (·.cause.handled?)
    let discarded := handled.countP (·.2.isDiscarded)
    let notes := discardNotes config.maxMessageBytes handled
    p.dispatcher.received = handled.length
      ∧ p.store.discardedTotal = discarded
      ∧ notes.length = discarded
      ∧ p.store.discards <:+ notes
      ∧ p.store.discards.length = min config.discardLogCapacity discarded
      ∧ p.store.discards.Pairwise (fun a b => a.ordinal < b.ordinal)
      ∧ ∀ record ∈ notes, 1 ≤ record.ordinal ∧ record.ordinal ≤ p.dispatcher.received
          ∧ (∃ message event, handled[record.ordinal - 1]? = some (message, .discarded record.reason)
            ∧ message.decode config.maxMessageBytes = .ok event ∧ record.kind = some event.kind)
          ∧ ∀ incoming current, record.reason = .sequenceRegression incoming current → incoming < current := by
  intro start past p handled discarded notes
  have hperformed : ∀ m ∈ past, m.Performed := fun m hm => Panel.history_performed start ops m (List.mem_of_mem_take hm)
  obtain ⟨q, path, -⟩ : ∃ q, Path start past q ∧ Path q ((start.history ops).drop n) (start.performAll ops).2 := by
    refine Path.divide ?_
    rw [List.take_append_drop]
    exact Panel.history_path start ops
  obtain rfl : p = q := path.reached_eq
  have hlogged : p.Logged config past :=
    path.invariant_of (fun past r cause q h turn hm => h.turn turn hm) hperformed (Panel.new_logged config channel now)
  have htotal : p.store.discardedTotal = discarded := by
    rw [path.discardedTotal]
    exact (Nat.zero_add _).trans (Panel.countP_handledIn past).symm
  have hlength : notes.length = discarded := length_discardNotes handled
  have hdiscards : p.store.discards = recent config.discardLogCapacity notes := hlogged.discards
  refine ⟨hlogged.received, htotal, hlength, ?_, ?_, ?_, fun record hrecord => ?_⟩
  · rw [hdiscards]
    exact List.drop_suffix ..
  · rw [hdiscards, length_recent, hlength]
  · rw [hdiscards]
    exact (discardNotes_ascending handled).sublist (List.drop_sublist ..)
  · obtain ⟨message, hget, hkind, hpos, hle⟩ := mem_discardNotes hrecord
    obtain ⟨⟨event, hdecode⟩, hbehind⟩ := hlogged.sound _ (List.mem_of_getElem? hget) record.reason rfl
    rw [hdecode] at hkind
    exact ⟨hpos, hlogged.received ▸ hle, ⟨message, event, hget, hdecode, hkind⟩, hbehind⟩

end PanelBridge
