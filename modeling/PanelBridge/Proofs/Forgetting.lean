import PanelBridge.Proofs.FreshStart
import PanelBridge.Proofs.HandledAlike

/-!
# Forgetting changes labels only

Two memories of a panel are bounded: the ledger keeps the last tombstones, and the store keeps the last notes about discarded
events. Panels that differ in these bounds forget different things, and a late result may be called "cancelled" by one of
them and "unknown" by the other. Nothing else ever differs:

* **`Store.unlogged`**: a store without its log. Everything that is done to a store is done to it in the same way without the log
  (`commit_unlogged`).
* **`Ledger.Remembering`**: two ledgers with the same runs, whose tombstones are the recent parts of one history. Whatever both
  remember of a run they remember alike (`Remembering.tombstoneState`).
* **`forgetful`**: the likeness of such panels, with `DiscardReason.Relabelled` for the reasons.
* **`memories_change_only_labels`**: panels with other bounds stay alike in this sense, whatever happens.
-/

namespace PanelBridge

/-- Two reasons to discard an event are the same, or one of them is that of a late result whose run was forgotten. -/
inductive DiscardReason.Relabelled : DiscardReason → DiscardReason → Prop where
  | same (reason : DiscardReason) : Relabelled reason reason
  | forgotten {text : String} {reason : DiscardReason} (late : reason.Late text) : Relabelled (.unknownCorrelation text) reason
  | remembered {text : String} {reason : DiscardReason} (late : reason.Late text) : Relabelled reason (.unknownCorrelation text)

/-! ## A store without its log -/

namespace Store

/-- The store with no notes about discarded events and no room for them. -/
def unlogged (s : Store) : Store := { s with discards := [], discardCapacity := 0 }

/-- What does not depend on the log is the same for two stores that differ in it only. -/
theorem eq_of_unlogged {α : Type} {s t : Store} (f : Store → α) (hf : ∀ s, f s.unlogged = f s)
    (h : s.unlogged = t.unlogged) : f s = f t := by
  rw [← hf s, h, hf t]

variable (s : Store)

theorem apply_unlogged (m : Mutation) : s.unlogged.apply m = Prod.map unlogged id (s.apply m) := by
  cases m with
  | setReadiness | select | setFilter | runCleared | clearPending =>
    rw [apply, apply, apply_ite (Prod.map _ _)]
    rfl
  | mergeSnapshot | clearSnapshot | mergeDiagnostics =>
    obtain ⟨_, snapshot⟩ := s
    cases snapshot <;> rfl
  | runStalled intent =>
    cases howns : s.ownsPending intent with
    | true =>
      obtain ⟨run, hget, hid⟩ := exists_of_ownsPending howns
      rw [apply_runStalled_of_owns s hget hid, apply_runStalled_of_owns s.unlogged hget hid]
      rfl
    | false =>
      rw [apply_runStalled_of_not_owns s howns, apply_runStalled_of_not_owns s.unlogged howns]
      rfl
  | replaceSnapshot | runPending | runCompleted => rfl
  -- a log without room keeps nothing, and the note is still counted
  | recordDiscard => rfl

theorem applyAll_unlogged (touched : SliceSet) (mutations : List Mutation) :
    s.unlogged.applyAll touched mutations = Prod.map unlogged id (s.applyAll touched mutations) := by
  induction mutations generalizing s touched with
  | nil => rfl
  | cons m rest ih =>
    rw [applyAll_cons, applyAll_cons, apply_unlogged]
    exact ih ..

theorem reconcileSelection_unlogged : s.unlogged.reconcileSelection = Prod.map unlogged id s.reconcileSelection := by
  rw [reconcileSelection, reconcileSelection, apply_ite (Prod.map _ _)]
  rfl

theorem settle_unlogged (touched : SliceSet) : s.unlogged.settle touched = Prod.map unlogged id (s.settle touched) := by
  unfold settle
  rw [reconcileSelection_unlogged, apply_ite (Prod.map _ _)]
  rfl

theorem batch_unlogged (mutations : List Mutation) : s.unlogged.batch mutations = Prod.map unlogged id (s.batch mutations) := by
  rw [batch_eq, batch_eq, applyAll_unlogged]
  exact settle_unlogged ..

theorem look_unlogged (reading : Reading) : s.unlogged.look reading = ((s.look reading).1, (s.look reading).2.unlogged) := by
  cases reading <;> rfl

theorem lookAll_unlogged (readings : List Reading) :
    s.unlogged.lookAll readings = ((s.lookAll readings).1, (s.lookAll readings).2.unlogged) := by
  induction readings generalizing s with
  | nil => rfl
  | cons reading rest ih => simp only [lookAll, look_unlogged, ih]

theorem notify_unlogged (change : StoreChange) (subscriber : Subscriber) :
    s.unlogged.notify change subscriber = (s.notify change subscriber).unlogged := by
  simp only [notify, lookAll_unlogged]
  rfl

theorem notifyAll_unlogged (change : StoreChange) (subscribers : List Subscriber) :
    s.unlogged.notifyAll change subscribers = (s.notifyAll change subscribers).unlogged := by
  induction subscribers generalizing s with
  | nil => rfl
  | cons subscriber rest ih =>
    show (s.unlogged.notify change subscriber).notifyAll change rest = ((s.notify change subscriber).notifyAll change rest).unlogged
    rw [notify_unlogged, ih]

/-- **A commit does the same to a store without its log.** -/
theorem commit_unlogged (mutations : List Mutation) :
    (s.unlogged.commit mutations).2 = (s.commit mutations).2.unlogged := by
  have hbatch := s.batch_unlogged mutations
  have htouched : (s.unlogged.batch mutations).2 = (s.batch mutations).2 := by
    rw [hbatch]
    rfl
  cases hempty : (s.batch mutations).2.isEmpty with
  | true => rw [commit_eq_none s mutations hempty, commit_eq_none s.unlogged mutations (htouched ▸ hempty)]
  | false =>
    rw [commit_eq_some s mutations hempty, commit_eq_some s.unlogged mutations (htouched ▸ hempty), hbatch]
    exact notifyAll_unlogged ((s.batch mutations).1.bump _) ..

end Store

/-! ## Tombstones of one history -/

/-- Of the recent part of a history, a look-up finds the newest entry of the whole history or nothing. -/
theorem find?_recent {α : Type} (test : α → Bool) (capacity : Nat) (history : List α) :
    (recent capacity history).reverse.find? test = none
      ∨ (recent capacity history).reverse.find? test = history.reverse.find? test := by
  have hsplit : history.reverse.find? test =
      ((recent capacity history).reverse.find? test).or
        ((history.take (history.length - capacity)).reverse.find? test) := by
    rw [← List.find?_append, ← List.reverse_append, recent, List.take_append_drop]
  cases hfound : (recent capacity history).reverse.find? test with
  | none => exact .inl rfl
  | some entry =>
    rw [hsplit, hfound]
    exact .inr rfl

/-- Two ledgers with the same runs whose tombstones are the recent parts of one history. -/
structure Ledger.Remembering (l k : Ledger) : Prop where
  nextNumber : l.nextNumber = k.nextNumber
  live : l.live = k.live
  liveByTarget : l.liveByTarget = k.liveByTarget
  stallSeconds : l.stallSeconds = k.stallSeconds
  tombstones : ∃ history, l.tombstones = recent l.tombstoneCapacity history
    ∧ k.tombstones = recent k.tombstoneCapacity history

namespace Ledger.Remembering

variable {l k : Ledger} (h : l.Remembering k)
include h

/-- What both ledgers remember of a run is the same. -/
theorem tombstoneState (id : CorrelationId) :
    l.tombstoneState id = none ∨ k.tombstoneState id = none ∨ l.tombstoneState id = k.tombstoneState id := by
  obtain ⟨history, hl, hk⟩ := h.tombstones
  unfold Ledger.tombstoneState
  rw [hl, hk]
  rcases find?_recent (fun t => t.1 == id) l.tombstoneCapacity history with hleft | hleft
  · exact .inl (by rw [hleft, Option.map_none])
  · rcases find?_recent (fun t => t.1 == id) k.tombstoneCapacity history with hright | hright
    · exact .inr (.inl (by rw [hright, Option.map_none]))
    · exact .inr (.inr (by rw [hleft, hright]))

theorem remove (run : Intent) : (l.remove run).Remembering (k.remove run) := by
  refine ⟨h.nextNumber, ?_, ?_, h.stallSeconds, h.tombstones⟩
  · exact congrArg (·.erase run.id) h.live
  · exact congrArg (·.erase run.target) h.liveByTarget

/-- A new tombstone is the newest entry of the history on both sides, whatever is forgotten for it. -/
theorem retire (id : CorrelationId) (state : RunState) :
    (l.retire id state).1 = (k.retire id state).1 ∧ (l.retire id state).2.Remembering (k.retire id state).2 := by
  cases hlive : k.live.get? id with
  | none =>
    rw [retire_of_not_live hlive, retire_of_not_live (h.live ▸ hlive)]
    exact ⟨rfl, h⟩
  | some run =>
    rw [retire_of_live hlive, retire_of_live (h.live ▸ hlive)]
    obtain ⟨history, hl, hk⟩ := h.tombstones
    have hremoved := h.remove run
    refine ⟨rfl, hremoved.nextNumber, hremoved.live, hremoved.liveByTarget, hremoved.stallSeconds,
      history ++ [(id, state)], ?_, ?_⟩
    · show pushRecent l.tombstoneCapacity l.tombstones (id, state) = recent l.tombstoneCapacity _
      rw [hl, pushRecent_recent]
    · show pushRecent k.tombstoneCapacity k.tombstones (id, state) = recent k.tombstoneCapacity _
      rw [hk, pushRecent_recent]

theorem enter (run : Intent) : (l.enter run).Remembering (k.enter run) := by
  refine ⟨h.nextNumber, ?_, ?_, h.stallSeconds, h.tombstones⟩
  · exact congrArg (·.insert run.id run) h.live
  · exact congrArg (·.insert run.target run.id) h.liveByTarget

theorem sweepStalled (now : Instant) :
    (l.sweepStalled now).1 = (k.sweepStalled now).1 ∧ (l.sweepStalled now).2.Remembering (k.sweepStalled now).2 := by
  have hoverdue : l.isOverdue now = k.isOverdue now := by
    funext run
    rw [isOverdue, isOverdue, h.stallSeconds]
  have hswept : l.swept now = k.swept now := by
    funext run
    rw [swept, swept, hoverdue]
  unfold Ledger.sweepStalled intents
  rw [hoverdue, hswept, h.live]
  exact ⟨rfl, h.nextNumber, rfl, h.liveByTarget, h.stallSeconds, h.tombstones⟩

end Ledger.Remembering

theorem DiscardReason.ofTombstone_late {text : String} {id : CorrelationId} (hid : CorrelationId.ofText? text = some id)
    (state : Option RunState) : (ofTombstone text id state).Late text := by
  unfold ofTombstone
  split
  · exact .cancelled hid
  · exact .superseded hid
  · exact .unknown

/-! ## Panels with other bounds -/

/-- Panels that may differ in what they have forgotten. -/
def forgetful : Likeness where
  store s t := s.unlogged = t.unlogged
  ledger := Ledger.Remembering
  transport := Eq
  clock := Eq
  intent := Eq
  reason := DiscardReason.Relabelled
  view := Eq

namespace Store

/-- Without a log it does not matter with which reason an event is noted. -/
theorem apply_relabelled (s : Store) {m m' : Mutation} (h : Mutation.Like forgetful m m') :
    s.unlogged.apply m = s.unlogged.apply m' := by
  cases h with
  | same => rfl
  | runPending hrun | runCleared hrun | runCompleted hrun =>
    obtain rfl : _ = _ := hrun
    rfl
  | recordDiscard ordinal kind => rfl

theorem applyAll_relabelled (s : Store) (touched : SliceSet) {mutations mutations' : List Mutation}
    (h : List.Forall₂ (Mutation.Like forgetful) mutations mutations') :
    s.unlogged.applyAll touched mutations = s.unlogged.applyAll touched mutations' := by
  induction h generalizing s touched with
  | nil => rfl
  | cons hm _ ih =>
    rw [applyAll_cons, applyAll_cons, apply_relabelled s hm, apply_unlogged]
    exact ih ..

theorem commit_relabelled (s : Store) {mutations mutations' : List Mutation}
    (h : List.Forall₂ (Mutation.Like forgetful) mutations mutations') :
    s.unlogged.commit mutations = s.unlogged.commit mutations' := by
  unfold commit batch
  rw [applyAll_relabelled s .empty h]

end Store

/-- A result is for the same live run on both sides, or it is late on both. -/
theorem Ledger.Remembering.admitResult {l k : Ledger} (h : l.Remembering k) (text : String) :
    Admission.Like forgetful (l.admitResult text).1 (k.admitResult text).1
      ∧ (l.admitResult text).2.Remembering (k.admitResult text).2 := by
  cases hid : CorrelationId.ofText? text with
  | none =>
    simp only [Ledger.admitResult, hid]
    exact ⟨.discard (.same _), h⟩
  | some id =>
    cases hlive : k.live.get? id with
    | some run =>
      have hlive' : l.live.get? id = some run := h.live ▸ hlive
      rw [admitResult_of_live hid hlive, admitResult_of_live hid hlive']
      exact ⟨.live rfl, h.remove run⟩
    | none =>
      rw [admitResult_of_not_live hid hlive, admitResult_of_not_live hid (h.live ▸ hlive)]
      refine ⟨.discard ?_, h⟩
      -- the labels can differ only where one of the two has forgotten the run
      rcases h.tombstoneState id with hleft | hright | hsame
      · rw [hleft]
        exact .forgotten (DiscardReason.ofTombstone_late hid _)
      · rw [hright]
        exact .remembered (DiscardReason.ofTombstone_late hid _)
      · rw [hsame]
        exact .same _

theorem forgetful_lawful : forgetful.Lawful where
  readiness := Store.eq_of_unlogged (·.readiness) fun _ => rfl
  snapshot := Store.eq_of_unlogged (·.snapshot) fun _ => rfl
  commit {s t mutations mutations'} h hm := by
    calc (s.commit mutations).2.unlogged
      _ = (s.unlogged.commit mutations).2 := (s.commit_unlogged mutations).symm
      _ = (t.unlogged.commit mutations).2 := by rw [show s.unlogged = t.unlogged from h]
      _ = (t.unlogged.commit mutations').2 := by rw [Store.commit_relabelled t hm]
      _ = (t.commit mutations').2.unlogged := t.commit_unlogged mutations'
  collected {s t} h :=
    Store.eq_of_unlogged (fun s : Store => Store.unlogged { s with outbox := [] }) (fun _ => rfl) h
  subscribe label reads h := ⟨Store.eq_of_unlogged (fun s => (s.subscribe label reads).1) (fun _ => rfl) h,
    Store.eq_of_unlogged (fun s => (s.subscribe label reads).2.unlogged) (fun _ => rfl) h⟩
  unsubscribe id h := ⟨Store.eq_of_unlogged (fun s => (s.unsubscribe id).1) (fun _ => rfl) h,
    Store.eq_of_unlogged (fun s => (s.unsubscribe id).2.unlogged) (fun _ => rfl) h⟩
  read h := ⟨Store.eq_of_unlogged (fun s => s.read.1) (fun _ => rfl) h,
    Store.eq_of_unlogged (fun s => s.read.2.unlogged) (fun _ => rfl) h⟩
  sameReason := .same
  nextNumber h := h.nextNumber
  byTarget h := h.liveByTarget
  keys h := congrArg Table.keys h.live
  advance h := ⟨congrArg (· + 1) h.nextNumber, h.live, h.liveByTarget, h.stallSeconds, h.tombstones⟩
  retire {l k} id state h := by
    obtain ⟨hretired, hremembering⟩ := h.retire id state
    refine ⟨?_, hremembering⟩
    rw [hretired]
    cases (k.retire id state).1 with
    | none => exact .none
    | some run => exact .some rfl
  enter {l k run run'} h hrun := by
    obtain rfl : run = run' := hrun
    exact h.enter run
  admitResult text h := h.admitResult text
  newRun id target h := congrArg (Intent.mk id target .pending) h
  inbound := by
    rintro t _ rfl
    rfl
  queued := by
    rintro t _ queue rfl
    rfl
  send := by
    rintro t _ c rfl -
    exact ⟨rfl, rfl⟩

theorem forgetful_onView : forgetful.OnView where
  selection := Store.eq_of_unlogged (·.selection) fun _ => rfl
  send := by
    rintro t _ function rfl
    exact ⟨rfl, rfl⟩

theorem forgetful_onClock : forgetful.OnClock where
  clock_iff := Iff.rfl
  sweepStalled now h := h.sweepStalled now

/-- What two panels with other bounds have in common at all times. -/
structure Panel.SameButMemories (p q : Panel) : Prop where
  readiness : p.store.readiness = q.store.readiness
  snapshot : p.store.snapshot = q.store.snapshot
  selection : p.store.selection = q.store.selection
  filter : p.store.filter = q.store.filter
  pending : p.store.pending = q.store.pending
  results : p.store.results = q.store.results
  discardedTotal : p.store.discardedTotal = q.store.discardedTotal
  revisions : p.store.revisions = q.store.revisions
  revision : p.store.revision = q.store.revision
  live : p.ledger.intents = q.ledger.intents
  nextNumber : p.ledger.nextNumber = q.ledger.nextNumber
  transport : p.transport = q.transport
  received : p.dispatcher.received = q.dispatcher.received

theorem Panel.Like.sameButMemories {p q : Panel} (h : p.Like forgetful q) : p.SameButMemories q where
  readiness := Store.eq_of_unlogged (·.readiness) (fun _ => rfl) h.store
  snapshot := Store.eq_of_unlogged (·.snapshot) (fun _ => rfl) h.store
  selection := Store.eq_of_unlogged (·.selection) (fun _ => rfl) h.store
  filter := Store.eq_of_unlogged (·.filter) (fun _ => rfl) h.store
  pending := Store.eq_of_unlogged (·.pending) (fun _ => rfl) h.store
  results := Store.eq_of_unlogged (·.results) (fun _ => rfl) h.store
  discardedTotal := Store.eq_of_unlogged (·.discardedTotal) (fun _ => rfl) h.store
  revisions := Store.eq_of_unlogged (·.revisions) (fun _ => rfl) h.store
  revision := Store.eq_of_unlogged (·.revision) (fun _ => rfl) h.store
  live := congrArg Table.values h.ledger.live
  nextNumber := h.ledger.nextNumber
  transport := h.transport
  received := h.dispatcher.received

namespace Panel

variable {p q : Panel}

theorem Like.performForgetful (h : p.Like forgetful q) (op : Operation) :
    Report.Like forgetful (p.perform op).1 (q.perform op).1 ∧ (p.perform op).2.Like forgetful (q.perform op).2 := by
  cases hclock : op.isOnClock with
  | true => exact h.performOnClock forgetful_lawful forgetful_onClock hclock
  | false =>
    cases hview : op.isOnView with
    | true => exact h.performOnView forgetful_lawful forgetful_onView hview
    | false => exact h.perform forgetful_lawful hclock hview

theorem forgetful_lockstep : Lockstep forgetful fun _ => true where
  kept {op _ _} _ h := h.performForgetful op
  skipped hskipped := by cases hskipped

theorem Like.performAllForgetful (h : p.Like forgetful q) (ops : List Operation) :
    List.Forall₂ (Report.Like forgetful) (p.performAll ops).1 (q.performAll ops).1
      ∧ (p.performAll ops).2.Like forgetful (q.performAll ops).2 := by
  have hsession := h.performAll forgetful_lockstep ops
  rwa [reportsOf_all, List.filter_true] at hsession

theorem Like.handlingsForgetful (h : p.Like forgetful q) (ops : List Operation) :
    List.Forall₂ (HandledAlike forgetful) (p.handlings ops) (q.handlings ops) := by
  have hsession := h.handlings forgetful_lawful forgetful_lockstep (fun _ hskipped => by cases hskipped) ops
  rwa [List.filter_true] at hsession

/-- New panels that differ in their bounds have nothing to forget yet. -/
theorem new_like_forgetful (config : PanelConfig) (tombstones tombstones' log log' : Nat) (channel : MemoryChannel)
    (now : Instant) :
    (new { config with tombstoneCapacity := tombstones, discardLogCapacity := log } channel now).Like forgetful
      (new { config with tombstoneCapacity := tombstones', discardLogCapacity := log' } channel now) where
  dispatcher := ⟨rfl, rfl, rfl⟩
  ledger := ⟨rfl, rfl, rfl, rfl, [], List.drop_nil.symm, List.drop_nil.symm⟩
  transport := rfl
  clock := rfl
  listeners := rfl

end Panel

/-- **The bounds on what is remembered change labels only.** Panels that differ in their room for tombstones and for notes about
discarded events, and that get the same operations over the same channel, give the same reports and handle the same messages
with the same outcomes, up to the reason why a late result was discarded; after each operation they agree on everything but
what they remember. -/
theorem memories_change_only_labels (config : PanelConfig) (tombstones tombstones' log log' : Nat) (channel : MemoryChannel)
    (now : Instant) (ops : List Operation) :
    let p := Panel.new { config with tombstoneCapacity := tombstones, discardLogCapacity := log } channel now
    let q := Panel.new { config with tombstoneCapacity := tombstones', discardLogCapacity := log' } channel now
    List.Forall₂ (Report.Like forgetful) (p.performAll ops).1 (q.performAll ops).1
      ∧ List.Forall₂ (HandledAlike forgetful) (p.handlings ops) (q.handlings ops)
      ∧ ∀ n, (p.performAll (ops.take n)).2.SameButMemories (q.performAll (ops.take n)).2 := by
  intro p q
  have hnew : p.Like forgetful q := Panel.new_like_forgetful config tombstones tombstones' log log' channel now
  refine ⟨(hnew.performAllForgetful ops).1, hnew.handlingsForgetful ops, fun n => ?_⟩
  exact (hnew.performAllForgetful (ops.take n)).2.sameButMemories

end PanelBridge
