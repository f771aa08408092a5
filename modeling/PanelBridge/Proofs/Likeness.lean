import Mathlib.Data.List.Forall2
import PanelBridge.Panel.Operation
import PanelBridge.Proofs.CommitReports

/-!
# Panels that stay alike

Two panels get the same operations, or almost the same, and are to go on alike in some respect: they may have been made with
other limits, their clocks may differ, or one of them may have another selection. What "alike" means is a parameter here, part
by part, and what it has to satisfy is a list of laws about the parts alone:

* **`Likeness`**: relations between stores, ledgers, transports and times, and between what shows of them: runs, reasons and
  overviews.
* **`Store.AlikeIn`**: stores whose contents are in a relation. Mutations that go parallel with respect to it make parallel commits
  (`commit_parallel`), and a commit may also be made on one side only (`AlikeIn.commitLeft`).
* **`Likeness.Lawful`**: every commit, every step of the ledger and every command keeps them. `OnView` and `OnClock` are the laws
  for the actions that change the selection or the filter, and for sweeps.
* **`Panel.Like`**: panels that are alike in all parts. Each operation keeps them so and has reports that are alike
  (`Like.perform`, `Like.performOnView`, `Like.performOnClock`).
* **`Panel.Like.performAll`**: the same for sessions, where one of the two panels may get operations that the other does not
  (`Lockstep`).
-/

namespace PanelBridge

/-- How the parts of two panels may be alike. -/
structure Likeness where
  store : Store → Store → Prop
  ledger : Ledger → Ledger → Prop
  transport : Transport MemoryChannel → Transport MemoryChannel → Prop
  clock : Instant → Instant → Prop
  intent : Intent → Intent → Prop
  reason : DiscardReason → DiscardReason → Prop
  view : PanelView → PanelView → Prop

section Derived

variable (R : Likeness)

/-- Mutations are the same but for the runs and the reasons in them. -/
inductive Mutation.Like : Mutation → Mutation → Prop where
  | same (m : Mutation) : Like m m
  | runPending {run run' : Intent} (h : R.intent run run') : Like (.runPending run) (.runPending run')
  | runCleared {run run' : Intent} (h : R.intent run run') : Like (.runCleared run) (.runCleared run')
  | runCompleted {run run' : Intent} (h : R.intent run run') (result : TestResult) :
      Like (.runCompleted run result) (.runCompleted run' result)
  | recordDiscard {reason reason' : DiscardReason} (ordinal : Nat) (kind : Option EventKind) (h : R.reason reason reason') :
      Like (.recordDiscard ⟨ordinal, kind, reason⟩) (.recordDiscard ⟨ordinal, kind, reason'⟩)

inductive Admission.Like : Admission → Admission → Prop where
  | live {run run' : Intent} (h : R.intent run run') : Like (.live run) (.live run')
  | discard {reason reason' : DiscardReason} (h : R.reason reason reason') : Like (.discard reason) (.discard reason')

inductive Plan.Like : Plan → Plan → Prop where
  | commit {mutations mutations' : List Mutation} (h : List.Forall₂ (Mutation.Like R) mutations mutations') :
      Like (.commit mutations) (.commit mutations')
  | discard {reason reason' : DiscardReason} (h : R.reason reason reason') : Like (.discard reason) (.discard reason')
  | fault (fault : Fault) : Like (.fault fault) (.fault fault)

/-- Outcomes are the same but for the reason why a message was discarded. -/
inductive Outcome.Like : Outcome → Outcome → Prop where
  | same (outcome : Outcome) : Like outcome outcome
  | discarded {reason reason' : DiscardReason} (h : R.reason reason reason') :
      Like (.discarded reason) (.discarded reason')

/-- Reports are the same but for outcomes and overviews in them. -/
inductive Report.Like : Report → Report → Prop where
  | same (report : Report) : Like report report
  | outcome {outcome outcome' : Outcome} (h : Outcome.Like R outcome outcome') : Like (.outcome outcome) (.outcome outcome')
  | outcomes {outcomes outcomes' : List Outcome} (h : List.Forall₂ (Outcome.Like R) outcomes outcomes') :
      Like (.outcomes outcomes) (.outcomes outcomes')
  | overview {view view' : PanelView} (h : R.view view view') : Like (.overview view) (.overview view')

end Derived

/-- Outcomes that are alike are the same if reasons that are alike are. -/
theorem Outcome.Like.eq {R : Likeness} (hreason : ∀ {r r'}, R.reason r r' → r = r') {outcome outcome' : Outcome}
    (h : Outcome.Like R outcome outcome') : outcome = outcome' := by
  cases h with
  | same => rfl
  | discarded hdiscarded => rw [hreason hdiscarded]

theorem Report.Like.of_eq {R : Likeness} {report report' : Report} (h : report = report') : Report.Like R report report' := by
  rw [h]
  exact .same report'

/-- A report whose overview is seen through a map. -/
def Report.mapView (f : PanelView → PanelView) : Report → Report
  | .overview view => .overview (f view)
  | report => report

/-- Reports with the same reasons in them that are alike are the same, up to what the map of overviews forgets. -/
theorem Report.mapView_eq_of_like {R : Likeness} {f : PanelView → PanelView} (hreason : ∀ {r r'}, R.reason r r' → r = r')
    (hview : ∀ {v v'}, R.view v v' → f v = f v') {reports reports' : List Report}
    (h : List.Forall₂ (Report.Like R) reports reports') : reports.map (mapView f) = reports'.map (mapView f) := by
  have houtcomes {outcomes outcomes' : List Outcome} (hlike : List.Forall₂ (Outcome.Like R) outcomes outcomes') :
      outcomes = outcomes' := by
    have heq : List.Forall₂ Eq outcomes outcomes' := hlike.imp fun _ _ => Outcome.Like.eq hreason
    rwa [List.forall₂_eq_eq_eq] at heq
  induction h with
  | nil => rfl
  | cons hfirst _ ih =>
    rw [List.map_cons, List.map_cons, ih]
    congr 1
    cases hfirst with
    | same => rfl
    | outcome hlike => rw [hlike.eq hreason]
    | outcomes hlike => rw [houtcomes hlike]
    | overview hlike => exact congrArg Report.overview (hview hlike)

/-! ## Stores with alike contents -/

/-- A content that is brought in line with its snapshot. -/
def Content.settled (c : Content) : Content :=
  { c with
    selection := Store.fittingSelection c.selection c.snapshot
    results := c.results.filter fun target _ => c.snapshot.any (·.hasTestCase target.function target.testCase) }

/-- Two stores with related contents, and the snapshot was touched on the way to both or to neither. -/
def Store.AppliedAlike (Q : Content → Content → Prop) (x y : Store × SliceSet) : Prop :=
  Q x.1.content y.1.content ∧ x.2.contains .snapshot = y.2.contains .snapshot

theorem Store.AppliedAlike.ite {Q : Content → Content → Prop} {c : Prop} [Decidable c] {x x' y y' : Store × SliceSet}
    (hx : AppliedAlike Q x x') (hy : AppliedAlike Q y y') : AppliedAlike Q (if c then x else y) (if c then x' else y') := by
  split
  · exact hx
  · exact hy

/-- Two mutations keep a relation between contents when they are applied on its two sides. -/
def Mutation.Parallel (Q : Content → Content → Prop) (m m' : Mutation) : Prop :=
  ∀ {s t : Store}, Q s.content t.content → Store.AppliedAlike Q (s.apply m) (t.apply m')

/-- Stores whose contents are related and who have the same subscribers. -/
structure Store.AlikeIn (Q : Content → Content → Prop) (s t : Store) : Prop where
  content : Q s.content t.content
  subscribers : s.subscribers = t.subscribers
  nextSubscription : s.nextSubscription = t.nextSubscription

namespace Store

variable {Q : Content → Content → Prop} {s t : Store}

theorem applyAll_parallel (h : Q s.content t.content) {touched touched' : SliceSet}
    (htouched : touched.contains .snapshot = touched'.contains .snapshot) {mutations mutations' : List Mutation}
    (hm : List.Forall₂ (Mutation.Parallel Q) mutations mutations') :
    AppliedAlike Q (s.applyAll touched mutations) (t.applyAll touched' mutations') := by
  induction hm generalizing s t touched touched' with
  | nil => exact ⟨h, htouched⟩
  | cons hfirst _ ih =>
    obtain ⟨happlied, hslices⟩ := hfirst h
    rw [applyAll_cons, applyAll_cons]
    refine ih happlied ?_
    rw [SliceSet.contains_union, SliceSet.contains_union, htouched, hslices]

theorem settle_content (s : Store) (touched : SliceSet) :
    (s.settle touched).1.content = if touched.contains .snapshot then s.content.settled else s.content := by
  cases htouched : touched.contains .snapshot with
  | true =>
    rw [settle_of_touched s htouched]
    rfl
  | false =>
    rw [settle_of_untouched s htouched]
    rfl

/-- **Parallel mutations make parallel commits.** -/
theorem commit_parallel (settled : ∀ c d, Q c d → Q c.settled d.settled) (h : Q s.content t.content)
    {mutations mutations' : List Mutation} (hm : List.Forall₂ (Mutation.Parallel Q) mutations mutations') :
    Q (s.commit mutations).2.content (t.commit mutations').2.content := by
  obtain ⟨happlied, htouched⟩ := applyAll_parallel h (rfl : SliceSet.empty.contains .snapshot = _) hm
  rw [commit_content, commit_content, batch_eq, batch_eq, settle_content, settle_content, htouched]
  split
  · exact settled _ _ happlied
  · exact happlied

/-- Mutations that each keep a property of contents and leave the snapshot alone keep it together. -/
theorem commit_keeps {P : Content → Prop} {mutations : List Mutation} (hscope : ∀ m ∈ mutations, .snapshot ∉ m.scope)
    (keeps : ∀ m ∈ mutations, ∀ {s : Store}, P s.content → P (s.apply m).1.content) (h : P s.content) :
    P (s.commit mutations).2.content := by
  have happlied (touched : SliceSet) : P (s.applyAll touched mutations).1.content := by
    clear hscope
    induction mutations generalizing s touched with
    | nil => exact h
    | cons m rest ih => exact ih (fun m' hm' => keeps m' (.tail _ hm')) (keeps m (.head _) h) _
  rw [commit_content, batch_of_scope s hscope]
  exact happlied .empty

theorem commit_subscribers (s : Store) (mutations : List Mutation) :
    (s.commit mutations).2.subscribers = s.subscribers
      ∧ (s.commit mutations).2.nextSubscription = s.nextSubscription := by
  cases hempty : (s.batch mutations).2.isEmpty with
  | true =>
    rw [commit_eq_none s mutations hempty]
    exact ⟨rfl, rfl⟩
  | false =>
    have hcommitted := s.commit_committed mutations hempty
    exact ⟨hcommitted.subscribers, hcommitted.nextSubscription⟩

theorem AlikeIn.commit (h : s.AlikeIn Q t) (settled : ∀ c d, Q c d → Q c.settled d.settled)
    {mutations mutations' : List Mutation} (hm : List.Forall₂ (Mutation.Parallel Q) mutations mutations') :
    (s.commit mutations).2.AlikeIn Q (t.commit mutations').2 := by
  obtain ⟨hsubscribers, hnext⟩ := s.commit_subscribers mutations
  obtain ⟨hsubscribers', hnext'⟩ := t.commit_subscribers mutations'
  refine ⟨commit_parallel settled h.content hm, ?_, ?_⟩
  · rw [hsubscribers, hsubscribers', h.subscribers]
  · rw [hnext, hnext', h.nextSubscription]

/-- A commit may be made on one side only if each of its mutations keeps the relation on its own. -/
theorem AlikeIn.commitLeft (h : s.AlikeIn Q t) {mutations : List Mutation} (hscope : ∀ m ∈ mutations, .snapshot ∉ m.scope)
    (keeps : ∀ m ∈ mutations, ∀ {s : Store}, Q s.content t.content → Q (s.apply m).1.content t.content) :
    (s.commit mutations).2.AlikeIn Q t := by
  obtain ⟨hsubscribers, hnext⟩ := s.commit_subscribers mutations
  refine ⟨?_, hsubscribers.trans h.subscribers, hnext.trans h.nextSubscription⟩
  exact commit_keeps (P := fun c => Q c t.content) hscope keeps h.content

theorem AlikeIn.subscribe (h : s.AlikeIn Q t) (label : String) (reads : StoreChange → List Reading) :
    (s.subscribe label reads).1 = (t.subscribe label reads).1
      ∧ (s.subscribe label reads).2.AlikeIn Q (t.subscribe label reads).2 := by
  refine ⟨h.nextSubscription, h.content, ?_, ?_⟩
  · show s.subscribers ++ [⟨s.nextSubscription, label, reads⟩] = t.subscribers ++ [⟨t.nextSubscription, label, reads⟩]
    rw [h.subscribers, h.nextSubscription]
  · exact congrArg (· + 1) h.nextSubscription

theorem AlikeIn.unsubscribe (h : s.AlikeIn Q t) (id : Nat) :
    (s.unsubscribe id).1 = (t.unsubscribe id).1 ∧ (s.unsubscribe id).2.AlikeIn Q (t.unsubscribe id).2 := by
  refine ⟨?_, h.content, ?_, h.nextSubscription⟩
  · simp only [Store.unsubscribe, h.subscribers]
  · exact congrArg (List.filter fun subscriber : Subscriber => subscriber.id != id) h.subscribers

theorem AlikeIn.collected (h : s.AlikeIn Q t) : AlikeIn Q { s with outbox := [] } { t with outbox := [] } :=
  ⟨h.content, h.subscribers, h.nextSubscription⟩

theorem AlikeIn.collectedLeft (h : s.AlikeIn Q t) : AlikeIn Q { s with outbox := [] } t :=
  ⟨h.content, h.subscribers, h.nextSubscription⟩

theorem AlikeIn.read (h : s.AlikeIn Q t) : s.read.2.AlikeIn Q t.read.2 := ⟨h.content, h.subscribers, h.nextSubscription⟩

end Store

/-! ## The laws -/

/-- The laws of a likeness. Stores that are alike have the same readiness and the same snapshot, since everything that is
decided depends on these; ledgers that are alike list the same runs under the same ids. -/
structure Likeness.Lawful (R : Likeness) : Prop where
  readiness {s t : Store} : R.store s t → s.readiness = t.readiness
  snapshot {s t : Store} : R.store s t → s.snapshot = t.snapshot
  commit {s t : Store} {mutations mutations' : List Mutation} :
    R.store s t → List.Forall₂ (Mutation.Like R) mutations mutations' →
      R.store (s.commit mutations).2 (t.commit mutations').2
  collected {s t : Store} : R.store s t → R.store { s with outbox := [] } { t with outbox := [] }
  subscribe {s t : Store} (label : String) (reads : StoreChange → List Reading) :
    R.store s t → (s.subscribe label reads).1 = (t.subscribe label reads).1
      ∧ R.store (s.subscribe label reads).2 (t.subscribe label reads).2
  unsubscribe {s t : Store} (id : Nat) :
    R.store s t → (s.unsubscribe id).1 = (t.unsubscribe id).1 ∧ R.store (s.unsubscribe id).2 (t.unsubscribe id).2
  read {s t : Store} : R.store s t → R.view s.read.1 t.read.1 ∧ R.store s.read.2 t.read.2
  sameReason (reason : DiscardReason) : R.reason reason reason
  nextNumber {l k : Ledger} : R.ledger l k → l.nextNumber = k.nextNumber
  byTarget {l k : Ledger} : R.ledger l k → l.liveByTarget = k.liveByTarget
  keys {l k : Ledger} : R.ledger l k → l.live.keys = k.live.keys
  advance {l k : Ledger} : R.ledger l k → R.ledger l.advance k.advance
  retire {l k : Ledger} (id : CorrelationId) (state : RunState) :
    R.ledger l k → Option.Rel R.intent (l.retire id state).1 (k.retire id state).1
      ∧ R.ledger (l.retire id state).2 (k.retire id state).2
  enter {l k : Ledger} {run run' : Intent} : R.ledger l k → R.intent run run' → R.ledger (l.enter run) (k.enter run')
  admitResult {l k : Ledger} (text : String) :
    R.ledger l k → Admission.Like R (l.admitResult text).1 (k.admitResult text).1
      ∧ R.ledger (l.admitResult text).2 (k.admitResult text).2
  newRun {now now' : Instant} (id : CorrelationId) (target : Target) :
    R.clock now now' → R.intent ⟨id, target, .pending, now⟩ ⟨id, target, .pending, now'⟩
  inbound {t u : Transport MemoryChannel} : R.transport t u → t.inbound = u.inbound
  queued {t u : Transport MemoryChannel} (queue : List Message) :
    R.transport t u → R.transport { t with inbound := queue } { u with inbound := queue }
  send {t u : Transport MemoryChannel} {c : Command} :
    R.transport t u → c.kind ≠ .selectFunction → (t.send c).1 = (u.send c).1 ∧ R.transport (t.send c).2 (u.send c).2

/-- The laws for the actions that change the selection or the filter. -/
structure Likeness.OnView (R : Likeness) : Prop where
  selection {s t : Store} : R.store s t → s.selection = t.selection
  send {t u : Transport MemoryChannel} (function : String) :
    R.transport t u → (t.send (.selectFunction function)).1 = (u.send (.selectFunction function)).1
      ∧ R.transport (t.send (.selectFunction function)).2 (u.send (.selectFunction function)).2

/-- The laws for what depends on the clock. -/
structure Likeness.OnClock (R : Likeness) : Prop where
  clock_iff {now now' : Instant} : R.clock now now' ↔ now = now'
  sweepStalled {l k : Ledger} (now : Instant) :
    R.ledger l k → (l.sweepStalled now).1 = (k.sweepStalled now).1
      ∧ R.ledger (l.sweepStalled now).2 (k.sweepStalled now).2

/-! ## The ledger -/

namespace Likeness.Lawful

variable {R : Likeness} (law : R.Lawful) {l k : Ledger}
include law

theorem prepareRun (h : R.ledger l k) (target : Target) : l.prepareRun target = k.prepareRun target := by
  rw [Ledger.prepareRun, Ledger.prepareRun, law.nextNumber h]

theorem vacate (h : R.ledger l k) (target : Target) :
    Option.Rel R.intent (l.vacate target).1 (k.vacate target).1
      ∧ R.ledger (l.vacate target).2 (k.vacate target).2 := by
  unfold Ledger.vacate
  rw [law.byTarget h]
  cases k.liveByTarget.get? target with
  | none => exact ⟨.none, h⟩
  | some previous => exact law.retire previous .stale h

/-- Runs that are started at times that are alike are alike, and so are the runs they replace. -/
theorem issueRun (h : R.ledger l k) {now now' : Instant} (hclock : R.clock now now') (target : Target) :
    R.intent (l.issueRun target now).1.intent (k.issueRun target now').1.intent
      ∧ (l.issueRun target now).1.intent.id = (k.issueRun target now').1.intent.id
      ∧ Option.Rel R.intent (l.issueRun target now).1.superseded (k.issueRun target now').1.superseded
      ∧ R.ledger (l.issueRun target now).2 (k.issueRun target now').2 := by
  have hid : (⟨l.nextNumber⟩ : CorrelationId) = ⟨k.nextNumber⟩ := by rw [law.nextNumber h]
  have hrun : R.intent ⟨⟨l.nextNumber⟩, target, .pending, now⟩ ⟨⟨k.nextNumber⟩, target, .pending, now'⟩ := by
    rw [hid]
    exact law.newRun _ target hclock
  obtain ⟨hreplaced, hvacated⟩ := law.vacate (law.advance h) target
  exact ⟨hrun, hid, hreplaced, law.enter hvacated hrun⟩

theorem retireAll (h : R.ledger l k) (ids : List CorrelationId) : R.ledger (l.retireAll ids).2 (k.retireAll ids).2 := by
  induction ids generalizing l k with
  | nil => exact h
  | cons id rest ih => exact ih (law.retire id .stale h).2

theorem supersedeAll (h : R.ledger l k) : R.ledger l.supersedeAll.2 k.supersedeAll.2 := by
  unfold Ledger.supersedeAll
  rw [law.keys h]
  exact law.retireAll h k.live.keys

end Likeness.Lawful

/-! ## Messages -/

/-- Dispatchers whose stores are alike and that have counted the same messages. -/
structure Dispatcher.Like (R : Likeness) (d e : Dispatcher) : Prop where
  store : R.store d.store e.store
  limit : d.maxMessageBytes = e.maxMessageBytes
  received : d.received = e.received

namespace Dispatcher

variable {R : Likeness} (law : R.Lawful) {d e : Dispatcher} {s t : Store} {l k : Ledger}
include law

theorem Like.commit (h : d.Like R e) {mutations mutations' : List Mutation}
    (hm : List.Forall₂ (Mutation.Like R) mutations mutations') : (d.commit mutations).Like R (e.commit mutations') :=
  ⟨law.commit h.store hm, h.limit, h.received⟩

theorem Like.commitSame (h : d.Like R e) (mutations : List Mutation) : (d.commit mutations).Like R (e.commit mutations) :=
  h.commit law (List.forall₂_same.2 fun m _ => .same m)

theorem planProject_like (h : R.store s t) (sequence : Nat) (project : ProjectPayload) :
    Plan.Like R (planProject s sequence project) (planProject t sequence project) := by
  have hsame : planProject s sequence project = planProject t sequence project := by
    simp only [planProject, becomeReady, law.readiness h, law.snapshot h]
  rw [hsame]
  cases planProject t sequence project with
  | commit mutations => exact .commit (List.forall₂_same.2 fun m _ => .same m)
  | discard reason => exact .discard (law.sameReason reason)
  | fault fault => exact .fault fault

/-- What is planned for an event is alike: only results are looked up in the ledger. -/
theorem plan_like (h : R.store s t) (hl : R.ledger l k) (event : Event) :
    Plan.Like R (plan s l event).1 (plan t k event).1 ∧ R.ledger (plan s l event).2 (plan t k event).2 := by
  unfold plan
  rw [law.readiness h, law.snapshot h]
  by_cases hmounted : t.readiness = .uninitialized
  · rw [if_pos hmounted, if_pos hmounted]
    exact ⟨.discard (law.sameReason _), hl⟩
  · rw [if_neg hmounted, if_neg hmounted]
    cases event with
    | ready sequence project | projectUpdated sequence project => exact ⟨planProject_like law h sequence project, hl⟩
    | diagnostics sequence payload =>
      cases t.snapshot with
      | none => exact ⟨.discard (law.sameReason _), hl⟩
      | some snapshot => exact ⟨.commit (List.forall₂_same.2 fun m _ => .same m), hl⟩
    | testResult text result =>
      obtain ⟨hadmitted, hledger⟩ := law.admitResult text hl
      cases hleft : l.admitResult text with
      | mk admission l' =>
        cases hright : k.admitResult text with
        | mk admission' k' =>
          rw [hleft, hright] at hadmitted hledger
          simp only [hleft, hright]
          cases hadmitted with
          | live hrun => exact ⟨.commit (.cons (.runCompleted hrun result) .nil), hledger⟩
          | discard hreason => exact ⟨.discard hreason, hledger⟩
    | hostError message => exact ⟨.fault _, hl⟩

theorem Like.transition (h : d.Like R e) (change : Transition) :
    (d.transition change).1 = (e.transition change).1 ∧ (d.transition change).2.Like R (e.transition change).2 := by
  unfold Dispatcher.transition
  rw [law.readiness h.store]
  cases e.store.readiness.next change with
  | none => exact ⟨rfl, h⟩
  | some readiness => exact ⟨rfl, h.commitSame law [.setReadiness readiness]⟩

theorem Like.fail (h : d.Like R e) (fault : Fault) : (d.fail fault).Like R (e.fail fault) :=
  (h.transition law (.fault fault)).2

/-- The note of a discarded event has the same place and the same kind on both sides. -/
theorem Like.recordDiscard (h : d.Like R e) (event : Event) {reason reason' : DiscardReason}
    (hreason : R.reason reason reason') : (d.recordDiscard event reason).Like R (e.recordDiscard event reason') := by
  unfold Dispatcher.recordDiscard
  rw [h.received]
  exact h.commit law (.cons (.recordDiscard _ _ hreason) .nil)

/-- **A message does alike things to dispatchers and ledgers that are alike.** -/
theorem Like.dispatch (h : d.Like R e) (hl : R.ledger l k) (m : Message) :
    Outcome.Like R (d.dispatch l m).1 (e.dispatch k m).1
      ∧ (d.dispatch l m).2.1.Like R (e.dispatch k m).2.1 ∧ R.ledger (d.dispatch l m).2.2 (e.dispatch k m).2.2 := by
  obtain ⟨s, limit, received⟩ := d
  obtain ⟨t, _, _⟩ := e
  obtain ⟨hstore, rfl, rfl⟩ := h
  have hcounted : Like R ⟨s, limit, received + 1⟩ ⟨t, limit, received + 1⟩ := ⟨hstore, rfl, rfl⟩
  unfold Dispatcher.dispatch
  simp only
  rw [law.readiness hstore]
  generalize t.readiness = readiness
  cases readiness with
  | error fault => exact ⟨.same _, hcounted, hl⟩
  | uninitialized | loading | ready =>
    cases m.decode limit with
    | error fault => exact ⟨.same _, hcounted.fail law fault, hl⟩
    | ok event =>
      obtain ⟨hplan, hledger⟩ := plan_like law hstore hl event
      -- both plans are opened together, since they are of one kind
      cases hleft : plan s l event with
      | mk decided l' =>
        cases hright : plan t k event with
        | mk decided' k' =>
          rw [hleft, hright] at hplan hledger
          simp only [hleft, hright]
          cases hplan with
          | commit hm => exact ⟨.same _, hcounted.commit law hm, hledger⟩
          | discard hreason => exact ⟨.discarded hreason, hcounted.recordDiscard law event hreason, hledger⟩
          | fault fault => exact ⟨.same _, hcounted.fail law fault, hledger⟩

end Dispatcher

/-! ## Operations -/

/-- Panels that are alike in all parts. What was told to the outside is left open. -/
structure Panel.Like (R : Likeness) (p q : Panel) : Prop where
  dispatcher : p.dispatcher.Like R q.dispatcher
  ledger : R.ledger p.ledger q.ledger
  transport : R.transport p.transport q.transport
  clock : R.clock p.now q.now
  listeners : p.listeners = q.listeners

/-- Whether an operation is about the clock. -/
def Operation.isOnClock : Operation → Bool
  | .setClock _ | .tick | .tickAt _ => true
  | _ => false

/-- Whether an operation changes the selection or the filter. -/
def Operation.isOnView : Operation → Bool
  | .act (.selectFunction _) | .act (.selectTestCase _) | .act (.setFilter _) => true
  | _ => false

namespace Panel

variable {R : Likeness} {p q : Panel}

theorem Like.store (h : p.Like R q) : R.store p.store q.store := h.dispatcher.store

theorem Like.withStore (h : p.Like R q) {s t : Store} (hs : R.store s t) : (p.withStore s).Like R (q.withStore t) :=
  ⟨⟨hs, h.dispatcher.limit, h.dispatcher.received⟩, h.ledger, h.transport, h.clock, h.listeners⟩

/-- The first of two panels is changed alone. -/
theorem Like.updatedLeft (h : p.Like R q) (collected : ∀ {s t : Store}, R.store s t → R.store { s with outbox := [] } t)
    {l : Ledger} (hl : R.ledger l q.ledger) {d : Dispatcher} (hd : d.Like R q.dispatcher) :
    ({ p with ledger := l }.update d).Like R q :=
  ⟨⟨collected hd.store, hd.limit, hd.received⟩, hl, h.transport, h.clock, h.listeners⟩

/-- The last outcomes of two lists that are alike are alike. -/
theorem like_getLast {outcomes outcomes' : List Outcome} (h : List.Forall₂ (Outcome.Like R) outcomes outcomes') :
    Outcome.Like R (outcomes.getLast?.getD .ignored) (outcomes'.getLast?.getD .ignored) := by
  induction h with
  | nil => exact .same _
  | cons hfirst hrest ih =>
    cases hrest with
    | nil => exact hfirst
    | cons => simpa [List.getLast?_cons_cons] using ih

section Messages

variable (law : R.Lawful)
include law

theorem Like.updated (h : p.Like R q) {l k : Ledger} (hl : R.ledger l k) {d e : Dispatcher} (hd : d.Like R e) :
    ({ p with ledger := l }.update d).Like R ({ q with ledger := k }.update e) :=
  ⟨⟨law.collected hd.store, hd.limit, hd.received⟩, hl, h.transport, h.clock, h.listeners⟩

theorem Like.handle (h : p.Like R q) (m : Message) :
    Outcome.Like R (p.handle m).1 (q.handle m).1 ∧ (p.handle m).2.Like R (q.handle m).2 := by
  obtain ⟨houtcome, hdispatcher, hledger⟩ := h.dispatcher.dispatch law h.ledger m
  have hupdated := h.updated law hledger hdispatcher
  unfold Panel.handle
  cases hleft : p.dispatcher.dispatch p.ledger m with
  | mk outcome rest =>
    cases hright : q.dispatcher.dispatch q.ledger m with
    | mk outcome' rest' =>
      rw [hleft, hright] at houtcome hupdated
      -- listeners are called for applied events; that is told to the outside only
      cases houtcome with
      | same outcome =>
        cases outcome with
        | applied event => exact ⟨.same _, hupdated.1, hupdated.2, hupdated.3, hupdated.4, hupdated.5⟩
        | discarded | faulted | ignored => exact ⟨.same _, hupdated⟩
      | discarded hreason => exact ⟨.discarded hreason, hupdated⟩

theorem Like.handleAll (h : p.Like R q) (messages : List Message) :
    List.Forall₂ (Outcome.Like R) (p.handleAll messages).1 (q.handleAll messages).1
      ∧ (p.handleAll messages).2.Like R (q.handleAll messages).2 := by
  induction messages generalizing p q with
  | nil => exact ⟨.nil, h⟩
  | cons m rest ih =>
    obtain ⟨hfirst, hnext⟩ := h.handle law m
    obtain ⟨hrest, hlast⟩ := ih hnext
    exact ⟨.cons hfirst hrest, hlast⟩

theorem Like.pump (h : p.Like R q) :
    List.Forall₂ (Outcome.Like R) p.pump.1 q.pump.1 ∧ p.pump.2.Like R q.pump.2 := by
  have htaken : Like R { p with transport := p.transport.clearInbound } { q with transport := q.transport.clearInbound } :=
    ⟨h.dispatcher, h.ledger, law.queued [] h.transport, h.clock, h.listeners⟩
  unfold Panel.pump
  rw [law.inbound h.transport]
  exact htaken.handleAll law _

theorem Like.receive (h : p.Like R q) (m : Message) : (p.receive m).Like R (q.receive m) := by
  refine ⟨h.dispatcher, h.ledger, ?_, h.clock, h.listeners⟩
  show R.transport (p.transport.receive m) (q.transport.receive m)
  unfold Transport.receive
  rw [law.inbound h.transport]
  exact law.queued _ h.transport

theorem Like.deliver (h : p.Like R q) (m : Message) :
    Outcome.Like R (p.deliver m).1 (q.deliver m).1 ∧ (p.deliver m).2.Like R (q.deliver m).2 := by
  obtain ⟨houtcomes, hlike⟩ := (h.receive law m).pump law
  exact ⟨like_getLast houtcomes, hlike⟩

theorem Like.mount (h : p.Like R q) : p.mount.1 = q.mount.1 ∧ p.mount.2.Like R q.mount.2 := by
  obtain ⟨hmoved, hdispatcher⟩ := h.dispatcher.transition law .mount
  exact ⟨hmoved, h.updated law h.ledger hdispatcher⟩

end Messages

section Actions

variable (law : R.Lawful)
include law

theorem Like.hasTestCase (h : p.Like R q) (function testCase : String) :
    p.store.hasTestCase function testCase = q.store.hasTestCase function testCase := by
  unfold Store.hasTestCase
  rw [law.snapshot h.store]

theorem Like.send (h : p.Like R q) {c : Command} (hc : c.kind ≠ .selectFunction) :
    (p.send c).1 = (q.send c).1 ∧ (p.send c).2.Like R (q.send c).2 := by
  obtain ⟨hresult, htransport⟩ := law.send h.transport hc
  refine ⟨?_, h.dispatcher, h.ledger, htransport, h.clock, h.listeners⟩
  exact congrArg (Except.mapError ActionError.transport) hresult

/-- A run that is started is noted together with the end of the one it replaces. -/
theorem Like.recordRunStarted (h : p.Like R q) {run run' : Intent} (hrun : R.intent run run')
    {replaced replaced' : Option Intent} (hreplaced : Option.Rel R.intent replaced replaced') :
    (p.dispatcher.recordRunStarted run replaced).Like R (q.dispatcher.recordRunStarted run' replaced') := by
  refine h.dispatcher.commit law ?_
  cases hreplaced with
  | none => exact .cons (.runPending hrun) .nil
  | some hold => exact .cons (.runCleared hold) (.cons (.runPending hrun) .nil)

theorem Like.runTest (h : p.Like R q) (function testCase : String) :
    (p.runTest function testCase).1 = (q.runTest function testCase).1
      ∧ (p.runTest function testCase).2.Like R (q.runTest function testCase).2 := by
  unfold Panel.runTest
  rw [law.readiness h.store, h.hasTestCase law]
  simp only [law.prepareRun h.ledger]
  split
  · exact ⟨rfl, h⟩
  · split
    · exact ⟨rfl, h⟩
    · obtain ⟨hresult, hsent⟩ := h.send law (c := q.ledger.prepareRun ⟨function, testCase⟩)
        (show CommandKind.runTest ≠ .selectFunction by decide)
      cases hleft : p.send (q.ledger.prepareRun ⟨function, testCase⟩) with
      | mk result p' =>
        cases hright : q.send (q.ledger.prepareRun ⟨function, testCase⟩) with
        | mk result' q' =>
          rw [hleft, hright] at hresult hsent
          obtain rfl : result = result' := hresult
          cases result with
          | error e => exact ⟨rfl, hsent⟩
          | ok =>
            obtain ⟨hrun, hid, hreplaced, hledger⟩ := law.issueRun hsent.ledger hsent.clock ⟨function, testCase⟩
            exact ⟨congrArg Except.ok hid, hsent.updated law hledger (hsent.recordRunStarted law hrun hreplaced)⟩

theorem Like.cancelRun (h : p.Like R q) (text : String) :
    (p.cancelRun text).1 = (q.cancelRun text).1 ∧ (p.cancelRun text).2.Like R (q.cancelRun text).2 := by
  unfold Panel.cancelRun
  cases CorrelationId.ofText? text with
  | none => exact ⟨rfl, h⟩
  | some id =>
    obtain ⟨hretired, hledger⟩ := law.retire id .cancelled h.ledger
    simp only [Ledger.cancelRun]
    cases hleft : p.ledger.retire id .cancelled with
    | mk retired l =>
      cases hright : q.ledger.retire id .cancelled with
      | mk retired' k =>
        rw [hleft, hright] at hretired hledger
        cases hretired with
        | none => exact ⟨rfl, h⟩
        | some hrun =>
          have hnoted := h.dispatcher.commit law (.cons (.runCleared hrun) .nil)
          exact (h.updated law hledger hnoted).send law (show CommandKind.cancelRun ≠ .selectFunction by decide)

theorem Like.reload (h : p.Like R q) : p.reload.1 = q.reload.1 ∧ p.reload.2.Like R q.reload.2 := by
  unfold Panel.reload Dispatcher.reload
  rw [law.readiness h.dispatcher.store]
  cases q.dispatcher.store.readiness.next .reload with
  | none => exact ⟨rfl, h⟩
  | some readiness =>
    have hcleared := h.dispatcher.commitSame law [.clearSnapshot, .clearPending, .setReadiness readiness]
    exact (h.updated law (law.supersedeAll h.ledger) hcleared).send law (show CommandKind.reload ≠ .selectFunction by decide)

end Actions

/-- **Every operation keeps panels alike**, those that are about the clock, the selection or the filter apart. -/
theorem Like.perform (law : R.Lawful) (h : p.Like R q) {op : Operation} (hclock : op.isOnClock = false)
    (hview : op.isOnView = false) :
    Report.Like R (p.perform op).1 (q.perform op).1 ∧ (p.perform op).2.Like R (q.perform op).2 := by
  cases op with
  | mount => exact ⟨.of_eq (congrArg Report.mounted (h.mount law).1), (h.mount law).2⟩
  | receive m => exact ⟨.same _, h.receive law m⟩
  | pump => exact ⟨.outcomes (h.pump law).1, (h.pump law).2⟩
  | deliver m => exact ⟨.outcome (h.deliver law m).1, (h.deliver law m).2⟩
  | act action =>
    cases action with
    | runTest function testCase =>
      exact ⟨.of_eq (congrArg Report.started (h.runTest law function testCase).1), (h.runTest law function testCase).2⟩
    | cancelRun text => exact ⟨.of_eq (congrArg Report.acted (h.cancelRun law text).1), (h.cancelRun law text).2⟩
    | requestSettings changes =>
      obtain ⟨hresult, hlike⟩ := h.send law (c := .requestSettings changes)
        (show CommandKind.requestSettings ≠ .selectFunction by decide)
      exact ⟨.of_eq (congrArg Report.acted hresult), hlike⟩
    | reload => exact ⟨.of_eq (congrArg Report.acted (h.reload law).1), (h.reload law).2⟩
    | selectFunction | selectTestCase | setFilter => cases hview
  | setClock | tick | tickAt => cases hclock
  | subscribe label reads =>
    obtain ⟨hid, hstore⟩ := law.subscribe label (fun _ => if reads then [.overview] else []) h.store
    exact ⟨.of_eq (congrArg Report.registered hid), h.withStore hstore⟩
  | unsubscribe id =>
    obtain ⟨hfound, hstore⟩ := law.unsubscribe id h.store
    exact ⟨.of_eq (congrArg Report.removed hfound), h.withStore hstore⟩
  | on kind label =>
    refine ⟨.of_eq (congrArg Report.registered ?_), h.dispatcher, h.ledger, h.transport, h.clock, ?_⟩
    · exact congrArg (fun listeners => (listeners.register kind label).1) h.listeners
    · exact congrArg (fun listeners => (listeners.register kind label).2) h.listeners
  | off id =>
    refine ⟨.of_eq (congrArg Report.removed ?_), h.dispatcher, h.ledger, h.transport, h.clock, ?_⟩
    · exact congrArg (fun listeners => (listeners.remove id).1) h.listeners
    · exact congrArg (fun listeners => (listeners.remove id).2) h.listeners
  | read =>
    obtain ⟨hview, hstore⟩ := law.read h.store
    exact ⟨.overview hview, h.withStore hstore⟩

theorem Like.selectFunction (law : R.Lawful) (onView : R.OnView) (h : p.Like R q) (function : String) :
    (p.selectFunction function).1 = (q.selectFunction function).1
      ∧ (p.selectFunction function).2.Like R (q.selectFunction function).2 := by
  have hfunction : p.dispatcher.store.function? function = q.dispatcher.store.function? function := by
    unfold Store.function?
    rw [law.snapshot h.dispatcher.store]
  unfold Panel.selectFunction Dispatcher.selectFunction
  rw [hfunction]
  cases q.dispatcher.store.function? function with
  | none => exact ⟨rfl, h⟩
  | some f =>
    have hupdated := h.updated law h.ledger (h.dispatcher.commitSame law [.select ⟨some f.id, f.testCases.head?⟩])
    obtain ⟨hresult, htransport⟩ := onView.send function h.transport
    refine ⟨?_, hupdated.dispatcher, h.ledger, htransport, h.clock, h.listeners⟩
    exact congrArg (Except.mapError ActionError.transport) hresult

theorem Like.selectTestCase (law : R.Lawful) (onView : R.OnView) (h : p.Like R q) (testCase : String) :
    (p.selectTestCase testCase).1 = (q.selectTestCase testCase).1
      ∧ (p.selectTestCase testCase).2.Like R (q.selectTestCase testCase).2 := by
  unfold Panel.selectTestCase Dispatcher.selectTestCase
  rw [onView.selection h.dispatcher.store]
  cases q.dispatcher.store.selection.function with
  | none => exact ⟨rfl, h.updated law h.ledger h.dispatcher⟩
  | some function =>
    have hknown : p.dispatcher.store.hasTestCase function testCase = q.dispatcher.store.hasTestCase function testCase :=
      h.hasTestCase law function testCase
    simp only [hknown]
    split
    · exact ⟨rfl, h.updated law h.ledger (h.dispatcher.commitSame law _)⟩
    · exact ⟨rfl, h.updated law h.ledger h.dispatcher⟩

/-- Panels whose selections are the same stay alike when selection and filter change. -/
theorem Like.performOnView (law : R.Lawful) (onView : R.OnView) (h : p.Like R q) {op : Operation} (hview : op.isOnView = true) :
    Report.Like R (p.perform op).1 (q.perform op).1 ∧ (p.perform op).2.Like R (q.perform op).2 := by
  cases op with
  | act action =>
    cases action with
    | selectFunction function =>
      obtain ⟨hresult, hlike⟩ := h.selectFunction law onView function
      exact ⟨.of_eq (congrArg Report.acted hresult), hlike⟩
    | selectTestCase testCase =>
      obtain ⟨hresult, hlike⟩ := h.selectTestCase law onView testCase
      exact ⟨.of_eq (congrArg Report.acted hresult), hlike⟩
    | setFilter filter => exact ⟨.same _, h.updated law h.ledger (h.dispatcher.commitSame law [.setFilter filter])⟩
    | _ => cases hview
  | _ => cases hview

theorem Like.tickAt (law : R.Lawful) (onClock : R.OnClock) (h : p.Like R q) (now : Instant) :
    (p.tickAt now).1 = (q.tickAt now).1 ∧ (p.tickAt now).2.Like R (q.tickAt now).2 := by
  obtain ⟨hstalled, hledger⟩ := onClock.sweepStalled now h.ledger
  refine ⟨hstalled, ?_⟩
  show ({ p with ledger := (p.ledger.sweepStalled now).2 }.update
      (p.dispatcher.recordRunsStalled (p.ledger.sweepStalled now).1)).Like R
    ({ q with ledger := (q.ledger.sweepStalled now).2 }.update
      (q.dispatcher.recordRunsStalled (q.ledger.sweepStalled now).1))
  rw [hstalled]
  refine h.updated law hledger ?_
  unfold Dispatcher.recordRunsStalled
  split
  · exact h.dispatcher
  · exact h.dispatcher.commitSame law _

/-- Panels whose clocks are the same stay alike through sweeps and when the clock is set. -/
theorem Like.performOnClock (law : R.Lawful) (onClock : R.OnClock) (h : p.Like R q) {op : Operation}
    (hclock : op.isOnClock = true) :
    Report.Like R (p.perform op).1 (q.perform op).1 ∧ (p.perform op).2.Like R (q.perform op).2 := by
  cases op with
  | setClock now => exact ⟨.same _, h.dispatcher, h.ledger, h.transport, onClock.clock_iff.2 rfl, h.listeners⟩
  | tick =>
    have hnow : p.now = q.now := onClock.clock_iff.1 h.clock
    obtain ⟨hstalled, hlike⟩ := h.tickAt law onClock q.now
    show Report.Like R (.stalled (p.tickAt p.now).1) (.stalled (q.tickAt q.now).1)
      ∧ (p.tickAt p.now).2.Like R (q.tickAt q.now).2
    rw [hnow]
    exact ⟨.of_eq (congrArg Report.stalled hstalled), hlike⟩
  | tickAt now =>
    obtain ⟨hstalled, hlike⟩ := h.tickAt law onClock now
    exact ⟨.of_eq (congrArg Report.stalled hstalled), hlike⟩
  | _ => cases hclock

/-! ## Sessions -/

/-- The reports of those operations of a session that a test keeps. -/
def reportsOf (p : Panel) (keep : Operation → Bool) (ops : List Operation) : List Report :=
  ((ops.zip (p.performAll ops).1).filter fun call => keep call.1).map (·.2)

theorem reportsOf_cons (p : Panel) (keep : Operation → Bool) (op : Operation) (rest : List Operation) :
    p.reportsOf keep (op :: rest) =
      if keep op then (p.perform op).1 :: (p.perform op).2.reportsOf keep rest else (p.perform op).2.reportsOf keep rest := by
  show (List.filter _ ((op, (p.perform op).1) :: rest.zip ((p.perform op).2.performAll rest).1)).map _ = _
  rw [List.filter_cons]
  split <;> rfl

theorem reportsOf_all (p : Panel) (ops : List Operation) : p.reportsOf (fun _ => true) ops = (p.performAll ops).1 := by
  induction ops generalizing p with
  | nil => rfl
  | cons op rest ih =>
    rw [reportsOf_cons, if_pos rfl, ih]
    rfl

/-- Every operation that a test keeps keeps panels alike, and every other one does so when only the first panel gets it. -/
structure Lockstep (R : Likeness) (keep : Operation → Bool) : Prop where
  kept {op : Operation} {p q : Panel} : keep op = true → p.Like R q →
    Report.Like R (p.perform op).1 (q.perform op).1 ∧ (p.perform op).2.Like R (q.perform op).2
  skipped {op : Operation} {p q : Panel} : keep op = false → p.Like R q → (p.perform op).2.Like R q

/-- **A whole session against its kept operations.** The session and what is left of it end in panels that are alike, and the
reports of the kept operations are alike one by one. -/
theorem Like.performAll {keep : Operation → Bool} (steps : Lockstep R keep) (h : p.Like R q) (ops : List Operation) :
    List.Forall₂ (Report.Like R) (p.reportsOf keep ops) (q.performAll (ops.filter keep)).1
      ∧ (p.performAll ops).2.Like R (q.performAll (ops.filter keep)).2 := by
  induction ops generalizing p q with
  | nil => exact ⟨.nil, h⟩
  | cons op rest ih =>
    rw [reportsOf_cons, List.filter_cons]
    cases hkeep : keep op with
    | true =>
      obtain ⟨hreport, hnext⟩ := steps.kept hkeep h
      obtain ⟨hreports, hlast⟩ := ih hnext
      exact ⟨.cons hreport hreports, hlast⟩
    | false => exact ih (steps.skipped hkeep h)

end Panel

end PanelBridge
