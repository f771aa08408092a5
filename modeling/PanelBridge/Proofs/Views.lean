import Mathlib.Data.List.DropRight
import PanelBridge.Proofs.Commit

/-!
# Views are never stale and are computed only when needed

A view remembers its value together with the revisions of the slices it declares. That this is right rests on two facts:
a view reads nothing but the parts of its slices (`compute_congr`), and a batch raises the revision of every slice whose
part it changes (`batch_part`). Here they are put together over whole runs of a store.

* **`StoreMove`, `Store.move`**: what can be done to a store. Subscribers look at what they like, from inside a commit.
* **`ViewEvent`, `Store.history`**: the log of a run as far as views are concerned: which slices were bumped, and each
  reading of a view with the store before and after it.
* **`Remembered`**: the invariant, for one view. It ties the memo to the last event that computed it, the revisions to the
  bumps since then, and the value to the state.
-/

namespace PanelBridge

/-! ## A view reads only the parts of its slices -/

namespace Store

variable {s t : Store}

theorem runStatus_of_part (h : s.part .runs = t.part .runs) (target : Target) :
    s.runStatus target = t.runStatus target := by
  have hpair : s.pending = t.pending ∧ s.results = t.results := Prod.mk.inj h
  simp only [runStatus, hpair.1, hpair.2]

theorem computeFilteredFunctions_congr (hp : s.part .snapshot = t.part .snapshot)
    (hf : s.filter = t.filter) : s.computeFilteredFunctions = t.computeFilteredFunctions := by
  have hmap (u : Store) :
      u.computeFilteredFunctions = ((u.snapshot.map (·.functions)).map fun functions =>
        functions.filter (matchesNeedle (Text.lowercase (Text.trim u.filter)))).getD [] := by
    cases hu : u.snapshot <;> simp [computeFilteredFunctions, hu]
  rw [hmap s, hmap t, functions_of_part hp, hf]

theorem computeSelectedFunction_congr (hp : s.part .snapshot = t.part .snapshot)
    (hsel : s.selection = t.selection) : s.computeSelectedFunction = t.computeSelectedFunction := by
  unfold computeSelectedFunction
  rw [hsel, funext (function?_of_part hp)]

theorem computeSelectedResults_congr (hp : s.part .snapshot = t.part .snapshot)
    (hsel : s.selection = t.selection) (hr : s.part .runs = t.part .runs) :
    s.computeSelectedResults = t.computeSelectedResults := by
  unfold computeSelectedResults
  rw [computeSelectedFunction_congr hp hsel, funext (runStatus_of_part hr)]

theorem computeSelectedDiagnostics_congr (hd : s.part .diagnostics = t.part .diagnostics)
    (hsel : s.selection = t.selection) :
    s.computeSelectedDiagnostics = t.computeSelectedDiagnostics := by
  have hmap (u : Store) :
      u.computeSelectedDiagnostics = ((u.snapshot.map (·.diagnostics)).bind fun diagnostics =>
        u.selection.function.map diagnostics.forFunction).getD [] := by
    cases hu : u.snapshot <;> cases hf : u.selection.function <;>
      simp [computeSelectedDiagnostics, hu, hf]
  have hdiag : s.snapshot.map (·.diagnostics) = t.snapshot.map (·.diagnostics) := hd
  rw [hmap s, hmap t, hdiag, hsel]

/-- **A view depends on the parts of its slices only.** -/
theorem compute_congr (v : View) (h : ∀ slice ∈ v.slices, s.part slice = t.part slice) :
    s.compute v = t.compute v := by
  cases v with
  | filteredFunctions =>
    exact computeFilteredFunctions_congr (h .snapshot (by decide)) (h .filter (by decide))
  | selectedFunction =>
    exact computeSelectedFunction_congr (h .snapshot (by decide)) (h .selection (by decide))
  | selectedResults =>
    exact computeSelectedResults_congr (h .snapshot (by decide)) (h .selection (by decide))
      (h .runs (by decide))
  | selectedDiagnostics =>
    exact computeSelectedDiagnostics_congr (h .diagnostics (by decide)) (h .selection (by decide))

end Store

/-! ## Reading a memo -/

namespace Memo

variable {α : Type} {m : Memo α} {key : List Nat} {compute : Unit → α}

theorem read_hit {value : α} (h : m.cached = some (key, value)) : m.read key compute = (value, m) := by
  simp [read, h]

theorem read_miss (h : ∀ value, m.cached ≠ some (key, value)) :
    m.read key compute = (compute (), ⟨some (key, compute ()), m.computations + 1⟩) := by
  unfold read
  cases hc : m.cached with
  | none => rfl
  | some entry =>
    obtain ⟨cachedKey, value⟩ := entry
    have hne : cachedKey ≠ key := fun he => h value (he ▸ hc)
    simp [hne]

end Memo

namespace Views

@[simp]
theorem memo_withMemo_self (views : Views) (v : View) (memo : Memo v.Value) :
    (views.withMemo v memo).memo v = memo := by
  cases v <;> rfl

theorem memo_withMemo_of_ne (views : Views) {v w : View} (memo : Memo v.Value) (h : w ≠ v) :
    (views.withMemo v memo).memo w = views.memo w := by
  cases v with
  | filteredFunctions => cases w with
    | filteredFunctions => exact absurd rfl h
    | _ => rfl
  | selectedFunction => cases w with
    | selectedFunction => exact absurd rfl h
    | _ => rfl
  | selectedResults => cases w with
    | selectedResults => exact absurd rfl h
    | _ => rfl
  | selectedDiagnostics => cases w with
    | selectedDiagnostics => exact absurd rfl h
    | _ => rfl

@[simp]
theorem withMemo_memo (views : Views) (v : View) : views.withMemo v (views.memo v) = views := by
  cases v <;> rfl

end Views

namespace Store

variable (s : Store) {v : View}

/-- A view that was computed at the present revisions is shown as it is remembered. -/
theorem readView_hit {value : v.Value}
    (h : (s.views.memo v).cached = some (s.revisions.key v.slices, value)) :
    s.readView v = (value, s) := by
  unfold readView
  rw [Memo.read_hit h]
  simp

/-- Any other view is computed, and remembered with the present revisions. -/
theorem readView_miss
    (h : ∀ value, (s.views.memo v).cached ≠ some (s.revisions.key v.slices, value)) :
    s.readView v =
      (s.compute v,
       { s with
         views := s.views.withMemo v
           ⟨some (s.revisions.key v.slices, s.compute v), s.computations v + 1⟩ }) := by
  unfold readView
  rw [Memo.read_miss h]
  rfl

theorem readView_part (w : View) (slice : Slice) : (s.readView w).2.part slice = s.part slice := by
  cases slice <;> rfl

end Store

/-! ## Runs of a store and their log -/

/-- Something that is done to a store. -/
inductive StoreMove where
  | commit (mutations : List Mutation)
  | look (reading : Reading)
  | subscribe (label : String) (reads : StoreChange → List Reading)
  | unsubscribe (id : Nat)

/-- A reading of a view: what was seen, and the store before and after. -/
structure ViewRead where
  view : View
  before : Store
  value : view.Value
  after : Store

/-- What happens in a run as far as views are concerned. -/
inductive ViewEvent where
  | bumped (slices : SliceSet)
  | read (r : ViewRead)

namespace ViewEvent

/-- Whether a slice was bumped. -/
def bumps (slice : Slice) : ViewEvent → Bool
  | .bumped slices => slices.contains slice
  | .read _ => false

/-- Whether a view was read. -/
def reads (v : View) : ViewEvent → Bool
  | .bumped _ => false
  | .read r => r.view = v

/-- Whether a view was read and computed on that occasion. -/
def computes (v : View) : ViewEvent → Bool
  | .bumped _ => false
  | .read r => r.view = v && r.before.computations v < r.after.computations v

end ViewEvent

/-- The view that is read when something is looked at. The overview shows the filtered functions. -/
def Reading.source : Reading → View
  | .overview => .filteredFunctions
  | .view v => v

namespace Store

/-- The store after a move. -/
def move (s : Store) : StoreMove → Store
  | .commit mutations => (s.commit mutations).2
  | .look reading => (s.look reading).2
  | .subscribe label reads => (s.subscribe label reads).2
  | .unsubscribe id => (s.unsubscribe id).2

/-- The log of reading a view. -/
def readLog (s : Store) (v : View) : ViewEvent := .read ⟨v, s, (s.readView v).1, (s.readView v).2⟩

/-- The log of looking at one thing after the other. -/
def lookAllLog (s : Store) : List Reading → List ViewEvent
  | [] => []
  | reading :: rest => s.readLog reading.source :: (s.look reading).2.lookAllLog rest

/-- The log of telling subscribers of a change. -/
def notifyAllLog (s : Store) (change : StoreChange) : List Subscriber → List ViewEvent
  | [] => []
  | subscriber :: rest =>
    s.lookAllLog (subscriber.reads change) ++ (s.notify change subscriber).notifyAllLog change rest

/-- The log of a commit: the bumped slices, then what the subscribers look at. -/
def commitLog (s : Store) (mutations : List Mutation) : List ViewEvent :=
  match (s.commit mutations).1 with
  | none => []
  | some change =>
    let bumped := (s.batch mutations).1.bump change.slices
    .bumped change.slices :: bumped.notifyAllLog change bumped.subscribers

/-- The log of a move. -/
def log (s : Store) : StoreMove → List ViewEvent
  | .commit mutations => s.commitLog mutations
  | .look reading => [s.readLog reading.source]
  | .subscribe .. => []
  | .unsubscribe _ => []

/-- The log of a run. -/
def history (s : Store) : List StoreMove → List ViewEvent
  | [] => []
  | m :: rest => s.log m ++ (s.move m).history rest

end Store

/-- The events since the view was last computed, or all of them if it never was. -/
def sinceComputed (v : View) (past : List ViewEvent) : List ViewEvent :=
  past.rtakeWhile fun e => !e.computes v

/-- A view is due for computation: it was never read, or one of its slices was bumped since it was last computed. -/
def Due (v : View) (past : List ViewEvent) : Prop :=
  (∀ e ∈ past, e.reads v = false) ∨
    ∃ e ∈ sinceComputed v past, ∃ slice ∈ v.slices, e.bumps slice = true

/-! ## The invariant of one view -/

/-- A value of a view was computed at the revisions `computed`. A revision of the view's slices has moved since then
exactly if the slice was bumped, and the value is right as long as none has. -/
structure Held (past : List ViewEvent) (s : Store) (v : View) (computed : Revisions)
    (value : v.Value) : Prop where
  read : ∃ e ∈ past, e.reads v = true
  le : ∀ slice ∈ v.slices, computed.get slice ≤ s.revisions.get slice
  eq_iff : ∀ slice ∈ v.slices, computed.get slice = s.revisions.get slice ↔
    ∀ e ∈ sinceComputed v past, e.bumps slice = false
  fresh : (∀ slice ∈ v.slices, computed.get slice = s.revisions.get slice) → value = s.compute v

/-- What a store remembers of a view after the events of `past`. -/
def Remembered (past : List ViewEvent) (s : Store) (v : View) : Prop :=
  match (s.views.memo v).cached with
  | none => ∀ e ∈ past, e.reads v = false
  | some (key, value) => ∃ computed : Revisions, key = computed.key v.slices ∧ Held past s v computed value

theorem sinceComputed_append {v : View} {past : List ViewEvent} {e : ViewEvent}
    (h : e.computes v = false) : sinceComputed v (past ++ [e]) = sinceComputed v past ++ [e] := by
  unfold sinceComputed
  rw [List.rtakeWhile_concat_pos _ _ _ (by simp [h])]

theorem sinceComputed_append_of_computes {v : View} {past : List ViewEvent} {e : ViewEvent}
    (h : e.computes v = true) : sinceComputed v (past ++ [e]) = [] := by
  unfold sinceComputed
  rw [List.rtakeWhile_concat_neg _ _ _ (by simp [h])]

theorem Revisions.key_eq_iff {r q : Revisions} {slices : List Slice} :
    r.key slices = q.key slices ↔ ∀ slice ∈ slices, r.get slice = q.get slice := by
  unfold Revisions.key
  exact List.map_inj_left

section Step

variable {past : List ViewEvent} {s t : Store} {v : View} {e : ViewEvent}

/-- The step of the invariant: an event that does not compute the view, after which a revision has grown by one if its
slice was bumped, and the parts of the other slices are as before. -/
theorem Held.append {computed : Revisions} {value : v.Value} (h : Held past s v computed value)
    (hcomputes : e.computes v = false)
    (hrevisions : ∀ slice, t.revisions.get slice =
      if e.bumps slice then s.revisions.get slice + 1 else s.revisions.get slice)
    (hparts : ∀ slice, e.bumps slice = false → t.part slice = s.part slice) :
    Held (past ++ [e]) t v computed value where
  read := by
    obtain ⟨e', he', hreads⟩ := h.read
    exact ⟨e', List.mem_append_left _ he', hreads⟩
  le := by
    intro slice hslice
    have hle := h.le slice hslice
    have hrev := hrevisions slice
    split at hrev <;> omega
  eq_iff := by
    intro slice hslice
    have hle := h.le slice hslice
    have hrev := hrevisions slice
    rw [sinceComputed_append hcomputes]
    cases hb : e.bumps slice with
    | true =>
      rw [hb, if_pos rfl] at hrev
      constructor
      · intro heq
        omega
      · intro hnone
        have hlast := hnone e (by simp)
        simp [hb] at hlast
    | false =>
      rw [hb, if_neg (by simp)] at hrev
      rw [hrev, h.eq_iff slice hslice]
      simp [hb, or_imp, forall_and]
  fresh := by
    intro heq
    -- no slice of the view was bumped, since a bumped revision is beyond the one the value was computed at
    have hnot : ∀ slice ∈ v.slices, e.bumps slice = false := by
      intro slice hslice
      have hle := h.le slice hslice
      have hrev := hrevisions slice
      have hnow := heq slice hslice
      cases hb : e.bumps slice with
      | true => rw [hb, if_pos rfl] at hrev; omega
      | false => rfl
    have hold : value = s.compute v := by
      apply h.fresh
      intro slice hslice
      have hrev := hrevisions slice
      rw [hnot slice hslice, if_neg (by simp)] at hrev
      rw [heq slice hslice, hrev]
    rw [hold]
    exact Store.compute_congr v fun slice hslice => (hparts slice (hnot slice hslice)).symm

theorem Remembered.append (h : Remembered past s v) (hmemo : t.views.memo v = s.views.memo v)
    (hreads : e.reads v = true → (s.views.memo v).cached.isSome)
    (hcomputes : e.computes v = false)
    (hrevisions : ∀ slice, t.revisions.get slice =
      if e.bumps slice then s.revisions.get slice + 1 else s.revisions.get slice)
    (hparts : ∀ slice, e.bumps slice = false → t.part slice = s.part slice) :
    Remembered (past ++ [e]) t v := by
  unfold Remembered at h ⊢
  rw [hmemo]
  cases hc : (s.views.memo v).cached with
  | none =>
    rw [hc] at h
    intro e' he'
    rcases List.mem_append.1 he' with hold | hnew
    · exact h e' hold
    · obtain rfl := List.mem_singleton.1 hnew
      cases hr : e'.reads v with
      | true => simpa [hc] using hreads hr
      | false => rfl
  | some entry =>
    rw [hc] at h
    obtain ⟨computed, hkey, hheld⟩ := h
    exact ⟨computed, hkey, hheld.append hcomputes hrevisions hparts⟩

/-- Whatever changes neither views nor revisions nor parts keeps the invariant without an event. -/
theorem Remembered.of_same (h : Remembered past s v) (hviews : t.views = s.views)
    (hrevisions : t.revisions = s.revisions) (hparts : ∀ slice, t.part slice = s.part slice) :
    Remembered past t v := by
  unfold Remembered at h ⊢
  rw [hviews]
  cases hc : (s.views.memo v).cached with
  | none => rw [hc] at h; exact h
  | some entry =>
    rw [hc] at h
    obtain ⟨computed, hkey, hheld⟩ := h
    refine ⟨computed, hkey, hheld.read, ?_, ?_, ?_⟩
    · rw [hrevisions]; exact hheld.le
    · rw [hrevisions]; exact hheld.eq_iff
    · rw [hrevisions]
      intro heq
      rw [hheld.fresh heq]
      exact Store.compute_congr v fun slice _ => (hparts slice).symm

end Step

/-! ## One reading -/

/-- A reading is as it should be: what is seen is what the state shows, and the view was computed exactly if it was due. -/
def ViewRead.Right (past : List ViewEvent) (r : ViewRead) : Prop :=
  r.value = r.before.compute r.view
    ∧ (Due r.view past → r.after.computations r.view = r.before.computations r.view + 1)
    ∧ (¬ Due r.view past → r.after.computations r.view = r.before.computations r.view)

section Read

variable {past : List ViewEvent} {s : Store} {v : View}

/-- **A view is due exactly if it is not remembered at the present revisions.** -/
theorem due_iff_miss (h : Remembered past s v) :
    Due v past ↔ ∀ value, (s.views.memo v).cached ≠ some (s.revisions.key v.slices, value) := by
  unfold Remembered at h
  cases hc : (s.views.memo v).cached with
  | none =>
    rw [hc] at h
    exact ⟨fun _ _ => by simp, fun _ => Or.inl h⟩
  | some entry =>
    rw [hc] at h
    obtain ⟨key, value⟩ := entry
    obtain ⟨computed, rfl, hheld⟩ := h
    constructor
    · -- due, yet remembered at the present revisions: a held value was read, and none of its slices was bumped
      rintro (hnever | ⟨e, he, slice, hslice, hbumps⟩) value' heq
      · obtain ⟨e, he, hreads⟩ := hheld.read
        rw [hnever e he] at hreads
        cases hreads
      · have hkey : computed.key v.slices = s.revisions.key v.slices :=
          (Prod.mk.inj (Option.some.inj heq)).1
        have hrev := Revisions.key_eq_iff.1 hkey slice hslice
        rw [(hheld.eq_iff slice hslice).1 hrev e he] at hbumps
        cases hbumps
    · intro hmiss
      right
      -- some revision has moved, and it moves only by a bump
      have hne : ¬ ∀ slice ∈ v.slices, computed.get slice = s.revisions.get slice := by
        intro hall
        exact hmiss value (by rw [Revisions.key_eq_iff.2 hall])
      obtain ⟨slice, hrest⟩ := Classical.not_forall.1 hne
      obtain ⟨hslice, hmoved⟩ := Classical.not_imp.1 hrest
      rw [hheld.eq_iff slice hslice] at hmoved
      obtain ⟨e, hrest⟩ := Classical.not_forall.1 hmoved
      obtain ⟨he, hbumps⟩ := Classical.not_imp.1 hrest
      exact ⟨e, he, slice, hslice, by simpa using hbumps⟩

theorem readView_of_not_due (h : Remembered past s v) (hdue : ¬ Due v past) :
    s.readView v = (s.compute v, s) := by
  rw [due_iff_miss h] at hdue
  obtain ⟨value, hcached⟩ := Classical.not_forall.1 hdue
  have hcached := Classical.not_not.1 hcached
  rw [Store.readView_hit s hcached]
  unfold Remembered at h
  rw [hcached] at h
  obtain ⟨computed, hkey, hheld⟩ := h
  rw [hheld.fresh (Revisions.key_eq_iff.1 hkey.symm)]

theorem readView_right (h : Remembered past s v) :
    ViewRead.Right past ⟨v, s, (s.readView v).1, (s.readView v).2⟩ := by
  unfold ViewRead.Right
  by_cases hdue : Due v past
  · have hmiss := Store.readView_miss s ((due_iff_miss h).1 hdue)
    refine ⟨?_, fun _ => ?_, fun hnot => absurd hdue hnot⟩
    · show (s.readView v).1 = s.compute v
      rw [hmiss]
    · show (s.readView v).2.computations v = s.computations v + 1
      rw [hmiss]
      simp [Store.computations]
  · have hhit := readView_of_not_due h hdue
    refine ⟨?_, fun hd => absurd hd hdue, fun _ => ?_⟩
    · show (s.readView v).1 = s.compute v
      rw [hhit]
    · show (s.readView v).2.computations v = s.computations v
      rw [hhit]

/-- Reading a view keeps the invariant of every view, with the reading in the log. -/
theorem Remembered.read (h : ∀ w, Remembered past s w) (w : View) :
    Remembered (past ++ [s.readLog v]) (s.readView v).2 w := by
  by_cases hdue : Due v past
  · have hmiss := Store.readView_miss s ((due_iff_miss (h v)).1 hdue)
    have hcount : (s.readView v).2.computations v = s.computations v + 1 := by
      rw [hmiss]
      simp [Store.computations]
    by_cases hw : w = v
    · subst hw
      -- computed just now: no event since then, and the revisions are the present ones
      have hcomputes : (s.readLog w).computes w = true := by
        simp [Store.readLog, ViewEvent.computes, hcount]
      unfold Remembered
      rw [hmiss]
      simp only [Views.memo_withMemo_self]
      refine ⟨s.revisions, rfl, ⟨s.readLog w, by simp, by simp [Store.readLog, ViewEvent.reads]⟩,
        fun _ _ => Nat.le_refl _, fun _ _ => ?_, fun _ => Store.compute_congr w fun slice _ => ?_⟩
      · rw [sinceComputed_append_of_computes hcomputes]
        simp
      · cases slice <;> rfl
    · -- the other views keep what they remember; only the log has grown
      have hne : ¬ v = w := fun he => hw he.symm
      refine (h w).append ?_ ?_ ?_ (fun slice => rfl) (fun slice _ => s.readView_part v slice)
      · rw [hmiss]
        exact Views.memo_withMemo_of_ne _ _ hw
      · simp [Store.readLog, ViewEvent.reads, hne]
      · simp [Store.readLog, ViewEvent.computes, hne]
  · have hhit := readView_of_not_due (h v) hdue
    have hsame : (s.readView v).2 = s := by rw [hhit]
    rw [hsame]
    refine (h w).append rfl ?_ ?_ (fun slice => rfl) (fun slice _ => rfl)
    · intro hreads
      obtain rfl : v = w := by simpa [Store.readLog, ViewEvent.reads] using hreads
      rw [due_iff_miss (h v)] at hdue
      obtain ⟨value, hcached⟩ := Classical.not_forall.1 hdue
      rw [Classical.not_not.1 hcached]
      rfl
    · simp [Store.readLog, ViewEvent.computes, hsame]

end Read

/-! ## Whole runs -/

/-- Every reading of a log is right, given the events before the log. -/
def AllRight (past : List ViewEvent) : List ViewEvent → Prop
  | [] => True
  | e :: rest => (∀ r, e = .read r → r.Right past) ∧ AllRight (past ++ [e]) rest

/-- A log is right and ends in a store that remembers its views as it should. -/
structure Continues (past log : List ViewEvent) (t : Store) : Prop where
  right : AllRight past log
  remembered : ∀ v, Remembered (past ++ log) t v

theorem allRight_append {past a b : List ViewEvent} (ha : AllRight past a)
    (hb : AllRight (past ++ a) b) : AllRight past (a ++ b) := by
  induction a generalizing past with
  | nil => simpa using hb
  | cons e rest ih =>
    refine ⟨ha.1, ih ha.2 ?_⟩
    simpa using hb

theorem right_of_allRight {past earlier later : List ViewEvent} {r : ViewRead}
    (h : AllRight past (earlier ++ .read r :: later)) : r.Right (past ++ earlier) := by
  induction earlier generalizing past with
  | nil => simpa using h.1 r rfl
  | cons e rest ih => simpa using ih h.2

section Runs

variable {past : List ViewEvent} {s t : Store}

theorem Continues.nil (h : ∀ v, Remembered past t v) : Continues past [] t :=
  ⟨trivial, by simpa using h⟩

theorem Continues.trans {log more : List ViewEvent} (h : Continues past log s)
    (h' : Continues (past ++ log) more t) : Continues past (log ++ more) t :=
  ⟨allRight_append h.right h'.right, by simpa using h'.remembered⟩

theorem continues_look (h : ∀ v, Remembered past s v) (reading : Reading) :
    Continues past [s.readLog reading.source] (s.look reading).2 := by
  have hlook : (s.look reading).2 = (s.readView reading.source).2 := by cases reading <;> rfl
  rw [hlook]
  refine ⟨⟨fun r hr => ?_, trivial⟩, Remembered.read h⟩
  -- the one reading of the log is that of the view behind what is looked at
  obtain rfl : (⟨_, s, _, _⟩ : ViewRead) = r := ViewEvent.read.inj hr
  exact readView_right (h _)

theorem continues_lookAll (h : ∀ v, Remembered past s v) (readings : List Reading) :
    Continues past (s.lookAllLog readings) (s.lookAll readings).2 := by
  induction readings generalizing past s with
  | nil => exact Continues.nil h
  | cons reading rest ih =>
    have hlook := continues_look h reading
    exact hlook.trans (ih hlook.remembered)

theorem continues_notifyAll (h : ∀ v, Remembered past s v) (change : StoreChange)
    (subscribers : List Subscriber) :
    Continues past (s.notifyAllLog change subscribers) (s.notifyAll change subscribers) := by
  induction subscribers generalizing past s with
  | nil => exact Continues.nil h
  | cons subscriber rest ih =>
    have hlook := continues_lookAll h (subscriber.reads change)
    -- the notice goes into the outbox, which no view reads
    have hnotify : Continues past (s.lookAllLog (subscriber.reads change))
        (s.notify change subscriber) := by
      refine ⟨hlook.right, fun v => (hlook.remembered v).of_same rfl rfl fun slice => ?_⟩
      cases slice <;> rfl
    exact hnotify.trans (ih hnotify.remembered)

/-- A batch that reports slices is one event: the bump of these slices. -/
theorem continues_bump (h : ∀ v, Remembered past s v) (mutations : List Mutation) :
    Continues past [.bumped (s.batch mutations).2]
      ((s.batch mutations).1.bump (s.batch mutations).2) := by
  have hbook := s.batch_bookkeeping mutations
  have hviews : (s.batch mutations).1.views = s.views := congrArg Bookkeeping.views hbook
  have hrevisions : (s.batch mutations).1.revisions = s.revisions :=
    congrArg Bookkeeping.revisions hbook
  refine ⟨⟨fun r hr => absurd hr (by simp), trivial⟩, fun v => ?_⟩
  refine (h v).append ?_ (fun hr => absurd hr (by simp [ViewEvent.reads])) rfl
    (fun slice => ?_) (fun slice hslice => ?_)
  · show (s.batch mutations).1.views.memo v = s.views.memo v
    rw [hviews]
  · show ((s.batch mutations).1.revisions.bump _).get slice = _
    rw [hrevisions, Revisions.get_bump]
    rfl
  · rw [← s.batch_part mutations hslice]
    cases slice <;> rfl

theorem continues_commit (h : ∀ v, Remembered past s v) (mutations : List Mutation) :
    Continues past (s.commitLog mutations) (s.commit mutations).2 := by
  have hbook := s.batch_bookkeeping mutations
  by_cases hempty : (s.batch mutations).2.isEmpty
  · -- a batch that touches nothing is no event, so every part must be as it was
    have hcommit : s.commit mutations = (none, (s.batch mutations).1) := by
      simp [Store.commit, hempty]
    unfold Store.commitLog
    rw [hcommit]
    refine Continues.nil fun v => (h v).of_same (congrArg Bookkeeping.views hbook)
      (congrArg Bookkeeping.revisions hbook) fun slice => ?_
    exact s.batch_part mutations (SliceSet.contains_of_isEmpty hempty slice)
  · have hbump := continues_bump h mutations
    unfold Store.commitLog Store.commit
    simp only [hempty]
    exact hbump.trans (continues_notifyAll hbump.remembered _ _)

theorem continues_move (h : ∀ v, Remembered past s v) (m : StoreMove) :
    Continues past (s.log m) (s.move m) := by
  cases m with
  | commit mutations => exact continues_commit h mutations
  | look reading => exact continues_look h reading
  | subscribe label reads =>
    refine Continues.nil fun v => (h v).of_same rfl rfl fun slice => ?_
    cases slice <;> rfl
  | unsubscribe id =>
    refine Continues.nil fun v => (h v).of_same rfl rfl fun slice => ?_
    cases slice <;> rfl

theorem allRight_history (h : ∀ v, Remembered past s v) (moves : List StoreMove) :
    AllRight past (s.history moves) := by
  induction moves generalizing past s with
  | nil => trivial
  | cons m rest ih =>
    have hmove := continues_move h m
    exact allRight_append hmove.right (ih hmove.remembered)

end Runs

/-- Nothing was read of a new store. -/
theorem remembered_new (capacity : Nat) (v : View) : Remembered [] (.new capacity) v := by
  have hnone : ((Store.new capacity).views.memo v).cached = none := by cases v <;> rfl
  unfold Remembered
  rw [hnone]
  intro e he
  exact absurd he List.not_mem_nil

/-- **Views never go stale, and are computed only when they are due.** Whatever is done to a new store, every reading of a
view, also from inside a commit, shows what the state at that moment shows; it counts as a computation exactly if it
is the first one of the view or a slice of the view was bumped since the view was last computed. -/
theorem readings_fresh_and_computed_when_due (capacity : Nat) (moves : List StoreMove)
    {earlier later : List ViewEvent} {r : ViewRead}
    (h : (Store.new capacity).history moves = earlier ++ .read r :: later) :
    r.value = r.before.compute r.view
      ∧ (r.after.computations r.view = r.before.computations r.view + 1 ↔ Due r.view earlier)
      ∧ (¬ Due r.view earlier → r.after.computations r.view = r.before.computations r.view) := by
  have hall : AllRight [] (earlier ++ .read r :: later) :=
    h ▸ allRight_history (remembered_new capacity) moves
  obtain ⟨hvalue, hdue, hnot⟩ : r.Right earlier := by simpa using right_of_allRight hall
  refine ⟨hvalue, ⟨fun hcount => ?_, hdue⟩, hnot⟩
  by_cases hd : Due r.view earlier
  · exact hd
  · have hsame := hnot hd
    omega

/-- A subscriber looks at the overview on each change; the second change of the filter makes it compute again. -/
theorem readings_fresh_and_computed_when_due_filter :
    ∃ (earlier later : List ViewEvent) (r : ViewRead),
      (Store.new 0).history [.subscribe "render" fun _ => [.overview], .commit [.setFilter "a"],
        .commit [.setFilter "b"]] = earlier ++ .read r :: later
      ∧ earlier.length = 3
      ∧ r.after.computations r.view = r.before.computations r.view + 1 := by
  have h := @readings_fresh_and_computed_when_due 0 [.subscribe "render" fun _ => [.overview],
    .commit [.setFilter "a"], .commit [.setFilter "b"]] [_, _, _] [] _ rfl
  refine ⟨[_, _, _], [], _, rfl, rfl, h.2.1.2 ?_⟩
  exact Or.inr ⟨_, List.Mem.head _, .filter, by decide, rfl⟩

end PanelBridge
