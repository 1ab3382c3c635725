import Mathlib.Data.Int.Notation
import Mathlib.Data.List.Nodup
import PcRemote.Text
import PcRemote.Transition

/-! Delivery of updates from getUpdates to the dispatcher. The server forgets only what a
later offset acknowledges; the client moves its offset before it dispatches, and dispatches
only after an empty answer. Polls may fail at any point and the device may restart. -/
namespace PcRemote.UpdateDelivery
open Text Transition

def getUpdatesLimit : ℕ := 1

/-- The i64 value that a sum wraps around to. -/
def wrapI64 (n : ℤ) : ℤ := Int.bmod n UInt64.size

lemma wrapI64_of_range {n : ℤ} (h₀ : i64Min ≤ n) (h₁ : n ≤ i64Max) : wrapI64 n = n := by
  unfold i64Min at h₀
  unfold i64Max at h₁
  unfold wrapI64 UInt64.size
  rw [Int.bmod_eq_emod]
  split <;> omega

structure UpdateCursor where
  nextOffset : ℤ
  synced : Bool
  deriving DecidableEq, Repr

namespace UpdateCursor

def new : UpdateCursor := ⟨0, false⟩

/-- The cursor after one answer, and whether the updates of that answer are dispatched. -/
def advance (c : UpdateCursor) (updateIds : List ℤ) : UpdateCursor × Bool :=
  (⟨updateIds.foldl (fun next id => if next ≤ id then wrapI64 (id + 1) else next) c.nextOffset,
    c.synced || updateIds.isEmpty⟩, c.synced)

lemma advance_nil (c : UpdateCursor) : c.advance [] = (⟨c.nextOffset, true⟩, c.synced) := by
  simp [advance]

lemma advance_single {c : UpdateCursor} {id : ℤ} (hmin : i64Min ≤ id) (hmax : id < i64Max)
    (h : c.nextOffset ≤ id) : c.advance [id] = (⟨id + 1, c.synced⟩, c.synced) := by
  have hwrap := wrapI64_of_range (n := id + 1) (by omega) (by omega)
  simp [advance, h, hwrap]

end UpdateCursor

/-- Where the polling thread stands: between polls, waiting for the server, waiting for the
answer on its way, or dispatching what it was given. -/
inductive Phase
  | idle
  | requested (offset : ℤ)
  | answered (updateIds : List ℤ)
  | dispatching (updateIds : List ℤ)
  deriving DecidableEq, Repr

structure State where
  pending : List ℤ
  lastId : ℤ
  cursor : UpdateCursor
  phase : Phase
  deriving DecidableEq, Repr

def State.start : State := ⟨[], 0, .new, .idle⟩

inductive Event
  | arrive (id : ℤ)
  | send
  | serve
  | fail
  | receive
  | dispatch (id : ℤ)
  | restart
  deriving DecidableEq, Repr

def forget (pending : List ℤ) (offset : ℤ) : List ℤ := pending.filter (offset ≤ ·)

def answer (pending : List ℤ) (offset : ℤ) : List ℤ :=
  (pending.filter (offset ≤ ·)).take getUpdatesLimit

/-- The phase in which the client goes through the updates it may dispatch. -/
def dispatchPhase (dispatch : Bool) (updateIds : List ℤ) : Phase :=
  if dispatch ∧ updateIds ≠ [] then .dispatching updateIds else .idle

inductive Step : State → Event → State → Prop
  | arrive {s : State} {id : ℤ} (hnew : s.lastId < id) (hmax : id < i64Max) :
      Step s (.arrive id) { s with pending := s.pending ++ [id], lastId := id }
  | send {s : State} (hp : s.phase = .idle) :
      Step s .send { s with phase := .requested s.cursor.nextOffset }
  | serve {s : State} {offset : ℤ} (hp : s.phase = .requested offset) :
      Step s .serve
        { s with
          pending := forget s.pending offset
          phase := .answered (answer s.pending offset) }
  | fail {s : State} (hp : (∃ offset, s.phase = .requested offset) ∨
        ∃ updateIds, s.phase = .answered updateIds) :
      Step s .fail { s with phase := .idle }
  | receive {s : State} {updateIds : List ℤ} (hp : s.phase = .answered updateIds) :
      Step s .receive
        { s with
          cursor := (s.cursor.advance updateIds).1
          phase := dispatchPhase (s.cursor.advance updateIds).2 updateIds }
  | dispatch {s : State} {id : ℤ} {rest : List ℤ} (hp : s.phase = .dispatching (id :: rest)) :
      Step s (.dispatch id) { s with phase := dispatchPhase true rest }
  | restart {s : State} : Step s .restart { s with cursor := .new, phase := .idle }

/-- The server, the network and the device together. -/
def delivery : System State Event := ⟨Step⟩

/-- The same steps, executed. -/
def next (s : State) : Event → Option State
  | .arrive id =>
      if s.lastId < id ∧ id < i64Max then
        some { s with pending := s.pending ++ [id], lastId := id }
      else none
  | .send =>
      if s.phase = .idle then some { s with phase := .requested s.cursor.nextOffset } else none
  | .serve =>
      match s.phase with
      | .requested offset =>
          some { s with
            pending := forget s.pending offset
            phase := .answered (answer s.pending offset) }
      | _ => none
  | .fail =>
      match s.phase with
      | .requested _ | .answered _ => some { s with phase := .idle }
      | _ => none
  | .receive =>
      match s.phase with
      | .answered updateIds =>
          some { s with
            cursor := (s.cursor.advance updateIds).1
            phase := dispatchPhase (s.cursor.advance updateIds).2 updateIds }
      | _ => none
  | .dispatch id =>
      match s.phase with
      | .dispatching (first :: rest) =>
          if first = id then some { s with phase := dispatchPhase true rest } else none
      | _ => none
  | .restart => some { s with cursor := .new, phase := .idle }

lemma step_of_next {s t : State} {e : Event} (h : next s e = some t) : Step s e t := by
  cases e with
  | arrive id =>
    simp only [next] at h
    split_ifs at h with hid
    exact Option.some.inj h ▸ .arrive hid.1 hid.2
  | send =>
    simp only [next] at h
    split_ifs at h with hp
    exact Option.some.inj h ▸ .send hp
  | serve =>
    simp only [next] at h
    split at h
    · exact Option.some.inj h ▸ .serve ‹_›
    · simp at h
  | fail =>
    simp only [next] at h
    split at h
    · exact Option.some.inj h ▸ .fail (.inl ⟨_, ‹_›⟩)
    · exact Option.some.inj h ▸ .fail (.inr ⟨_, ‹_›⟩)
    · simp at h
  | receive =>
    simp only [next] at h
    split at h
    · exact Option.some.inj h ▸ .receive ‹_›
    · simp at h
  | dispatch id =>
    simp only [next] at h
    split at h
    · split_ifs at h with hid
      subst hid
      exact Option.some.inj h ▸ .dispatch ‹_›
    · simp at h
  | restart => exact Option.some.inj h ▸ .restart

structure WellFormed (s : State) : Prop where
  sorted : s.pending.Pairwise (· < ·)
  pending : ∀ p ∈ s.pending, 0 < p ∧ p ≤ s.lastId
  lastId : 0 ≤ s.lastId ∧ s.lastId < i64Max
  offset : 0 ≤ s.cursor.nextOffset ∧ s.cursor.nextOffset ≤ s.lastId + 1
  requested : ∀ offset, s.phase = .requested offset → offset = s.cursor.nextOffset
  answered : ∀ ids, s.phase = .answered ids → ids = [] ∨ ∃ p, ids = [p] ∧ p ∈ s.pending ∧
    s.cursor.nextOffset ≤ p ∧ ∀ q ∈ s.pending, s.cursor.nextOffset ≤ q → p ≤ q
  dispatching : ∀ ids, s.phase = .dispatching ids →
    s.cursor.synced = true ∧ ∃ p, ids = [p] ∧ p < s.cursor.nextOffset

lemma wellFormed_start : WellFormed .start := by
  constructor <;> simp [State.start, UpdateCursor.new, i64Max]

/-- The server answers with the oldest update at or above the offset, if there is any. -/
lemma answer_cases {pending : List ℤ} (h : pending.Pairwise (· < ·)) (offset : ℤ) :
    (answer pending offset = [] ∧ ∀ q ∈ pending, q < offset) ∨
      ∃ p, answer pending offset = [p] ∧ p ∈ pending ∧ offset ≤ p ∧
        ∀ q ∈ pending, offset ≤ q → p ≤ q := by
  have hsorted := h.filter (fun q => decide (offset ≤ q))
  have hmem (q : ℤ) : q ∈ pending.filter (offset ≤ ·) ↔ q ∈ pending ∧ offset ≤ q := by
    simp
  unfold answer getUpdatesLimit
  cases hl : pending.filter (offset ≤ ·) with
  | nil =>
    refine .inl ⟨rfl, ?_⟩
    intro q hq
    by_contra hle
    have := (hmem q).mpr ⟨hq, by omega⟩
    simp [hl] at this
  | cons p rest =>
    rw [hl, List.pairwise_cons] at hsorted
    have hp := (hmem p).mp (by simp [hl])
    refine .inr ⟨p, rfl, hp.1, hp.2, ?_⟩
    intro q hq hle
    have hq' := (hmem q).mpr ⟨hq, hle⟩
    rw [hl, List.mem_cons] at hq'
    rcases hq' with rfl | hrest
    · exact Int.le_refl _
    · have := hsorted.1 q hrest
      omega

lemma answer_ne_nil {pending : List ℤ} (h : pending.Pairwise (· < ·)) {offset id : ℤ}
    (hmem : id ∈ pending) (hle : offset ≤ id) : answer pending offset ≠ [] := by
  intro hnil
  rcases answer_cases h offset with ⟨-, hnone⟩ | ⟨q, hone, -⟩
  · have := hnone id hmem
    omega
  · rw [hone] at hnil
    cases hnil

lemma mem_forget {pending : List ℤ} {offset q : ℤ} :
    q ∈ forget pending offset ↔ q ∈ pending ∧ offset ≤ q := by
  simp [forget]

/-- The device never has more than one update to dispatch. -/
lemma WellFormed.dispatching_cons {s : State} (hs : WellFormed s) {id : ℤ} {rest : List ℤ}
    (hp : s.phase = .dispatching (id :: rest)) :
    rest = [] ∧ s.cursor.synced = true ∧ id < s.cursor.nextOffset := by
  obtain ⟨hsync, p, hone, hlt⟩ := hs.dispatching _ hp
  obtain ⟨rfl, rfl⟩ := List.cons.inj hone
  exact ⟨rfl, hsync, hlt⟩

lemma advance_answered {s : State} (hs : WellFormed s) {ids : List ℤ}
    (hp : s.phase = .answered ids) :
    (ids = [] ∧ s.cursor.advance ids = (⟨s.cursor.nextOffset, true⟩, s.cursor.synced)) ∨
      ∃ p, ids = [p] ∧ p ∈ s.pending ∧ s.cursor.nextOffset ≤ p ∧
        (∀ q ∈ s.pending, s.cursor.nextOffset ≤ q → p ≤ q) ∧
        s.cursor.advance ids = (⟨p + 1, s.cursor.synced⟩, s.cursor.synced) := by
  rcases hs.answered ids hp with rfl | ⟨p, rfl, hmem, hle, hleast⟩
  · exact .inl ⟨rfl, UpdateCursor.advance_nil _⟩
  · have hbound := hs.pending p hmem
    have hlast := hs.lastId
    exact .inr ⟨p, rfl, hmem, hle, hleast,
      UpdateCursor.advance_single (by unfold i64Min; omega) (by omega) hle⟩

/-- A new update is behind all that are queued. -/
lemma WellFormed.arrive {s : State} (hs : WellFormed s) {id : ℤ} (hnew : s.lastId < id)
    (hmax : id < i64Max) : WellFormed { s with pending := s.pending ++ [id], lastId := id } := by
  have hlast := hs.lastId
  have hoff := hs.offset
  have hbefore : ∀ p ∈ s.pending, 0 < p ∧ p < id := fun p hp => by
    have := hs.pending p hp
    omega
  refine ⟨?_, ?_, ⟨by simp only; omega, hmax⟩, ⟨hoff.1, by simp only; omega⟩, hs.requested, ?_,
    hs.dispatching⟩
  · rw [List.pairwise_append]
    refine ⟨hs.sorted, List.pairwise_singleton _ _, ?_⟩
    intro p hp q hq
    rw [List.mem_singleton] at hq
    exact hq ▸ (hbefore p hp).2
  · intro p hp
    simp only [List.mem_append, List.mem_singleton] at hp ⊢
    rcases hp with hp | rfl
    · have := hbefore p hp
      omega
    · omega
  · intro ids hids
    rcases hs.answered ids hids with rfl | ⟨p, rfl, hmem, hle, hleast⟩
    · exact .inl rfl
    · refine .inr ⟨p, rfl, List.mem_append_left _ hmem, hle, ?_⟩
      intro q hq hqle
      simp only [List.mem_append, List.mem_singleton] at hq
      rcases hq with hq | rfl
      · exact hleast q hq hqle
      · have := hbefore p hmem
        omega

/-- The server answers with the first update from the offset of the device on. -/
lemma WellFormed.serve {s : State} (hs : WellFormed s) {offset : ℤ}
    (hp : s.phase = .requested offset) :
    WellFormed { s with
      pending := forget s.pending offset
      phase := .answered (answer s.pending offset) } := by
  have ho := hs.requested offset hp
  refine ⟨hs.sorted.filter _, ?_, hs.lastId, hs.offset, by simp, ?_, by simp⟩
  · intro p hp
    exact hs.pending p (mem_forget.mp hp).1
  · intro ids hids
    simp only [Phase.answered.injEq] at hids
    subst hids
    rcases answer_cases hs.sorted offset with ⟨hnil, -⟩ | ⟨p, hone, hmem, hle, hleast⟩
    · exact .inl hnil
    · refine .inr ⟨p, hone, mem_forget.mpr ⟨hmem, hle⟩, by simp only; omega, ?_⟩
      intro q hq _
      exact hleast q (mem_forget.mp hq).1 (mem_forget.mp hq).2

/-- The offset moves past the update that was received, if there was one. -/
lemma WellFormed.receive {s : State} (hs : WellFormed s) {updateIds : List ℤ}
    (hp : s.phase = .answered updateIds) :
    WellFormed { s with
      cursor := (s.cursor.advance updateIds).1
      phase := dispatchPhase (s.cursor.advance updateIds).2 updateIds } := by
  have hlast := hs.lastId
  have hoff := hs.offset
  rcases advance_answered hs hp with ⟨rfl, hadv⟩ | ⟨p, rfl, hmem, hle, -, hadv⟩
  · simp only [hadv, dispatchPhase]
    exact ⟨hs.sorted, hs.pending, hlast, hoff, by simp, by simp, by simp⟩
  · have hbound := hs.pending p hmem
    simp only [hadv, dispatchPhase]
    refine ⟨hs.sorted, hs.pending, hlast, ⟨by simp only; omega, by simp only; omega⟩, ?_, ?_, ?_⟩
    · intro offset ho
      split_ifs at ho
    · intro ids ho
      split_ifs at ho
    · intro ids ho
      split_ifs at ho with hsync
      simp only [Phase.dispatching.injEq] at ho
      exact ⟨hsync.1, p, ho.symm, by simp only; omega⟩

lemma wellFormed_step {s t : State} {e : Event} (h : Step s e t) (hs : WellFormed s) :
    WellFormed t := by
  have hlast := hs.lastId
  have hoff := hs.offset
  cases h with
  | arrive hnew hmax => exact hs.arrive hnew hmax
  | send hp =>
    refine ⟨hs.sorted, hs.pending, hlast, hoff, ?_, by simp, by simp⟩
    intro offset ho
    simpa using ho.symm
  | serve hp => exact hs.serve hp
  | fail => exact ⟨hs.sorted, hs.pending, hlast, hoff, by simp, by simp, by simp⟩
  | receive hp => exact hs.receive hp
  | dispatch hp =>
    obtain ⟨rfl, -⟩ := hs.dispatching_cons hp
    exact ⟨hs.sorted, hs.pending, hlast, hoff, by simp [dispatchPhase], by simp [dispatchPhase],
      by simp [dispatchPhase]⟩
  | restart =>
    exact ⟨hs.sorted, hs.pending, hlast, ⟨Int.le_refl _, by simp only [UpdateCursor.new]; omega⟩,
      by simp, by simp, by simp⟩

/-! ### Order of dispatch -/

def Event.dispatched : Event → Option ℤ
  | .dispatch id => some id
  | _ => none

def dispatched (es : List Event) : List ℤ := es.filterMap Event.dispatched

/-- Whatever the device may still dispatch lies above the floor. -/
structure Above (F : ℤ) (s : State) : Prop where
  floor : F ≤ s.lastId
  pending : s.cursor.synced = true ∨ s.phase = .answered [] →
    ∀ p ∈ s.pending, s.cursor.nextOffset ≤ p → F < p
  dispatching : ∀ p, s.phase = .dispatching [p] → F < p

lemma above_step {F : ℤ} {s t : State} {e : Event} (h : Step s e t) (hs : WellFormed s)
    (ha : Above F s) : Above F t := by
  have hfloor := ha.floor
  cases h with
  | arrive hnew =>
    refine ⟨by simp only; omega, ?_, ha.dispatching⟩
    intro hc p hp hle
    simp only [List.mem_append, List.mem_singleton] at hp
    rcases hp with hp | rfl
    · exact ha.pending hc p hp hle
    · omega
  | send => exact ⟨hfloor, fun hc => ha.pending (.inl (by simpa using hc)), by simp⟩
  | serve hp =>
    rename_i offset
    have ho := hs.requested _ hp
    refine ⟨hfloor, ?_, by simp⟩
    intro hc p hmem hle
    have hmem' := mem_forget.mp hmem
    rcases hc with hsync | hnil
    · exact ha.pending (.inl hsync) p hmem'.1 hle
    · -- the server had nothing at or above the offset
      simp only [Phase.answered.injEq] at hnil
      exact absurd hnil (answer_ne_nil hs.sorted hmem'.1 hmem'.2)
  | fail => exact ⟨hfloor, fun hc => ha.pending (.inl (by simpa using hc)), by simp⟩
  | receive hp =>
    rcases advance_answered hs hp with ⟨rfl, hadv⟩ | ⟨p, rfl, hmem, hle, -, hadv⟩
    · simp only [hadv, dispatchPhase]
      exact ⟨hfloor, fun _ => ha.pending (.inr hp), by simp⟩
    · simp only [hadv, dispatchPhase]
      refine ⟨hfloor, ?_, ?_⟩
      · intro hc q hq hqle
        simp only at hqle
        refine ha.pending (.inl ?_) q hq (by omega)
        rcases hc with hsync | hphase
        · exact hsync
        · split_ifs at hphase
      · intro q hq
        split_ifs at hq with hsync
        simp only [Phase.dispatching.injEq, List.cons.injEq, and_true] at hq
        exact hq ▸ ha.pending (.inl hsync.1) p hmem hle
  | dispatch hp =>
    obtain ⟨rfl, hsync, -⟩ := hs.dispatching_cons hp
    exact ⟨hfloor, fun _ => ha.pending (.inl hsync), by simp [dispatchPhase]⟩
  | restart => exact ⟨hfloor, by simp [UpdateCursor.new], by simp⟩

lemma above_of_dispatch {F id : ℤ} {s t : State} (h : Step s (.dispatch id) t)
    (hs : WellFormed s) (ha : Above F s) : F < id ∧ Above id t := by
  cases h with
  | dispatch hp =>
    obtain ⟨rfl, -, hlt⟩ := hs.dispatching_cons hp
    have hoff := hs.offset
    refine ⟨ha.dispatching id hp, ⟨by simp only; omega, ?_, by simp [dispatchPhase]⟩⟩
    intro _ q hq hle
    simp only at hle
    omega

lemma wellFormed_run {s t : State} {es : List Event} (h : delivery.Run s es t)
    (hs : WellFormed s) : WellFormed t :=
  h.invariant (fun _ _ _ hst hw => wellFormed_step hst hw) hs

/-- Updates are dispatched in increasing order, and all above any floor that holds before. -/
lemma dispatched_above {s t : State} {es : List Event} (h : delivery.Run s es t)
    (hs : WellFormed s) {F : ℤ} (ha : Above F s) :
    (∀ id ∈ dispatched es, F < id) ∧ (dispatched es).Pairwise (· < ·) := by
  induction h generalizing F with
  | nil => exact ⟨by simp [dispatched], List.Pairwise.nil⟩
  | @cons s u t e es hst _ ih =>
    have hu := wellFormed_step hst hs
    cases e with
    | dispatch id =>
      obtain ⟨hlt, hid⟩ := above_of_dispatch hst hs ha
      have hrest := ih hu hid
      have hcons : dispatched (.dispatch id :: es) = id :: dispatched es := rfl
      rw [hcons, List.pairwise_cons]
      refine ⟨?_, hrest.1, hrest.2⟩
      intro q hq
      rcases List.mem_cons.mp hq with rfl | hq
      · exact hlt
      · have := hrest.1 q hq
        omega
    | _ => exact ih hu (above_step hst hs ha)

/-- Before the first answer of a boot, the floor is the newest update there is. -/
lemma above_lastId {s : State} (hs : s.cursor.synced = false) (hp : s.phase = .idle) :
    Above s.lastId s :=
  ⟨Int.le_refl _, by simp [hs, hp], by simp [hp]⟩

lemma above_start : Above 0 .start := above_lastId (s := .start) rfl rfl

/-- Whether the running boot has polled yet. -/
def polled (es : List Event) : Bool :=
  es.foldl (fun b e => match e with
    | .restart => false
    | .send => true
    | _ => b) false

lemma fresh_of_not_polled {es : List Event} {s : State} (h : delivery.Run .start es s)
    (hp : polled es = false) : s.cursor = .new ∧ s.phase = .idle := by
  refine h.history (J := fun es s => polled es = false → s.cursor = .new ∧ s.phase = .idle)
    ?_ (fun _ => ⟨rfl, rfl⟩) hp
  intro es s e t hst ih hp
  have hsnoc : polled (es ++ [e]) = match e with
      | .restart => false
      | .send => true
      | _ => polled es := by
    simp only [polled, List.foldl_append, List.foldl_cons, List.foldl_nil]
    cases e <;> rfl
  rw [hsnoc] at hp
  cases hst with
  | arrive => exact ih hp
  | send => simp at hp
  | serve hph => simp [(ih hp).2] at hph
  | fail hph => simp [(ih hp).2] at hph
  | receive hph => simp [(ih hp).2] at hph
  | dispatch hph => simp [(ih hp).2] at hph
  | restart => exact ⟨rfl, rfl⟩

lemma offset_step {s t : State} {e : Event} (h : Step s e t) (hs : WellFormed s)
    (he : e ≠ .restart) : s.cursor.nextOffset ≤ t.cursor.nextOffset := by
  cases h with
  | receive hp =>
    rcases advance_answered hs hp with ⟨rfl, hadv⟩ | ⟨p, rfl, -, hle, -, hadv⟩
    · simp [hadv]
    · simp only [hadv]
      omega
  | restart => exact absurd rfl he
  | _ => exact Int.le_refl _

lemma offset_run {s t : State} {es : List Event} (h : delivery.Run s es t) (hs : WellFormed s)
    (hr : .restart ∉ es) : s.cursor.nextOffset ≤ t.cursor.nextOffset := by
  induction h with
  | nil => exact Int.le_refl _
  | cons hst _ ih =>
    simp only [List.mem_cons, not_or] at hr
    have hone := offset_step hst hs (Ne.symm hr.1)
    have hrest := ih (wellFormed_step hst hs) hr.2
    omega

def receives (es : List Event) : ℕ := es.count .receive

/-- How many updates are in the queue from the offset up to this one. -/
def between (offset id : ℤ) (pending : List ℤ) : ℕ :=
  pending.countP (fun p => decide (offset ≤ p ∧ p ≤ id))

/-- The answers that come before the client has this update: one for each update up to it,
and an empty one that is still on its way. -/
def ahead (id : ℤ) (s : State) : ℕ :=
  between s.cursor.nextOffset id s.pending + if s.phase = .answered [] then 1 else 0

/-- The update is in the queue, within the reach of the next answers. -/
structure Queued (id : ℤ) (s : State) : Prop where
  pending : id ∈ s.pending
  offset : s.cursor.nextOffset ≤ id
  synced : s.cursor.synced = true ∨ s.phase = .answered []

/-- The update has been dispatched, is being dispatched, or has few enough answers ahead. -/
def Owed (id : ℤ) (n : ℕ) (es : List Event) (s : State) : Prop :=
  id ∈ dispatched es ∨ (s.phase = .dispatching [id] ∧ receives es ≤ n) ∨
    (Queued id s ∧ ahead id s + receives es ≤ n)

lemma between_pos {offset id : ℤ} {pending : List ℤ} (h : id ∈ pending) (hle : offset ≤ id) :
    0 < between offset id pending := by
  unfold between
  rw [List.countP_pos_iff]
  exact ⟨id, h, by simpa using hle⟩

lemma between_later {offset id q : ℤ} (pending : List ℤ) (h : id < q) :
    between offset id (pending ++ [q]) = between offset id pending := by
  have hq : ¬ (offset ≤ q ∧ q ≤ id) := by omega
  simp [between, List.countP_append, hq]

lemma between_forget (offset id o : ℤ) (pending : List ℤ) :
    between offset id (forget pending o) ≤ between offset id pending :=
  List.Sublist.countP_le List.filter_sublist

/-- Moving the offset past an update in reach leaves fewer to go. -/
lemma between_advance {offset id p : ℤ} {pending : List ℤ} (h : p ∈ pending) (hle : offset ≤ p)
    (hid : p ≤ id) : between (p + 1) id pending < between offset id pending := by
  unfold between
  induction pending with
  | nil => simp at h
  | cons q qs ih =>
    have hmono : qs.countP (fun q => decide (p + 1 ≤ q ∧ q ≤ id)) ≤
        qs.countP (fun q => decide (offset ≤ q ∧ q ≤ id)) := by
      refine List.countP_mono_left ?_
      intro x _ hx
      rw [decide_eq_true_iff] at hx ⊢
      omega
    rcases List.mem_cons.mp h with rfl | h
    · have hin : decide (offset ≤ p ∧ p ≤ id) = true := by simp [hle, hid]
      have hout : ¬ decide (p + 1 ≤ p ∧ p ≤ id) = true := by
        rw [decide_eq_true_iff]
        omega
      simp only [List.countP_cons, hin, hout, if_true, Bool.false_eq_true, if_false]
      omega
    · have hlt := ih h
      simp only [List.countP_cons, decide_eq_true_eq]
      split_ifs <;> omega

lemma queued_step {id : ℤ} {n r : ℕ} {s t : State} {e : Event} (h : Step s e t)
    (hs : WellFormed s) (hr : e ≠ .restart) (hf : e = .fail → s.cursor.synced = true)
    (hq : Queued id s) (hn : ahead id s + r ≤ n) :
    (t.phase = .dispatching [id] ∧ r + receives [e] ≤ n) ∨
      (Queued id t ∧ ahead id t + (r + receives [e]) ≤ n) := by
  have hid := hs.pending id hq.pending
  have hoff := hq.offset
  have hpos := between_pos hq.pending hoff
  have hquiet : e ≠ .receive → receives [e] = 0 := by
    intro he
    simp [receives, he]
  have hone : receives [.receive] = 1 := rfl
  unfold ahead at hn ⊢
  cases h with
  | arrive hnew =>
    rw [hquiet (by simp)]
    refine .inr ⟨⟨List.mem_append_left _ hq.pending, hoff, hq.synced⟩, ?_⟩
    rw [between_later s.pending (by omega)]
    exact hn
  | send hp =>
    have hsync : s.cursor.synced = true := by simpa [hp] using hq.synced
    rw [hquiet (by simp)]
    refine .inr ⟨⟨hq.pending, hoff, .inl hsync⟩, ?_⟩
    simpa [hp] using hn
  | serve hp =>
    rename_i offset
    have ho := hs.requested offset hp
    have hsync : s.cursor.synced = true := by simpa [hp] using hq.synced
    have hsome : answer s.pending offset ≠ [] :=
      answer_ne_nil hs.sorted hq.pending (by omega)
    have hcount := between_forget s.cursor.nextOffset id offset s.pending
    rw [hquiet (by simp)]
    refine .inr ⟨⟨mem_forget.mpr ⟨hq.pending, by omega⟩, hoff, .inl hsync⟩, ?_⟩
    simp only [Phase.answered.injEq, hsome, if_false]
    omega
  | fail hp =>
    rw [hquiet (by simp)]
    refine .inr ⟨⟨hq.pending, hoff, .inl (hf rfl)⟩, ?_⟩
    simp only [reduceCtorEq, if_false]
    omega
  | receive hp =>
    rw [hone]
    rcases advance_answered hs hp with ⟨rfl, hadv⟩ | ⟨p, rfl, hmem, hle, hleast, hadv⟩
    · simp only [hp, if_true] at hn
      simp only [hadv, dispatchPhase]
      refine .inr ⟨⟨hq.pending, hoff, .inl rfl⟩, ?_⟩
      simp
      omega
    · have hsync : s.cursor.synced = true := by simpa [hp] using hq.synced
      have hpid := hleast id hq.pending hoff
      simp only [hadv, dispatchPhase, hsync]
      by_cases heq : p = id
      · subst heq
        refine .inl ⟨by simp, ?_⟩
        omega
      · have hlt := between_advance hmem hle hpid
        refine .inr ⟨⟨hq.pending, by simp only; omega, .inl rfl⟩, ?_⟩
        simp
        omega
  | dispatch hp =>
    obtain ⟨rfl, hsync, -⟩ := hs.dispatching_cons hp
    rw [hquiet (by simp)]
    refine .inr ⟨⟨hq.pending, hoff, .inl hsync⟩, ?_⟩
    simpa [hp, dispatchPhase] using hn
  | restart => exact absurd rfl hr

lemma dispatched_snoc (es : List Event) (e : Event) :
    dispatched (es ++ [e]) = dispatched es ++ dispatched [e] := by
  simp [dispatched]

lemma receives_snoc (es : List Event) (e : Event) :
    receives (es ++ [e]) = receives es + receives [e] := by
  simp [receives]

lemma owed_step {id : ℤ} {n : ℕ} {es : List Event} {s t : State} {e : Event} (h : Step s e t)
    (hs : WellFormed s) (hr : e ≠ .restart) (hf : e = .fail → s.cursor.synced = true)
    (ho : Owed id n es s) : Owed id n (es ++ [e]) t := by
  unfold Owed
  rw [dispatched_snoc, receives_snoc]
  rcases ho with hdone | ⟨hph, hn⟩ | ⟨hq, hn⟩
  · exact .inl (List.mem_append_left _ hdone)
  · cases h with
    | arrive => exact .inr (.inl ⟨hph, by simpa [receives] using hn⟩)
    | send hp => simp [hp] at hph
    | serve hp => simp [hp] at hph
    | fail hp =>
      rcases hp with ⟨offset, hp⟩ | ⟨ids, hp⟩ <;> simp [hp] at hph
    | receive hp => simp [hp] at hph
    | dispatch hp =>
      rw [hp] at hph
      have hid := (List.cons.inj (Phase.dispatching.inj hph)).1
      exact .inl (List.mem_append_right _ (by simp [dispatched, Event.dispatched, hid]))
    | restart => exact absurd rfl hr
  · exact .inr (queued_step h hs hr hf hq hn)

/-- The device has an empty answer, or one is on its way and will be received. -/
def AfterFirstEmpty (s : State) (post : List Event) : Prop :=
  s.cursor.synced = true ∨ (s.phase = .answered [] ∧ ∃ arrivals rest,
    post = arrivals ++ .receive :: rest ∧ ∀ e ∈ arrivals, ∃ id, e = .arrive id)

lemma afterFirstEmpty_step {s t : State} {e : Event} {post : List Event} (h : Step s e t)
    (hs : WellFormed s) (hr : e ≠ .restart) (ha : AfterFirstEmpty s (e :: post)) :
    (e = .fail → s.cursor.synced = true) ∧ AfterFirstEmpty t post := by
  rcases ha with hsync | ⟨hph, arrivals, rest, hpost, harr⟩
  · refine ⟨fun _ => hsync, .inl ?_⟩
    cases h with
    | receive hp =>
      rcases advance_answered hs hp with ⟨rfl, hadv⟩ | ⟨p, rfl, -, -, -, hadv⟩ <;>
        simp [hadv, hsync]
    | restart => exact absurd rfl hr
    | _ => exact hsync
  · cases arrivals with
    | nil =>
      obtain ⟨rfl, rfl⟩ := List.cons.inj hpost
      refine ⟨by simp, .inl ?_⟩
      cases h with
      | receive hp =>
        rw [hp] at hph
        rw [Phase.answered.inj hph, UpdateCursor.advance_nil]
    | cons a arrivals =>
      obtain ⟨rfl, rfl⟩ := List.cons.inj hpost
      obtain ⟨id, rfl⟩ := harr _ List.mem_cons_self
      refine ⟨by simp, .inr ⟨?_, arrivals, rest, rfl, ?_⟩⟩
      · cases h with
        | arrive => exact hph
      · intro e he
        exact harr _ (List.mem_cons_of_mem _ he)

lemma owed_run {id : ℤ} {n : ℕ} {s t : State} {es post : List Event}
    (h : delivery.Run s post t) (hs : WellFormed s) (hr : .restart ∉ post)
    (ha : AfterFirstEmpty s post) (ho : Owed id n es s) : Owed id n (es ++ post) t := by
  induction h generalizing es with
  | nil => simpa using ho
  | @cons s u t e post hst _ ih =>
    simp only [List.mem_cons, not_or] at hr
    obtain ⟨hf, ha'⟩ := afterFirstEmpty_step hst hs (Ne.symm hr.1) ha
    have hstep := owed_step hst hs (Ne.symm hr.1) hf ho
    simpa using ih (wellFormed_step hst hs) hr.2 ha' hstep

/-- An update that arrives after the first empty answer is dispatched once as many answers
have been received as there were updates before it, and three more. -/
lemma dispatched_of_receives {id : ℤ} {s t u : State} {post : List Event} (hs : WellFormed s)
    (harrive : Step s (.arrive id) t) (hpost : delivery.Run t post u)
    (ha : AfterFirstEmpty t post) (hr : .restart ∉ post)
    (hn : s.pending.length + 2 < receives post) : id ∈ dispatched post := by
  have ht := wellFormed_step harrive hs
  have howed : Owed id (s.pending.length + 2) [] t := by
    refine .inr (.inr ⟨?_, ?_⟩)
    · have hoff := hs.offset
      cases harrive with
      | arrive hnew =>
        refine ⟨by simp, by simp only; omega, ?_⟩
        rcases ha with hsync | ⟨hph, -⟩
        · exact .inl hsync
        · exact .inr hph
    · have hbetween : between t.cursor.nextOffset id t.pending ≤ t.pending.length :=
        List.countP_le_length
      have hlength : t.pending.length = s.pending.length + 1 := by
        cases harrive with
        | arrive => simp
      unfold ahead
      have hnone : receives [] = 0 := rfl
      split_ifs <;> omega
  rcases owed_run hpost ht hr ha howed with hdone | ⟨-, hle⟩ | ⟨-, hle⟩
  · simpa using hdone
  · simp only [List.nil_append] at hle
    omega
  · simp only [List.nil_append] at hle
    omega

/-- Over all restarts and failed polls: updates are dispatched in increasing order and never
twice; none that was pending at a boot's first poll is dispatched by it; the offset never
decreases within a boot; and within a boot every update after the first empty answer is
dispatched exactly once. -/
theorem updates_delivered :
    (∀ es s, delivery.Run .start es s → (dispatched es).Pairwise (· < ·)) ∧
    (∀ boot post s t, delivery.Run .start boot s → polled boot = false →
      delivery.Run s (.send :: post) t → ∀ id ∈ s.pending, id ∉ dispatched post) ∧
    (∀ pre mid s t, delivery.Run .start pre s → delivery.Run s mid t → .restart ∉ mid →
      s.cursor.nextOffset ≤ t.cursor.nextOffset) ∧
    (∀ pre post id s t u, delivery.Run .start pre s → delivery.step s (.arrive id) t →
      delivery.Run t post u → AfterFirstEmpty t post → .restart ∉ post →
      s.pending.length + 2 < receives post →
      (dispatched (pre ++ .arrive id :: post)).count id = 1) := by
  refine ⟨?_, ?_, ?_, ?_⟩
  · intro es s h
    exact (dispatched_above h wellFormed_start above_start).2
  · intro boot post s t hboot hp hpost id hid hd
    have hs := wellFormed_run hboot wellFormed_start
    obtain ⟨hc, hph⟩ := fresh_of_not_polled hboot hp
    have hfloor := above_lastId (by rw [hc]; rfl) hph
    have hlt := (dispatched_above hpost hs hfloor).1 id hd
    have hle := hs.pending id hid
    omega
  · intro pre mid s t hpre hmid hr
    exact offset_run hmid (wellFormed_run hpre wellFormed_start) hr
  · intro pre post id s t u hpre harrive hpost ha hr hn
    have hs := wellFormed_run hpre wellFormed_start
    have hmem := dispatched_of_receives hs harrive hpost ha hr hn
    have hsorted :=
      (dispatched_above (hpre.append (.cons harrive hpost)) wellFormed_start above_start).2
    have hnodup : (dispatched (pre ++ .arrive id :: post)).Nodup :=
      hsorted.imp fun h => by omega
    refine List.count_eq_one_of_mem hnodup ?_
    have hsplit : dispatched (pre ++ .arrive id :: post) = dispatched pre ++ dispatched post := by
      simp only [dispatched, List.filterMap_append]
      rfl
    rw [hsplit]
    exact List.mem_append_right _ hmem

/-- The update pending at boot is drained; the one that comes after the empty answer is
dispatched once, although a poll fails in between. -/
theorem updates_delivered_after_backlog :
    (dispatched ([.arrive 4, .send, .serve, .receive, .send, .serve, .receive] ++
      .arrive 7 :: [.send, .serve, .fail, .send, .serve, .receive, .dispatch 7,
        .send, .serve, .receive, .send, .serve, .receive])).count 7 = 1 := by
  have hdrained : delivery.Run .start
      [.arrive 4, .send, .serve, .receive, .send, .serve, .receive] ⟨[], 4, ⟨5, true⟩, .idle⟩ :=
    .of_foldlM (fun _ _ _ => step_of_next) rfl
  have harrive : delivery.step ⟨[], 4, ⟨5, true⟩, .idle⟩ (.arrive 7)
      ⟨[7], 7, ⟨5, true⟩, .idle⟩ := step_of_next rfl
  have hpost : delivery.Run ⟨[7], 7, ⟨5, true⟩, .idle⟩ [.send, .serve, .fail, .send, .serve,
      .receive, .dispatch 7, .send, .serve, .receive, .send, .serve, .receive]
      ⟨[], 7, ⟨8, true⟩, .idle⟩ := .of_foldlM (fun _ _ _ => step_of_next) rfl
  exact updates_delivered.2.2.2 _ _ 7 _ _ _ hdrained harrive hpost (.inl rfl) (by decide)
    (by decide)

end PcRemote.UpdateDelivery
