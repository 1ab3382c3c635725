import Mathlib.Data.List.Basic
import Mathlib.Tactic.ApplyAt

/-! Labelled transition systems and their finite runs. A safety claim about a run is
reduced here, once, to what a single step preserves: an invariant of the state, a fact
about the events so far, or a bound on how often an event can occur. -/
namespace PcRemote.Transition

structure System (σ ε : Type*) where
  step : σ → ε → σ → Prop

namespace System
variable {σ ε : Type*} {S : System σ ε}

inductive Run (S : System σ ε) : σ → List ε → σ → Prop
  | nil (s : σ) : Run S s [] s
  | cons {s t u : σ} {e : ε} {es : List ε} :
      S.step s e t → Run S t es u → Run S s (e :: es) u

/-- The steps of S whose state and event meet a condition. -/
def restrict (S : System σ ε) (C : σ → ε → Prop) : System σ ε where
  step s e t := S.step s e t ∧ C s e

lemma Run.one {s t : σ} {e : ε} (h : S.step s e t) : Run S s [e] t := .cons h (.nil t)

lemma Run.append {s t u : σ} {es fs : List ε} (h : Run S s es t) (g : Run S t fs u) :
    Run S s (es ++ fs) u := by
  induction h with
  | nil => exact g
  | cons hs _ ih => exact .cons hs (ih g)

lemma Run.append_inv {s u : σ} {es fs : List ε} (h : Run S s (es ++ fs) u) :
    ∃ t, Run S s es t ∧ Run S t fs u := by
  induction es generalizing s with
  | nil => exact ⟨s, .nil s, h⟩
  | cons e es ih =>
    cases h with
    | cons hs hr =>
      obtain ⟨t, h₁, h₂⟩ := ih hr
      exact ⟨t, .cons hs h₁, h₂⟩

/-- The step taken at a chosen event of a run, with the runs before and after it. -/
lemma Run.split {s u : σ} {pre post : List ε} {e : ε} (h : Run S s (pre ++ e :: post) u) :
    ∃ t t', Run S s pre t ∧ S.step t e t' ∧ Run S t' post u := by
  obtain ⟨t, h₁, h₂⟩ := h.append_inv
  cases h₂ with
  | cons hs hr => exact ⟨t, _, h₁, hs, hr⟩

/-- Where the events determine the states, they determine the end of a run. -/
lemma Run.unique {next : σ → ε → σ} (hnext : ∀ s e t, S.step s e t → t = next s e) {s t u : σ}
    {es : List ε} (h : Run S s es t) (g : Run S s es u) : t = u := by
  induction h with
  | nil =>
    cases g
    rfl
  | cons hs _ ih =>
    cases g with
    | cons hs' hr =>
      have heq := (hnext _ _ _ hs).trans (hnext _ _ _ hs').symm
      subst heq
      exact ih hr

lemma Run.to_restrict {C : σ → ε → Prop} {s t : σ} {es : List ε} (h : Run S s es t)
    (hC : ∀ s, ∀ e ∈ es, C s e) : Run (S.restrict C) s es t := by
  induction h with
  | nil s => exact .nil s
  | cons hs _ ih =>
    simp only [List.mem_cons, forall_eq_or_imp] at hC
    exact .cons ⟨hs, (hC _).1⟩ (ih fun s => (hC s).2)

lemma Run.of_restrict {C : σ → ε → Prop} {s t : σ} {es : List ε} (h : Run (S.restrict C) s es t) :
    Run S s es t := by
  induction h with
  | nil s => exact .nil s
  | cons hs _ ih => exact .cons hs.1 ih

/-- A run found by executing a step function that follows the system. -/
lemma Run.of_foldlM {next : σ → ε → Option σ}
    (hnext : ∀ s e t, next s e = some t → S.step s e t) {s t : σ} {es : List ε}
    (h : es.foldlM next s = some t) : Run S s es t := by
  induction es generalizing s with
  | nil => exact Option.some.inj h ▸ .nil s
  | cons e es ih =>
    rw [List.foldlM_cons] at h
    obtain ⟨u, hu, ht⟩ := Option.bind_eq_some_iff.mp h
    exact .cons (hnext _ _ _ hu) (ih ht)

/-- What every step preserves, every run preserves. -/
theorem Run.invariant {I : σ → Prop} (hstep : ∀ s e t, S.step s e t → I s → I t)
    {s t : σ} {es : List ε} (h : Run S s es t) (hs : I s) : I t := by
  induction h with
  | nil => exact hs
  | cons hst _ ih => exact ih (hstep _ _ _ hst hs)

/-- A relation between the events so far and the state, kept by every step. -/
theorem Run.history {J : List ε → σ → Prop}
    (hstep : ∀ es s e t, S.step s e t → J es s → J (es ++ [e]) t)
    {s t : σ} {es : List ε} (h : Run S s es t) (hs : J [] s) : J es t := by
  suffices ∀ pre, J pre s → J (pre ++ es) t by simpa using this [] hs
  clear hs
  induction h with
  | nil => intro pre hp; simpa using hp
  | cons hst _ ih =>
    intro pre hp
    simpa using ih _ (hstep _ _ _ _ hst hp)

/-- A condition that only certain events release, and under which a certain event cannot occur:
that event is preceded by one that releases it. -/
theorem Run.released {I P : σ → Prop} {release hit : ε → Prop}
    (hinv : ∀ s e t, S.step s e t → I s → I t)
    (keep : ∀ s e t, S.step s e t → I s → P s → ¬ release e → P t)
    (refuse : ∀ s e t, S.step s e t → I s → P s → ¬ hit e) {s u : σ} {mid post : List ε} {e : ε}
    (h : Run S s (mid ++ e :: post) u) (hI : I s) (hP : P s) (he : hit e) :
    ∃ e' ∈ mid, release e' := by
  induction mid generalizing s with
  | nil =>
    cases h with
    | cons hs _ => exact absurd he (refuse _ _ _ hs hI hP)
  | cons e' mid ih =>
    cases h with
    | cons hs hr =>
      by_cases hrel : release e'
      · exact ⟨e', List.mem_cons_self, hrel⟩
      · obtain ⟨e'', hmem, hrel'⟩ := ih hr (hinv _ _ _ hs hI) (keep _ _ _ hs hI hP hrel)
        exact ⟨e'', List.mem_cons_of_mem _ hmem, hrel'⟩

/-- A system whose every step is a run of another, seen through a map of the states and a
list of events for each event. -/
theorem Run.simulate {σ' ε' : Type*} {S' : System σ' ε'} (see : σ → σ') (observe : ε → List ε')
    {I : σ → Prop} (hinv : ∀ s e t, S.step s e t → I s → I t)
    (hstep : ∀ s e t, S.step s e t → I s → Run S' (see s) (observe e) (see t))
    {s t : σ} {es : List ε} (h : Run S s es t) (hs : I s) :
    Run S' (see s) (es.flatMap observe) (see t) := by
  induction h with
  | nil s => exact .nil (see s)
  | cons hst _ ih => exact (hstep _ _ _ hst hs).append (ih (hinv _ _ _ hst hs))

/-- An event that spends its own precondition for good occurs at most once in a run. -/
theorem Run.at_most_once (I Spent : σ → Prop) {hit : ε → Bool}
    (hinv : ∀ s e t, S.step s e t → I s → I t)
    (spend : ∀ s e t, S.step s e t → I s → hit e → Spent t)
    (keep : ∀ s e t, S.step s e t → I s → Spent s → Spent t)
    (refuse : ∀ s e t, S.step s e t → I s → Spent s → ¬ hit e)
    {s t : σ} {es : List ε} (h : Run S s es t) (hs : I s) : es.countP hit ≤ 1 := by
  have spent_none : ∀ {s t es}, Run S s es t → I s → Spent s → es.countP hit = 0 := by
    intro s t es h
    induction h with
    | nil => intros; rfl
    | cons hst _ ih =>
      intro hi hsp
      rw [List.countP_cons_of_neg (refuse _ _ _ hst hi hsp)]
      exact ih (hinv _ _ _ hst hi) (keep _ _ _ hst hi hsp)
  induction h with
  | nil => simp
  | @cons s t u e es hst hr ih =>
    by_cases he : hit e
    · have hz := spent_none hr (hinv _ _ _ hst hs) (spend _ _ _ hst hs he)
      rw [List.countP_cons_of_pos he]
      omega
    · rw [List.countP_cons_of_neg he]
      exact ih (hinv _ _ _ hst hs)

end System

/-! Deterministic components: a step function from an input to a new state and an output. -/
section Component
variable {σ ι ο : Type*}

/-- A component seen as a system, each event pairing an input with its output. -/
def component (f : σ → ι → σ × ο) : System σ (ι × ο) where
  step s e t := f s e.1 = (t, e.2)

/-- The events of a component fed a list of inputs, and the state it ends in. -/
def feed (f : σ → ι → σ × ο) : σ → List ι → List (ι × ο) × σ
  | s, [] => ([], s)
  | s, i :: is =>
      let r := f s i
      let rest := feed f r.1 is
      ((i, r.2) :: rest.1, rest.2)

theorem feed_run (f : σ → ι → σ × ο) (s : σ) (is : List ι) :
    (component f).Run s (feed f s is).1 (feed f s is).2 := by
  induction is generalizing s with
  | nil => exact .nil s
  | cons i is ih => exact .cons rfl (ih _)

/-- The events of a component are about the inputs, in their order. -/
lemma feed_inputs (f : σ → ι → σ × ο) (s : σ) (is : List ι) :
    (feed f s is).1.map Prod.fst = is := by
  induction is generalizing s with
  | nil => rfl
  | cons i is ih => simp [feed, ih]

lemma feed_append (f : σ → ι → σ × ο) (s : σ) (is js : List ι) :
    feed f s (is ++ js) = ((feed f s is).1 ++ (feed f (feed f s is).2 js).1,
      (feed f (feed f s is).2 js).2) := by
  induction is generalizing s with
  | nil => rfl
  | cons i is ih => simp [feed, ih]

/-- What every input keeps holds of the state a component ends in. -/
lemma component_invariant {f : σ → ι → σ × ο} {I : σ → Prop} (hI : ∀ s i, I s → I (f s i).1)
    {s t : σ} {es : List (ι × ο)} (h : (component f).Run s es t) (hs : I s) : I t := by
  refine h.invariant (fun s e t hst hs => ?_) hs
  have hnext := hI s e.1 hs
  rwa [show f s e.1 = (t, e.2) from hst] at hnext

/-- A relation between the events so far and the state of a component, kept by every input. -/
theorem component_history {f : σ → ι → σ × ο} {J : List (ι × ο) → σ → Prop}
    (hstep : ∀ es s i, J es s → J (es ++ [(i, (f s i).2)]) (f s i).1)
    {s t : σ} {es : List (ι × ο)} (h : (component f).Run s es t) (hs : J [] s) : J es t := by
  refine h.history (fun es s e t hst hJ => ?_) hs
  have hnext := hstep es s e.1 hJ
  rwa [show f s e.1 = (t, e.2) from hst] at hnext

/-- The state in which a component gave a chosen answer. -/
lemma component_split {f : σ → ι → σ × ο} {s u : σ} {pre post : List (ι × ο)} {i : ι} {o : ο}
    (h : (component f).Run s (pre ++ (i, o) :: post) u) :
    ∃ t, (component f).Run s pre t ∧ o = (f t i).2 := by
  obtain ⟨t, t', hpre, hst, -⟩ := h.split
  exact ⟨t, hpre, (congrArg Prod.snd hst).symm⟩

/-- Every event of a component is what some state of it answers, and an invariant that every
input keeps holds of that state. -/
lemma exists_of_mem_feed {f : σ → ι → σ × ο} {I : σ → Prop} (hI : ∀ s i, I s → I (f s i).1)
    {s : σ} (hs : I s) {is : List ι} {e : ι × ο} (he : e ∈ (feed f s is).1) :
    ∃ s', I s' ∧ e.2 = (f s' e.1).2 := by
  induction is generalizing s with
  | nil => cases he
  | cons i is ih =>
    rcases List.mem_cons.mp he with rfl | hmem
    · exact ⟨s, hs, rfl⟩
    · exact ih (hI s i hs) hmem

lemma component_unique {f : σ → ι → σ × ο} {s t u : σ} {es : List (ι × ο)}
    (h : (component f).Run s es t) (g : (component f).Run s es u) : t = u := by
  induction h with
  | nil =>
    cases g
    rfl
  | cons hs _ ih =>
    cases g with
    | cons hs' hr =>
      have heq := (Prod.mk.inj (hs.symm.trans hs')).1
      subst heq
      exact ih hr

end Component

end PcRemote.Transition
