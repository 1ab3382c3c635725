import Mathlib.Data.List.Induction
import PcRemote.Transition

/-! A slot that holds at most one offer. An attempt to use the offer empties the slot, whether
or not it succeeds; a new offer replaces the old one; a revocation empties the slot. What is
used is therefore always the offer made last, and each offer is used at most once. The same
holds of any system whose steps can be observed as events of such a slot. -/
namespace PcRemote.SingleUse
open Transition Transition.System

variable {ω α κ : Type*}

/-- An attempt comes with the content it was granted, if any. -/
inductive Event (ω α κ : Type*)
  | offer (o : ω)
  | attempt (a : α) (used : Option κ)
  | revoke

section Slot
variable (accepts : ω → α → Prop) (content : ω → κ)

inductive Step : Option ω → Event ω α κ → Option ω → Prop
  | offer (s : Option ω) (o : ω) : Step s (.offer o) (some o)
  | attempt {s : Option ω} {a : α} {used : Option κ}
      (h : ∀ k, used = some k → ∃ o, s = some o ∧ accepts o a ∧ content o = k) :
      Step s (.attempt a used) none
  | revoke (s : Option ω) : Step s .revoke none

def slot : System (Option ω) (Event ω α κ) := ⟨Step accepts content⟩

variable {accepts content}

/-- What the slot holds was offered by the very last event. -/
lemma last_of_held {es : List (Event ω α κ)} {s : Option ω}
    (h : (slot accepts content).Run none es s) {o : ω} (ho : s = some o) :
    ∃ before, es = before ++ [.offer o] := by
  have hlast := h.history (J := fun es s => ∀ o, s = some o → ∃ before, es = before ++ [.offer o])
    ?_ (by simp)
  · exact hlast o ho
  · intro es s e t hst hs o ht
    cases hst with
    | offer _ => exact ⟨es, by rw [Option.some.inj ht]⟩
    | attempt h => simp at ht
    | revoke => simp at ht

/-- What is used is the offer made by the event just before. -/
theorem used_offer {pre post : List (Event ω α κ)} {a : α} {k : κ} {t : Option ω}
    (h : (slot accepts content).Run none (pre ++ .attempt a (some k) :: post) t) :
    ∃ before o, pre = before ++ [.offer o] ∧ accepts o a ∧ content o = k := by
  obtain ⟨s, s', hpre, hstep, hpost⟩ := h.split
  cases hstep with
  | attempt hused =>
    obtain ⟨o, ho, haccepts, hcontent⟩ := hused k rfl
    obtain ⟨before, hbefore⟩ := last_of_held hpre ho
    exact ⟨before, o, hbefore, haccepts, hcontent⟩

end Slot

/-- The event that the last observation comes from. -/
lemma split_flatMap {ε β : Type*} {observe : ε → List β} {es : List ε} {before : List β} {b : β}
    (h : es.flatMap observe = before ++ [b]) :
    ∃ pre e mid xs, es = pre ++ e :: mid ∧ observe e = xs ++ [b] ∧ ∀ e' ∈ mid, observe e' = [] := by
  induction es using List.reverseRecOn generalizing before with
  | nil => simp at h
  | append_singleton es e ih =>
    rw [List.flatMap_append, List.flatMap_singleton] at h
    rcases List.eq_nil_or_concat (observe e) with he | ⟨xs, x, he⟩
    · rw [he, List.append_nil] at h
      obtain ⟨pre, e', mid, xs, hes, he', hmid⟩ := ih h
      refine ⟨pre, e', mid ++ [e], xs, by simp [hes], he', ?_⟩
      intro e'' hmem
      rcases List.mem_append.mp hmem with hmem | hmem
      · exact hmid e'' hmem
      · rw [List.mem_singleton.mp hmem, he]
    · rw [he, List.concat_eq_append, ← List.append_assoc] at h
      have hb := List.append_inj_right' h rfl
      refine ⟨es, e, [], xs, rfl, ?_, by simp⟩
      rw [he, List.concat_eq_append, List.singleton_inj.mp hb]

section Observed
variable {ε : Type*} {observe : ε → List (Event ω α κ)} {accepts : ω → α → Prop}
  {content : ω → κ} {t : Option ω}

/-- Between the offer that is used and its use nothing happens to the slot. -/
theorem used_offer_observed {pre post : List ε} {e : ε} {a : α} {k : κ}
    {rest : List (Event ω α κ)}
    (h : (slot accepts content).Run none ((pre ++ e :: post).flatMap observe) t)
    (he : observe e = .attempt a (some k) :: rest) :
    ∃ before e' mid xs o, pre = before ++ e' :: mid ∧ observe e' = xs ++ [.offer o] ∧
      (∀ e'' ∈ mid, observe e'' = []) ∧ accepts o a ∧ content o = k := by
  rw [List.flatMap_append, List.flatMap_cons, he, List.cons_append] at h
  obtain ⟨before, o, hpre, haccepts, hcontent⟩ := used_offer h
  obtain ⟨before', e', mid, xs, hes, he', hmid⟩ := split_flatMap hpre
  exact ⟨before', e', mid, xs, o, hes, he', hmid, haccepts, hcontent⟩

/-- Between two uses there is an offer. -/
theorem offer_between {pre mid post : List ε} {e₁ e₂ : ε} {a₁ a₂ : α} {used : Option κ}
    {k : κ} {rest : List (Event ω α κ)}
    (h : (slot accepts content).Run none ((pre ++ e₁ :: mid ++ e₂ :: post).flatMap observe) t)
    (h₁ : observe e₁ = [.attempt a₁ used]) (h₂ : observe e₂ = .attempt a₂ (some k) :: rest) :
    ∃ e ∈ mid, ∃ xs o, observe e = xs ++ [.offer o] := by
  obtain ⟨before, e, mid', xs, o, hes, he, hmid, -, -⟩ := used_offer_observed h h₂
  rcases List.append_eq_append_iff.mp hes with ⟨ys, hbefore, hrest⟩ | ⟨ys, hpre, hrest⟩
  · cases ys with
    | nil =>
      have heq := (List.cons.inj hrest).1
      rw [← heq, h₁] at he
      have hlast := congrArg List.getLast? he
      simp at hlast
    | cons y ys =>
      have hmem := (List.cons.inj hrest).2
      exact ⟨e, by simp [hmem], xs, o, he⟩
  · cases ys with
    | nil =>
      have heq := (List.cons.inj hrest).1
      rw [heq, h₁] at he
      have hlast := congrArg List.getLast? he
      simp at hlast
    | cons y ys =>
      have htail := (List.cons.inj hrest).2
      have hempty := hmid e₁ (by simp [htail])
      rw [h₁] at hempty
      simp at hempty

end Observed

end PcRemote.SingleUse
