import PcRemote.Transition

/-! Noninterference of a component by unwinding: inputs that leave a state alike, and alike
states that answer every other input the same, make those inputs invisible. -/
namespace PcRemote.Noninterference
open Transition

section Purge
variable {σ ι ο : Type*} {f : σ → ι → σ × ο} {keep : ι → Bool} {Alike : σ → σ → Prop}

structure Unwinding (f : σ → ι → σ × ο) (keep : ι → Bool) (Alike : σ → σ → Prop) : Prop where
  equivalence : Equivalence Alike
  skip : ∀ s i, keep i = false → Alike s (f s i).1
  output : ∀ s t i, keep i = true → Alike s t → (f s i).2 = (f t i).2
  step : ∀ s t i, keep i = true → Alike s t → Alike (f s i).1 (f t i).1

/-- The events of the kept inputs are those of a run that was given no other input. -/
theorem Unwinding.filter_feed (h : Unwinding f keep Alike) {s t : σ} (hst : Alike s t)
    (is : List ι) :
    (feed f s is).1.filter (fun e => keep e.1) = (feed f t (is.filter keep)).1 := by
  induction is generalizing s t with
  | nil => rfl
  | cons i is ih =>
    cases hi : keep i with
    | false =>
      have halike := h.equivalence.trans (h.equivalence.symm (h.skip s i hi)) hst
      rw [List.filter_cons_of_neg (by simp [hi]), ← ih halike]
      exact List.filter_cons_of_neg (by simp [hi])
    | true =>
      rw [List.filter_cons_of_pos hi]
      simp only [feed]
      rw [List.filter_cons_of_pos (by simp [hi]), h.output s t i hi hst, ih (h.step s t i hi hst)]

end Purge

end PcRemote.Noninterference
