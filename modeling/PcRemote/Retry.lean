import Mathlib.Data.List.Basic

/-! Something that is tried at every opportunity until it has succeeded once. -/
namespace PcRemote.Retry

variable {α : Type*} (p : α → Bool)

/-- The opportunities that are taken, those that satisfy p with success: all of them up to the
first success. -/
def tries : List α → List α
  | [] => []
  | o :: os => o :: if p o then [] else tries os

@[simp] lemma tries_nil : tries p [] = [] := rfl

lemma tries_eq_self {os : List α} (h : os.any p = false) : tries p os = os := by
  induction os with
  | nil => rfl
  | cons o os ih =>
    rw [List.any_cons, Bool.or_eq_false_iff] at h
    simp [tries, h.1, ih h.2]

/-- One more opportunity is taken only if there was no success before. -/
lemma tries_snoc (os : List α) (o : α) :
    tries p (os ++ [o]) = if os.any p then tries p os else tries p os ++ [o] := by
  induction os with
  | nil => simp [tries]
  | cons o' os ih =>
    cases ho : p o' with
    | true => simp [tries, ho]
    | false =>
      simp only [List.cons_append, tries, ho, Bool.false_eq_true, if_false, ih, List.any_cons,
        Bool.false_or]
      split <;> rfl

/-- It succeeds at most once. -/
lemma count_map_tries_le (os : List α) : ((tries p os).map p).count true ≤ 1 := by
  induction os with
  | nil => simp
  | cons o os ih =>
    cases ho : p o with
    | true => simp [tries, ho]
    | false => simpa [tries, ho] using ih

end PcRemote.Retry
