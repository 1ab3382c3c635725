import Mathlib.Data.List.Basic
import Mathlib.Tactic.ApplyAt

/-! Debouncing. A value observed time and again is stable once it has come up `n` times in a
row; anything shorter is taken for noise. Histories are newest first. -/
namespace PcRemote.Debounce

section Stable
variable {α : Type*} [DecidableEq α] {n : ℕ}

/-- The first observation is stable. A later one becomes stable when it differs from the stable
value before and the last `n` observations are all it. -/
def stable (n : ℕ) : List α → Option α
  | [] => none
  | v :: earlier =>
      match stable n earlier with
      | none => some v
      | some old => if v ≠ old ∧ List.replicate n v <+: v :: earlier then some v else some old

/-- The last observations that all differ from the stable value. -/
def unsettled (n : ℕ) (history : List α) : List α :=
  history.takeWhile fun v => some v ≠ stable n history

/-- An observation at which the stable value changes. -/
def Changes (n : ℕ) (history : List α) (v : α) : Prop :=
  ∃ old, stable n history = some old ∧ stable n (v :: history) ≠ some old

@[simp] lemma stable_nil : stable n ([] : List α) = none := rfl

lemma stable_first {history : List α} (h : stable n history = none) (v : α) :
    stable n (v :: history) = some v := by
  simp [stable, h]

lemma stable_same {history : List α} {v : α} (h : stable n history = some v) :
    stable n (v :: history) = some v := by
  simp [stable, h]

lemma stable_differs {history : List α} {v old : α} (h : stable n history = some old)
    (hv : v ≠ old) : stable n (v :: history) =
      if List.replicate n v <+: v :: history then some v else some old := by
  simp [stable, h, hv]

lemma unsettled_of_head {history : List α} {v : α} (h : stable n (v :: history) = some v) :
    unsettled n (v :: history) = [] := by
  simp [unsettled, h]

lemma unsettled_kept {history : List α} {v old : α} (h : stable n history = some old)
    (hkept : stable n (v :: history) = some old) (hv : v ≠ old) :
    unsettled n (v :: history) = v :: unsettled n history := by
  simp [unsettled, h, hkept, hv]

lemma not_changes_first {history : List α} (h : stable n history = none) (v : α) :
    ¬ Changes n history v := by
  rintro ⟨old, hold, -⟩
  simp [h] at hold

lemma changes_iff {history : List α} {v old : α} (h : stable n history = some old) :
    Changes n history v ↔ stable n (v :: history) ≠ some old := by
  simp [Changes, h]

/-- No run shorter than `n` changes the stable value. -/
theorem Changes.run {history : List α} {v : α} (h : Changes n history v) :
    List.replicate n v <+: v :: history ∧ stable n (v :: history) = some v := by
  obtain ⟨old, hold, hne⟩ := h
  by_cases hv : v = old
  · subst hv
    exact absurd (stable_same hold) hne
  · rw [stable_differs hold hv] at hne ⊢
    split_ifs at hne ⊢ with hrun
    · exact ⟨hrun, rfl⟩
    · exact absurd rfl hne

lemma replicate_prefix_iff {v : α} {history : List α} (n : ℕ) :
    List.replicate n v <+: history ↔ n ≤ (history.takeWhile (· = v)).length := by
  induction n generalizing history with
  | zero => simp
  | succ n ih =>
    cases history with
    | nil => simp
    | cons w history =>
      rw [List.replicate_succ, List.cons_prefix_cons, ih]
      by_cases hw : w = v
      · simp [hw]
      · simp [hw, Ne.symm hw]

end Stable

section Count
variable {n : ℕ} {history : List Bool} {v old : Bool}

/-- Of two values, the ones that differ from the stable one are all the other. -/
lemma unsettled_eq (h : stable n history = some old) (hv : v ≠ old) :
    unsettled n history = history.takeWhile (· = v) := by
  unfold unsettled
  congr 1
  funext w
  revert hv
  cases v <;> cases w <;> cases old <;> simp [h]

/-- What the stable value becomes is told by counting the observations that differ from it. -/
lemma stable_count (h : stable n history = some old) (hv : v ≠ old) :
    stable n (v :: history) =
      if n ≤ (unsettled n history).length + 1 then some v else some old := by
  have hrun : List.replicate n v <+: v :: history ↔ n ≤ (unsettled n history).length + 1 := by
    rw [replicate_prefix_iff, unsettled_eq h hv]
    simp
  rw [stable_differs h hv]
  simp only [hrun]

/-- The observations that differ from the stable value stay below the number it takes. -/
theorem unsettled_lt (hn : 0 < n) : ∀ history : List Bool, (unsettled n history).length < n
  | [] => by simpa [unsettled] using hn
  | v :: history => by
      have ih := unsettled_lt hn history
      cases hs : stable n history with
      | none => simpa [unsettled_of_head (stable_first hs v)] using hn
      | some old =>
        by_cases hv : v = old
        · subst hv
          simpa [unsettled_of_head (stable_same hs)] using hn
        · have hcount := stable_count hs hv
          split_ifs at hcount with hle
          · simpa [unsettled_of_head hcount] using hn
          · rw [unsettled_kept hs hcount hv, List.length_cons]
            omega

end Count

end PcRemote.Debounce
