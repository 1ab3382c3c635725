import Mathlib.Data.Nat.Notation
import Mathlib.Tactic.Common

/-! Grids that are filled cell after cell, row by row, with every access checked. -/
namespace PcRemote.Grid

variable {α : Type*} {rows columns : ℕ}

def empty (rows columns : ℕ) : Vector (Vector (Option α) columns) rows :=
  Vector.replicate rows (Vector.replicate columns none)

/-- Nothing, where the cell is outside of the grid. -/
def setCell (g : Vector (Vector α columns) rows) (row column : ℕ) (a : α) :
    Option (Vector (Vector α columns) rows) :=
  if h : row < rows ∧ column < columns then some (g.set row (g[row].set column a)) else none

/-- The cells, row by row. -/
def cells (g : Vector (Vector α columns) rows) : List α := g.flatten.toList

lemma cells_empty : cells (empty (α := α) rows columns) = List.replicate (rows * columns) none := by
  apply List.ext_getElem
  · simp [cells]
  · intro i hi hi'
    simp [cells, empty]

lemma index_lt {row column : ℕ} (hrow : row < rows) (hcolumn : column < columns) :
    row * columns + column < rows * columns :=
  calc row * columns + column < row * columns + columns := Nat.add_lt_add_left hcolumn _
    _ = (row + 1) * columns := (Nat.succ_mul row columns).symm
    _ ≤ rows * columns := Nat.mul_le_mul_right columns hrow

lemma getElem?_cells (g : Vector (Vector α columns) rows) {row column : ℕ} (hrow : row < rows)
    (hcolumn : column < columns) : (cells g)[row * columns + column]? = some g[row][column] := by
  have hpos : 0 < columns := Nat.zero_lt_of_lt hcolumn
  have hindex := index_lt hrow hcolumn
  have hdiv : (row * columns + column) / columns = row := by
    rw [Nat.mul_comm, Nat.mul_add_div hpos, Nat.div_eq_of_lt hcolumn, Nat.add_zero]
  have hmod : (row * columns + column) % columns = column := by
    rw [Nat.mul_comm, Nat.mul_add_mod, Nat.mod_eq_of_lt hcolumn]
  rw [cells, Vector.getElem?_toList, Vector.getElem?_eq_getElem hindex, Vector.getElem_flatten]
  simp only [hdiv, hmod]

/-- The cell with a number is set, which is its place row by row. -/
lemma setCell_cells (g : Vector (Vector α columns) rows) {i : ℕ} (h : i < rows * columns) (a : α) :
    ∃ g', setCell g (i / columns) (i % columns) a = some g' ∧ cells g' = (cells g).set i a := by
  have hpos : 0 < columns := Nat.pos_of_mul_pos_left (Nat.zero_lt_of_lt h)
  have hrow : i / columns < rows := Nat.div_lt_of_lt_mul (by rwa [Nat.mul_comm])
  have hcolumn : i % columns < columns := Nat.mod_lt i hpos
  refine ⟨_, dif_pos ⟨hrow, hcolumn⟩, ?_⟩
  apply List.ext_getElem
  · simp [cells]
  · intro j hj hj'
    have hj : j < rows * columns := by simpa [cells] using hj
    simp only [cells, List.getElem_set, Vector.getElem_toList, Vector.getElem_flatten]
    by_cases hij : i = j
    · subst hij
      simp
    · rw [if_neg hij]
      by_cases hdiv : i / columns = j / columns
      · have hmod : i % columns ≠ j % columns := by
          intro hmod
          apply hij
          rw [← Nat.div_add_mod i columns, ← Nat.div_add_mod j columns, hdiv, hmod]
        simp [hdiv, Vector.getElem_set_ne _ _ hmod]
      · rw [Vector.getElem_set_ne _ _ hdiv]

lemma set_after {k n : ℕ} (xs : List α) (x : α) :
    (List.replicate k none ++ xs.map some ++ List.replicate (n + 1) none).set (k + xs.length) (some x)
      = List.replicate k none ++ (xs ++ [x]).map some ++ List.replicate n none := by
  have hlength : k + xs.length = (List.replicate k none ++ xs.map some).length := by simp
  rw [hlength, List.set_append_right _ _ (Nat.le_refl _), Nat.sub_self, List.replicate_succ]
  simp

lemma getElem?_filled {k n i : ℕ} {xs : List α} {x : α}
    (h : (List.replicate k none ++ xs.map some ++ List.replicate n none)[i]? = some (some x)) :
    k ≤ i ∧ xs[i - k]? = some x := by
  rw [List.append_assoc, List.getElem?_append] at h
  split_ifs at h with hlt
  · simp [List.getElem?_replicate] at h
  · rw [List.length_replicate, List.getElem?_append] at h
    rw [List.length_replicate] at hlt
    split_ifs at h with hin
    · refine ⟨Nat.le_of_not_lt hlt, ?_⟩
      simpa using h
    · simp [List.getElem?_replicate] at h

end PcRemote.Grid
