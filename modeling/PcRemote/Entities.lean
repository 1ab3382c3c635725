import Mathlib.Data.List.Basic

/-! Escaping by entities: some characters are written as a text of their own, and one pass from left
to right reads the texts back. -/
namespace PcRemote.Entities

/-- What occurs in a text that is put together of blocks occurs in one of the blocks. -/
lemma exists_block {α β : Type*} {f : α → List β} {s : List α} {pre post : List β} {b : β}
    (h : s.flatMap f = pre ++ b :: post) :
    ∃ c ∈ s, ∃ p q r, f c = p ++ b :: q ∧ post = q ++ r := by
  induction s generalizing pre with
  | nil => simp at h
  | cons c s ih =>
    rw [List.flatMap_cons, List.append_eq_append_iff] at h
    rcases h with ⟨mid, hpre, hrest⟩ | ⟨mid, hblock, hrest⟩
    · obtain ⟨d, hd, hfound⟩ := ih hrest
      exact ⟨d, List.mem_cons_of_mem c hd, hfound⟩
    · cases mid with
      | nil =>
        have hrest : s.flatMap f = [] ++ b :: post := hrest.symm
        obtain ⟨d, hd, hfound⟩ := ih hrest
        exact ⟨d, List.mem_cons_of_mem c hd, hfound⟩
      | cons b' q =>
        rw [List.cons_append, List.cons.injEq] at hrest
        obtain ⟨rfl, rfl⟩ := hrest
        exact ⟨c, List.mem_cons_self, pre, q, _, hblock, rfl⟩

variable {α : Type*} [DecidableEq α]

/-- The pass copies a character, or reads an entity and leaves out what is left of it. -/
def unescapeFrom (table : List (α × List α)) : ℕ → List α → List α
  | _, [] => []
  | n + 1, _ :: s => unescapeFrom table n s
  | 0, c :: s =>
      match table.find? fun p => p.2.isPrefixOf (c :: s) with
      | some p => p.1 :: unescapeFrom table (p.2.length - 1) s
      | none => c :: unescapeFrom table 0 s

def unescape (table : List (α × List α)) (s : List α) : List α := unescapeFrom table 0 s

/-- Each character is written as the entity that the table has for it, or as it is if no entity
begins with it. No entity is empty, and none is the beginning of another one. -/
structure Escapes (table : List (α × List α)) (escape : α → List α) : Prop where
  written : ∀ c, (c, escape c) ∈ table ∨ escape c = [c] ∧ ∀ p ∈ table, p.2.head? ≠ some c
  nonempty : ∀ p ∈ table, p.2 ≠ []
  prefixFree : ∀ p ∈ table, ∀ q ∈ table, p.2 <+: q.2 → p = q

lemma unescapeFrom_length_append (table : List (α × List α)) (s t : List α) :
    unescapeFrom table s.length (s ++ t) = unescape table t := by
  induction s with
  | nil => rfl
  | cons c s ih => exact ih

section
variable {table : List (α × List α)} {escape : α → List α}

lemma Escapes.find_entity (h : Escapes table escape) {p : α × List α} (hp : p ∈ table)
    (s : List α) : table.find? (fun q => q.2.isPrefixOf (p.2 ++ s)) = some p := by
  have hsome : (table.find? fun q => q.2.isPrefixOf (p.2 ++ s)).isSome :=
    List.find?_isSome.mpr ⟨p, hp, by simp⟩
  obtain ⟨q, hq⟩ := Option.isSome_iff_exists.mp hsome
  have hmem := List.mem_of_find?_eq_some hq
  have hprefix : q.2 <+: p.2 ++ s := by simpa using List.find?_some hq
  rw [hq]
  rcases List.prefix_or_prefix_of_prefix hprefix (List.prefix_append p.2 s) with hle | hle
  · rw [h.prefixFree q hmem p hp hle]
  · rw [h.prefixFree p hp q hmem hle]

lemma Escapes.find_none (h : Escapes table escape) {c : α} (hc : ∀ p ∈ table, p.2.head? ≠ some c)
    (s : List α) : table.find? (fun q => q.2.isPrefixOf (c :: s)) = none := by
  rw [List.find?_eq_none]
  intro q hq hprefix
  rw [List.isPrefixOf_iff_prefix] at hprefix
  cases he : q.2 with
  | nil => exact h.nonempty q hq he
  | cons d e =>
    rw [he, List.cons_prefix_cons] at hprefix
    exact hc q hq (by rw [he, hprefix.1, List.head?_cons])

lemma Escapes.unescape_cons (h : Escapes table escape) (c : α) (s : List α) :
    unescape table (escape c ++ s) = c :: unescape table s := by
  rcases h.written c with hmem | ⟨hsame, hfree⟩
  · have hfind := h.find_entity hmem s
    cases he : escape c with
    | nil => exact absurd he (h.nonempty _ hmem)
    | cons d e =>
      simp only [he, List.cons_append] at hfind
      rw [List.cons_append, unescape, unescapeFrom, hfind]
      exact congrArg _ (unescapeFrom_length_append table e s)
  · rw [hsame, List.singleton_append, unescape, unescapeFrom, h.find_none hfree s]
    rfl

/-- Nothing is lost by escaping. -/
theorem Escapes.unescape_flatMap (h : Escapes table escape) (s : List α) :
    unescape table (s.flatMap escape) = s := by
  induction s with
  | nil => rfl
  | cons c s ih => rw [List.flatMap_cons, h.unescape_cons, ih]

end

end PcRemote.Entities
