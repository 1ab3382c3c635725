import Mathlib.Data.List.Infix

/-! Replacing each occurrence of a pattern in a list, from the left and without overlaps. The list
is cut at the occurrences, and the pieces between them are kept; a replacement that begins and ends
with elements foreign to the pattern leaves no occurrence behind. -/
namespace PcRemote.Replace

variable {α : Type*} [DecidableEq α] {pat rep : List α}

/-- The elements of an occurrence are skipped once its replacement is there. -/
def replaceFrom (pat rep : List α) : ℕ → List α → List α
  | _, [] => []
  | skip + 1, _ :: xs => replaceFrom pat rep skip xs
  | 0, x :: xs =>
      if pat <+: x :: xs then rep ++ replaceFrom pat rep (pat.length - 1) xs
      else x :: replaceFrom pat rep 0 xs

def replace (pat rep xs : List α) : List α := replaceFrom pat rep 0 xs

lemma replaceFrom_append (skipped xs : List α) :
    replaceFrom pat rep skipped.length (skipped ++ xs) = replace pat rep xs := by
  induction skipped with
  | nil => rfl
  | cons x skipped ih => exact ih

@[simp] lemma replace_nil : replace pat rep [] = [] := rfl

lemma replace_cons {x : α} {xs : List α} (h : ¬ pat <+: x :: xs) :
    replace pat rep (x :: xs) = x :: replace pat rep xs := by
  rw [replace, replaceFrom, if_neg h, replace]

lemma replace_append (hpat : pat ≠ []) (xs : List α) :
    replace pat rep (pat ++ xs) = rep ++ replace pat rep xs := by
  cases pat with
  | nil => exact absurd rfl hpat
  | cons p ps =>
    have hmatch : p :: ps <+: p :: (ps ++ xs) := List.prefix_append (p :: ps) xs
    rw [List.cons_append, replace, replaceFrom, if_pos hmatch, List.length_cons,
      Nat.add_sub_cancel, replaceFrom_append]

omit [DecidableEq α] in
lemma intercalate_cons_cons_head (sep seg : List α) (segs : List (List α)) (x : α) :
    sep.intercalate ((x :: seg) :: segs) = x :: sep.intercalate (seg :: segs) := by
  cases segs with
  | nil => simp
  | cons next segs => simp [List.intercalate_cons_cons]

/-- Each way to see a list is as pieces that do not contain the pattern, with it between them; the
replacement stands in its place. -/
theorem exists_pieces (hpat : pat ≠ []) (rep xs : List α) :
    ∃ seg segs, pat.intercalate (seg :: segs) = xs ∧
      rep.intercalate (seg :: segs) = replace pat rep xs ∧
      ∀ piece ∈ seg :: segs, ¬ pat <:+: piece := by
  induction hn : xs.length using Nat.strong_induction_on generalizing xs with
  | _ n ih =>
    by_cases hmatch : pat <+: xs
    · obtain ⟨rest, rfl⟩ := hmatch
      have hlength : 0 < pat.length := List.length_pos_iff.mpr hpat
      obtain ⟨seg, segs, hpieces, hreplaced, hfree⟩ := ih rest.length
        (by rw [← hn, List.length_append]; omega) rest rfl
      refine ⟨[], seg :: segs, ?_, ?_, ?_⟩
      · rw [List.intercalate_cons_cons, hpieces, List.nil_append]
      · rw [List.intercalate_cons_cons, hreplaced, List.nil_append, replace_append hpat]
      · exact List.forall_mem_cons.mpr ⟨by simpa using hpat, hfree⟩
    · cases xs with
      | nil => exact ⟨[], [], rfl, rfl, by simpa using hpat⟩
      | cons x xs =>
        obtain ⟨seg, segs, hpieces, hreplaced, hfree⟩ := ih xs.length
          (by rw [← hn, List.length_cons]; omega) xs rfl
        refine ⟨x :: seg, segs, ?_, ?_, ?_⟩
        · rw [intercalate_cons_cons_head, hpieces]
        · rw [intercalate_cons_cons_head, hreplaced, replace_cons hmatch]
        · obtain ⟨hseg, hsegs⟩ := List.forall_mem_cons.mp hfree
          refine List.forall_mem_cons.mpr ⟨fun hin => ?_, hsegs⟩
          rcases List.infix_cons_iff.mp hin with hstarts | hin
          · -- the piece is where the list starts
            have hstart : x :: seg <+: x :: xs := by
              rw [← hpieces, List.prefix_cons_inj]
              cases segs with
              | nil => simp
              | cons next segs =>
                rw [List.intercalate_cons_cons]
                rw [List.append_assoc]
                exact List.prefix_append _ _
            exact hmatch (hstarts.trans hstart)
          · exact hseg hin

omit [DecidableEq α] in
/-- An occurrence without the element at a cut lies on one side of it. -/
lemma infix_of_infix_append_cons {c : α} (hc : c ∉ pat) {xs ys : List α}
    (h : pat <:+: xs ++ c :: ys) : pat <:+: xs ∨ pat <:+: ys := by
  obtain ⟨before, after, h⟩ := h
  rcases List.append_eq_append_iff.mp h with ⟨rest, rfl, -⟩ | ⟨past, hpast, hys⟩
  · exact .inl ⟨before, rest, rfl⟩
  · cases past with
    | nil => exact .inl ⟨before, [], by simpa using hpast⟩
    | cons c' past =>
      obtain ⟨rfl, rfl⟩ := List.cons.inj hys
      -- the occurrence reaches past the cut, so it starts past it
      rcases List.append_eq_append_iff.mp hpast with ⟨start, -, rfl⟩ | ⟨start, -, hstart⟩
      · exact absurd (List.mem_append_right start List.mem_cons_self) hc
      · cases start with
        | nil =>
          have hpat : c :: past = pat := hstart
          exact absurd (hpat ▸ List.mem_cons_self) hc
        | cons c' start =>
          obtain ⟨-, rfl⟩ := List.cons.inj hstart
          exact .inr ⟨start, after, rfl⟩

/-- A replacement that begins and ends with what the pattern does not contain, and does not contain
the pattern in between, leaves none. -/
theorem not_infix_replace {a b : α} {mid : List α} (hpat : pat ≠ []) (ha : a ∉ pat) (hb : b ∉ pat)
    (hmid : ¬ pat <:+: mid) (xs : List α) : ¬ pat <:+: replace pat (a :: (mid ++ [b])) xs := by
  obtain ⟨seg, segs, -, hreplaced, hfree⟩ := exists_pieces hpat (a :: (mid ++ [b])) xs
  rw [← hreplaced]
  clear hreplaced
  induction segs generalizing seg with
  | nil => simpa using hfree
  | cons next segs ih =>
    obtain ⟨hseg, hrest⟩ := List.forall_mem_cons.mp hfree
    intro hin
    rw [List.intercalate_cons_cons, List.append_assoc, List.cons_append] at hin
    rcases infix_of_infix_append_cons ha hin with hin | hin
    · exact hseg hin
    · rw [List.append_assoc, List.singleton_append] at hin
      rcases infix_of_infix_append_cons hb hin with hin | hin
      · exact hmid hin
      · exact ih next hrest hin

end PcRemote.Replace
