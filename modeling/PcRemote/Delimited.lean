import Mathlib.Data.List.Basic
import Mathlib.Data.List.Induction

/-! Text made of fields joined by a separator, without lengths or escapes. The joined text
determines its fields when none of them contains the separator, and still does when one field
at a known place may. -/
namespace PcRemote.Delimited
variable {α : Type*} {sep : α}

def join (sep : α) (fields : List (List α)) : List α := [sep].intercalate fields

/-- No field contains the separator. -/
def Free (sep : α) (fields : List (List α)) : Prop := ∀ f ∈ fields, sep ∉ f

lemma Free.cons {f : List α} {fs : List (List α)} :
    Free sep (f :: fs) ↔ sep ∉ f ∧ Free sep fs := List.forall_mem_cons

lemma Free.append {fs gs : List (List α)} : Free sep (fs ++ gs) ↔ Free sep fs ∧ Free sep gs :=
  List.forall_mem_append

lemma join_singleton (f : List α) : join sep [f] = f := List.intercalate_singleton

lemma join_cons (f : List α) {fs : List (List α)} (h : fs ≠ []) :
    join sep (f :: fs) = f ++ sep :: join sep fs := by
  rw [join, List.intercalate_cons_of_ne_nil h, List.append_assoc]
  rfl

lemma join_concat {fs : List (List α)} (h : fs ≠ []) (f : List α) :
    join sep (fs ++ [f]) = join sep fs ++ sep :: f := by
  induction fs with
  | nil => exact absurd rfl h
  | cons g gs ih =>
    cases gs with
    | nil => rw [List.singleton_append, join_cons g (by simp), join_singleton, join_singleton]
    | cons g' gs =>
      rw [List.cons_append, join_cons g (by simp), join_cons g (by simp), ih (by simp),
        List.append_assoc, List.cons_append]

lemma append_cons_inj_left {a b u v : List α} (ha : sep ∉ a) (hb : sep ∉ b)
    (h : a ++ sep :: u = b ++ sep :: v) : a = b ∧ u = v := by
  induction a generalizing b with
  | nil =>
    cases b with
    | nil => exact ⟨rfl, (List.cons.inj h).2⟩
    | cons y b => exact absurd (List.mem_cons.mpr (.inl (List.cons.inj h).1)) hb
  | cons x a ih =>
    cases b with
    | nil => exact absurd (List.mem_cons.mpr (.inl (List.cons.inj h).1.symm)) ha
    | cons y b =>
      obtain ⟨hxy, hrest⟩ := List.cons.inj h
      obtain ⟨hab, huv⟩ := ih (List.not_mem_of_not_mem_cons ha) (List.not_mem_of_not_mem_cons hb)
        hrest
      exact ⟨by rw [hxy, hab], huv⟩

lemma append_cons_inj_right {a b u v : List α} (hu : sep ∉ u) (hv : sep ∉ v)
    (h : a ++ sep :: u = b ++ sep :: v) : a = b ∧ u = v := by
  have hrev := congrArg List.reverse h
  simp only [List.reverse_append, List.reverse_cons, List.append_assoc,
    List.singleton_append] at hrev
  obtain ⟨huv, hab⟩ := append_cons_inj_left (by simpa using hu) (by simpa using hv) hrev
  exact ⟨List.reverse_injective hab, List.reverse_injective huv⟩

/-- What stands before the first separator lies within any text that ends at a separator. -/
lemma prefix_of_append_cons {a b u v : List α} (ha : sep ∉ a)
    (h : a ++ sep :: u = b ++ sep :: v) : a <+: b := by
  rcases List.append_eq_append_iff.mp h with ⟨c, hb, -⟩ | ⟨c, hac, hcons⟩
  · exact ⟨c, hb.symm⟩
  · cases c with
    | nil => exact ⟨[], by simpa using hac⟩
    | cons x c =>
      have hx := (List.cons.inj hcons).1
      exact absurd (by rw [hac, hx]; simp) ha

lemma eq_of_join_last {f g : List α} {post post' : List (List α)}
    (hlen : post.length = post'.length) (hpost : Free sep post) (hpost' : Free sep post')
    (h : join sep (f :: post) = join sep (g :: post')) : f = g ∧ post = post' := by
  induction post using List.reverseRecOn generalizing post' with
  | nil =>
    obtain rfl := List.length_eq_zero_iff.mp hlen.symm
    rw [join_singleton, join_singleton] at h
    exact ⟨h, rfl⟩
  | append_singleton post p ih =>
    rcases List.eq_nil_or_concat post' with rfl | ⟨post', p', rfl⟩
    · simp at hlen
    · rw [List.concat_eq_append] at hlen hpost' h ⊢
      rw [Free.append, Free.cons] at hpost hpost'
      rw [← List.cons_append, ← List.cons_append, join_concat (by simp), join_concat (by simp)] at h
      obtain ⟨hinit, hp⟩ := append_cons_inj_right hpost.2.1 hpost'.2.1 h
      obtain ⟨hfg, hrest⟩ := ih (by simpa using hlen) hpost.1 hpost'.1 hinit
      exact ⟨hfg, by rw [hrest, hp]⟩

/-- The fields before a free-form one are read from the left, those after it from the right. -/
theorem eq_of_join_around {pre pre' : List (List α)} {f g : List α} {post post' : List (List α)}
    (hpreLen : pre.length = pre'.length) (hpostLen : post.length = post'.length)
    (hpre : Free sep pre) (hpre' : Free sep pre') (hpost : Free sep post) (hpost' : Free sep post')
    (h : join sep (pre ++ f :: post) = join sep (pre' ++ g :: post')) :
    pre = pre' ∧ f = g ∧ post = post' := by
  induction pre generalizing pre' with
  | nil =>
    obtain rfl := List.length_eq_zero_iff.mp hpreLen.symm
    obtain ⟨hfg, hrest⟩ := eq_of_join_last hpostLen hpost hpost' h
    exact ⟨rfl, hfg, hrest⟩
  | cons p pre ih =>
    cases pre' with
    | nil => simp at hpreLen
    | cons p' pre' =>
      rw [Free.cons] at hpre hpre'
      rw [List.cons_append, List.cons_append, join_cons p (by simp), join_cons p' (by simp)] at h
      obtain ⟨hp, htail⟩ := append_cons_inj_left hpre.1 hpre'.1 h
      obtain ⟨hinit, hfg, hrest⟩ := ih (by simpa using hpreLen) hpre.2 hpre'.2 htail
      exact ⟨by rw [hp, hinit], hfg, hrest⟩

section Count
variable [DecidableEq α]

lemma count_join (f : List α) (fs : List (List α)) :
    (join sep (f :: fs)).count sep = (f :: fs).flatten.count sep + fs.length := by
  induction fs generalizing f with
  | nil => simp [join_singleton]
  | cons g gs ih =>
    have hflatten : (f :: g :: gs).flatten.count sep =
        f.count sep + (g :: gs).flatten.count sep := by rw [List.flatten_cons, List.count_append]
    rw [join_cons f (by simp), List.count_append, List.count_cons_self, ih g, hflatten,
      List.length_cons]
    omega

lemma free_iff_count {fs : List (List α)} : Free sep fs ↔ fs.flatten.count sep = 0 := by
  simp [Free, List.count_eq_zero]

/-- The fields that a text is split into do not contain the separator. -/
lemma free_splitOn (s : List α) : Free sep (s.splitOn sep) := by
  induction s with
  | nil => simp [Free]
  | cons c s ih =>
    rw [List.splitOn_cons_eq_if_modifyHead]
    split_ifs with hc
    · exact Free.cons.mpr ⟨List.not_mem_nil, ih⟩
    · cases hs : s.splitOn sep with
      | nil => exact absurd hs (List.splitOn_ne_nil sep s)
      | cons f fs =>
        rw [hs, Free.cons] at ih
        refine Free.cons.mpr ⟨?_, ih.2⟩
        rw [List.mem_cons, not_or]
        exact ⟨fun he => hc (by simp [he]), ih.1⟩

/-- Splitting is the inverse of joining free fields. -/
theorem splitOn_eq_iff {s : List α} {fs : List (List α)} (hfs : fs ≠ []) :
    s.splitOn sep = fs ↔ s = join sep fs ∧ Free sep fs := by
  constructor
  · rintro rfl
    exact ⟨(List.intercalate_splitOn sep).symm, free_splitOn s⟩
  · rintro ⟨rfl, hfree⟩
    exact List.splitOn_intercalate sep hfree hfs

/-- A text joined from free fields is joined in no other way from as many fields. -/
theorem eq_of_join_free {fs gs : List (List α)} (hlen : fs.length = gs.length) (hfs : Free sep fs)
    (h : join sep fs = join sep gs) : fs = gs := by
  cases fs with
  | nil => exact (List.length_eq_zero_iff.mp hlen.symm).symm
  | cons f fs =>
    cases gs with
    | nil => simp at hlen
    | cons g gs =>
      have hcount := congrArg (List.count sep) h
      have hlen' : fs.length = gs.length := by simpa using hlen
      rw [count_join, count_join, free_iff_count.mp hfs] at hcount
      have hgs : Free sep (g :: gs) := free_iff_count.mpr (by omega)
      have hsplit := congrArg (List.splitOn sep) h
      rwa [join, join, List.splitOn_intercalate sep hfs (by simp),
        List.splitOn_intercalate sep hgs (by simp)] at hsplit

end Count

section Scan
variable [DecidableEq α]

/-- The pieces that a separator ends, the first one begun already, and the piece left open. -/
def scan (sep : α) : List α → List α → List (List α) × List α
  | piece, [] => ([], piece)
  | piece, x :: xs =>
      if x = sep then (piece :: (scan sep [] xs).1, (scan sep [] xs).2)
      else scan sep (piece ++ [x]) xs

def terminated (sep : α) (xs : List α) : List (List α) := (scan sep [] xs).1

/-- What follows the last separator. -/
def unfinished (sep : α) (xs : List α) : List α := (scan sep [] xs).2

lemma scan_append (piece xs ys : List α) : scan sep piece (xs ++ ys) =
    ((scan sep piece xs).1 ++ (scan sep (scan sep piece xs).2 ys).1,
      (scan sep (scan sep piece xs).2 ys).2) := by
  induction xs generalizing piece with
  | nil => rfl
  | cons x xs ih =>
    simp only [List.cons_append, scan]
    split_ifs with hx
    · rw [ih, List.cons_append]
    · exact ih _

lemma scan_free {f : List α} (piece : List α) (h : sep ∉ f) :
    scan sep piece f = ([], piece ++ f) := by
  induction f generalizing piece with
  | nil => simp [scan]
  | cons x f ih =>
    obtain ⟨hx, hf⟩ := List.ne_and_not_mem_of_not_mem_cons h
    rw [scan, if_neg (Ne.symm hx), ih _ hf, List.append_assoc, List.singleton_append]

/-- Whatever is appended, the pieces that were ended stay as they are. -/
theorem terminated_prefix (xs ys : List α) : terminated sep xs <+: terminated sep (xs ++ ys) := by
  rw [terminated, terminated, scan_append]
  exact List.prefix_append _ _

/-- A line appended ends the piece that was left open, and nothing is left open after it. -/
theorem scan_line {f : List α} (xs : List α) (h : sep ∉ f) :
    terminated sep (xs ++ (f ++ [sep])) = terminated sep xs ++ [unfinished sep xs ++ f] ∧
      unfinished sep (xs ++ (f ++ [sep])) = [] := by
  simp [terminated, unfinished, scan_append, scan_free _ h, scan]

end Scan

end PcRemote.Delimited
