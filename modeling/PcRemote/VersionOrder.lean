import Mathlib.Data.Prod.Lex
import PcRemote.FirmwareVersion

/-! Which strings are firmware versions, and the order that comparing them comes to: that of their
numbers, lexicographically. -/
namespace PcRemote.FirmwareVersion
open Text

/-- A number of a version: ASCII digits, at least one, of a value that fits in 64 bits. -/
structure IsPart (digits : List Char) (value : ℕ) : Prop where
  ne_nil : digits ≠ []
  isDigit : ∀ c ∈ digits, c.isDigit = true
  eq_value : digitsValue digits = value
  lt_size : value < UInt64.size

def IsSuffix (suffix : List Char) : Prop :=
  suffix = [] ∨ suffix.head? = some '-' ∨ suffix.head? = some '+'

/-- Three numbers with dots between them, and a suffix. -/
def IsVersion (version : String) (triple : ℕ × ℕ × ℕ) (suffix : String) : Prop :=
  ∃ major minor patch : List Char,
    version.toList = major ++ '.' :: (minor ++ '.' :: (patch ++ suffix.toList)) ∧
    IsPart major triple.1 ∧ IsPart minor triple.2.1 ∧ IsPart patch triple.2.2 ∧
    IsSuffix suffix.toList

lemma versionPart_eq_some {digits : List Char} {value : ℕ} :
    versionPart digits = some value ↔ IsPart digits value := by
  constructor
  · intro h
    obtain ⟨hparse, hlt⟩ := Option.filter_eq_some_iff.mp h
    unfold parseDigits at hparse
    split_ifs at hparse with hdigits
    exact ⟨hdigits.1, List.all_eq_true.mp hdigits.2, Option.some.inj hparse, of_decide_eq_true hlt⟩
  · rintro ⟨hne, hdigits, rfl, hlt⟩
    simp [versionPart, parseDigits, hne, List.all_eq_true.mpr hdigits, hlt]

lemma inNumber_of_isDigit {c : Char} (h : c.isDigit = true) : (c != '-' && c != '+') = true := by
  by_contra hc
  simp only [Bool.and_eq_true, bne_iff_ne, not_and_or, not_not] at hc
  rcases hc with rfl | rfl <;> exact absurd h (by decide)

lemma IsPart.dot_notMem {digits : List Char} {value : ℕ} (h : IsPart digits value) :
    '.' ∉ digits := fun hmem => absurd (h.isDigit _ hmem) (by decide)

lemma isSuffix_dropWhile (cs : List Char) :
    IsSuffix (cs.dropWhile fun c => c != '-' && c != '+') := by
  cases hdrop : cs.dropWhile fun c => c != '-' && c != '+' with
  | nil => exact .inl rfl
  | cons c rest =>
    have hc := List.head?_dropWhile_not (fun c => c != '-' && c != '+') cs
    rw [hdrop] at hc
    refine .inr ?_
    simpa [← not_and_or, or_iff_not_imp_left] using hc

/-- The numbers of a version come to an end where its suffix starts. -/
lemma span_number {number suffix : List Char} (hnumber : ∀ c ∈ number, c.isDigit = true ∨ c = '.')
    (hsuffix : IsSuffix suffix) :
    (number ++ suffix).takeWhile (fun c => c != '-' && c != '+') = number ∧
      (number ++ suffix).dropWhile (fun c => c != '-' && c != '+') = suffix := by
  have hall : ∀ c ∈ number, (c != '-' && c != '+') = true := fun c hc => by
    rcases hnumber c hc with hdigit | rfl
    · exact inNumber_of_isDigit hdigit
    · decide
  have hstop : suffix.takeWhile (fun c => c != '-' && c != '+') = [] ∧
      suffix.dropWhile (fun c => c != '-' && c != '+') = suffix := by
    cases suffix with
    | nil => exact ⟨rfl, rfl⟩
    | cons c rest =>
      rcases hsuffix with hnil | hdash | hplus
      · cases hnil
      · obtain rfl : c = '-' := by simpa using hdash
        exact ⟨rfl, rfl⟩
      · obtain rfl : c = '+' := by simpa using hplus
        exact ⟨rfl, rfl⟩
  rw [List.takeWhile_append_of_pos hall, List.dropWhile_append_of_pos hall, hstop.1, hstop.2]
  simp

lemma eq_of_splitOn_dots {cs major minor patch : List Char}
    (h : cs.splitOn '.' = [major, minor, patch]) : cs = major ++ '.' :: (minor ++ '.' :: patch) := by
  have hjoin : ['.'].intercalate (cs.splitOn '.') = cs := List.intercalate_splitOn '.'
  rw [h] at hjoin
  simpa [List.intercalate] using hjoin.symm

lemma splitOn_dots {major minor patch : List Char} (hmajor : '.' ∉ major) (hminor : '.' ∉ minor)
    (hpatch : '.' ∉ patch) :
    (major ++ '.' :: (minor ++ '.' :: patch)).splitOn '.' = [major, minor, patch] := by
  have hfree : ∀ part ∈ [major, minor, patch], '.' ∉ part := by
    simp [hmajor, hminor, hpatch]
  simpa [List.intercalate] using List.splitOn_intercalate '.' hfree (by simp)

lemma isVersion_of_splitVersion {version : String} {triple : ℕ × ℕ × ℕ} {suffix : String}
    (h : splitVersion version = some (triple, suffix)) : IsVersion version triple suffix := by
  unfold splitVersion at h
  simp only at h
  split at h
  · rename_i major minor patch hsplit
    simp only [Option.bind_eq_bind, Option.bind_eq_some_iff, Option.pure_def, Option.some.injEq,
      Prod.mk.injEq, versionPart_eq_some] at h
    obtain ⟨x, hx, y, hy, z, hz, rfl, rfl⟩ := h
    refine ⟨major, minor, patch, ?_, hx, hy, hz, ?_⟩
    · calc version.toList
          = version.toList.takeWhile (fun c => c != '-' && c != '+') ++
              version.toList.dropWhile fun c => c != '-' && c != '+' :=
            List.takeWhile_append_dropWhile.symm
        _ = _ := by rw [eq_of_splitOn_dots hsplit]; simp
    · rw [String.toList_ofList]
      exact isSuffix_dropWhile _
  · cases h

lemma splitVersion_of_isVersion {version : String} {triple : ℕ × ℕ × ℕ} {suffix : String}
    (h : IsVersion version triple suffix) : splitVersion version = some (triple, suffix) := by
  obtain ⟨major, minor, patch, heq, hx, hy, hz, hsuffix⟩ := h
  have hnumber : ∀ c ∈ major ++ '.' :: (minor ++ '.' :: patch), c.isDigit = true ∨ c = '.' := by
    intro c hc
    simp only [List.mem_append, List.mem_cons] at hc
    rcases hc with hc | rfl | hc | rfl | hc
    · exact .inl (hx.isDigit c hc)
    · exact .inr rfl
    · exact .inl (hy.isDigit c hc)
    · exact .inr rfl
    · exact .inl (hz.isDigit c hc)
  obtain ⟨htake, hdrop⟩ := span_number hnumber hsuffix
  have hversion : version.toList = major ++ '.' :: (minor ++ '.' :: patch) ++ suffix.toList := by
    simp [heq]
  have hsplit := splitOn_dots hx.dot_notMem hy.dot_notMem hz.dot_notMem
  simp only [splitVersion, hversion, htake, hdrop, hsplit, versionPart_eq_some.mpr hx,
    versionPart_eq_some.mpr hy, versionPart_eq_some.mpr hz, String.ofList_toList]
  rfl

/-- Splitting a version succeeds exactly on the grammar, and gives its numbers and its suffix. -/
theorem splitVersion_eq_some {version : String} {triple : ℕ × ℕ × ℕ} {suffix : String} :
    splitVersion version = some (triple, suffix) ↔ IsVersion version triple suffix :=
  ⟨isVersion_of_splitVersion, splitVersion_of_isVersion⟩

/-- The numbers of a version, in lexicographic order. -/
def lexNumbers (triple : ℕ × ℕ × ℕ) : ℕ ×ₗ ℕ ×ₗ ℕ := toLex (triple.1, toLex triple.2)

lemma lexNumbers_lt {a b : ℕ × ℕ × ℕ} : lexNumbers a < lexNumbers b ↔
    a.1 < b.1 ∨ a.1 = b.1 ∧ (a.2.1 < b.2.1 ∨ a.2.1 = b.2.1 ∧ a.2.2 < b.2.2) := by
  simp only [lexNumbers, Prod.Lex.toLex_lt_toLex]

lemma compareTriples_eq_lt {a b : ℕ × ℕ × ℕ} :
    compareTriples a b = .lt ↔ lexNumbers a < lexNumbers b := by
  simp only [compareTriples, Ordering.then_eq_lt, Nat.compare_eq_lt, Nat.compare_eq_eq,
    lexNumbers_lt]

lemma compareTriples_eq_gt {a b : ℕ × ℕ × ℕ} :
    compareTriples a b = .gt ↔ lexNumbers b < lexNumbers a := by
  simp only [compareTriples, Ordering.then_eq_gt, Nat.compare_eq_gt, Nat.compare_eq_eq,
    lexNumbers_lt]
  simp only [eq_comm]

lemma compareTriples_eq_eq {a b : ℕ × ℕ × ℕ} : compareTriples a b = .eq ↔ a = b := by
  simp only [compareTriples, Ordering.then_eq_eq, Nat.compare_eq_eq, Prod.ext_iff]

def Newer (current offered : String) : Prop := compareVersions current offered = .newer
def Older (current offered : String) : Prop := compareVersions current offered = .older
def Same (current offered : String) : Prop := compareVersions current offered = .same
def Parses (version : String) : Prop := ∃ triple suffix, IsVersion version triple suffix

section Compare
variable {current offered : String} {cur off : ℕ × ℕ × ℕ} {curSuffix offSuffix : String}

lemma exists_of_compare (h : compareVersions current offered ≠ .unknown) :
    Parses current ∧ Parses offered := by
  unfold compareVersions at h
  split at h
  · rename_i hcur hoff
    exact ⟨⟨_, _, splitVersion_eq_some.mp hcur⟩, _, _, splitVersion_eq_some.mp hoff⟩
  · exact absurd rfl h

lemma compareVersions_eq (hcur : IsVersion current cur curSuffix)
    (hoff : IsVersion offered off offSuffix) :
    compareVersions current offered =
      match compareTriples cur off with
      | .lt => .newer
      | .gt => .older
      | .eq => if curSuffix = offSuffix then .same else .unknown := by
  unfold compareVersions
  split
  · rename_i heqCur heqOff
    rw [splitVersion_eq_some.mpr hcur, Option.some.injEq, Prod.mk.injEq] at heqCur
    rw [splitVersion_eq_some.mpr hoff, Option.some.injEq, Prod.mk.injEq] at heqOff
    obtain ⟨rfl, rfl⟩ := heqCur
    obtain ⟨rfl, rfl⟩ := heqOff
    cases compareTriples cur off <;> rfl
  · rename_i hnone
    exact absurd (splitVersion_eq_some.mpr hoff)
      (hnone _ _ _ _ (splitVersion_eq_some.mpr hcur))

lemma newer_iff (hcur : IsVersion current cur curSuffix) (hoff : IsVersion offered off offSuffix) :
    Newer current offered ↔ lexNumbers cur < lexNumbers off := by
  rw [Newer, compareVersions_eq hcur hoff, ← compareTriples_eq_lt]
  cases compareTriples cur off with
  | lt => simp
  | gt => simp
  | eq => by_cases h : curSuffix = offSuffix <;> simp [h]

lemma older_iff (hcur : IsVersion current cur curSuffix) (hoff : IsVersion offered off offSuffix) :
    Older current offered ↔ lexNumbers off < lexNumbers cur := by
  rw [Older, compareVersions_eq hcur hoff, ← compareTriples_eq_gt]
  cases compareTriples cur off with
  | lt => simp
  | gt => simp
  | eq => by_cases h : curSuffix = offSuffix <;> simp [h]

lemma same_iff (hcur : IsVersion current cur curSuffix) (hoff : IsVersion offered off offSuffix) :
    Same current offered ↔ cur = off ∧ curSuffix = offSuffix := by
  rw [Same, compareVersions_eq hcur hoff, ← compareTriples_eq_eq]
  cases compareTriples cur off with
  | lt => simp
  | gt => simp
  | eq => by_cases h : curSuffix = offSuffix <;> simp [h]

end Compare

lemma Newer.parses {a b : String} (h : Newer a b) : Parses a ∧ Parses b :=
  exists_of_compare (by simp [show compareVersions a b = .newer from h])

lemma Older.parses {a b : String} (h : Older a b) : Parses a ∧ Parses b :=
  exists_of_compare (by simp [show compareVersions a b = .older from h])

lemma Same.parses {a b : String} (h : Same a b) : Parses a ∧ Parses b :=
  exists_of_compare (by simp [show compareVersions a b = .same from h])

lemma newer_iff_older (a b : String) : Newer a b ↔ Older b a := by
  constructor
  · intro h
    obtain ⟨⟨ta, sa, ha⟩, tb, sb, hb⟩ := h.parses
    exact (older_iff hb ha).mpr ((newer_iff ha hb).mp h)
  · intro h
    obtain ⟨⟨tb, sb, hb⟩, ta, sa, ha⟩ := h.parses
    exact (newer_iff ha hb).mpr ((older_iff hb ha).mp h)

lemma not_newer_self (a : String) : ¬ Newer a a := by
  intro h
  obtain ⟨⟨ta, sa, ha⟩, -⟩ := h.parses
  exact lt_irrefl _ ((newer_iff ha ha).mp h)

lemma Newer.ne {a b : String} (h : Newer a b) : a ≠ b := by
  rintro rfl
  exact not_newer_self a h

lemma Newer.trans {a b c : String} (hab : Newer a b) (hbc : Newer b c) : Newer a c := by
  obtain ⟨⟨ta, sa, ha⟩, tb, sb, hb⟩ := hab.parses
  obtain ⟨-, tc, sc, hc⟩ := hbc.parses
  exact (newer_iff ha hc).mpr (((newer_iff ha hb).mp hab).trans ((newer_iff hb hc).mp hbc))

/-- The same version has the same numbers and suffix, so that it compares the same. -/
lemma Same.isVersion {a b : String} (h : Same a b) {triple : ℕ × ℕ × ℕ} {suffix : String}
    (ha : IsVersion a triple suffix) : IsVersion b triple suffix := by
  obtain ⟨-, tb, sb, hb⟩ := h.parses
  obtain ⟨rfl, rfl⟩ := (same_iff ha hb).mp h
  exact hb

lemma same_iff_parses {a b : String} :
    Same a b ↔ ∃ triple suffix, IsVersion a triple suffix ∧ IsVersion b triple suffix := by
  constructor
  · intro h
    obtain ⟨⟨ta, sa, ha⟩, -⟩ := h.parses
    exact ⟨ta, sa, ha, h.isVersion ha⟩
  · rintro ⟨triple, suffix, ha, hb⟩
    exact (same_iff ha hb).mpr ⟨rfl, rfl⟩

/-- The same version cannot be told apart by comparing it with a third. -/
lemma Same.splitVersion {a b : String} (h : Same a b) : splitVersion a = splitVersion b := by
  obtain ⟨triple, suffix, ha, hb⟩ := same_iff_parses.mp h
  rw [splitVersion_eq_some.mpr ha, splitVersion_eq_some.mpr hb]

lemma Same.symm {a b : String} (h : Same a b) : Same b a := by
  obtain ⟨triple, suffix, ha, hb⟩ := same_iff_parses.mp h
  exact same_iff_parses.mpr ⟨triple, suffix, hb, ha⟩

/-- Comparing versions is exact on the grammar and unknown elsewhere, a strict order by the numbers
in which the same versions cannot be told apart. -/
theorem compareVersions_order :
    (∀ a b, compareVersions a b ≠ .unknown → Parses a ∧ Parses b) ∧
    (∀ a b ta sa tb sb, IsVersion a ta sa → IsVersion b tb sb →
      (Newer a b ↔ lexNumbers ta < lexNumbers tb) ∧ (Older a b ↔ lexNumbers tb < lexNumbers ta) ∧
      (Same a b ↔ ta = tb ∧ sa = sb)) ∧
    (∀ a b, Newer a b ↔ Older b a) ∧
    (∀ a, ¬ Newer a a) ∧
    (∀ a b c, Newer a b → Newer b c → Newer a c) ∧
    Equivalence (fun a b : {version // Parses version} => Same a b) ∧
    (∀ a a' b, Same a a' → (Newer a b ↔ Newer a' b) ∧ (Newer b a ↔ Newer b a')) := by
  refine ⟨fun a b => exists_of_compare, fun a b ta sa tb sb ha hb => ?_, newer_iff_older,
    not_newer_self, fun a b c => Newer.trans, ⟨?_, Same.symm, ?_⟩, fun a a' b ha => ?_⟩
  · exact ⟨newer_iff ha hb, older_iff ha hb, same_iff ha hb⟩
  · rintro ⟨a, triple, suffix, ha⟩
    exact same_iff_parses.mpr ⟨triple, suffix, ha, ha⟩
  · intro a b c hab hbc
    obtain ⟨triple, suffix, ha, hb⟩ := same_iff_parses.mp hab
    exact same_iff_parses.mpr ⟨triple, suffix, ha, hbc.isVersion hb⟩
  · simp [Newer, compareVersions, ha.splitVersion]

end PcRemote.FirmwareVersion
