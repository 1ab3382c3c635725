import PcRemote.Text

/-! The decimal numerals that numbers are printed as. Other spellings of a number are read as well,
with a plus sign or with superfluous zeros; a numeral is the one that comes back from printing. -/
namespace PcRemote.Text

/-- The numeral that a number is printed as: only `0` itself begins with a zero. -/
def isNumeral (cs : List Char) : Bool :=
  cs != [] && cs.all Char.isDigit && (cs.length == 1 || cs.head? != some '0')

lemma digitsValue_concat (cs : List Char) (c : Char) :
    digitsValue (cs ++ [c]) = 10 * digitsValue cs + (c.toNat - '0'.toNat) := by
  simp [digitsValue]

/-- A digit is printed as itself. -/
lemma toDigits_digit {c : Char} (h : c.isDigit = true) :
    c.toNat - '0'.toNat < 10 ∧ Nat.toDigits 10 (c.toNat - '0'.toNat) = [c] := by
  simp only [Char.isDigit, Bool.and_eq_true, decide_eq_true_eq] at h
  have hlo : 48 ≤ c.toNat := h.1
  have hhi : c.toNat ≤ 57 := h.2
  have hlt : c.toNat - '0'.toNat < 10 := by
    have : '0'.toNat = 48 := rfl
    omega
  have hchar : ∀ n, n < 10 → Nat.digitChar n = Char.ofNat (48 + n) := by decide
  refine ⟨hlt, ?_⟩
  have hsum : 48 + (c.toNat - '0'.toNat) = c.toNat := by
    have : '0'.toNat = 48 := rfl
    omega
  rw [Nat.toDigits_of_lt_base hlt, hchar _ hlt, hsum, Char.ofNat_toNat]

lemma digitsValue_pos {c : Char} {cs : List Char} (hc : c.isDigit = true) (hzero : c ≠ '0') :
    0 < digitsValue (c :: cs) := by
  induction cs using List.reverseRecOn with
  | nil =>
    simp only [Char.isDigit, Bool.and_eq_true, decide_eq_true_eq] at hc
    have hlo : 48 ≤ c.toNat := hc.1
    have hne : c.toNat ≠ 48 := fun h => hzero (Char.toNat_inj.mp h)
    have : '0'.toNat = 48 := rfl
    simp only [digitsValue, List.foldl_cons, List.foldl_nil]
    omega
  | append_singleton cs d ih =>
    rw [← List.cons_append, digitsValue_concat]
    omega

theorem toDigits_digitsValue {cs : List Char} (h : isNumeral cs = true) :
    Nat.toDigits 10 (digitsValue cs) = cs := by
  simp only [isNumeral, Bool.and_eq_true, Bool.or_eq_true, bne_iff_ne, beq_iff_eq,
    List.all_eq_true] at h
  obtain ⟨⟨hne, hdigits⟩, hhead⟩ := h
  induction cs using List.reverseRecOn with
  | nil => exact absurd rfl hne
  | append_singleton cs d ih =>
    obtain ⟨hlt, hd⟩ := toDigits_digit (hdigits d (by simp))
    cases cs with
    | nil => simpa [digitsValue] using hd
    | cons c cs =>
      have hzero : c ≠ '0' := by simpa using hhead
      have hc : c.isDigit = true := hdigits c (by simp)
      have hfirst := ih (.inr (by simpa using hzero)) (List.cons_ne_nil c cs)
        fun x hx => hdigits x (List.mem_append_left [d] hx)
      rw [digitsValue_concat, ← Nat.toDigits_append_toDigits (by decide)
        (digitsValue_pos hc hzero) hlt, hfirst, hd]

/-- Numbers are printed as numerals. -/
lemma isNumeral_toDigits (n : ℕ) : isNumeral (Nat.toDigits 10 n) = true := by
  have hdigits : ∀ c ∈ Nat.toDigits 10 n, c.isDigit = true :=
    fun c hc => Nat.isDigit_of_mem_toDigits (by decide) (by decide) hc
  suffices n < 10 ∨ (Nat.toDigits 10 n).head? ≠ some '0' by
    simp only [isNumeral, Bool.and_eq_true, Bool.or_eq_true, bne_iff_ne, beq_iff_eq,
      List.all_eq_true]
    refine ⟨⟨Nat.toDigits_ne_nil, hdigits⟩, this.imp (fun h => ?_) id⟩
    rw [Nat.toDigits_of_lt_base h, List.length_singleton]
  clear hdigits
  induction n using Nat.strongRecOn with
  | ind n ih =>
    by_cases hn : n < 10
    · exact .inl hn
    · refine .inr ?_
      rw [Nat.toDigits_of_base_le (by decide) (Nat.le_of_not_lt hn),
        List.head?_append_of_ne_nil _ Nat.toDigits_ne_nil]
      rcases ih (n / 10) (by omega) with hsmall | hhead
      · rw [Nat.toDigits_of_lt_base hsmall]
        have hpos : n / 10 ≠ 0 := by omega
        simpa using hpos
      · exact hhead

/-- The text that a number is printed as: no plus sign, no superfluous zero, no negative zero. -/
def isPlainDecimal (s : String) : Bool :=
  match s.toList with
  | '-' :: cs => isNumeral cs && cs != ['0']
  | cs => isNumeral cs

lemma isPlainDecimal_toString (n : ℤ) : isPlainDecimal (toString n) = true := by
  rw [isPlainDecimal, toList_toString_int]
  split_ifs with hneg
  · have hne : Nat.toDigits 10 n.natAbs ≠ ['0'] := by
      intro h
      have hparse := parseDigits_toDigits n.natAbs
      rw [h] at hparse
      have : n.natAbs = 0 := (Option.some.inj hparse).symm
      omega
    simpa [isNumeral_toDigits] using hne
  · obtain ⟨c, cs, hdigits, hc⟩ := toDigits_eq_cons n.natAbs
    have hnumeral := isNumeral_toDigits n.natAbs
    rw [hdigits] at hnumeral ⊢
    split
    · exact absurd ((List.cons.inj ‹_›).1 ▸ hc) (by decide)
    · exact hnumeral

/-- What is printed plainly and read as a number is how that number is printed. -/
lemma toString_of_parseSigned {lo hi n : ℤ} {s : String} (h : parseSigned lo hi s = some n)
    (hplain : isPlainDecimal s = true) : toString n = s := by
  have hread : ∀ {cs : List Char} {m : ℕ}, isNumeral cs = true → parseDigits cs = some m →
      Nat.toDigits 10 m = cs := by
    intro cs m hcs hm
    simp only [parseDigits, Option.ite_none_right_eq_some, Option.some.injEq] at hm
    exact hm.2 ▸ toDigits_digitsValue hcs
  simp only [parseSigned, Option.filter_eq_some_iff] at h
  refine String.toList_injective ?_
  rw [toList_toString_int]
  simp only [isPlainDecimal] at hplain
  generalize s.toList = cs at h hplain ⊢
  split at hplain
  · simp only [Bool.and_eq_true, bne_iff_ne] at hplain
    obtain ⟨m, hm, rfl⟩ := Option.map_eq_some_iff.mp h.1
    have hdigits := hread hplain.1 hm
    have hpos : m ≠ 0 := by
      rintro rfl
      exact hplain.2 hdigits.symm
    rw [if_pos (by rw [Int.ofNat_eq_natCast]; omega),
      Int.natAbs_neg, Int.ofNat_eq_natCast, Int.natAbs_natCast, hdigits]
  · split at h
    · exact absurd hplain (by simp [isNumeral])
    · exact absurd hplain (by simp [isNumeral])
    · obtain ⟨m, hm, rfl⟩ := Option.map_eq_some_iff.mp h.1
      rw [if_neg (by rw [Int.ofNat_eq_natCast]; omega), Int.ofNat_eq_natCast, Int.natAbs_natCast,
        hread hplain hm]

theorem toString_eq_iff {lo hi n : ℤ} (hlo : lo ≤ n) (hhi : n ≤ hi) (s : String) :
    toString n = s ↔ parseSigned lo hi s = some n ∧ isPlainDecimal s = true := by
  constructor
  · rintro rfl
    exact ⟨parseSigned_toString hlo hhi, isPlainDecimal_toString n⟩
  · rintro ⟨hread, hplain⟩
    exact toString_of_parseSigned hread hplain

end PcRemote.Text
