import Mathlib.Data.List.DropRight

/-! Text as the programs under study see it: UTF-8 bytes, ASCII case, hexadecimal,
white-space trimming, separators, and the decimal grammars of fixed-width integers. -/
namespace PcRemote.Text

/-- The bytes of a string, in UTF-8. -/
def utf8 (s : String) : List UInt8 := s.toList.flatMap String.utf8EncodeChar

lemma utf8_append (s t : String) : utf8 (s ++ t) = utf8 s ++ utf8 t := by
  simp [utf8]

lemma utf8_eq_toByteArray (s : String) : (utf8 s).toByteArray = s.toByteArray := by
  rw [← String.utf8Encode_toList]
  rfl

theorem utf8_injective : Function.Injective utf8 := by
  intro s t h
  have hbytes := congrArg List.toByteArray h
  rw [utf8_eq_toByteArray, utf8_eq_toByteArray] at hbytes
  exact String.toByteArray_inj.mp hbytes

/-- The bytes of a character beyond ASCII are all beyond ASCII. -/
lemma toNat_of_mem_utf8EncodeChar {b : UInt8} {c : Char} (h : b ∈ String.utf8EncodeChar c)
    (hb : b.toNat < 128) : c.toNat = b.toNat := by
  have hbyte : ∀ n, 128 ≤ n → n < 256 → b ≠ UInt8.ofNat n := by
    rintro n hlow hhigh rfl
    rw [UInt8.toNat_ofNat'] at hb
    omega
  unfold String.utf8EncodeChar at h
  simp only at h
  split_ifs at h with h₁ h₂ h₃
  · obtain rfl := List.mem_singleton.mp h
    have hlt : c.val.toNat % 256 = c.val.toNat := by omega
    rw [UInt8.toNat_ofNat', hlt]
    rfl
  all_goals
    simp only [List.mem_cons, List.not_mem_nil, or_false] at h
  · rcases h with h | h <;> exact absurd h (hbyte _ (by omega) (by omega))
  · rcases h with h | h | h <;> exact absurd h (hbyte _ (by omega) (by omega))
  · rcases h with h | h | h | h <;> exact absurd h (hbyte _ (by omega) (by omega))

lemma newline_notMem_utf8 {s : String} (h : '\n' ∉ s.toList) : 10 ∉ utf8 s := by
  intro hmem
  obtain ⟨c, hc, hb⟩ := List.mem_flatMap.mp hmem
  have hnat : c.toNat = '\n'.toNat := toNat_of_mem_utf8EncodeChar hb (by decide)
  have hchar : c = '\n' := Char.ext (UInt32.toNat_inj.mp hnat)
  exact h (hchar ▸ hc)

/-- A character takes four bytes at most. -/
lemma length_utf8_le (s : String) : (utf8 s).length ≤ 4 * s.toList.length := by
  rw [utf8]
  induction s.toList with
  | nil => simp
  | cons c cs ih =>
    have hchar : (String.utf8EncodeChar c).length ≤ 4 := by
      rw [String.length_utf8EncodeChar]
      exact Char.utf8Size_le_four c
    rw [List.flatMap_cons, List.length_append, List.length_cons]
    omega

def toAsciiUppercase (s : String) : String :=
  String.ofList (s.toList.map fun c =>
    if 'a' ≤ c ∧ c ≤ 'z' then Char.ofNat (c.toNat - 32) else c)

/-- What upper-casing leaves is an upper-case letter or an untouched character. -/
lemma of_mem_toAsciiUppercase {s : String} {d : Char} (h : d ∈ (toAsciiUppercase s).toList) :
    ('A' ≤ d ∧ d ≤ 'Z') ∨ (d ∈ s.toList ∧ ¬ ('a' ≤ d ∧ d ≤ 'z')) := by
  rw [toAsciiUppercase, String.toList_ofList, List.mem_map] at h
  obtain ⟨c, hc, rfl⟩ := h
  split_ifs with hlower
  · have hlo : 97 ≤ c.toNat := hlower.1
    have hhi : c.toNat ≤ 122 := hlower.2
    have hvalid : (c.toNat - 32).isValidChar := by
      left
      omega
    have hval : (Char.ofNat (c.toNat - 32)).toNat = c.toNat - 32 := by
      rw [Char.ofNat, dif_pos hvalid]
      rfl
    left
    constructor
    · change 65 ≤ (Char.ofNat (c.toNat - 32)).toNat
      omega
    · change (Char.ofNat (c.toNat - 32)).toNat ≤ 90
      omega
  · exact .inr ⟨hc, hlower⟩

lemma not_lower_of_mem_toAsciiUppercase {s : String} {d : Char}
    (h : d ∈ (toAsciiUppercase s).toList) : ¬ ('a' ≤ d ∧ d ≤ 'z') := by
  rcases of_mem_toAsciiUppercase h with ⟨-, hz⟩ | ⟨-, hlower⟩
  · intro hl
    have hlo : 97 ≤ d.toNat := hl.1
    have hhi : d.toNat ≤ 90 := hz
    omega
  · exact hlower

lemma newline_notMem_toAsciiUppercase {s : String} (h : '\n' ∉ s.toList) :
    '\n' ∉ (toAsciiUppercase s).toList := by
  intro hmem
  rcases of_mem_toAsciiUppercase hmem with ⟨ha, -⟩ | ⟨hs, -⟩
  · exact absurd ha (by decide)
  · exact h hs

def toAsciiLowercase (s : String) : String :=
  String.ofList (s.toList.map fun c =>
    if 'A' ≤ c ∧ c ≤ 'Z' then Char.ofNat (c.toNat + 32) else c)

/-! ### Hexadecimal -/

def hexDigit (n : ℕ) : Char :=
  if n < 10 then Char.ofNat ('0'.toNat + n) else Char.ofNat ('a'.toNat + (n - 10))

/-- Both cases of the letters are read, as the decoder does; only lower case is written. -/
def hexValue (c : Char) : Option ℕ :=
  if '0' ≤ c ∧ c ≤ '9' then some (c.toNat - '0'.toNat)
  else if 'a' ≤ c ∧ c ≤ 'f' then some (c.toNat - 'a'.toNat + 10)
  else if 'A' ≤ c ∧ c ≤ 'F' then some (c.toNat - 'A'.toNat + 10)
  else none

def hexEncodeByte (b : UInt8) : List Char := [hexDigit (b.toNat / 16), hexDigit (b.toNat % 16)]

def hexEncode (bytes : List UInt8) : String := String.ofList (bytes.flatMap hexEncodeByte)

def hexDecodeChars : List Char → Option (List UInt8)
  | [] => some []
  | [_] => none
  | hi :: lo :: rest => do
      let h ← hexValue hi
      let l ← hexValue lo
      let tail ← hexDecodeChars rest
      return UInt8.ofNat (16 * h + l) :: tail

/-- An odd number of digits, or a character that is no digit, is an error. -/
def hexDecode (s : String) : Option (List UInt8) := hexDecodeChars s.toList

lemma hexValue_hexDigit {n : ℕ} (h : n < 16) : hexValue (hexDigit n) = some n := by
  have hall : ∀ m < 16, hexValue (hexDigit m) = some m := by decide
  exact hall n h

lemma hexDecodeChars_encode (bytes : List UInt8) :
    hexDecodeChars (bytes.flatMap hexEncodeByte) = some bytes := by
  induction bytes with
  | nil => rfl
  | cons b bs ih =>
    have hb := b.toNat_lt
    have hhi : hexValue (hexDigit (b.toNat / 16)) = some (b.toNat / 16) :=
      hexValue_hexDigit (by omega)
    have hlo : hexValue (hexDigit (b.toNat % 16)) = some (b.toNat % 16) :=
      hexValue_hexDigit (by omega)
    have hval : UInt8.ofNat (16 * (b.toNat / 16) + b.toNat % 16) = b := by
      rw [Nat.div_add_mod, UInt8.ofNat_toNat]
    simp only [List.flatMap_cons, hexEncodeByte, List.cons_append, List.nil_append,
      hexDecodeChars, hhi, hlo, ih, hval, Option.bind_eq_bind, Option.bind_some, Option.pure_def]

theorem hexDecode_encode (bytes : List UInt8) : hexDecode (hexEncode bytes) = some bytes := by
  simpa [hexDecode, hexEncode] using hexDecodeChars_encode bytes

lemma length_hexEncode (bytes : List UInt8) :
    (hexEncode bytes).toList.length = 2 * bytes.length := by
  simp [hexEncode, hexEncodeByte, Nat.mul_comm]

/-- The Unicode White_Space characters. -/
def isWhitespace (c : Char) : Bool :=
  let n := c.toNat
  (9 ≤ n && n ≤ 13) || n = 32 || n = 0x85 || n = 0xA0 || n = 0x1680 ||
    (0x2000 ≤ n && n ≤ 0x200A) || n = 0x2028 || n = 0x2029 || n = 0x202F || n = 0x205F ||
    n = 0x3000

def trim (s : String) : String :=
  String.ofList ((s.toList.dropWhile isWhitespace).rdropWhile isWhitespace)

def split (sep : Char) (s : String) : List String := (s.toList.splitOn sep).map String.ofList

/-- The parts before and after the first occurrence of the separator. -/
def splitOnce (sep : Char) (s : String) : Option (String × String) :=
  if sep ∈ s.toList then
    some (String.ofList (s.toList.takeWhile (· != sep)),
      String.ofList ((s.toList.dropWhile (· != sep)).drop 1))
  else none

def startsWith (c : Char) (s : String) : Bool := s.toList.head? == some c

def isGraphic (c : Char) : Bool := 33 ≤ c.toNat && c.toNat < 127

lemma utf8_ofList_of_ascii {cs : List Char} (h : ∀ c ∈ cs, c.toNat < 128) :
    utf8 (String.ofList cs) = cs.map fun c => UInt8.ofNat c.toNat := by
  have hchar : ∀ c ∈ cs, String.utf8EncodeChar c = [UInt8.ofNat c.toNat] := by
    intro c hc
    have hle : c.val.toNat ≤ 127 := Nat.le_of_lt_succ (h c hc)
    rw [String.utf8EncodeChar, if_pos hle]
    rfl
  rw [utf8, String.toList_ofList, List.flatMap_congr hchar, List.map_eq_flatMap]

lemma isWhitespace_of_isGraphic {c : Char} (h : isGraphic c = true) : isWhitespace c = false := by
  simp only [isGraphic, Bool.and_eq_true, decide_eq_true_eq] at h
  simp only [isWhitespace, Bool.or_eq_false_iff, Bool.and_eq_false_iff, decide_eq_false_iff_not]
  omega

lemma trim_ofList_of_isGraphic {cs : List Char} (h : ∀ c ∈ cs, isGraphic c = true) :
    trim (String.ofList cs) = String.ofList cs := by
  have hblank : ∀ c ∈ cs, isWhitespace c = false := fun c hc => isWhitespace_of_isGraphic (h c hc)
  have hdrop : cs.dropWhile isWhitespace = cs := by
    rw [List.dropWhile_eq_self_iff]
    intro hl
    simp [hblank]
  have hrdrop : cs.rdropWhile isWhitespace = cs := by
    rw [List.rdropWhile_eq_self_iff]
    intro hl
    simp [hblank]
  rw [trim, String.toList_ofList, hdrop, hrdrop]

lemma isGraphic_of_isDigit {c : Char} (h : c.isDigit = true) : isGraphic c = true := by
  simp only [Char.isDigit, Bool.and_eq_true, decide_eq_true_eq] at h
  simp only [isGraphic, Bool.and_eq_true, decide_eq_true_eq]
  have hlo : 48 ≤ c.toNat := h.1
  have hhi : c.toNat ≤ 57 := h.2
  omega

lemma isGraphic_hexDigit {n : ℕ} (h : n < 16) : isGraphic (hexDigit n) = true := by
  have hall : ∀ m < 16, isGraphic (hexDigit m) = true := by decide
  exact hall n h

lemma isGraphic_of_mem_hexEncode {bytes : List UInt8} {c : Char}
    (h : c ∈ (hexEncode bytes).toList) : isGraphic c = true := by
  simp only [hexEncode, String.toList_ofList, List.mem_flatMap, hexEncodeByte, List.mem_cons,
    List.not_mem_nil, or_false] at h
  obtain ⟨b, -, rfl | rfl⟩ := h
  · have := b.toNat_lt
    exact isGraphic_hexDigit (by omega)
  · exact isGraphic_hexDigit (Nat.mod_lt _ (by omega))

lemma newline_notMem_hexEncode (bytes : List UInt8) : '\n' ∉ (hexEncode bytes).toList := by
  intro h
  exact absurd (isGraphic_of_mem_hexEncode h) (by decide)

lemma length_utf8_hexEncode (bytes : List UInt8) :
    (utf8 (hexEncode bytes)).length = 2 * bytes.length := by
  have hascii : ∀ c ∈ (hexEncode bytes).toList, c.toNat < 128 := by
    intro c hc
    have hgraphic := isGraphic_of_mem_hexEncode hc
    simp only [isGraphic, Bool.and_eq_true, decide_eq_true_eq] at hgraphic
    omega
  have hbytes := utf8_ofList_of_ascii hascii
  rw [String.ofList_toList] at hbytes
  rw [hbytes, List.length_map, length_hexEncode]

/-! ### Decimal integers -/

def digitsValue (cs : List Char) : ℕ := cs.foldl (fun n c => 10 * n + (c.toNat - '0'.toNat)) 0

/-- A non-empty run of ASCII digits. -/
def parseDigits (cs : List Char) : Option ℕ :=
  if cs ≠ [] ∧ cs.all Char.isDigit then some (digitsValue cs) else none

/-- An unsigned integer below the bound; a leading plus sign is allowed. -/
def parseUnsigned (bound : ℕ) (s : String) : Option ℕ :=
  let digits := match s.toList with
    | '+' :: cs => cs
    | cs => cs
  (parseDigits digits).filter (· < bound)

/-- A signed integer in [lo, hi]; a leading sign is allowed. -/
def parseSigned (lo hi : ℤ) (s : String) : Option ℤ :=
  let value := match s.toList with
    | '+' :: cs => (parseDigits cs).map Int.ofNat
    | '-' :: cs => (parseDigits cs).map fun n => -Int.ofNat n
    | cs => (parseDigits cs).map Int.ofNat
  value.filter fun n => lo ≤ n ∧ n ≤ hi

def i64Min : ℤ := -9223372036854775808
def i64Max : ℤ := 9223372036854775807

def parseI64 : String → Option ℤ := parseSigned i64Min i64Max
def parseU16 : String → Option ℕ := parseUnsigned UInt16.size
def parseU8 : String → Option ℕ := parseUnsigned UInt8.size

example : parseI64 "+1700000000" = some 1700000000 ∧ parseI64 "9223372036854775808" = none := by
  decide

lemma toDigits_eq_cons (n : ℕ) : ∃ c cs, Nat.toDigits 10 n = c :: cs ∧ c.isDigit = true := by
  obtain ⟨c, cs, h⟩ := List.exists_cons_of_ne_nil (Nat.toDigits_ne_nil (n := n) (b := 10))
  exact ⟨c, cs, h, Nat.isDigit_of_mem_toDigits (by decide) (by decide) (h ▸ List.mem_cons_self)⟩

lemma parseDigits_toDigits (n : ℕ) : parseDigits (Nat.toDigits 10 n) = some n := by
  have hall : (Nat.toDigits 10 n).all Char.isDigit = true :=
    List.all_eq_true.mpr fun c hc => Nat.isDigit_of_mem_toDigits (by decide) (by decide) hc
  rw [parseDigits, if_pos ⟨Nat.toDigits_ne_nil, hall⟩]
  exact congrArg some Nat.ofDigitChars_ten_toDigits

lemma lt_of_parseUnsigned {bound n : ℕ} {s : String} (h : parseUnsigned bound s = some n) :
    n < bound := by
  simp only [parseUnsigned, Option.filter_eq_some_iff, decide_eq_true_eq] at h
  exact h.2

lemma bounds_of_parseSigned {lo hi n : ℤ} {s : String} (h : parseSigned lo hi s = some n) :
    lo ≤ n ∧ n ≤ hi := by
  simp only [parseSigned, Option.filter_eq_some_iff, decide_eq_true_eq] at h
  exact h.2

theorem parseUnsigned_toString {bound n : ℕ} (h : n < bound) :
    parseUnsigned bound (toString n) = some n := by
  obtain ⟨c, cs, hdigits, hc⟩ := toDigits_eq_cons n
  have hplus : c ≠ '+' := fun he => absurd (he ▸ hc) (by decide)
  have hparse := parseDigits_toDigits n
  rw [hdigits] at hparse
  simp only [parseUnsigned, Nat.toString_eq_repr, Nat.toList_repr, hdigits]
  split
  · exact absurd (List.cons.inj ‹_›).1 hplus
  · simp [hparse, h]

lemma toList_toString_int (n : ℤ) :
    (toString n).toList =
      if n < 0 then '-' :: Nat.toDigits 10 n.natAbs else Nat.toDigits 10 n.natAbs := by
  cases n with
  | ofNat m =>
    have hm : ¬ Int.ofNat m < 0 := by rw [Int.ofNat_eq_natCast]; omega
    rw [if_neg hm]
    exact Nat.toList_repr
  | negSucc m =>
    have hm : Int.negSucc m < 0 := by omega
    rw [if_pos hm]
    change ("-" ++ Nat.repr (m + 1)).toList = _
    rw [String.toList_append, Nat.toList_repr]
    rfl

theorem parseSigned_toString {lo hi n : ℤ} (hlo : lo ≤ n) (hhi : n ≤ hi) :
    parseSigned lo hi (toString n) = some n := by
  rw [parseSigned, toList_toString_int]
  split_ifs with hneg
  · have habs : -Int.ofNat n.natAbs = n := by rw [Int.ofNat_eq_natCast]; omega
    simp only [parseDigits_toDigits, Option.map_some, habs]
    simp [hlo, hhi]
  · obtain ⟨c, cs, hdigits, hc⟩ := toDigits_eq_cons n.natAbs
    have habs : Int.ofNat n.natAbs = n := by rw [Int.ofNat_eq_natCast]; omega
    have hparse := parseDigits_toDigits n.natAbs
    rw [hdigits] at hparse ⊢
    split
    · exact absurd ((List.cons.inj ‹_›).1 ▸ hc) (by decide)
    · exact absurd ((List.cons.inj ‹_›).1 ▸ hc) (by decide)
    · simp only [hparse, Option.map_some, habs]
      simp [hlo, hhi]

theorem toString_int_injective : Function.Injective (toString : ℤ → String) := by
  intro a b h
  have ha := parseSigned_toString (Int.min_le_left a b) (Int.le_max_left a b)
  have hb := parseSigned_toString (Int.min_le_right a b) (Int.le_max_right a b)
  rw [h, hb] at ha
  exact (Option.some.inj ha).symm

lemma length_toString_int {n : ℤ} (hlo : i64Min ≤ n) (hhi : n ≤ i64Max) :
    (toString n).toList.length ≤ 20 := by
  have hdigits : (Nat.toDigits 10 n.natAbs).length ≤ 19 := by
    rw [Nat.length_toDigits_le_iff (by decide) (by decide)]
    unfold i64Min at hlo
    unfold i64Max at hhi
    omega
  rw [toList_toString_int]
  split_ifs
  · rw [List.length_cons]
    omega
  · omega

lemma newline_notMem_toDigits (n : ℕ) : '\n' ∉ Nat.toDigits 10 n := fun h =>
  absurd (Nat.isDigit_of_mem_toDigits (by decide) (by decide) h) (by decide)

lemma newline_notMem_toString_int (n : ℤ) : '\n' ∉ (toString n).toList := by
  rw [toList_toString_int]
  split_ifs
  · simp [newline_notMem_toDigits]
  · exact newline_notMem_toDigits _

/-- The lower-case hexadecimal digits of a number, without leading zeros. -/
def toHex (n : ℕ) : String := String.ofList (Nat.toDigits 16 n)

lemma mem_toDigits {b n : ℕ} (hb : 1 < b) {c : Char} (h : c ∈ Nat.toDigits b n) :
    ∃ d < b, c = Nat.digitChar d := by
  induction n using Nat.strongRecOn with
  | ind n ih =>
    by_cases hn : n < b
    · rw [Nat.toDigits_of_lt_base hn, List.mem_singleton] at h
      exact ⟨n, hn, h⟩
    · rw [Nat.toDigits_of_base_le hb (Nat.le_of_not_lt hn), List.mem_append,
        List.mem_singleton] at h
      rcases h with h | h
      · exact ih (n / b) (Nat.div_lt_self (by omega) hb) h
      · exact ⟨n % b, Nat.mod_lt _ (by omega), h⟩

/-- The letters and digits that hexadecimal is written in. -/
def isLowerHex (c : Char) : Bool := ('0' ≤ c && c ≤ '9') || ('a' ≤ c && c ≤ 'f')

lemma isLowerHex_of_mem_toHex {n : ℕ} {c : Char} (h : c ∈ (toHex n).toList) :
    isLowerHex c = true := by
  rw [toHex, String.toList_ofList] at h
  obtain ⟨d, hd, rfl⟩ := mem_toDigits (by decide) h
  have hall : ∀ d < 16, isLowerHex (Nat.digitChar d) = true := by decide
  exact hall d hd

lemma length_toHex_uint32 (n : UInt32) : (toHex n.toNat).toList.length ≤ 8 := by
  rw [toHex, String.toList_ofList]
  exact (Nat.length_toDigits_le_iff (by decide) (by decide)).mpr n.toNat_lt

lemma length_toHex_uint64 (n : UInt64) : (toHex n.toNat).toList.length ≤ 16 := by
  rw [toHex, String.toList_ofList]
  exact (Nat.length_toDigits_le_iff (by decide) (by decide)).mpr n.toNat_lt

end PcRemote.Text
