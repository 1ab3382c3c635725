import PcRemote.Numeral

/-! The text forms of Internet addresses, alone and with a port. A reader takes what it can from the
front of a text and leaves the rest; a text is an address if nothing is left over. -/
namespace PcRemote.SocketText
open Text

structure Ipv4Addr where
  a : UInt8
  b : UInt8
  c : UInt8
  d : UInt8
  deriving DecidableEq, Repr

inductive SocketAddr
  | v4 (ip : Ipv4Addr) (port : UInt16)
  | v6 (segments : List UInt16) (scopeId : UInt32) (port : UInt16)
  deriving DecidableEq, Repr

abbrev Reader : Type → Type := StateT (List Char) Option

def readGivenChar (target : Char) : Reader Unit
  | [] => none
  | c :: rest => if c = target then some ((), rest) else none

/-- Nothing is taken where the reader fails. -/
def attempt {α : Type} (r : Reader α) : Reader (Option α) := fun cs =>
  match r cs with
  | some (a, rest) => some (some a, rest)
  | none => some (none, cs)

def isDigitOf (radix : ℕ) (c : Char) : Bool := (hexValue c).any (· < radix)

def numberValue (radix : ℕ) (digits : List Char) : ℕ :=
  digits.foldl (fun n c => radix * n + (hexValue c).getD 0) 0

/-- As many digits as there are; too many of them, or a leading zero where it is not allowed, is
an error, and so is a number that does not fit. -/
def readNumber (radix : ℕ) (maxDigits : Option ℕ) (allowZeroPrefix : Bool) (bound : ℕ) :
    Reader ℕ := fun cs =>
  let digits := cs.takeWhile (isDigitOf radix)
  let value := numberValue radix digits
  if digits != [] && maxDigits.all (digits.length ≤ ·) &&
      (allowZeroPrefix || digits.length == 1 || digits.head? != some '0') && value < bound
  then some (value, cs.dropWhile (isDigitOf radix)) else none

def readU8 (maxDigits : Option ℕ) (allowZeroPrefix : Bool) : Reader UInt8 :=
  UInt8.ofNat <$> readNumber 10 maxDigits allowZeroPrefix UInt8.size

def readU16 (radix : ℕ) (maxDigits : Option ℕ) : Reader UInt16 :=
  UInt16.ofNat <$> readNumber radix maxDigits true UInt16.size

def readU32 : Reader UInt32 := UInt32.ofNat <$> readNumber 10 none true UInt32.size

/-- The separator stands between the items, not before the first one. -/
def readSeparator {α : Type} (sep : Char) (index : ℕ) (inner : Reader α) : Reader α :=
  if 0 < index then do
    readGivenChar sep
    inner
  else inner

def readOctet : Reader UInt8 := readU8 (some 3) false

def readIpv4Addr : Reader Ipv4Addr := do
  let a ← readSeparator '.' 0 readOctet
  let b ← readSeparator '.' 1 readOctet
  let c ← readSeparator '.' 2 readOctet
  let d ← readSeparator '.' 3 readOctet
  return ⟨a, b, c, d⟩

def fromBeBytes (hi lo : UInt8) : UInt16 := UInt16.ofNat (256 * hi.toNat + lo.toNat)

/-- At most so many groups, from the given index on; an IPv4 address may stand for the last two. -/
def readGroups : ℕ → ℕ → Reader (List UInt16 × Bool)
  | 0, _ => return ([], false)
  | n + 1, index => do
      let embedded ← if 0 < n then attempt (readSeparator ':' index readIpv4Addr) else pure none
      match embedded with
      | some ip => return ([fromBeBytes ip.a ip.b, fromBeBytes ip.c ip.d], true)
      | none =>
          match ← attempt (readSeparator ':' index (readU16 16 (some 4))) with
          | some segment =>
              let rest ← readGroups n (index + 1)
              return (segment :: rest.1, rest.2)
          | none => return ([], false)

/-- Two colons stand for the groups that are left out, at least one. -/
def readIpv6Addr : Reader (List UInt16) := do
  let head ← readGroups 8 0
  if head.1.length = 8 then return head.1
  if head.2 then failure
  readGivenChar ':'
  readGivenChar ':'
  let tail ← readGroups (8 - (head.1.length + 1)) 0
  return head.1 ++ List.replicate (8 - head.1.length - tail.1.length) 0 ++ tail.1

def readPort : Reader UInt16 := do
  readGivenChar ':'
  readU16 10 none

def readScopeId : Reader (UInt32) := do
  readGivenChar '%'
  readU32

def readSocketAddrV4 : Reader SocketAddr := do
  let ip ← readIpv4Addr
  let port ← readPort
  return .v4 ip port

def readSocketAddrV6 : Reader SocketAddr := do
  readGivenChar '['
  let segments ← readIpv6Addr
  let scopeId ← attempt readScopeId
  readGivenChar ']'
  let port ← readPort
  return .v6 segments (scopeId.getD 0) port

def readSocketAddr : Reader SocketAddr := fun cs => readSocketAddrV4 cs <|> readSocketAddrV6 cs

def parseWith {α : Type} (r : Reader α) (s : String) : Option α :=
  match r s.toList with
  | some (a, []) => some a
  | _ => none

/-- `255.255.255.255` is as long as an address gets. -/
def parseIpv4Addr (s : String) : Option Ipv4Addr :=
  if 15 < (utf8 s).length then none else parseWith readIpv4Addr s

def parseSocketAddr : String → Option SocketAddr := parseWith readSocketAddr

example : parseSocketAddr "[fe80::192.168.1.50%2]:08080" =
    some (.v6 [0xfe80, 0, 0, 0, 0, 0, 0xc0a8, 0x132] 2 8080) := by decide +kernel

/-- The text does not go on with a digit. -/
def Stops (t : List Char) : Prop := ∀ c ∈ t.head?, hexValue c = none

/-- What a reader takes does not depend on what follows, if that does not go on with a digit. -/
def Steady {α : Type} (r : Reader α) : Prop :=
  ∀ cs a rest t, Stops t → r cs = some (a, rest) → r (cs ++ t) = some (a, rest ++ t)

lemma stops_nil : Stops [] := fun _ hc => absurd hc (by simp)

lemma isDigitOf_of_stops {radix : ℕ} {t : List Char} (ht : Stops t) :
    t.takeWhile (isDigitOf radix) = [] ∧ t.dropWhile (isDigitOf radix) = t := by
  cases t with
  | nil => exact ⟨rfl, rfl⟩
  | cons c t =>
    have hc : ¬ isDigitOf radix c = true := by simp [isDigitOf, ht c rfl]
    exact ⟨List.takeWhile_cons_of_neg hc, List.dropWhile_cons_of_neg hc⟩

lemma takeWhile_append_of_stops (radix : ℕ) (cs : List Char) {t : List Char} (ht : Stops t) :
    (cs ++ t).takeWhile (isDigitOf radix) = cs.takeWhile (isDigitOf radix) ∧
      (cs ++ t).dropWhile (isDigitOf radix) = cs.dropWhile (isDigitOf radix) ++ t := by
  induction cs with
  | nil => exact isDigitOf_of_stops ht
  | cons c cs ih =>
    by_cases hc : isDigitOf radix c = true
    · simpa [hc] using ih
    · simp [hc]

lemma steady_readNumber (radix : ℕ) (maxDigits : Option ℕ) (allowZeroPrefix : Bool) (bound : ℕ) :
    Steady (readNumber radix maxDigits allowZeroPrefix bound) := by
  intro cs a rest t ht h
  obtain ⟨htake, hdrop⟩ := takeWhile_append_of_stops radix cs ht
  simp only [readNumber, Option.ite_none_right_eq_some, Option.some.injEq, Prod.mk.injEq] at h ⊢
  obtain ⟨hallowed, rfl, rfl⟩ := h
  rw [htake, hdrop]
  exact ⟨hallowed, rfl, rfl⟩

lemma readGivenChar_eq_some {target : Char} {cs rest : List Char} {u : Unit} :
    readGivenChar target cs = some (u, rest) ↔ cs = target :: rest := by
  cases cs with
  | nil => simp [readGivenChar]
  | cons c cs => simp [readGivenChar]

lemma steady_readGivenChar (target : Char) : Steady (readGivenChar target) := by
  intro cs a rest t _ h
  rw [readGivenChar_eq_some] at h ⊢
  rw [h, List.cons_append]

section
variable {α β : Type}

lemma steady_pure (a : α) : Steady (pure a) := by
  rintro cs b rest t - h
  obtain ⟨rfl, rfl⟩ := Prod.mk.inj (Option.some.inj h)
  rfl

lemma parseWith_eq_some {r : Reader α} {s : String} {a : α} :
    parseWith r s = some a ↔ r s.toList = some (a, []) := by
  unfold parseWith
  split
  · next h => simp [h]
  · next h =>
    exact ⟨nofun, fun hsome => absurd hsome (h a)⟩

lemma bind_eq_some {r : Reader α} {f : α → Reader β} {cs : List Char} {b : β} {rest : List Char} :
    (r >>= f) cs = some (b, rest) ↔ ∃ a mid, r cs = some (a, mid) ∧ f a mid = some (b, rest) := by
  change (r cs).bind (fun p => f p.1 p.2) = some (b, rest) ↔ _
  rw [Option.bind_eq_some_iff]
  exact Prod.exists

lemma Steady.bind {r : Reader α} {f : α → Reader β} (hr : Steady r) (hf : ∀ a, Steady (f a)) :
    Steady (r >>= f) := by
  intro cs b rest t ht h
  obtain ⟨a, mid, hread, hrest⟩ := bind_eq_some.mp h
  exact bind_eq_some.mpr ⟨a, mid ++ t, hr _ _ _ t ht hread, hf a _ _ _ t ht hrest⟩

lemma Steady.map {r : Reader α} (hr : Steady r) (f : α → β) : Steady (f <$> r) := by
  rw [map_eq_pure_bind]
  exact hr.bind fun a => steady_pure (f a)

lemma Steady.separator {r : Reader α} (hr : Steady r) (sep : Char) (index : ℕ) :
    Steady (readSeparator sep index r) := by
  unfold readSeparator
  split
  · exact (steady_readGivenChar sep).bind fun _ => hr
  · exact hr

end

lemma steady_readOctet : Steady readOctet := (steady_readNumber 10 _ _ _).map _

lemma steady_readIpv4Addr : Steady readIpv4Addr :=
  (steady_readOctet.separator '.' 0).bind fun _ =>
    (steady_readOctet.separator '.' 1).bind fun _ =>
      (steady_readOctet.separator '.' 2).bind fun _ =>
        (steady_readOctet.separator '.' 3).bind fun _ => steady_pure _

lemma readSeparator_eq_some {α : Type} {r : Reader α} {sep : Char} {index : ℕ} {cs : List Char}
    {a : α} {rest : List Char} (hindex : 0 < index) :
    readSeparator sep index r cs = some (a, rest) ↔
      ∃ mid, cs = sep :: mid ∧ r mid = some (a, rest) := by
  rw [readSeparator, if_pos hindex, bind_eq_some]
  constructor
  · rintro ⟨_, mid, hsep, hread⟩
    exact ⟨mid, readGivenChar_eq_some.mp hsep, hread⟩
  · rintro ⟨mid, hsep, hread⟩
    exact ⟨(), mid, readGivenChar_eq_some.mpr hsep, hread⟩

/-- An address is read octet by octet, with dots between them. -/
lemma readIpv4Addr_eq_some {cs rest : List Char} {ip : Ipv4Addr} :
    readIpv4Addr cs = some (ip, rest) ↔ ∃ u v w, readOctet cs = some (ip.a, '.' :: u) ∧
      readOctet u = some (ip.b, '.' :: v) ∧ readOctet v = some (ip.c, '.' :: w) ∧
      readOctet w = some (ip.d, rest) := by
  simp only [readIpv4Addr, bind_eq_some, readSeparator_eq_some (Nat.succ_pos _)]
  constructor
  · rintro ⟨a, _, ha, b, _, ⟨u, rfl, hb⟩, c, _, ⟨v, rfl, hc⟩, d, _, ⟨w, rfl, hd⟩, hip⟩
    obtain ⟨rfl, rfl⟩ := Prod.mk.inj (Option.some.inj hip)
    exact ⟨u, v, w, ha, hb, hc, hd⟩
  · rintro ⟨u, v, w, ha, hb, hc, hd⟩
    exact ⟨_, _, ha, _, _, ⟨u, rfl, hb⟩, _, _, ⟨v, rfl, hc⟩, _, _, ⟨w, rfl, hd⟩, rfl⟩

lemma parseIpv4Addr_eq_some {s : String} {ip : Ipv4Addr} :
    parseIpv4Addr s = some ip ↔
      (utf8 s).length ≤ 15 ∧ readIpv4Addr s.toList = some (ip, []) := by
  rw [parseIpv4Addr, ← parseWith_eq_some]
  split
  · next h => exact ⟨nofun, fun hread => absurd hread.1 (Nat.not_le_of_lt h)⟩
  · next h => exact ⟨fun hread => ⟨Nat.le_of_not_lt h, hread⟩, fun hread => hread.2⟩

lemma hexValue_of_isDigit {c : Char} (h : c.isDigit = true) :
    hexValue c = some (c.toNat - '0'.toNat) := by
  simp only [Char.isDigit, Bool.and_eq_true, decide_eq_true_eq] at h
  rw [hexValue, if_pos ⟨Char.le_def.mpr h.1, Char.le_def.mpr h.2⟩]

lemma isDigitOf_ten (c : Char) : isDigitOf 10 c = c.isDigit := by
  cases h : c.isDigit with
  | true =>
    have hlt := (toDigits_digit h).1
    rw [isDigitOf, hexValue_of_isDigit h, Option.any_some, decide_eq_true hlt]
  | false =>
    have hnot : ¬ ('0' ≤ c ∧ c ≤ '9') := by
      simpa [Char.isDigit, Char.le_def] using h
    rw [isDigitOf, hexValue, if_neg hnot]
    split_ifs
    · simp
    · simp
    · rfl

lemma numberValue_ten {cs : List Char} (h : ∀ c ∈ cs, c.isDigit = true) :
    numberValue 10 cs = digitsValue cs := by
  refine List.foldl_ext _ _ 0 fun n c hc => ?_
  rw [hexValue_of_isDigit (h c hc), Option.getD_some]

/-- A run of digits is read as a whole where something else follows. -/
lemma readNumber_append (maxDigits : Option ℕ) (allowZeroPrefix : Bool) (bound : ℕ)
    {digits rest : List Char} (hdigits : ∀ c ∈ digits, c.isDigit = true) (hrest : Stops rest) :
    readNumber 10 maxDigits allowZeroPrefix bound (digits ++ rest) =
      if digits != [] && maxDigits.all (digits.length ≤ ·) &&
          (allowZeroPrefix || digits.length == 1 || digits.head? != some '0') &&
          digitsValue digits < bound
      then some (digitsValue digits, rest) else none := by
  have hrun : digits.all (isDigitOf 10) = true :=
    List.all_eq_true.mpr fun c hc => (isDigitOf_ten c).trans (hdigits c hc)
  have htake : digits.takeWhile (isDigitOf 10) = digits :=
    List.takeWhile_eq_self_iff.mpr (List.all_eq_true.mp hrun)
  have hdrop : digits.dropWhile (isDigitOf 10) = [] :=
    List.dropWhile_eq_nil_iff.mpr (List.all_eq_true.mp hrun)
  obtain ⟨htake', hdrop'⟩ := takeWhile_append_of_stops 10 digits hrest
  rw [readNumber, htake', hdrop', htake, hdrop, numberValue_ten hdigits]
  rfl

lemma readPort_toString (port : UInt16) :
    readPort (':' :: (toString port.toNat).toList) = some (port, []) := by
  have hdigits : ∀ c ∈ Nat.toDigits 10 port.toNat, c.isDigit = true :=
    fun c hc => Nat.isDigit_of_mem_toDigits (by decide) (by decide) hc
  have hvalue : digitsValue (Nat.toDigits 10 port.toNat) = port.toNat :=
    Nat.ofDigitChars_ten_toDigits
  have hread := readNumber_append none true UInt16.size hdigits stops_nil
  rw [List.append_nil, hvalue, if_pos (by simp [port.toNat_lt, UInt16.size])] at hread
  have hport : readU16 10 none (Nat.toDigits 10 port.toNat) = some (port, []) := by
    rw [readU16, map_eq_pure_bind]
    refine bind_eq_some.mpr ⟨_, _, hread, ?_⟩
    rw [UInt16.ofNat_toNat]
    rfl
  refine bind_eq_some.mpr ⟨(), _, readGivenChar_eq_some.mpr rfl, ?_⟩
  rw [Nat.toString_eq_repr, Nat.toList_repr]
  exact hport

/-- An address that is read alone is read with a port behind it. -/
theorem parseSocketAddr_v4 {s : String} {ip : Ipv4Addr} (h : parseIpv4Addr s = some ip)
    (port : UInt16) : parseSocketAddr (s ++ ":" ++ toString port.toNat) = some (.v4 ip port) := by
  have hread := (parseIpv4Addr_eq_some.mp h).2
  have hstops : Stops (':' :: (toString port.toNat).toList) := by
    intro c hc
    obtain rfl : ':' = c := by simpa using hc
    decide
  have hv4 : readSocketAddrV4 (s.toList ++ ':' :: (toString port.toNat).toList) =
      some (.v4 ip port, []) := by
    refine bind_eq_some.mpr ⟨ip, _, steady_readIpv4Addr _ _ _ _ hstops hread, ?_⟩
    exact bind_eq_some.mpr ⟨port, [], readPort_toString port, rfl⟩
  have htext : (s ++ ":" ++ toString port.toNat).toList =
      s.toList ++ ':' :: (toString port.toNat).toList := by
    simp
  refine parseWith_eq_some.mpr ?_
  rw [htext, readSocketAddr, hv4]
  rfl

end PcRemote.SocketText
