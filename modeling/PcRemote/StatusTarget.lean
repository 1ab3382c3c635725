import PcRemote.ConfigValidation
import PcRemote.SocketText

/-! The address of the STATUS check, put together from the validated address of the PC and a port:
it is always read as an address, so no name is ever resolved for it. -/
namespace PcRemote.ConfigValidation
open Text SocketText

def parseStatusSocketAddr (addrText : String) : Option SocketAddr :=
  parseSocketAddr (trim addrText)

/-- The resolver runs with effects of its own; for an address it does not run. -/
def resolveStatusAddrWith {m : Type → Type} [Monad m] (addrText : String)
    (resolveHostname : String → m (List SocketAddr)) : m (List SocketAddr) :=
  match parseSocketAddr (trim addrText) with
  | some addr => pure [addr]
  | none => resolveHostname (trim addrText)

lemma resolveStatusAddrWith_of_parse {m : Type → Type} [Monad m] {addrText : String}
    {addr : SocketAddr} (h : parseStatusSocketAddr addrText = some addr)
    (resolveHostname : String → m (List SocketAddr)) :
    resolveStatusAddrWith addrText resolveHostname = pure [addr] := by
  unfold parseStatusSocketAddr at h
  unfold resolveStatusAddrWith
  rw [h]

/-- What is asked of the digits of an octet. -/
lemma isOctet_iff {part : List Char} :
    isOctet (String.ofList part) = true ↔ (∀ c ∈ part, c.isDigit = true) ∧
      (part != [] && (some 3).all (part.length ≤ ·) &&
        (false || part.length == 1 || part.head? != some '0') &&
        digitsValue part < UInt8.size) = true := by
  by_cases hdigits : ∀ c ∈ part, c.isDigit = true
  · cases part with
    | nil => simp [isOctet, parseDigits]
    | cons c cs =>
      have hsome : parseDigits (c :: cs) = some (digitsValue (c :: cs)) :=
        if_pos ⟨List.cons_ne_nil c cs, List.all_eq_true.mpr hdigits⟩
      have hbound : ∀ n, n ≤ 255 ↔ n < UInt8.size := fun n => Nat.lt_succ_iff.symm
      have hall : (∀ x ∈ c :: cs, x.isDigit = true) ↔ True := iff_true_intro hdigits
      simp only [isOctet, String.toList_ofList, hsome, Option.any_some, hbound, hall, true_and,
        Option.all_some, Bool.false_or]
      simp
  · have hnone : parseDigits part = none :=
      if_neg fun h => hdigits (List.all_eq_true.mp h.2)
    simp [isOctet, hnone, hdigits]

lemma digits_of_isOctet {part : List Char} (h : isOctet (String.ofList part) = true) :
    ∀ c ∈ part, c.isDigit = true := (isOctet_iff.mp h).1

lemma readOctet_append {part rest : List Char} (h : isOctet (String.ofList part) = true)
    (hrest : Stops rest) :
    readOctet (part ++ rest) = some (UInt8.ofNat (digitsValue part), rest) := by
  obtain ⟨hdigits, hallowed⟩ := isOctet_iff.mp h
  have hread := readNumber_append (some 3) false UInt8.size hdigits hrest
  rw [if_pos hallowed] at hread
  rw [readOctet, readU8, map_eq_pure_bind]
  exact bind_eq_some.mpr ⟨_, _, hread, rfl⟩

lemma isOctet_of_readOctet {cs rest : List Char} {o : UInt8} (h : readOctet cs = some (o, rest)) :
    ∃ part, cs = part ++ rest ∧ isOctet (String.ofList part) = true := by
  rw [readOctet, readU8, map_eq_pure_bind] at h
  obtain ⟨n, mid, hread, hmid⟩ := bind_eq_some.mp h
  obtain ⟨-, rfl⟩ := Prod.mk.inj (Option.some.inj hmid)
  have hdigits : ∀ c ∈ cs.takeWhile (isDigitOf 10), c.isDigit = true :=
    fun c hc => (isDigitOf_ten c).symm.trans (List.mem_takeWhile_imp hc)
  simp only [readNumber, numberValue_ten hdigits, Option.ite_none_right_eq_some,
    Option.some.injEq, Prod.mk.injEq] at hread
  obtain ⟨hallowed, -, rfl⟩ := hread
  exact ⟨_, List.takeWhile_append_dropWhile.symm, isOctet_iff.mpr ⟨hdigits, hallowed⟩⟩

lemma dot_notMem {part : List Char} (h : isOctet (String.ofList part) = true) : '.' ∉ part :=
  fun hmem => absurd (digits_of_isOctet h _ hmem) (by decide)

lemma stops_dot (t : List Char) : Stops ('.' :: t) := by
  intro c hc
  obtain rfl : '.' = c := by simpa using hc
  decide

/-- The characters of an address. -/
lemma mem_of_isIpv4 {s : String} (h : isIpv4 s = true) {c : Char} (hc : c ∈ s.toList) :
    c = '.' ∨ c.isDigit = true := by
  obtain ⟨a, b, c', d, htext, hoctets⟩ := octets_of_isIpv4 h
  have hdigits : ∀ part ∈ [a, b, c', d], c ∈ part → c.isDigit = true :=
    fun part hpart hmem => (isOctet_iff.mp (hoctets part hpart)).1 c hmem
  rw [htext] at hc
  simp only [List.mem_append, List.mem_cons] at hc
  rcases hc with hmem | rfl | hmem | rfl | hmem | rfl | hmem
  · exact .inr (hdigits a (by simp) hmem)
  · exact .inl rfl
  · exact .inr (hdigits b (by simp) hmem)
  · exact .inl rfl
  · exact .inr (hdigits c' (by simp) hmem)
  · exact .inl rfl
  · exact .inr (hdigits d (by simp) hmem)

lemma isGraphic_of_isIpv4 {s : String} (h : isIpv4 s = true) {c : Char} (hc : c ∈ s.toList) :
    isGraphic c = true := by
  rcases mem_of_isIpv4 h hc with rfl | hdigit
  · decide
  · exact isGraphic_of_isDigit hdigit

lemma length_utf8_of_isIpv4 {s : String} (h : isIpv4 s = true) : (utf8 s).length ≤ 15 := by
  have hascii : ∀ c ∈ s.toList, c.toNat < 128 := by
    intro c hc
    have hgraphic := isGraphic_of_isIpv4 h hc
    simp only [isGraphic, Bool.and_eq_true, decide_eq_true_eq] at hgraphic
    omega
  have hbytes := utf8_ofList_of_ascii hascii
  rw [String.ofList_toList] at hbytes
  rw [hbytes, List.length_map]
  exact length_le_of_isIpv4 h

/-- The validated texts are the texts of addresses. -/
theorem isIpv4_iff (s : String) : isIpv4 s = true ↔ ∃ ip, parseIpv4Addr s = some ip := by
  constructor
  · intro h
    obtain ⟨a, b, c, d, htext, hoctets⟩ := octets_of_isIpv4 h
    have ha := readOctet_append (hoctets a (by simp)) (stops_dot (b ++ '.' :: (c ++ '.' :: d)))
    have hb := readOctet_append (hoctets b (by simp)) (stops_dot (c ++ '.' :: d))
    have hc := readOctet_append (hoctets c (by simp)) (stops_dot d)
    have hd := readOctet_append (hoctets d (by simp)) stops_nil
    rw [List.append_nil] at hd
    have hread : readIpv4Addr s.toList = some (⟨UInt8.ofNat (digitsValue a),
        UInt8.ofNat (digitsValue b), UInt8.ofNat (digitsValue c),
        UInt8.ofNat (digitsValue d)⟩, []) := by
      rw [htext]
      exact readIpv4Addr_eq_some.mpr ⟨_, _, _, ha, hb, hc, hd⟩
    exact ⟨_, parseIpv4Addr_eq_some.mpr ⟨length_utf8_of_isIpv4 h, hread⟩⟩
  · rintro ⟨ip, hip⟩
    obtain ⟨u, v, w, ha, hb, hc, hd⟩ := readIpv4Addr_eq_some.mp (parseIpv4Addr_eq_some.mp hip).2
    obtain ⟨a, htext, hoa⟩ := isOctet_of_readOctet ha
    obtain ⟨b, rfl, hob⟩ := isOctet_of_readOctet hb
    obtain ⟨c, rfl, hoc⟩ := isOctet_of_readOctet hc
    obtain ⟨d, rfl, hod⟩ := isOctet_of_readOctet hd
    have hsplit : split '.' s = [String.ofList a, String.ofList b, String.ofList c,
        String.ofList d] := by
      rw [split, htext, List.append_nil, List.splitOn_append_cons_self_of_not_mem (dot_notMem hoa),
        List.splitOn_append_cons_self_of_not_mem (dot_notMem hob),
        List.splitOn_append_cons_self_of_not_mem (dot_notMem hoc),
        List.splitOn_eq_singleton (dot_notMem hod)]
      rfl
    simp [isIpv4, hsplit, hoa, hob, hoc, hod]

lemma trim_of_isIpv4 {s : String} (h : isIpv4 s = true) : trim s = s := by
  have htrim : trim (String.ofList s.toList) = String.ofList s.toList :=
    trim_ofList_of_isGraphic fun c hc => isGraphic_of_isIpv4 h hc
  rwa [String.ofList_toList] at htrim

lemma trim_composeStatusAddr {s : String} (h : isIpv4 s = true) (port : ℕ) :
    trim (composeStatusAddr s port) = s ++ ":" ++ toString port := by
  rw [composeStatusAddr, trim_of_isIpv4 h]
  have hgraphic : ∀ c ∈ (s ++ ":" ++ toString port).toList, isGraphic c = true := by
    intro c hc
    rw [String.toList_append, String.toList_append, List.mem_append, List.mem_append] at hc
    rcases hc with (hc | hc) | hc
    · exact isGraphic_of_isIpv4 h hc
    · obtain rfl : c = ':' := by simpa using hc
      decide
    · rw [Nat.toString_eq_repr, Nat.toList_repr] at hc
      exact isGraphic_of_isDigit (Nat.isDigit_of_mem_toDigits (by decide) (by decide) hc)
  have htrim := trim_ofList_of_isGraphic hgraphic
  rwa [String.ofList_toList] at htrim

/-- An address that validation has accepted is read back with its port, and nothing is resolved. -/
theorem validated_address_needs_no_resolver {input s : String} (h : validateIpv4 input = .ok s)
    (port : UInt16) :
    ∃ ip, parseIpv4Addr (trim input) = some ip ∧
      parseStatusSocketAddr (composeStatusAddr s port.toNat) = some (.v4 ip port) ∧
      ∀ (m : Type → Type) [Monad m] (resolveHostname : String → m (List SocketAddr)),
        resolveStatusAddrWith (composeStatusAddr s port.toNat) resolveHostname =
          pure [.v4 ip port] := by
  obtain ⟨hip, rfl⟩ := validateIpv4_eq_ok.mp h
  obtain ⟨ip, hparse⟩ := (isIpv4_iff _).mp hip
  have hread := parseSocketAddr_v4 hparse port
  have haddr : parseStatusSocketAddr (composeStatusAddr (trim input) port.toNat) =
      some (.v4 ip port) := by
    rw [parseStatusSocketAddr, trim_composeStatusAddr hip, hread]
  exact ⟨ip, hparse, haddr, fun m _ => resolveStatusAddrWith_of_parse haddr⟩

theorem validated_address_needs_no_resolver_padded :
    ∃ ip, parseIpv4Addr (trim " 192.168.1.50\n") = some ip ∧
      parseStatusSocketAddr (composeStatusAddr "192.168.1.50" (8080 : UInt16).toNat) =
        some (.v4 ip 8080) ∧
      ∀ (m : Type → Type) [Monad m] (resolveHostname : String → m (List SocketAddr)),
        resolveStatusAddrWith (composeStatusAddr "192.168.1.50" (8080 : UInt16).toNat)
          resolveHostname = pure [.v4 ip 8080] := by
  have haccepted : validateIpv4 " 192.168.1.50\n" = .ok "192.168.1.50" :=
    validateIpv4_eq_ok.mpr ⟨by decide, by decide⟩
  exact validated_address_needs_no_resolver haccepted 8080

end PcRemote.ConfigValidation
