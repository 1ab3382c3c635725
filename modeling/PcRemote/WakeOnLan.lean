import Mathlib.Data.List.Forall2
import PcRemote.Delimited
import PcRemote.SocketText

/-! The packet that wakes the PC: it is made from the text of a hardware address, and it wakes the
machine with that address and no other. -/
namespace PcRemote.WakeOnLan
open Delimited SocketText Text

/-- A hardware address. -/
@[ext] structure Mac where
  bytes : List UInt8
  length_eq : bytes.length = 6
  deriving DecidableEq

def stripPlus : List Char → List Char
  | '+' :: cs => cs
  | cs => cs

/-- An unsigned number of radix 16; a leading plus sign is allowed. -/
def u8FromStrRadix16 (part : String) : Option UInt8 :=
  let digits := stripPlus part.toList
  if digits ≠ [] ∧ digits.all (isDigitOf 16) ∧ numberValue 16 digits < UInt8.size then
    some (UInt8.ofNat (numberValue 16 digits))
  else none

lemma mapM_eq_some {α β : Type} {f : α → Option β} {as : List α} {bs : List β} :
    as.mapM f = some bs ↔ List.Forall₂ (fun a b => f a = some b) as bs := by
  induction as generalizing bs with
  | nil => simp [eq_comm]
  | cons a as ih =>
    simp only [List.mapM_cons, Option.bind_eq_bind, Option.bind_eq_some_iff, Option.pure_def,
      Option.some.injEq, List.forall₂_cons_left_iff, ih]
    constructor
    · rintro ⟨b, hb, bs, hbs, rfl⟩
      exact ⟨b, bs, hb, hbs, rfl⟩
    · rintro ⟨b, bs, hb, hbs, rfl⟩
      exact ⟨b, hb, bs, hbs, rfl⟩

lemma length_of_mapM {α β : Type} {f : α → Option β} {as : List α} {bs : List β}
    (h : as.mapM f = some bs) : bs.length = as.length :=
  (mapM_eq_some.mp h).length_eq.symm

def parseMac (text : String) : Option Mac :=
  let parts := split ':' text
  if hlength : parts.length = 6 then
    match hbytes : parts.mapM u8FromStrRadix16 with
    | some bytes => some ⟨bytes, (length_of_mapM hbytes).trans hlength⟩
    | none => none
  else none

def magicPacket (mac : Mac) : List UInt8 :=
  List.replicate 6 0xFF ++ (List.replicate 16 mac.bytes).flatten

/-- What the socket does: whether it can be opened and set to broadcast, and how much of the packet
it sends. -/
structure Socket where
  bind : Bool
  setBroadcast : Bool
  sendTo : Option ℕ

structure Datagram where
  port : ℕ
  packet : List UInt8

inductive Error
  | invalidMac
  | socket
  | shortWrite (sent length : ℕ)

/-- The datagram goes to the broadcast address. -/
def sendWakeOnLan (macText : String) (port : ℕ) (socket : Socket) :
    Except Error Unit × List Datagram :=
  match parseMac macText with
  | none => (.error .invalidMac, [])
  | some mac =>
      let packet := magicPacket mac
      if socket.bind && socket.setBroadcast then
        match socket.sendTo with
        | some sent =>
            (if sent ≠ packet.length then .error (.shortWrite sent packet.length) else .ok (),
              [⟨port, packet⟩])
        | none => (.error .socket, [])
      else (.error .socket, [])

/-- Hexadecimal digits in any case, as many as there are, after a plus sign or none. -/
def PartOf (part : List Char) (b : UInt8) : Prop :=
  ∃ digits, (part = digits ∨ part = '+' :: digits) ∧ digits ≠ [] ∧
    (∀ c ∈ digits, isDigitOf 16 c = true) ∧ numberValue 16 digits = b.toNat

/-- Six parts with colons between them. -/
def TextOf (text : String) (mac : Mac) : Prop :=
  ∃ parts, text.toList = join ':' parts ∧ List.Forall₂ PartOf parts mac.bytes

lemma stripPlus_eq_iff {part digits : List Char} (h : ∀ c ∈ digits, isDigitOf 16 c = true) :
    stripPlus part = digits ↔ part = digits ∨ part = '+' :: digits := by
  constructor
  · rintro rfl
    unfold stripPlus
    split
    · exact .inr rfl
    · exact .inl rfl
  · rintro (rfl | rfl)
    · unfold stripPlus
      split
      · exact absurd (h '+' List.mem_cons_self) (by decide)
      · rfl
    · rfl

lemma u8FromStrRadix16_eq_some {part : List Char} {b : UInt8} :
    u8FromStrRadix16 (String.ofList part) = some b ↔ PartOf part b := by
  simp only [u8FromStrRadix16, String.toList_ofList, Option.ite_none_right_eq_some,
    Option.some.injEq, List.all_eq_true]
  constructor
  · rintro ⟨⟨hne, hdigits, hlt⟩, rfl⟩
    exact ⟨_, (stripPlus_eq_iff hdigits).mp rfl, hne, hdigits, (UInt8.toNat_ofNat_of_lt hlt).symm⟩
  · rintro ⟨digits, hpart, hne, hdigits, hvalue⟩
    rw [(stripPlus_eq_iff hdigits).mpr hpart, hvalue]
    exact ⟨⟨hne, hdigits, b.toNat_lt⟩, UInt8.ofNat_toNat⟩

lemma colon_notMem {part : List Char} {b : UInt8} (h : PartOf part b) : ':' ∉ part := by
  obtain ⟨digits, hpart, -, hdigits, -⟩ := h
  have hfree : ':' ∉ digits := fun hmem => absurd (hdigits ':' hmem) (by decide)
  rcases hpart with rfl | rfl
  · exact hfree
  · rw [List.mem_cons, not_or]
    exact ⟨by decide, hfree⟩

lemma forall₂_free {parts : List (List Char)} {bytes : List UInt8}
    (h : List.Forall₂ PartOf parts bytes) : Free ':' parts := by
  induction h with
  | nil => exact fun _ hmem => by cases hmem
  | cons hpart _ ih => exact Free.cons.mpr ⟨colon_notMem hpart, ih⟩

theorem parseMac_eq_some {text : String} {mac : Mac} :
    parseMac text = some mac ↔ TextOf text mac := by
  have hread : ∀ {parts : List (List Char)} {bytes : List UInt8},
      (parts.map String.ofList).mapM u8FromStrRadix16 = some bytes ↔
        List.Forall₂ PartOf parts bytes := by
    intro parts bytes
    rw [mapM_eq_some, List.forall₂_map_left_iff]
    simp only [u8FromStrRadix16_eq_some]
  constructor
  · intro h
    simp only [parseMac] at h
    split at h
    · split at h
      next bytes hbytes =>
        obtain rfl := Option.some.inj h
        exact ⟨_, (List.intercalate_splitOn ':').symm, hread.mp hbytes⟩
      · cases h
    · cases h
  · rintro ⟨parts, htext, hparts⟩
    have hlength : parts.length = 6 := hparts.length_eq.trans mac.length_eq
    have hne : parts ≠ [] := by
      rintro rfl
      cases hlength
    have hsplit : split ':' text = parts.map String.ofList := by
      rw [split, (splitOn_eq_iff hne).mpr ⟨htext, forall₂_free hparts⟩]
    have hbytes := hread.mpr hparts
    rw [← hsplit] at hbytes
    simp only [parseMac]
    rw [dif_pos (by rw [hsplit, List.length_map, hlength])]
    split
    next bytes' hbytes' =>
      rw [hbytes, Option.some.injEq] at hbytes'
      exact congrArg some (Mac.ext hbytes'.symm)
    next hnone =>
      rw [hbytes] at hnone
      cases hnone

example : (parseMac "AA:bB:0c:+d:0000E:f").map Mac.bytes =
    some [0xAA, 0xBB, 0x0C, 0x0D, 0x0E, 0x0F] := by decide

/-- A machine looks for six bytes of ones and sixteen copies of its address anywhere in a packet. -/
def Wakes (packet : List UInt8) (mac : Mac) : Prop :=
  ∃ pre post, packet = pre ++ magicPacket mac ++ post

lemma length_magicPacket (mac : Mac) : (magicPacket mac).length = 102 := by
  simp [magicPacket, mac.length_eq]

lemma magicPacket_injective : Function.Injective magicPacket := by
  intro mac mac' h
  have hcopies := (List.append_inj h rfl).2
  rw [List.replicate_succ, List.replicate_succ, List.flatten_cons, List.flatten_cons] at hcopies
  exact Mac.ext (List.append_inj hcopies (mac.length_eq.trans mac'.length_eq.symm)).1

lemma wakes_magicPacket {mac mac' : Mac} : Wakes (magicPacket mac) mac' ↔ mac' = mac := by
  constructor
  · rintro ⟨pre, post, h⟩
    have hlength := congrArg List.length h
    rw [List.length_append, List.length_append, length_magicPacket, length_magicPacket] at hlength
    obtain rfl : pre = [] := List.length_eq_zero_iff.mp (by omega)
    obtain rfl : post = [] := List.length_eq_zero_iff.mp (by omega)
    rw [List.nil_append, List.append_nil] at h
    exact (magicPacket_injective h).symm
  · rintro rfl
    exact ⟨[], [], by rw [List.nil_append, List.append_nil]⟩

/-- A packet is sent exactly if the text is that of an address and the socket takes it; it wakes
the machine with that address and no other. -/
theorem wakes_the_machine (macText : String) (port : ℕ) (socket : Socket) :
    let r := sendWakeOnLan macText port socket
    (∀ d ∈ r.2, d.port = port ∧ d.packet.length = 102 ∧ ∃ mac, TextOf macText mac ∧
      ∀ mac', Wakes d.packet mac' ↔ mac' = mac) ∧
    (r.2 ≠ [] ↔ (∃ mac, TextOf macText mac) ∧ socket.bind = true ∧ socket.setBroadcast = true ∧
      socket.sendTo ≠ none) ∧
    (r.1 = .ok () ↔ r.2 ≠ [] ∧ socket.sendTo = some 102) ∧
    (r.1 = .error .invalidMac ↔ ¬ ∃ mac, TextOf macText mac) := by
  simp only [← parseMac_eq_some, sendWakeOnLan]
  cases hparse : parseMac macText with
  | none => simp
  | some mac =>
    obtain ⟨bind, setBroadcast, sendTo⟩ := socket
    cases bind with
    | false => simp
    | true =>
      cases setBroadcast with
      | false => simp
      | true =>
        cases sendTo with
        | none => simp
        | some sent =>
          by_cases hsent : sent = 102 <;> simp [hsent, length_magicPacket, wakes_magicPacket]

end PcRemote.WakeOnLan
