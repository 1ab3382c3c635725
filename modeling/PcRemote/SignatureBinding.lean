import PcRemote.Delimited
import PcRemote.OtaManifest

/-! What a signature is bound to. The two kinds of signed text are lines joined by newlines,
so a signature stands for one request, or for one manifest, only as far as the lines can be
read back from the text. Collisions of the MAC are left out by assumption. -/
namespace PcRemote
open Text

namespace Signing
open Delimited

variable (C : Crypto)

lemma toList_canonicalString (method path : String) (timestamp : ℤ) (nonce : String)
    (body : List UInt8) :
    (canonicalString C method path timestamp nonce body).toList =
      join '\n' ([(toAsciiUppercase method).toList, path.toList, (toString timestamp).toList] ++
        nonce.toList :: [(bodySha256Hex C body).toList]) := by
  simp [canonicalString, join]

variable {C}

lemma verifySignature_iff {secret : List UInt8} {method path : String} {timestamp : ℤ}
    {nonce : String} {body : List UInt8} {signatureHex : String} :
    verifySignature C secret method path timestamp nonce body signatureHex = true ↔
      hexDecode signatureHex =
        some (C.hmacSha256 secret (utf8 (canonicalString C method path timestamp nonce body))) := by
  unfold verifySignature
  cases hexDecode signatureHex with
  | none => simp
  | some expected => rw [beq_iff_eq, Option.some.injEq, eq_comm]

/-- The method, path and timestamp are read from the left and the digest from the right, so the
nonce may contain anything. -/
theorem covered_of_canonicalString_eq {m₁ m₂ p₁ p₂ n₁ n₂ : String} {t₁ t₂ : ℤ}
    {b₁ b₂ : List UInt8} (hm₁ : '\n' ∉ m₁.toList) (hm₂ : '\n' ∉ m₂.toList)
    (hp₁ : '\n' ∉ p₁.toList) (hp₂ : '\n' ∉ p₂.toList)
    (h : canonicalString C m₁ p₁ t₁ n₁ b₁ = canonicalString C m₂ p₂ t₂ n₂ b₂) :
    toAsciiUppercase m₁ = toAsciiUppercase m₂ ∧ p₁ = p₂ ∧ t₁ = t₂ ∧ n₁ = n₂ ∧
      bodySha256Hex C b₁ = bodySha256Hex C b₂ := by
  have hlines := congrArg String.toList h
  rw [toList_canonicalString, toList_canonicalString] at hlines
  have hfree : ∀ {m p : String} (t : ℤ), '\n' ∉ m.toList → '\n' ∉ p.toList →
      Free '\n' [(toAsciiUppercase m).toList, p.toList, (toString t).toList] := by
    intro m p t hm hp
    rw [Free.cons, Free.cons]
    exact ⟨newline_notMem_toAsciiUppercase hm, hp,
      by simpa [Free] using newline_notMem_toString_int t⟩
  have hdigest : ∀ b, Free '\n' [(bodySha256Hex C b).toList] := by
    intro b
    simp [Free, bodySha256Hex, newline_notMem_hexEncode]
  obtain ⟨hhead, hnonce, hbody⟩ := eq_of_join_around (by rfl) (by rfl) (hfree t₁ hm₁ hp₁)
    (hfree t₂ hm₂ hp₂) (hdigest b₁) (hdigest b₂) hlines
  simp only [List.cons.injEq, String.toList_inj, and_true] at hhead hnonce hbody
  exact ⟨hhead.1, hhead.2.1, toString_int_injective hhead.2.2, hnonce, hbody⟩

end Signing

namespace OtaManifest
open Signing Delimited

def tag : String := "FIRMWARE-MANIFEST-v1"

lemma toList_canonicalString (version : String) (size : UInt64) (sha256Hex createdAt : String) :
    (OtaManifest.canonicalString version size sha256Hex createdAt).toList =
      join '\n' [tag.toList, version.toList, (toString size).toList, sha256Hex.toList,
        createdAt.toList] := by
  have htag : "FIRMWARE-MANIFEST-v1\n" = tag ++ "\n" := by decide
  have hnewline : "\n".toList = ['\n'] := by decide
  unfold OtaManifest.canonicalString
  simp only [htag, String.toList_append, hnewline, List.append_assoc, List.cons_append,
    List.nil_append, join_cons _ (List.cons_ne_nil _ _), join_singleton]

variable {C : Crypto}

lemma verifyManifestSignature_iff {secret : List UInt8} {version : String} {size : UInt64}
    {sha256Hex createdAt signatureHex : String} :
    verifyManifestSignature C secret version size sha256Hex createdAt signatureHex = true ↔
      hexDecode signatureHex =
        some (C.hmacSha256 secret (utf8 (canonicalString version size sha256Hex createdAt))) := by
  unfold verifyManifestSignature
  cases hexDecode signatureHex with
  | none => simp
  | some expected => rw [beq_iff_eq, Option.some.injEq, eq_comm]

/-- The tag has a lower-case letter in its first line, and a method has none in its own. -/
theorem canonicalString_ne_request (method path : String) (timestamp : ℤ) (nonce : String)
    (body : List UInt8) (version : String) (size : UInt64) (sha256Hex createdAt : String) :
    Signing.canonicalString C method path timestamp nonce body ≠
      canonicalString version size sha256Hex createdAt := by
  intro h
  have hlines := congrArg String.toList h.symm
  rw [Signing.toList_canonicalString, toList_canonicalString, join_cons _ (by simp),
    List.cons_append, join_cons _ (by simp)] at hlines
  have hprefix := prefix_of_append_cons (by decide) hlines
  have hv : 'v' ∈ (toAsciiUppercase method).toList := hprefix.subset (by decide)
  exact not_lower_of_mem_toAsciiUppercase hv (by decide)

end OtaManifest

/-- A MAC without collisions that is HMAC-SHA256 on one message; elsewhere its values are longer
than a digest. -/
def Signing.Crypto.fixing (message : List UInt8) : Crypto where
  sha256 := Sha256.digest
  hmacSha256 secret m :=
    if m = message then Sha256.hmac secret message else m ++ List.replicate 33 0

lemma Signing.Crypto.fixing_injective (message secret : List UInt8) :
    Function.Injective ((Crypto.fixing message).hmacSha256 secret) := by
  have hlong : ∀ m : List UInt8, m ++ List.replicate 33 0 ≠ Sha256.hmac secret message := by
    intro m h
    have hlen := congrArg List.length h
    rw [Sha256.hmac, Sha256.length_digest, List.length_append, List.length_replicate] at hlen
    omega
  intro a b h
  simp only [Crypto.fixing] at h
  split_ifs at h with ha hb hb
  · rw [ha, hb]
  · exact absurd h.symm (hlong b)
  · exact absurd h (hlong a)
  · exact List.append_cancel_right h

lemma Signing.Crypto.fixing_ne_nil (message secret m : List UInt8) :
    (Crypto.fixing message).hmacSha256 secret m ≠ [] := by
  intro h
  have hlen := congrArg List.length h
  simp only [Crypto.fixing] at hlen
  split_ifs at hlen
  · rw [Sha256.hmac, Sha256.length_digest, List.length_nil] at hlen
    omega
  · simp at hlen

section Binding
open Signing OtaManifest

lemma canonicalString_eq_of_verifySignature {C : Crypto} {secret : List UInt8}
    (hmac : Function.Injective (C.hmacSha256 secret)) {m₁ m₂ p₁ p₂ n₁ n₂ : String} {t₁ t₂ : ℤ}
    {b₁ b₂ : List UInt8} {signatureHex : String}
    (h₁ : verifySignature C secret m₁ p₁ t₁ n₁ b₁ signatureHex = true)
    (h₂ : verifySignature C secret m₂ p₂ t₂ n₂ b₂ signatureHex = true) :
    Signing.canonicalString C m₁ p₁ t₁ n₁ b₁ = Signing.canonicalString C m₂ p₂ t₂ n₂ b₂ := by
  rw [verifySignature_iff] at h₁ h₂
  rw [h₁] at h₂
  exact utf8_injective (hmac (Option.some.inj h₂))

/-- A request signature covers one method up to case, path, timestamp, nonce and body digest. -/
theorem request_signature_binding (C : Crypto) {m₁ m₂ p₁ p₂ : String} (t₁ t₂ : ℤ)
    (n₁ n₂ : String) (b₁ b₂ : List UInt8) (hm₁ : '\n' ∉ m₁.toList) (hm₂ : '\n' ∉ m₂.toList)
    (hp₁ : '\n' ∉ p₁.toList) (hp₂ : '\n' ∉ p₂.toList) :
    (Signing.canonicalString C m₁ p₁ t₁ n₁ b₁ = Signing.canonicalString C m₂ p₂ t₂ n₂ b₂ →
      toAsciiUppercase m₁ = toAsciiUppercase m₂ ∧ p₁ = p₂ ∧ t₁ = t₂ ∧ n₁ = n₂ ∧
        bodySha256Hex C b₁ = bodySha256Hex C b₂) ∧
    ∀ secret signatureHex, Function.Injective (C.hmacSha256 secret) →
      verifySignature C secret m₁ p₁ t₁ n₁ b₁ signatureHex = true →
      verifySignature C secret m₂ p₂ t₂ n₂ b₂ signatureHex = true →
      toAsciiUppercase m₁ = toAsciiUppercase m₂ ∧ p₁ = p₂ ∧ t₁ = t₂ ∧ n₁ = n₂ ∧
        bodySha256Hex C b₁ = bodySha256Hex C b₂ := by
  refine ⟨covered_of_canonicalString_eq hm₁ hm₂ hp₁ hp₂, ?_⟩
  intro secret signatureHex hmac h₁ h₂
  exact covered_of_canonicalString_eq hm₁ hm₂ hp₁ hp₂
    (canonicalString_eq_of_verifySignature hmac h₁ h₂)

def signedText : String :=
  Signing.canonicalString .standard "POST" "/reboot" 1700000000 "1f-2a" (utf8 "{}")

/-- HMAC-SHA256 on the request of the cases below. -/
def rebootCrypto : Crypto := .fixing (utf8 signedText)

def rebootSignature : String :=
  signRequest rebootCrypto [1, 2, 3] "POST" "/reboot" 1700000000 "1f-2a" (utf8 "{}")

lemma verifySignature_rebootSignature : verifySignature rebootCrypto [1, 2, 3] "POST" "/reboot"
    1700000000 "1f-2a" (utf8 "{}") rebootSignature = true := verifySignature_signRequest ..

lemma verifySignature_rebootSignature_post : verifySignature rebootCrypto [1, 2, 3] "post" "/reboot"
    1700000000 "1f-2a" (utf8 "{}") rebootSignature = true := by
  have hcase : toAsciiUppercase "post" = toAsciiUppercase "POST" := by decide
  have hsigned := verifySignature_rebootSignature
  rw [verifySignature_iff] at hsigned ⊢
  rwa [Signing.canonicalString, hcase]

theorem request_signature_binding_post :
    toAsciiUppercase "POST" = toAsciiUppercase "post" ∧ "/reboot" = "/reboot" ∧
      (1700000000 : ℤ) = 1700000000 ∧ "1f-2a" = "1f-2a" ∧
      bodySha256Hex rebootCrypto (utf8 "{}") = bodySha256Hex rebootCrypto (utf8 "{}") :=
  (request_signature_binding rebootCrypto _ _ _ _ _ _ (by decide) (by decide) (by decide)
    (by decide)).2 [1, 2, 3] rebootSignature (Crypto.fixing_injective _ _)
      verifySignature_rebootSignature verifySignature_rebootSignature_post

/-- The same secret signs requests and manifests, but no text of one kind is one of the other. -/
theorem signatures_domain_separated (C : Crypto) (method path : String) (timestamp : ℤ)
    (nonce : String) (body : List UInt8) (version : String) (size : UInt64)
    (sha256Hex createdAt : String) :
    Signing.canonicalString C method path timestamp nonce body ≠
      OtaManifest.canonicalString version size sha256Hex createdAt ∧
    ∀ secret, Function.Injective (C.hmacSha256 secret) →
      verifyManifestSignature C secret version size sha256Hex createdAt
        (signRequest C secret method path timestamp nonce body) = false ∧
      verifySignature C secret method path timestamp nonce body
        (signManifest C secret version size sha256Hex createdAt) = false ∧
      ∀ signatureHex,
        ¬ (verifySignature C secret method path timestamp nonce body signatureHex = true ∧
          verifyManifestSignature C secret version size sha256Hex createdAt signatureHex = true) := by
  have hne := canonicalString_ne_request (C := C) method path timestamp nonce body version size
    sha256Hex createdAt
  refine ⟨hne, ?_⟩
  intro secret hmac
  have hdisjoint : ∀ signatureHex,
      ¬ (verifySignature C secret method path timestamp nonce body signatureHex = true ∧
        verifyManifestSignature C secret version size sha256Hex createdAt signatureHex = true) := by
    rintro signatureHex ⟨hrequest, hmanifest⟩
    rw [verifySignature_iff] at hrequest
    rw [verifyManifestSignature_iff, hrequest] at hmanifest
    exact hne (utf8_injective (hmac (Option.some.inj hmanifest)))
  refine ⟨?_, ?_, hdisjoint⟩
  · rw [Bool.eq_false_iff]
    exact fun h => hdisjoint _ ⟨verifySignature_signRequest .., h⟩
  · rw [Bool.eq_false_iff]
    exact fun h => hdisjoint _ ⟨h, verifyManifestSignature_signManifest ..⟩

theorem signatures_domain_separated_reboot :
    verifyManifestSignature rebootCrypto [1, 2, 3] "0.2.0" 19 "00" "1970" rebootSignature = false :=
  ((signatures_domain_separated rebootCrypto "POST" "/reboot" 1700000000 "1f-2a" (utf8 "{}")
    "0.2.0" 19 "00" "1970").2 _ (Crypto.fixing_injective _ _)).1

end Binding

end PcRemote
