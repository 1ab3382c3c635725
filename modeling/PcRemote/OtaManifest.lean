import PcRemote.ConfigValidation
import PcRemote.Signing

/-! The manifest of an offered firmware: its fields, its signature, and what an image and the
reports on its download are measured against. -/
namespace PcRemote
open Text Signing

structure OtaManifest where
  version : String
  size : UInt64
  sha256 : String
  createdAt : String
  signature : String
  deriving DecidableEq, Repr

inductive OtaManifestError
  | invalidJson (reason : String)
  | invalidField (field : String)
  | signatureMismatch
  deriving DecidableEq, Repr

inductive OtaImageError
  | sizeMismatch (expected actual : UInt64)
  | shaMismatch
  deriving DecidableEq, Repr

namespace OtaManifest

def canonicalString (version : String) (size : UInt64) (sha256Hex createdAt : String) : String :=
  "FIRMWARE-MANIFEST-v1\n" ++ version ++ "\n" ++ toString size ++ "\n" ++ sha256Hex ++ "\n" ++
    createdAt

def checkManifestFields (m : OtaManifest) : Except OtaManifestError Unit :=
  if m.version = "" then .error (.invalidField "version")
  else if m.size = 0 then .error (.invalidField "size")
  else if (utf8 m.sha256).length ≠ 64 ∨ hexDecode m.sha256 = none then
    .error (.invalidField "sha256")
  else if m.createdAt = "" then .error (.invalidField "created_at")
  else if m.signature = "" then .error (.invalidField "signature")
  else .ok ()

/-- The JSON decoder gives a manifest, or where it failed. -/
def parseManifestJson (decode : List UInt8 → Except String OtaManifest) (bytes : List UInt8) :
    Except OtaManifestError OtaManifest :=
  match decode bytes with
  | .error reason => .error (.invalidJson reason)
  | .ok m => (m.checkManifestFields).map fun _ => m

section Signature
variable (C : Crypto)

def signManifest (secret : List UInt8) (version : String) (size : UInt64)
    (sha256Hex createdAt : String) : String :=
  hexEncode (C.hmacSha256 secret (utf8 (canonicalString version size sha256Hex createdAt)))

def verifyManifestSignature (secret : List UInt8) (version : String) (size : UInt64)
    (sha256Hex createdAt signatureHex : String) : Bool :=
  match hexDecode signatureHex with
  | none => false
  | some expected =>
      C.hmacSha256 secret (utf8 (canonicalString version size sha256Hex createdAt)) == expected

def verifyManifest (m : OtaManifest) (secret : List UInt8) : Except OtaManifestError Unit :=
  if verifyManifestSignature C secret m.version m.size m.sha256 m.createdAt m.signature then .ok ()
  else .error .signatureMismatch

theorem verifyManifestSignature_signManifest (secret : List UInt8) (version : String)
    (size : UInt64) (sha256Hex createdAt : String) :
    verifyManifestSignature C secret version size sha256Hex createdAt
      (signManifest C secret version size sha256Hex createdAt) = true := by
  simp [verifyManifestSignature, signManifest, hexDecode_encode]

end Signature

def verifyOtaImage (m : OtaManifest) (actualSize : UInt64) (actualSha256Hex : String) :
    Except OtaImageError Unit :=
  if actualSize ≠ m.size then .error (.sizeMismatch m.size actualSize)
  else if actualSha256Hex ≠ m.sha256 then .error .shaMismatch
  else .ok ()

lemma verifyOtaImage_eq_ok {m : OtaManifest} {size : UInt64} {sha256Hex : String}
    (h : verifyOtaImage m size sha256Hex = .ok ()) : size = m.size ∧ sha256Hex = m.sha256 := by
  unfold verifyOtaImage at h
  split_ifs at h with hsize hsha
  exact ⟨not_not.mp hsize, not_not.mp hsha⟩

def otaProgressPercent (received total : UInt64) : ℕ :=
  if total = 0 then 0 else min received.toNat total.toNat * 100 / total.toNat

def otaProgressStepPercent : ℕ := 5

def otaProgressText (version : String) (received total : UInt64) : String :=
  let cells := 100 / otaProgressStepPercent
  let percent := otaProgressPercent received total
  let filled := min ((percent * cells + 99) / 100) cells
  "firmware更新中 (" ++ version ++ ")\n[" ++ String.ofList (List.replicate filled '█') ++
    String.ofList (List.replicate (cells - filled) '░') ++ "] " ++ toString percent ++ "%  " ++
    toString (received / 1024) ++ "KB / " ++ toString (total / 1024) ++ "KB"

def otaApplyingText (version : String) : String :=
  "firmware更新を適用します。M5Stackを再起動します (" ++ version ++ ")"

end OtaManifest

end PcRemote
