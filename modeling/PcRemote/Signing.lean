import PcRemote.Sha256
import PcRemote.Text

/-! The request signature. The firmware signs and the bridge verifies the same canonical
string, so both sides are defined from it. -/
namespace PcRemote.Signing
open Text

/-- SHA-256 and HMAC-SHA256, which both programs take from their dependencies. -/
structure Crypto where
  sha256 : List UInt8 → List UInt8
  hmacSha256 : List UInt8 → List UInt8 → List UInt8

def Crypto.standard : Crypto := ⟨Sha256.digest, Sha256.hmac⟩

variable (C : Crypto)

def bodySha256Hex (body : List UInt8) : String := hexEncode (C.sha256 body)

def canonicalString (method path : String) (timestamp : ℤ) (nonce : String)
    (body : List UInt8) : String :=
  toAsciiUppercase method ++ "\n" ++ path ++ "\n" ++ toString timestamp ++ "\n" ++ nonce ++
    "\n" ++ bodySha256Hex C body

def signRequest (secret : List UInt8) (method path : String) (timestamp : ℤ) (nonce : String)
    (body : List UInt8) : String :=
  hexEncode (C.hmacSha256 secret (utf8 (canonicalString C method path timestamp nonce body)))

/-- A signature that is not hexadecimal verifies nothing. -/
def verifySignature (secret : List UInt8) (method path : String) (timestamp : ℤ)
    (nonce : String) (body : List UInt8) (signatureHex : String) : Bool :=
  match hexDecode signatureHex with
  | none => false
  | some expected =>
      C.hmacSha256 secret (utf8 (canonicalString C method path timestamp nonce body)) == expected

theorem verifySignature_signRequest (secret : List UInt8) (method path : String)
    (timestamp : ℤ) (nonce : String) (body : List UInt8) :
    verifySignature C secret method path timestamp nonce body
      (signRequest C secret method path timestamp nonce body) = true := by
  simp [verifySignature, signRequest, hexDecode_encode]

end PcRemote.Signing
