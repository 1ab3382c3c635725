import Mathlib.Data.List.Basic

/-! SHA-256 on lists of bytes, with words as 32-bit machine integers, and HMAC over it. -/
namespace PcRemote.Sha256

def roundConstants : List UInt32 :=
  [0x428a2f98, 0x71374491, 0xb5c0fbcf, 0xe9b5dba5, 0x3956c25b, 0x59f111f1, 0x923f82a4, 0xab1c5ed5,
   0xd807aa98, 0x12835b01, 0x243185be, 0x550c7dc3, 0x72be5d74, 0x80deb1fe, 0x9bdc06a7, 0xc19bf174,
   0xe49b69c1, 0xefbe4786, 0x0fc19dc6, 0x240ca1cc, 0x2de92c6f, 0x4a7484aa, 0x5cb0a9dc, 0x76f988da,
   0x983e5152, 0xa831c66d, 0xb00327c8, 0xbf597fc7, 0xc6e00bf3, 0xd5a79147, 0x06ca6351, 0x14292967,
   0x27b70a85, 0x2e1b2138, 0x4d2c6dfc, 0x53380d13, 0x650a7354, 0x766a0abb, 0x81c2c92e, 0x92722c85,
   0xa2bfe8a1, 0xa81a664b, 0xc24b8b70, 0xc76c51a3, 0xd192e819, 0xd6990624, 0xf40e3585, 0x106aa070,
   0x19a4c116, 0x1e376c08, 0x2748774c, 0x34b0bcb5, 0x391c0cb3, 0x4ed8aa4a, 0x5b9cca4f, 0x682e6ff3,
   0x748f82ee, 0x78a5636f, 0x84c87814, 0x8cc70208, 0x90befffa, 0xa4506ceb, 0xbef9a3f7, 0xc67178f2]

structure State where
  (a b c d e f g h : UInt32)
  deriving DecidableEq

def initial : State :=
  ⟨0x6a09e667, 0xbb67ae85, 0x3c6ef372, 0xa54ff53a, 0x510e527f, 0x9b05688c, 0x1f83d9ab, 0x5be0cd19⟩

def rotr (x : UInt32) (n : ℕ) : UInt32 := (x >>> UInt32.ofNat n) ||| (x <<< UInt32.ofNat (32 - n))

def bigEndian (bytes : List UInt8) : ℕ := bytes.foldl (fun n b => 256 * n + b.toNat) 0

def toBytes (width n : ℕ) : List UInt8 :=
  (List.range width).reverse.map fun i => UInt8.ofNat (n >>> (8 * i))

/-- Cut into pieces of the given positive size, the last one perhaps shorter. -/
def chunks (size : ℕ) : ℕ → List UInt8 → List (List UInt8)
  | 0, _ => []
  | fuel + 1, bytes =>
      if bytes.isEmpty then [] else bytes.take size :: chunks size fuel (bytes.drop size)

/-- The message, a one bit, zeros up to 56 modulo 64, and the length in bits. -/
def pad (message : List UInt8) : List UInt8 :=
  message ++ 0x80 :: List.replicate ((119 - message.length % 64) % 64) 0 ++
    toBytes 8 (8 * message.length)

/-- The next schedule word, from the words so far in reverse order. -/
def nextWord (w : List UInt32) : UInt32 :=
  let w2 := w.getD 1 0
  let w15 := w.getD 14 0
  (rotr w2 17 ^^^ rotr w2 19 ^^^ w2 >>> 10) + w.getD 6 0 +
    (rotr w15 7 ^^^ rotr w15 18 ^^^ w15 >>> 3) + w.getD 15 0

def extend : ℕ → List UInt32 → List UInt32
  | 0, w => w
  | n + 1, w => extend n (nextWord w :: w)

def schedule (block : List UInt8) : List UInt32 :=
  (extend 48 ((chunks 4 16 block).map fun c => UInt32.ofNat (bigEndian c)).reverse).reverse

def round (s : State) (k w : UInt32) : State :=
  let t1 := s.h + (rotr s.e 6 ^^^ rotr s.e 11 ^^^ rotr s.e 25) +
    ((s.e &&& s.f) ^^^ (~~~ s.e &&& s.g)) + k + w
  let t2 := (rotr s.a 2 ^^^ rotr s.a 13 ^^^ rotr s.a 22) +
    ((s.a &&& s.b) ^^^ (s.a &&& s.c) ^^^ (s.b &&& s.c))
  ⟨t1 + t2, s.a, s.b, s.c, s.d + t1, s.e, s.f, s.g⟩

def compress (s : State) (block : List UInt8) : State :=
  let r := (roundConstants.zip (schedule block)).foldl (fun s p => round s p.1 p.2) s
  ⟨s.a + r.a, s.b + r.b, s.c + r.c, s.d + r.d, s.e + r.e, s.f + r.f, s.g + r.g, s.h + r.h⟩

def digest (message : List UInt8) : List UInt8 :=
  let padded := pad message
  let s := (chunks 64 (padded.length / 64) padded).foldl compress initial
  [s.a, s.b, s.c, s.d, s.e, s.f, s.g, s.h].flatMap fun w => toBytes 4 w.toNat

lemma length_toBytes (width n : ℕ) : (toBytes width n).length = width := by
  simp [toBytes]

lemma length_digest (message : List UInt8) : (digest message).length = 32 := by
  simp [digest, length_toBytes]

/-- A key longer than one block is hashed first. -/
def hmac (key message : List UInt8) : List UInt8 :=
  let short := if 64 < key.length then digest key else key
  let block := short ++ List.replicate (64 - short.length) 0
  digest (block.map (· ^^^ 0x5c) ++ digest (block.map (· ^^^ 0x36) ++ message))

example : digest [97, 98, 99] =
    [0xba, 0x78, 0x16, 0xbf, 0x8f, 0x01, 0xcf, 0xea, 0x41, 0x41, 0x40, 0xde, 0x5d, 0xae, 0x22, 0x23,
     0xb0, 0x03, 0x61, 0xa3, 0x96, 0x17, 0x7a, 0x9c, 0xb4, 0x10, 0xff, 0x61, 0xf2, 0x00, 0x15, 0xad] := by
  decide +kernel

end PcRemote.Sha256
