import PcRemote.Signing
import PcRemote.Table

/-! Authentication on the bridge: clock skew, then signature, then a nonce that has not
been seen. The store of nonces is swept lazily, at sizes that are multiples of 100 and at
capacity. -/
namespace PcRemote.BridgeAuth
open Text Signing

structure AuthConfig where
  secret : List UInt8
  allowedSkewSeconds : ℤ

inductive AuthError
  | timestampSkew
  | replay
  | badSignature
  | missingHeader
  deriving DecidableEq, Repr

/-- The timestamp under which each nonce was last presented. -/
abbrev NonceStore := Table String ℤ

def maxNonceLen : ℕ := 64
def maxEntries : ℕ := 10000

/-- The distance of two i64 values as a u64, which cannot overflow. -/
def absDiff (a b : ℤ) : ℕ := (a - b).natAbs

def withinSkew (skewSeconds now timestamp : ℤ) : Bool :=
  absDiff now timestamp ≤ (max skewSeconds 0).toNat

def evictExpired (seen : NonceStore) (now ttlSeconds : ℤ) : NonceStore :=
  seen.retain fun timestamp => withinSkew ttlSeconds now timestamp

/-- The sweep that opens an insertion. -/
def sweep (seen : NonceStore) (now ttlSeconds : ℤ) : NonceStore :=
  if seen.size % 100 = 0 ∨ maxEntries ≤ seen.size then evictExpired seen now ttlSeconds else seen

def isAsciiAlphanumeric (b : UInt8) : Bool :=
  (48 ≤ b && b ≤ 57) || (65 ≤ b && b ≤ 90) || (97 ≤ b && b ≤ 122)

/-- At most 64 bytes, each alphanumeric or one of the three marks '-', '_' and '.'. -/
def wellFormedNonce (nonce : String) : Bool :=
  (utf8 nonce).length ≤ maxNonceLen &&
    (utf8 nonce).all fun b => isAsciiAlphanumeric b || b == 45 || b == 95 || b == 46

def insertRefused (seen : NonceStore) (nonce : String) : Bool :=
  !wellFormedNonce nonce || maxEntries ≤ seen.size

/-- The insertion proper overwrites the timestamp of a nonce that is already there. -/
def insertOnce (seen : NonceStore) (nonce : String) (timestamp now ttlSeconds : ℤ) :
    NonceStore × Bool :=
  let seen := sweep seen now ttlSeconds
  if insertRefused seen nonce then (seen, false)
  else (seen.insert nonce timestamp, (seen.lookup nonce).isNone)

structure Request where
  method : String
  path : String
  timestamp : ℤ
  nonce : String
  body : List UInt8
  signatureHex : String
  deriving DecidableEq

variable (C : Crypto)

def signatureValid (config : AuthConfig) (r : Request) : Bool :=
  verifySignature C config.secret r.method r.path r.timestamp r.nonce r.body r.signatureHex

def verifyRequest (config : AuthConfig) (nonces : NonceStore) (r : Request) (now : ℤ) :
    NonceStore × Except AuthError Unit :=
  if ¬ withinSkew config.allowedSkewSeconds now r.timestamp then (nonces, .error .timestampSkew)
  else if ¬ signatureValid C config r then (nonces, .error .badSignature)
  else
    let inserted := insertOnce nonces r.nonce r.timestamp now config.allowedSkewSeconds
    if inserted.2 then (inserted.1, .ok ()) else (inserted.1, .error .replay)

lemma withinSkew_iff {skew now t : ℤ} :
    withinSkew skew now t = true ↔ now - max skew 0 ≤ t ∧ t ≤ now + max skew 0 := by
  unfold withinSkew absDiff
  rw [decide_eq_true_iff]
  omega

/-- A sweep drops an entry only when its own clock reading is out of the entry's window. -/
lemma lookup_sweep {seen : NonceStore} {e : ℤ} {n : String} (h : seen.lookup n = some e)
    (now ttl : ℤ) :
    (sweep seen now ttl).lookup n = some e ∨
      ((sweep seen now ttl).lookup n = none ∧ withinSkew ttl now e = false) := by
  unfold sweep
  split_ifs
  · cases hw : withinSkew ttl now e with
    | true => exact .inl (Table.lookup_retain.mpr ⟨h, hw⟩)
    | false =>
      refine .inr ⟨Table.lookup_retain_eq_none.mpr ?_, rfl⟩
      intro v hv
      rw [h] at hv
      simp [← Option.some.inj hv, hw]
  · exact .inl h

lemma lookup_of_sweep {seen : NonceStore} {now ttl e : ℤ} {n : String}
    (h : (sweep seen now ttl).lookup n = some e) : seen.lookup n = some e := by
  unfold sweep at h
  split_ifs at h
  · exact (Table.lookup_retain.mp h).1
  · exact h

lemma size_sweep_le (seen : NonceStore) (now ttl : ℤ) :
    (sweep seen now ttl).size ≤ seen.size := by
  unfold sweep
  split_ifs
  · exact Table.size_retain_le _ seen
  · exact le_rfl

lemma All.sweep {P : ℤ → Prop} {seen : NonceStore} (h : seen.All P) (now ttl : ℤ) :
    (sweep seen now ttl).All P := fun n e he => h n e (lookup_of_sweep he)

/-- An insertion is refused after its sweep, or records the timestamp it was given. -/
lemma insertOnce_cases (seen : NonceStore) (nonce : String) (timestamp now ttl : ℤ) :
    (insertRefused (sweep seen now ttl) nonce = true ∧
      insertOnce seen nonce timestamp now ttl = (sweep seen now ttl, false)) ∨
    (insertRefused (sweep seen now ttl) nonce = false ∧
      insertOnce seen nonce timestamp now ttl =
        ((sweep seen now ttl).insert nonce timestamp,
          ((sweep seen now ttl).lookup nonce).isNone)) := by
  cases h : insertRefused (sweep seen now ttl) nonce with
  | true => exact .inl ⟨rfl, by simp [insertOnce, h]⟩
  | false => exact .inr ⟨rfl, by simp [insertOnce, h]⟩

/-- A well-formed nonce that is not in a store with room is inserted. -/
lemma insertOnce_fresh {seen : NonceStore} {nonce : String} (hnonce : wellFormedNonce nonce = true)
    (hfresh : seen.lookup nonce = none) (hroom : seen.size < maxEntries) (timestamp now ttl : ℤ) :
    (insertOnce seen nonce timestamp now ttl).2 = true := by
  have hsize := size_sweep_le seen now ttl
  have hlookup : (sweep seen now ttl).lookup nonce = none := by
    rw [Option.eq_none_iff_forall_ne_some]
    intro e he
    rw [lookup_of_sweep he] at hfresh
    exact absurd hfresh (by simp)
  have haccepted : insertRefused (sweep seen now ttl) nonce = false := by
    simp [insertRefused, hnonce]
    omega
  simp [insertOnce, haccepted, hlookup]

/-- The conditions under which a request gets as far as the nonce store. -/
def reachesStore (config : AuthConfig) (r : Request) (now : ℤ) : Bool :=
  withinSkew config.allowedSkewSeconds now r.timestamp && signatureValid C config r

/-- A request is turned away with the store untouched, refused by the insertion, or recorded. -/
lemma verifyRequest_cases (config : AuthConfig) (nonces : NonceStore) (r : Request) (now : ℤ) :
    (reachesStore C config r now = false ∧ (verifyRequest C config nonces r now).1 = nonces ∧
      (verifyRequest C config nonces r now).2.isOk = false) ∨
    (reachesStore C config r now = true ∧
      (verifyRequest C config nonces r now).1 = sweep nonces now config.allowedSkewSeconds ∧
      (verifyRequest C config nonces r now).2.isOk = false) ∨
    (reachesStore C config r now = true ∧
      insertRefused (sweep nonces now config.allowedSkewSeconds) r.nonce = false ∧
      (verifyRequest C config nonces r now).1 =
        (sweep nonces now config.allowedSkewSeconds).insert r.nonce r.timestamp ∧
      (verifyRequest C config nonces r now).2.isOk =
        ((sweep nonces now config.allowedSkewSeconds).lookup r.nonce).isNone) := by
  unfold verifyRequest reachesStore
  cases hw : withinSkew config.allowedSkewSeconds now r.timestamp with
  | false => exact .inl (by simp [Except.isOk, Except.toBool])
  | true =>
    cases hs : signatureValid C config r with
    | false => exact .inl (by simp [Except.isOk, Except.toBool])
    | true =>
      refine .inr ?_
      obtain ⟨hr, hi⟩ | ⟨hr, hi⟩ :=
        insertOnce_cases nonces r.nonce r.timestamp now config.allowedSkewSeconds
      · exact .inl (by simp [hi, Except.isOk, Except.toBool])
      · refine .inr ⟨rfl, hr, ?_⟩
        cases hl : (sweep nonces now config.allowedSkewSeconds).lookup r.nonce <;>
          simp [hi, hl, Except.isOk, Except.toBool]

end PcRemote.BridgeAuth
