import PcRemote.BridgeAuth
import PcRemote.Transition

/-! The capacity of the nonce store: it is never exceeded, and what fills the store up is entries
in the window of the call that is turned away. -/
namespace PcRemote.BridgeAuth
open Transition Transition.System

structure NonceCall where
  nonce : String
  timestamp : ℤ
  now : ℤ
  ttlSeconds : ℤ
  deriving DecidableEq, Repr

def NonceCall.run (seen : NonceStore) (c : NonceCall) : NonceStore × Bool :=
  insertOnce seen c.nonce c.timestamp c.now c.ttlSeconds

/-- The entries whose timestamp is within ttl of now. -/
def inWindow (seen : NonceStore) (now ttlSeconds : ℤ) : ℕ :=
  seen.entries.countP fun e => withinSkew ttlSeconds now e.2

lemma size_evictExpired (seen : NonceStore) (now ttlSeconds : ℤ) :
    (evictExpired seen now ttlSeconds).size = inWindow seen now ttlSeconds :=
  List.countP_eq_length_filter.symm

/-- Whatever the sizes were between sweeps, a store still full after its sweep is full of entries
in the window. -/
lemma inWindow_of_full {seen : NonceStore} {now ttlSeconds : ℤ}
    (h : maxEntries ≤ (sweep seen now ttlSeconds).size) :
    maxEntries ≤ inWindow seen now ttlSeconds := by
  have hfull : maxEntries ≤ seen.size := h.trans (size_sweep_le seen now ttlSeconds)
  rw [sweep, if_pos (.inr hfull), size_evictExpired] at h
  exact h

/-- A call adds at most one entry, and only to a store below capacity. -/
lemma size_run {seen : NonceStore} (h : seen.size ≤ maxEntries) (c : NonceCall) :
    (NonceCall.run seen c).1.size ≤ maxEntries := by
  have hsweep := (size_sweep_le seen c.now c.ttlSeconds).trans h
  rcases insertOnce_cases seen c.nonce c.timestamp c.now c.ttlSeconds with ⟨-, heq⟩ | ⟨hroom, heq⟩
  · rwa [NonceCall.run, heq]
  · have hlt : (sweep seen c.now c.ttlSeconds).size < maxEntries := by
      simp only [insertRefused, Bool.or_eq_false_iff, decide_eq_false_iff_not, not_le] at hroom
      exact hroom.2
    rw [NonceCall.run, heq]
    exact (Table.size_insert_le _ _ _).trans hlt

/-- Two reasons to turn a well-formed nonce away: it has an entry, or the store is full. -/
lemma refused_run {seen : NonceStore} {c : NonceCall} (hnonce : wellFormedNonce c.nonce = true)
    (h : (NonceCall.run seen c).2 = false) :
    (∃ timestamp, (sweep seen c.now c.ttlSeconds).lookup c.nonce = some timestamp) ∨
      maxEntries ≤ inWindow seen c.now c.ttlSeconds := by
  rcases insertOnce_cases seen c.nonce c.timestamp c.now c.ttlSeconds with ⟨hfull, -⟩ | ⟨-, heq⟩
  · refine .inr (inWindow_of_full ?_)
    simpa [insertRefused, hnonce] using hfull
  · rw [NonceCall.run, heq] at h
    exact .inl (Option.isSome_iff_exists.mp (by simpa using h))

lemma inWindow_eq_zero {seen : NonceStore} {now ttlSeconds : ℤ}
    (h : seen.All fun timestamp => withinSkew ttlSeconds now timestamp = false) :
    inWindow seen now ttlSeconds = 0 := by
  refine List.countP_eq_zero.mpr fun e he => ?_
  simp [h e.1 e.2 (AList.mem_lookup_iff.mpr he)]

/-- The store that a list of calls leaves behind, from the empty one. -/
def reached (calls : List NonceCall) : NonceStore := (feed NonceCall.run ∅ calls).2

lemma size_reached (calls : List NonceCall) : (reached calls).size ≤ maxEntries :=
  component_invariant (I := fun seen => seen.size ≤ maxEntries) (fun _ c h => size_run h c)
    (feed_run NonceCall.run ∅ calls) (Nat.zero_le _)

/-- Over any calls, the store never holds more than 10000 entries. A well-formed nonce is turned
away only when it still has an entry after the sweep, or when 10000 entries are in the window. With
every entry out of the window, one without an entry is accepted. -/
theorem nonce_store_capacity (calls : List NonceCall) :
    (reached calls).size ≤ maxEntries ∧
    ∀ c : NonceCall, wellFormedNonce c.nonce = true →
      ((NonceCall.run (reached calls) c).2 = false →
        (∃ timestamp,
          (sweep (reached calls) c.now c.ttlSeconds).lookup c.nonce = some timestamp) ∨
        maxEntries ≤ inWindow (reached calls) c.now c.ttlSeconds) ∧
      (((reached calls).All fun timestamp => withinSkew c.ttlSeconds c.now timestamp = false) →
        (reached calls).lookup c.nonce = none → (NonceCall.run (reached calls) c).2 = true) := by
  refine ⟨size_reached calls, fun c hnonce => ⟨refused_run hnonce, fun hout hnone => ?_⟩⟩
  by_contra hrefused
  rw [Bool.not_eq_true] at hrefused
  rcases refused_run hnonce hrefused with ⟨timestamp, hentry⟩ | hfull
  · rw [lookup_of_sweep hentry] at hnone
    cases hnone
  · rw [inWindow_eq_zero hout] at hfull
    exact absurd hfull (by decide)

end PcRemote.BridgeAuth
