import PcRemote.BridgeAuth
import PcRemote.Transition

/-! Replay protection of the bridge over runs of sequential calls. An accepted request
stays refused while its nonce is recorded with a timestamp no older than its own, or once
its window has closed; only a duplicate that lowers the recorded timestamp breaks this. -/
namespace PcRemote.BridgeReplay
open Text Signing BridgeAuth Transition

structure Call where
  request : Request
  now : ℤ
  deriving DecidableEq

abbrev Event := Call × Except AuthError Unit

def accepts (r : Request) (e : Event) : Bool := e.1.request = r && e.2.isOk

/-- Calls on one store, with a clock that never goes back; the state keeps its last reading. -/
def bridge (C : Crypto) (config : AuthConfig) : System (NonceStore × ℤ) Event where
  step s e t := s.2 ≤ e.1.now ∧
    verifyRequest C config s.1 e.1.request e.1.now = (t.1, e.2) ∧ t.2 = e.1.now

def ReplayProtected (C : Crypto) : Prop :=
  ∀ (config : AuthConfig), 0 < config.allowedSkewSeconds → ∀ c₀ es s,
    (bridge C config).Run (∅, c₀) es s → ∀ r, es.countP (accepts r) ≤ 1

/-- The call comes to the insertion and finds its nonce recorded with a later timestamp. -/
def LowersEntry (C : Crypto) (config : AuthConfig) (s : NonceStore × ℤ) (e : Event) : Prop :=
  let swept := sweep s.1 e.1.now config.allowedSkewSeconds
  reachesStore C config e.1.request e.1.now ∧ ¬ insertRefused swept e.1.request.nonce ∧
    ∃ t, swept.lookup e.1.request.nonce = some t ∧ e.1.request.timestamp < t

section Invariant
variable {C : Crypto} {config : AuthConfig}

/-- No recorded timestamp lies beyond the window of the last clock reading. -/
def Recorded (config : AuthConfig) (s : NonceStore × ℤ) : Prop :=
  s.1.All fun t => t ≤ s.2 + max config.allowedSkewSeconds 0

/-- The request can no longer be accepted: its nonce is held, or its window is over. -/
def Spent (config : AuthConfig) (r : Request) (s : NonceStore × ℤ) : Prop :=
  (∃ t, s.1.lookup r.nonce = some t ∧ r.timestamp ≤ t) ∨
    r.timestamp + max config.allowedSkewSeconds 0 < s.2

lemma recorded_empty (c₀ : ℤ) : Recorded config (∅, c₀) := by
  intro n t h
  simp at h

lemma reachesStore_window {r : Request} {now : ℤ} (h : reachesStore C config r now = true) :
    now ≤ r.timestamp + max config.allowedSkewSeconds 0 ∧
      r.timestamp ≤ now + max config.allowedSkewSeconds 0 := by
  have hw : withinSkew config.allowedSkewSeconds now r.timestamp = true := by
    simp only [reachesStore, Bool.and_eq_true] at h
    exact h.1
  have := withinSkew_iff.mp hw
  omega

/-- While the clock moves forward, a sweep drops an entry only when its window is over. -/
lemma window_over_of_swept {s : NonceStore × ℤ} (hs : Recorded config s) {now e : ℤ}
    {n : String} (hc : s.2 ≤ now) (he : s.1.lookup n = some e)
    (hn : (sweep s.1 now config.allowedSkewSeconds).lookup n = none) :
    e + max config.allowedSkewSeconds 0 < now := by
  obtain hk | ⟨-, hw⟩ := lookup_sweep he now config.allowedSkewSeconds
  · rw [hk] at hn
    simp at hn
  · have hle := hs n e he
    have hnot : ¬ (now - max config.allowedSkewSeconds 0 ≤ e ∧
        e ≤ now + max config.allowedSkewSeconds 0) := by
      rw [← withinSkew_iff, hw]
      simp
    omega

lemma recorded_step {s t : NonceStore × ℤ} {e : Event} (h : (bridge C config).step s e t)
    (hs : Recorded config s) : Recorded config t := by
  obtain ⟨hc, hv, ht⟩ := h
  have hmono : s.1.All fun v => v ≤ t.2 + max config.allowedSkewSeconds 0 :=
    hs.mono fun v hv => by omega
  have ht1 : t.1 = (verifyRequest C config s.1 e.1.request e.1.now).1 := by rw [hv]
  unfold Recorded
  rw [ht1]
  obtain ⟨-, h1, -⟩ | ⟨-, h1, -⟩ | ⟨hr, -, h1, -⟩ :=
    verifyRequest_cases C config s.1 e.1.request e.1.now
  · rw [h1]
    exact hmono
  · rw [h1]
    exact All.sweep hmono _ _
  · rw [h1]
    have hw := reachesStore_window hr
    exact (All.sweep hmono _ _).insert (by omega)

/-- An accepted call leaves its own timestamp on record. -/
lemma spent_of_accepts {s t : NonceStore × ℤ} {e : Event} {r : Request}
    (h : (bridge C config).step s e t) (ha : accepts r e) : Spent config r t := by
  obtain ⟨-, hv, -⟩ := h
  simp only [accepts, Bool.and_eq_true, decide_eq_true_eq] at ha
  obtain ⟨hr, ho⟩ := ha
  have ht1 : t.1 = (verifyRequest C config s.1 e.1.request e.1.now).1 := by rw [hv]
  have ho' : (verifyRequest C config s.1 e.1.request e.1.now).2.isOk = true := by rw [hv]; exact ho
  obtain ⟨-, -, hk⟩ | ⟨-, -, hk⟩ | ⟨-, -, h1, -⟩ :=
    verifyRequest_cases C config s.1 e.1.request e.1.now
  · rw [hk] at ho'
    simp at ho'
  · rw [hk] at ho'
    simp at ho'
  · refine .inl ⟨r.timestamp, ?_, Int.le_refl _⟩
    rw [ht1, h1, hr, AList.lookup_insert]

/-- Sweeping keeps a spent request spent, and no call but one that lowers the entry of its
nonce undoes it. -/
lemma spent_step {s t : NonceStore × ℤ} {e : Event} {r : Request}
    (h : (bridge C config).step s e t) (hl : ¬ LowersEntry C config s e)
    (hs : Recorded config s) (hsp : Spent config r s) : Spent config r t := by
  obtain ⟨hc, hv, ht⟩ := h
  have ht1 : t.1 = (verifyRequest C config s.1 e.1.request e.1.now).1 := by rw [hv]
  obtain ⟨v, hlook, hle⟩ | hover := hsp
  swap
  · exact .inr (by omega)
  cases hswept : (sweep s.1 e.1.now config.allowedSkewSeconds).lookup r.nonce with
  | none =>
    have := window_over_of_swept hs hc hlook hswept
    exact .inr (by omega)
  | some v' =>
    have hvv : v' = v := by
      have := lookup_of_sweep hswept
      rw [hlook] at this
      exact (Option.some.inj this).symm
    subst hvv
    obtain ⟨-, h1, -⟩ | ⟨-, h1, -⟩ | ⟨hr, href, h1, -⟩ :=
      verifyRequest_cases C config s.1 e.1.request e.1.now
    · exact .inl ⟨v', by rw [ht1, h1, hlook], hle⟩
    · exact .inl ⟨v', by rw [ht1, h1, hswept], hle⟩
    · by_cases hn : r.nonce = e.1.request.nonce
      · refine .inl ⟨e.1.request.timestamp, by rw [ht1, h1, hn, AList.lookup_insert], ?_⟩
        by_contra hlt
        refine hl ⟨hr, by simp [href], v', by rw [← hn]; exact hswept, by omega⟩
      · exact .inl ⟨v', by rw [ht1, h1, AList.lookup_insert_ne hn, hswept], hle⟩

lemma spent_refuses {s t : NonceStore × ℤ} {e : Event} {r : Request}
    (h : (bridge C config).step s e t) (hs : Recorded config s) (hsp : Spent config r s) :
    ¬ accepts r e := by
  intro ha
  obtain ⟨hc, hv, -⟩ := h
  simp only [accepts, Bool.and_eq_true, decide_eq_true_eq] at ha
  obtain ⟨rfl, ho⟩ := ha
  have ho' : (verifyRequest C config s.1 e.1.request e.1.now).2.isOk = true := by rw [hv]; exact ho
  obtain ⟨-, -, hk⟩ | ⟨-, -, hk⟩ | ⟨hr, -, -, hk⟩ :=
    verifyRequest_cases C config s.1 e.1.request e.1.now
  · rw [hk] at ho'
    simp at ho'
  · rw [hk] at ho'
    simp at ho'
  · have hw := reachesStore_window hr
    rw [hk, Option.isNone_iff_eq_none] at ho'
    obtain ⟨v, hlook, hle⟩ | hover := hsp
    · have := window_over_of_swept hs hc hlook ho'
      omega
    · omega

end Invariant

section Signed
variable (C : Crypto)

def minuteConfig : AuthConfig := ⟨utf8 "0123456789abcdef0123456789abcdef", 60⟩

/-- A shutdown request as the firmware signs it. -/
def signed (nonce : String) (timestamp : ℤ) : Request where
  method := "POST"
  path := "/shutdown"
  timestamp := timestamp
  nonce := nonce
  body := utf8 "\x7b\"confirm\":true\x7d"
  signatureHex := signRequest C minuteConfig.secret "POST" "/shutdown" timestamp nonce
    (utf8 "\x7b\"confirm\":true\x7d")

lemma verifyRequest_signed (seen : NonceStore) {nonce : String} {timestamp now : ℤ}
    (h : withinSkew 60 now timestamp = true) :
    verifyRequest C minuteConfig seen (signed C nonce timestamp) now =
      ((insertOnce seen nonce timestamp now 60).1,
        if (insertOnce seen nonce timestamp now 60).2 then .ok () else .error .replay) := by
  have hs : signatureValid C minuteConfig (signed C nonce timestamp) = true :=
    verifySignature_signRequest C _ _ _ _ _ _
  have hw : withinSkew minuteConfig.allowedSkewSeconds now (signed C nonce timestamp).timestamp =
      true := h
  simp only [verifyRequest, hw, hs, not_true_eq_false, if_false]
  cases hi : (insertOnce seen nonce timestamp now 60).2 <;> simp [signed, minuteConfig, hi]

end Signed

/-- In every run in which no call lowers the timestamp recorded for its nonce, each request
tuple is accepted at most once. -/
theorem replay_protected_unless_lowered (C : Crypto) (config : AuthConfig) {c₀ : ℤ}
    {es : List Event} {s : NonceStore × ℤ}
    (h : ((bridge C config).restrict fun s e => ¬ LowersEntry C config s e).Run (∅, c₀) es s)
    (r : Request) : es.countP (accepts r) ≤ 1 := by
  refine h.at_most_once (Recorded config) (Spent config r) ?_ ?_ ?_ ?_ (recorded_empty c₀)
  · rintro s e t ⟨hst, -⟩
    exact recorded_step hst
  · rintro s e t ⟨hst, -⟩ -
    exact spent_of_accepts hst
  · rintro s e t ⟨hst, hl⟩ hi
    exact spent_step hst hl hi
  · rintro s e t ⟨hst, -⟩ hi
    exact spent_refuses hst hi

/-- One signed request presented twice: accepted, then refused. -/
theorem replay_protected_signed_twice :
    [(⟨signed .standard "n1" 60, 0⟩, .ok ()),
      (⟨signed .standard "n1" 60, 1⟩, .error .replay)].countP
      (accepts (signed .standard "n1" 60)) ≤ 1 := by
  let recorded : NonceStore := AList.insert "n1" 60 ∅
  have hfirst : (bridge .standard minuteConfig).step (∅, 0)
      (⟨signed .standard "n1" 60, 0⟩, .ok ()) (recorded, 0) := by
    refine ⟨Int.le_refl _, ?_, rfl⟩
    rw [verifyRequest_signed .standard ∅ (show withinSkew 60 0 60 = true by decide)]
    rfl
  have hsecond : (bridge .standard minuteConfig).step (recorded, 0)
      (⟨signed .standard "n1" 60, 1⟩, .error .replay) (recorded, 1) := by
    refine ⟨show (0 : ℤ) ≤ 1 by omega, ?_, rfl⟩
    rw [verifyRequest_signed .standard recorded (show withinSkew 60 1 60 = true by decide)]
    rfl
  refine replay_protected_unless_lowered .standard minuteConfig
    (.cons ⟨hfirst, ?_⟩ (.one ⟨hsecond, ?_⟩)) (signed .standard "n1" 60)
  · rintro ⟨-, -, t, ht, -⟩
    have hnone : (none : Option ℤ) = some t := ht
    simp at hnone
  · rintro ⟨-, -, t, ht, hlt⟩
    have ht60 : t = 60 := (Option.some.inj (ht : some (60 : ℤ) = some t)).symm
    subst ht60
    exact absurd hlt (Int.lt_irrefl _)

/-! A request signed for a minute ahead is accepted; a second one with its nonce, signed for
now, is refused but overwrites the recorded timestamp, so the next sweep forgets the nonce
while the first request is still within its window. -/

section Replay
variable (C : Crypto)

/-- Ninety-nine two-letter nonces, which bring the store to the size that is swept. -/
def fillers : List String :=
  ("abcdefghi".toList.product "abcdefghijk".toList).map fun p => String.ofList [p.1, p.2]

lemma fillers_nodup : fillers.Nodup := by
  refine List.Nodup.map ?_ (List.Nodup.product (by decide) (by decide))
  rintro ⟨a, b⟩ ⟨c, d⟩ h
  have := String.ofList_injective h
  simp_all

lemma insertOnce_below {seen : NonceStore} {nonce : String} {timestamp now : ℤ}
    (hpos : 0 < seen.size) (hlt : seen.size < 100) (hw : wellFormedNonce nonce = true)
    (hn : seen.lookup nonce = none) :
    insertOnce seen nonce timestamp now 60 = (seen.insert nonce timestamp, true) := by
  have hsweep : sweep seen now 60 = seen := by
    have hmod : ¬ (seen.size % 100 = 0 ∨ maxEntries ≤ seen.size) := by
      unfold maxEntries
      omega
    rw [sweep, if_neg hmod]
  have href : insertRefused seen nonce = false := by
    have : ¬ maxEntries ≤ seen.size := by
      unfold maxEntries
      omega
    simp [insertRefused, hw, this]
  simp [insertOnce, hsweep, href, hn]

/-- Fresh nonces are accepted one after the other until the store holds a hundred entries. -/
lemma fill (nonces : List String) (hnodup : nonces.Nodup)
    (hw : ∀ n ∈ nonces, wellFormedNonce n = true) (seen : NonceStore)
    (hnew : ∀ n ∈ nonces, seen.lookup n = none) (hpos : 0 < seen.size)
    (hle : seen.size + nonces.length ≤ 100) (hall : seen.All (· = 0)) :
    ∃ es s, (bridge C minuteConfig).Run (seen, 0) es (s, 0) ∧
      s.size = seen.size + nonces.length ∧ s.All (· = 0) := by
  induction nonces generalizing seen with
  | nil => exact ⟨[], seen, .nil _, rfl, hall⟩
  | cons n ns ih =>
    rw [List.nodup_cons] at hnodup
    simp only [List.mem_cons, forall_eq_or_imp, List.length_cons] at hw hnew hle
    have hstep : (bridge C minuteConfig).step (seen, 0) (⟨signed C n 0, 0⟩, .ok ())
        (seen.insert n 0, 0) := by
      refine ⟨Int.le_refl _, ?_, rfl⟩
      rw [verifyRequest_signed C seen (show withinSkew 60 0 0 = true by decide),
        insertOnce_below hpos (by omega) hw.1 hnew.1]
      rfl
    have hsize := Table.size_insert_of_none (0 : ℤ) hnew.1
    obtain ⟨es, s, hr, hs, ha⟩ := ih hnodup.2 hw.2 (seen.insert n 0) (by
        intro m hm
        have hne : m ≠ n := fun h => hnodup.1 (h ▸ hm)
        rw [AList.lookup_insert_ne hne]
        exact hnew.2 m hm) (by omega) (by omega) (hall.insert rfl)
    refine ⟨_, s, .cons hstep hr, ?_, ha⟩
    simp only [List.length_cons]
    omega

/-- A minute later the whole store is out of the window, and a sweep empties it. -/
lemma sweep_hundred {seen : NonceStore} (hsize : seen.size = 100) (hall : seen.All (· = 0)) :
    sweep seen 61 60 = ∅ := by
  rw [sweep, if_pos (.inl (by omega))]
  apply Table.retain_eq_empty
  intro e he
  rw [hall e.1 e.2 (AList.mem_lookup_iff.mpr he)]
  decide

/-- The claimed protection fails whatever the hash functions are. -/
theorem not_replayProtected : ¬ ∃ C, ReplayProtected C := by
  rintro ⟨C, hprot⟩
  let victim := signed C "replayed" 60
  let recorded : NonceStore := AList.insert "replayed" 0 ∅
  have haccept : (bridge C minuteConfig).step (∅, 0) (⟨victim, 0⟩, .ok ())
      (AList.insert "replayed" 60 ∅, 0) := by
    refine ⟨Int.le_refl _, ?_, rfl⟩
    rw [verifyRequest_signed C ∅ (show withinSkew 60 0 60 = true by decide)]
    rfl
  have hlower : (bridge C minuteConfig).step (AList.insert "replayed" 60 ∅, 0)
      (⟨signed C "replayed" 0, 0⟩, .error .replay) (recorded, 0) := by
    refine ⟨Int.le_refl _, ?_, rfl⟩
    rw [verifyRequest_signed C _ (show withinSkew 60 0 0 = true by decide)]
    rfl
  obtain ⟨es, s, hfill, hsize, hall⟩ := fill C fillers fillers_nodup (by decide) recorded
    (by decide) (by decide) (by decide) (by
      intro n v hv
      exact Table.All.insert (P := (· = 0)) (m := ∅) (by intro k v h; simp at h) rfl n v hv)
  have hlen : s.size = 100 := hsize
  have hagain : (bridge C minuteConfig).step (s, 0) (⟨victim, 61⟩, .ok ())
      (AList.insert "replayed" 60 ∅, 61) := by
    refine ⟨show (0 : ℤ) ≤ 61 by omega, ?_, rfl⟩
    rw [verifyRequest_signed C s (show withinSkew 60 61 60 = true by decide)]
    have href : insertRefused ∅ "replayed" = false := by decide
    simp [insertOnce, sweep_hundred hlen hall, href]
  have hrun := (System.Run.cons haccept (.cons hlower hfill)).append (.one hagain)
  have hcount := hprot minuteConfig (by decide) 0 _ _ hrun victim
  have hA : accepts victim (⟨victim, 0⟩, .ok ()) = true := by
    simp [accepts, Except.isOk, Except.toBool]
  have hA' : accepts victim (⟨victim, 61⟩, .ok ()) = true := by
    simp [accepts, Except.isOk, Except.toBool]
  rw [List.countP_append, List.countP_cons_of_pos hA, List.countP_cons_of_pos hA'] at hcount
  omega

end Replay

end PcRemote.BridgeReplay
