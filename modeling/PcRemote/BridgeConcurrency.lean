import PcRemote.BridgeReplay

/-! Requests in flight together on one bridge. Each is a sequence of atomic steps: it reads
the clock, checks skew and signature, sweeps the store, checks validity and capacity, and
inserts its nonce. An eviction at another request's clock reading can come between them. -/
namespace PcRemote.BridgeConcurrency
open Signing BridgeAuth Transition

/-- How far a request has come, with the clock reading it holds. -/
inductive Phase
  | waiting
  | clocked (now : ℤ)
  | verified (now : ℤ)
  | swept (now : ℤ)
  | admitted (now : ℤ)
  | done (result : Except AuthError Unit)

def Phase.reading : Phase → Option ℤ
  | .clocked now | .verified now | .swept now | .admitted now => some now
  | .waiting | .done _ => none

/-- The reading of a request that has passed the skew and signature checks. -/
def Phase.checkedReading : Phase → Option ℤ
  | .verified now | .swept now | .admitted now => some now
  | .waiting | .clocked _ | .done _ => none

structure State (ι : Type*) where
  seen : NonceStore
  clock : ℤ
  phase : ι → Phase

inductive Event (ι : Type*)
  | readClock (i : ι) (now : ℤ)
  | check (i : ι)
  | sweep (i : ι)
  | validate (i : ι)
  | insert (i : ι)

variable {ι : Type*}

/-- The request an event belongs to. -/
def Event.owner : Event ι → ι
  | .readClock i _ | .check i | .sweep i | .validate i | .insert i => i

def State.start (c₀ : ℤ) : State ι := ⟨∅, c₀, fun _ => .waiting⟩

def State.accepted (s : State ι) (i : ι) : Prop := s.phase i = .done (.ok ())

section Model
variable [DecidableEq ι] (C : Crypto) (config : AuthConfig) (req : ι → Request)

def State.advance (s : State ι) (i : ι) (p : Phase) : State ι :=
  { s with phase := Function.update s.phase i p }

def checked (r : Request) (now : ℤ) : Phase :=
  if ¬ withinSkew config.allowedSkewSeconds now r.timestamp then .done (.error .timestampSkew)
  else if ¬ signatureValid C config r then .done (.error .badSignature)
  else .verified now

def admission (seen : NonceStore) (r : Request) (now : ℤ) : Phase :=
  if insertRefused seen r.nonce then .done (.error .replay) else .admitted now

def insertion (seen : NonceStore) (r : Request) : Phase :=
  .done (if (seen.lookup r.nonce).isNone then .ok () else .error .replay)

inductive Step : State ι → Event ι → State ι → Prop
  | readClock {s : State ι} {i : ι} {now : ℤ} (hp : s.phase i = .waiting) (hc : s.clock ≤ now) :
      Step s (.readClock i now) { s.advance i (.clocked now) with clock := now }
  | check {s : State ι} {i : ι} {now : ℤ} (hp : s.phase i = .clocked now) :
      Step s (.check i) (s.advance i (checked C config (req i) now))
  | sweep {s : State ι} {i : ι} {now : ℤ} (hp : s.phase i = .verified now) :
      Step s (.sweep i)
        { s.advance i (.swept now) with
          seen := BridgeAuth.sweep s.seen now config.allowedSkewSeconds }
  | validate {s : State ι} {i : ι} {now : ℤ} (hp : s.phase i = .swept now) :
      Step s (.validate i) (s.advance i (admission s.seen (req i) now))
  | insert {s : State ι} {i : ι} {now : ℤ} (hp : s.phase i = .admitted now) :
      Step s (.insert i)
        { s.advance i (insertion s.seen (req i)) with
          seen := s.seen.insert (req i).nonce (req i).timestamp }

def bridge : System (State ι) (Event ι) := ⟨Step C config req⟩

/-- The signer puts one timestamp on each nonce. -/
def SignerNonces : Prop :=
  ∀ i j, signatureValid C config (req i) → signatureValid C config (req j) →
    (req i).nonce = (req j).nonce → (req i).timestamp = (req j).timestamp

/-- A request that still holds a clock reading at which its own insertion can succeed. -/
def InFlight (s : State ι) (j : ι) : Prop :=
  ∃ m, (s.phase j).reading = some m ∧ reachesStore C config (req j) m

/-- The step is a sweep that drops a nonce whose request can still pass the skew check:
at the latest clock reading, or at the reading of a copy in flight. -/
def EvictsLive (s : State ι) : Event ι → Prop
  | .sweep i => ∃ now n t, s.phase i = .verified now ∧ s.seen.lookup n = some t ∧
      (BridgeAuth.sweep s.seen now config.allowedSkewSeconds).lookup n = none ∧
      (withinSkew config.allowedSkewSeconds s.clock t ∨
        ∃ j, (req j).nonce = n ∧ InFlight C config req s j)
  | _ => False

end Model

section Sequential
variable [DecidableEq ι] {C : Crypto} {config : AuthConfig} {req : ι → Request}

lemma advance_phase (s : State ι) (i : ι) (p : Phase) : (s.advance i p).phase i = p := by
  simp [State.advance]

variable (C config req) in
lemma run_verified {s : State ι} {i : ι} {now : ℤ} (hp : s.phase i = .waiting)
    (hc : s.clock ≤ now) (hr : reachesStore C config (req i) now = true) :
    (bridge C config req).Run s [.readClock i now, .check i]
      ⟨s.seen, now, Function.update s.phase i (.verified now)⟩ := by
  have hclock : (bridge C config req).step s (.readClock i now)
      ⟨s.seen, now, Function.update s.phase i (.clocked now)⟩ := .readClock hp hc
  refine .cons hclock (.one ?_)
  have h : Step C config req ⟨s.seen, now, Function.update s.phase i (.clocked now)⟩ (.check i) _ :=
    .check (advance_phase s i (.clocked now))
  simp only [reachesStore, Bool.and_eq_true] at hr
  simpa [bridge, State.advance, checked, hr] using h

variable (C config req) in
lemma run_insertion {s : State ι} {i : ι} {now : ℤ} (hp : s.phase i = .swept now)
    (href : insertRefused s.seen (req i).nonce = false) :
    (bridge C config req).Run s [.validate i, .insert i]
      ⟨s.seen.insert (req i).nonce (req i).timestamp, s.clock,
        Function.update s.phase i (insertion s.seen (req i))⟩ := by
  have hvalidate : (bridge C config req).step s (.validate i) (s.advance i (.admitted now)) := by
    have h : Step C config req s (.validate i) _ := .validate hp
    simpa [bridge, admission, href] using h
  refine .cons hvalidate (.one ?_)
  have h : Step C config req (s.advance i (.admitted now)) (.insert i) _ :=
    .insert (advance_phase s i (.admitted now))
  simpa [bridge, State.advance] using h

variable (C config req) in
/-- The five steps of a request, taken without interruption, are one sequential call. -/
theorem sequential_run {s : State ι} {i : ι} {now : ℤ} (hp : s.phase i = .waiting)
    (hc : s.clock ≤ now) :
    ∃ es, (bridge C config req).Run s es
      ⟨(verifyRequest C config s.seen (req i) now).1, now,
        Function.update s.phase i (.done (verifyRequest C config s.seen (req i) now).2)⟩ := by
  cases hr : reachesStore C config (req i) now with
  | false =>
    have hclock : (bridge C config req).step s (.readClock i now)
        ⟨s.seen, now, Function.update s.phase i (.clocked now)⟩ := .readClock hp hc
    refine ⟨[.readClock i now, .check i], .cons hclock (.one ?_)⟩
    have h : Step C config req ⟨s.seen, now, Function.update s.phase i (.clocked now)⟩
        (.check i) _ := .check (advance_phase s i (.clocked now))
    simp only [reachesStore, Bool.and_eq_false_imp] at hr
    by_cases hw : withinSkew config.allowedSkewSeconds now (req i).timestamp = true
    · simpa [bridge, State.advance, checked, verifyRequest, hw, hr hw] using h
    · simpa [bridge, State.advance, checked, verifyRequest, hw] using h
  | true =>
    have hverified := run_verified C config req hp hc hr
    simp only [reachesStore, Bool.and_eq_true] at hr
    let swept := sweep s.seen now config.allowedSkewSeconds
    have hsweep : (bridge C config req).step
        ⟨s.seen, now, Function.update s.phase i (.verified now)⟩ (.sweep i)
        ⟨swept, now, Function.update s.phase i (.swept now)⟩ := by
      have h : Step C config req ⟨s.seen, now, Function.update s.phase i (.verified now)⟩
          (.sweep i) _ := .sweep (advance_phase s i (.verified now))
      simpa [bridge, State.advance, swept] using h
    have hphase := advance_phase s i (.swept now)
    rcases insertOnce_cases s.seen (req i).nonce (req i).timestamp now config.allowedSkewSeconds
      with ⟨href, hi⟩ | ⟨href, hi⟩
    · refine ⟨_, hverified.append (.cons hsweep (.one (e := .validate i) ?_))⟩
      have h : Step C config req ⟨swept, now, Function.update s.phase i (.swept now)⟩
          (.validate i) _ := .validate hphase
      simpa [bridge, State.advance, admission, swept, href, verifyRequest, hr, hi] using h
    · have hinsert : (bridge C config req).Run
          ⟨swept, now, Function.update s.phase i (.swept now)⟩ _ _ :=
        run_insertion C config req hphase href
      refine ⟨_ ++ _ :: [.validate i, .insert i], hverified.append (.cons hsweep ?_)⟩
      cases hl : swept.lookup (req i).nonce <;>
        simpa [insertion, swept, hl, verifyRequest, hr, hi] using hinsert

end Sequential

/-! ### The invariant behind single acceptance -/

section Invariant
variable (C : Crypto) (config : AuthConfig) (req : ι → Request)

/-- A signed request has the timestamp of the accepted requests with its nonce. -/
def SameStamp (s : State ι) (i : ι) : Prop :=
  ∀ j, s.accepted j → signatureValid C config (req i) → signatureValid C config (req j) →
    (req i).nonce = (req j).nonce → (req i).timestamp = (req j).timestamp

/-- The nonce of the request is on record, or its window is over for every copy to come. -/
def Guarded (s : State ι) (i : ι) : Prop :=
  s.seen.lookup (req i).nonce = some (req i).timestamp ∨
    ((req i).timestamp + max config.allowedSkewSeconds 0 < s.clock ∧
      ∀ j, (req j).nonce = (req i).nonce → ¬ InFlight C config req s j)

structure Sound (s : State ι) : Prop where
  future : s.seen.All fun t => t ≤ s.clock + max config.allowedSkewSeconds 0
  reading : ∀ i m, (s.phase i).reading = some m → m ≤ s.clock
  checked : ∀ i m, (s.phase i).checkedReading = some m → reachesStore C config (req i) m = true
  signed : ∀ i, s.accepted i → signatureValid C config (req i) = true
  guarded : ∀ i, s.accepted i → Guarded C config req s i
  unique : ∀ i j, s.accepted i → s.accepted j → (req i).nonce = (req j).nonce → i = j

lemma sound_start (c₀ : ℤ) : Sound C config req (State.start c₀) := by
  constructor <;> simp [State.start, State.accepted, Phase.reading, Phase.checkedReading, Table.All]

variable {C config req}

lemma signatureValid_of_reachesStore {r : Request} {m : ℤ} (h : reachesStore C config r m = true) :
    signatureValid C config r = true := by
  simp only [reachesStore, Bool.and_eq_true] at h
  exact h.2

/-- While a request is on its way to the store, the entry of an accepted one of the same nonce is
still there. -/
lemma lookup_of_accepted {s : State ι} (h : Sound C config req s) {i j : ι} {now : ℤ}
    (hp : s.phase i = .admitted now) (hr : reachesStore C config (req i) now = true)
    (hj : s.accepted j) (hn : (req j).nonce = (req i).nonce) :
    s.seen.lookup (req i).nonce ≠ none := by
  intro hnone
  rcases h.guarded j hj with hlook | ⟨-, hflight⟩
  · rw [hn, hnone] at hlook
    simp at hlook
  · exact hflight i hn.symm ⟨now, by rw [hp]; rfl, hr⟩

variable [DecidableEq ι]

lemma accepted_update {s : State ι} {i j : ι} {p : Phase} {seen : NonceStore} {c : ℤ}
    (hp : p ≠ .done (.ok ()))
    (h : State.accepted ⟨seen, c, Function.update s.phase i p⟩ j) : s.accepted j := by
  unfold State.accepted at h ⊢
  by_cases hj : j = i
  · subst hj
    simp [hp] at h
  · simpa [hj] using h

lemma inFlight_update {s : State ι} {i j : ι} {p : Phase} {seen : NonceStore} {c : ℤ}
    (hp : ∀ m, p.reading = some m → (s.phase i).reading = some m)
    (h : InFlight C config req ⟨seen, c, Function.update s.phase i p⟩ j) :
    InFlight C config req s j := by
  obtain ⟨m, hm, hr⟩ := h
  refine ⟨m, ?_, hr⟩
  by_cases hj : j = i
  · subst hj
    exact hp m (by simpa using hm)
  · simpa [hj] using hm

/-- A step that accepts nothing only has to keep what guards the requests accepted so far. -/
lemma Sound.quiet {s : State ι} (h : Sound C config req s) {i : ι} {p : Phase}
    {seen : NonceStore} {c : ℤ} (hp : p ≠ .done (.ok ())) (hc : s.clock ≤ c)
    (hseen : ∀ n t, seen.lookup n = some t → s.seen.lookup n = some t)
    (hread : ∀ m, p.reading = some m → m ≤ c)
    (hcheck : ∀ m, p.checkedReading = some m → reachesStore C config (req i) m = true)
    (hguard : ∀ j, s.accepted j →
      Guarded C config req ⟨seen, c, Function.update s.phase i p⟩ j) :
    Sound C config req ⟨seen, c, Function.update s.phase i p⟩ where
  future n t ht := by
    have := h.future n t (hseen n t ht)
    show t ≤ c + _
    omega
  reading j m hm := by
    show m ≤ c
    by_cases hj : j = i
    · subst hj
      exact hread m (by simpa using hm)
    · have := h.reading j m (by simpa [hj] using hm)
      omega
  checked j m hm := by
    by_cases hj : j = i
    · subst hj
      exact hcheck m (by simpa using hm)
    · exact h.checked j m (by simpa [hj] using hm)
  signed j hj := h.signed j (accepted_update hp hj)
  guarded j hj := hguard j (accepted_update hp hj)
  unique j k hj hk := h.unique j k (accepted_update hp hj) (accepted_update hp hk)

/-- The guard of a request survives a step that leaves its entry and adds nothing in flight. -/
lemma Guarded.keep {s : State ι} {i j : ι} (h : Guarded C config req s j) {p : Phase}
    {seen : NonceStore} {c : ℤ} (hc : s.clock ≤ c)
    (hseen : s.seen.lookup (req j).nonce = some (req j).timestamp →
      seen.lookup (req j).nonce = some (req j).timestamp)
    (hp : ∀ m, p.reading = some m → (s.phase i).reading = some m) :
    Guarded C config req ⟨seen, c, Function.update s.phase i p⟩ j := by
  rcases h with hlook | ⟨hover, hflight⟩
  · exact .inl (hseen hlook)
  · refine .inr ⟨?_, ?_⟩
    · show _ < c
      omega
    · intro k hk hf
      exact hflight k hk (inFlight_update hp hf)

lemma sound_readClock {s : State ι} (h : Sound C config req s) {i : ι}
    (hsign : SameStamp C config req s i) {now : ℤ} (hc : s.clock ≤ now) :
    Sound C config req ⟨s.seen, now, Function.update s.phase i (.clocked now)⟩ := by
  apply h.quiet
  · simp
  · exact hc
  · intro n t ht
    exact ht
  · intro m hm
    have : now = m := Option.some.inj hm
    omega
  · intro m hm
    simp [Phase.checkedReading] at hm
  · intro j hj
    rcases h.guarded j hj with hlook | ⟨hover, hflight⟩
    · exact .inl hlook
    refine .inr ⟨by show _ < now; omega, ?_⟩
    rintro k hk ⟨m, hm, hr⟩
    by_cases hki : k = i
    · -- the new reading is past the window of every request with this nonce
      subst hki
      have hnow : now = m := by simpa [Phase.reading] using hm
      have hts := hsign j hj (signatureValid_of_reachesStore hr) (h.signed j hj) hk
      have hw := BridgeReplay.reachesStore_window hr
      omega
    · exact hflight k hk ⟨m, by simpa [hki] using hm, hr⟩

lemma sound_check {s : State ι} (h : Sound C config req s) {i : ι} {now : ℤ}
    (hp : s.phase i = .clocked now) :
    Sound C config req (s.advance i (checked C config (req i) now)) := by
  have hcases : (∃ e, checked C config (req i) now = .done (.error e)) ∨
      (checked C config (req i) now = .verified now ∧
        reachesStore C config (req i) now = true) := by
    unfold checked reachesStore
    by_cases hw : withinSkew config.allowedSkewSeconds now (req i).timestamp = true <;>
      by_cases hs : signatureValid C config (req i) = true <;> simp [hw, hs]
  apply h.quiet
  · rcases hcases with ⟨e, he⟩ | ⟨he, -⟩ <;> simp [he]
  · exact Int.le_refl _
  · intro n t ht
    exact ht
  · intro m hm
    rcases hcases with ⟨e, he⟩ | ⟨he, -⟩
    · simp [he, Phase.reading] at hm
    · refine h.reading i m ?_
      rw [he] at hm
      rw [hp]
      exact hm
  · intro m hm
    rcases hcases with ⟨e, he⟩ | ⟨he, hr⟩
    · simp [he, Phase.checkedReading] at hm
    · rw [he] at hm
      exact Option.some.inj hm ▸ hr
  · intro j hj
    refine (h.guarded j hj).keep (Int.le_refl _) (fun hl => hl) ?_
    intro m hm
    rcases hcases with ⟨e, he⟩ | ⟨he, -⟩
    · simp [he, Phase.reading] at hm
    · rw [he] at hm
      rw [hp]
      exact hm

lemma sound_sweep {s : State ι} (h : Sound C config req s) {i : ι} {now : ℤ}
    (hp : s.phase i = .verified now) (hlive : ¬ EvictsLive C config req s (.sweep i)) :
    Sound C config req ⟨sweep s.seen now config.allowedSkewSeconds, s.clock,
      Function.update s.phase i (.swept now)⟩ := by
  have hread : ∀ m, (Phase.swept now).reading = some m → (s.phase i).reading = some m := by
    intro m hm
    rw [hp]
    exact hm
  apply h.quiet
  · simp
  · exact Int.le_refl _
  · intro n t ht
    exact lookup_of_sweep ht
  · intro m hm
    exact h.reading i m (hread m hm)
  · intro m hm
    refine h.checked i m ?_
    rw [hp]
    exact hm
  · intro j hj
    rcases h.guarded j hj with hlook | ⟨hover, hflight⟩
    · rcases lookup_sweep hlook now config.allowedSkewSeconds with hkept | ⟨hgone, -⟩
      · exact .inl hkept
      · -- the entry is evicted: no live copy is left, by the condition on the sweep
        have hdead : ¬ (withinSkew config.allowedSkewSeconds s.clock (req j).timestamp = true ∨
            ∃ k, (req k).nonce = (req j).nonce ∧ InFlight C config req s k) := fun hl =>
          hlive ⟨now, _, _, hp, hlook, hgone, hl⟩
        rw [not_or, withinSkew_iff] at hdead
        have hfuture := h.future _ _ hlook
        refine .inr ⟨by show _ < s.clock; omega, ?_⟩
        intro k hk hf
        exact hdead.2 ⟨k, hk, inFlight_update hread hf⟩
    · exact .inr ⟨hover, fun k hk hf => hflight k hk (inFlight_update hread hf)⟩

lemma sound_validate {s : State ι} (h : Sound C config req s) {i : ι} {now : ℤ}
    (hp : s.phase i = .swept now) :
    Sound C config req (s.advance i (admission s.seen (req i) now)) := by
  have hread : ∀ m, (admission s.seen (req i) now).reading = some m →
      (s.phase i).reading = some m := by
    intro m hm
    rw [hp]
    unfold admission at hm
    split_ifs at hm
    · simp [Phase.reading] at hm
    · exact hm
  apply h.quiet
  · unfold admission
    split_ifs <;> simp
  · exact Int.le_refl _
  · intro n t ht
    exact ht
  · intro m hm
    exact h.reading i m (hread m hm)
  · intro m hm
    refine h.checked i m ?_
    rw [hp]
    unfold admission at hm
    split_ifs at hm
    · simp [Phase.checkedReading] at hm
    · exact hm
  · intro j hj
    exact (h.guarded j hj).keep (Int.le_refl _) (fun hl => hl) hread

/-- An insertion accepts its request if there is no entry, and no other. -/
lemma accepted_of_insert {s : State ι} {seen : NonceStore} {i j : ι}
    (hj : State.accepted ⟨seen, s.clock,
      Function.update s.phase i (insertion s.seen (req i))⟩ j) :
    (j = i ∧ s.seen.lookup (req i).nonce = none) ∨ (j ≠ i ∧ s.accepted j) := by
  unfold State.accepted at hj
  by_cases hji : j = i
  · subst hji
    refine .inl ⟨rfl, ?_⟩
    by_contra hsome
    simp [insertion, hsome] at hj
  · refine .inr ⟨hji, ?_⟩
    unfold State.accepted
    simpa [hji] using hj

lemma sound_insert {s : State ι} (h : Sound C config req s) {i : ι}
    (hsign : SameStamp C config req s i) {now : ℤ} (hp : s.phase i = .admitted now) :
    Sound C config req ⟨s.seen.insert (req i).nonce (req i).timestamp, s.clock,
      Function.update s.phase i (insertion s.seen (req i))⟩ := by
  have hr : reachesStore C config (req i) now = true := h.checked i now (by rw [hp]; rfl)
  have hsigned := signatureValid_of_reachesStore hr
  have hw := BridgeReplay.reachesStore_window hr
  have hnow : now ≤ s.clock := h.reading i now (by rw [hp]; rfl)
  have hnoread : ∀ m, (insertion s.seen (req i)).reading = some m →
      (s.phase i).reading = some m := by
    intro m hm
    simp [insertion, Phase.reading] at hm
  constructor
  · exact h.future.insert (by omega)
  · intro j m hm
    by_cases hji : j = i
    · subst hji
      simp [insertion, Phase.reading] at hm
    · exact h.reading j m (by simpa [hji] using hm)
  · intro j m hm
    by_cases hji : j = i
    · subst hji
      simp [insertion, Phase.checkedReading] at hm
    · exact h.checked j m (by simpa [hji] using hm)
  · intro j hj
    rcases accepted_of_insert hj with ⟨rfl, -⟩ | ⟨-, hj⟩
    · exact hsigned
    · exact h.signed j hj
  · intro j hj
    rcases accepted_of_insert hj with ⟨rfl, -⟩ | ⟨-, hj⟩
    · exact .inl (AList.lookup_insert _)
    · by_cases hn : (req j).nonce = (req i).nonce
      · have hts := (hsign j hj hsigned (h.signed j hj) hn.symm).symm
        exact .inl (by rw [hn, hts]; exact AList.lookup_insert _)
      · refine (h.guarded j hj).keep (Int.le_refl _) ?_ hnoread
        intro hl
        rw [AList.lookup_insert_ne hn, hl]
  · intro j k hj hk hn
    rcases accepted_of_insert hj with ⟨hji, hfresh⟩ | ⟨-, hj'⟩
    · rcases accepted_of_insert hk with ⟨hki, -⟩ | ⟨-, hk'⟩
      · rw [hji, hki]
      · exact absurd hfresh (lookup_of_accepted h hp hr hk' (by rw [← hn, hji]))
    · rcases accepted_of_insert hk with ⟨hki, hfresh⟩ | ⟨-, hk'⟩
      · exact absurd hfresh (lookup_of_accepted h hp hr hj' (by rw [hn, hki]))
      · exact h.unique j k hj' hk' hn

lemma sound_step {s t : State ι} {e : Event ι} (hstep : Step C config req s e t)
    (hsign : SameStamp C config req s e.owner) (hlive : ¬ EvictsLive C config req s e)
    (h : Sound C config req s) : Sound C config req t := by
  cases hstep with
  | readClock _ hc => exact sound_readClock h hsign hc
  | check hp => exact sound_check h hp
  | sweep hp => exact sound_sweep h hp hlive
  | validate hp => exact sound_validate h hp
  | insert hp => exact sound_insert h hsign hp

end Invariant

/-- At most one copy of each signed request is accepted. -/
def AcceptsOnce (req : ι → Request) (s : State ι) : Prop :=
  ∀ i j, req i = req j → s.accepted i → s.accepted j → i = j

def ReplayProtected (C : Crypto) : Prop :=
  ∀ (config : AuthConfig) (ι : Type) [DecidableEq ι] (req : ι → Request),
    0 < config.allowedSkewSeconds → SignerNonces C config req → ∀ c₀ es s,
      (bridge C config req).Run (.start c₀) es s → AcceptsOnce req s

/-- In every interleaving in which no size check evicts a nonce that is still live, at most one
copy of a signed request is accepted. -/
theorem accepted_once_unless_evicted_live [DecidableEq ι] (C : Crypto) (config : AuthConfig)
    (req : ι → Request) (hsign : SignerNonces C config req) {c₀ : ℤ} {es : List (Event ι)}
    {s : State ι}
    (hrun : ((bridge C config req).restrict fun s e => ¬ EvictsLive C config req s e).Run
      (.start c₀) es s) : AcceptsOnce req s := by
  have hsound : Sound C config req s := by
    refine hrun.invariant ?_ (sound_start C config req c₀)
    rintro s e t ⟨hstep, hlive⟩ hs
    exact sound_step hstep (fun j _ => hsign e.owner j) hlive hs
  intro i j hij hi hj
  exact hsound.unique i j hi hj (by rw [hij])

/-! A second copy of an accepted request passes the skew check in the last second of its window.
Before it inserts, a request that read the clock one second later sweeps the full store. -/

inductive Copy
  | first
  | second
  | sweeper
  | filler (nonce : String)
  deriving DecidableEq

def Copy.nonce : Copy → String
  | .first | .second => "replayed"
  | .sweeper => "sweeper"
  | .filler n => n

def stamp (nonce : String) : ℤ := if nonce = "sweeper" then 61 else 0

open BridgeReplay (minuteConfig signed verifyRequest_signed fillers fillers_nodup
  insertOnce_below sweep_hundred)

variable (C : Crypto)

def copies (c : Copy) : Request := signed C c.nonce (stamp c.nonce)

lemma signerNonces_copies : SignerNonces C minuteConfig (copies C) := by
  intro i j _ _ h
  have hn : i.nonce = j.nonce := h
  simp [copies, signed, hn]

lemma reachesStore_copies {c : Copy} {now : ℤ} (h : withinSkew 60 now (stamp c.nonce) = true) :
    reachesStore C minuteConfig (copies C c) now = true := by
  have hs : signatureValid C minuteConfig (copies C c) = true :=
    verifySignature_signRequest C _ _ _ _ _ _
  have hw : withinSkew minuteConfig.allowedSkewSeconds now (copies C c).timestamp = true := h
  simp [reachesStore, hs, hw]

/-- Two copies of one request, both past their sweep before either inserts. -/
theorem accepted_once_two_copies : ∃ s : State Copy, s.accepted .first ∧
    s.phase .second = .done (.error .replay) ∧ AcceptsOnce (copies .standard) s := by
  let s₁ : State Copy := ⟨∅, 0, Function.update (State.start 0).phase .first (.verified 0)⟩
  have hfirst : (bridge .standard minuteConfig (copies .standard)).Run (.start 0) _ s₁ :=
    run_verified .standard minuteConfig (copies .standard) rfl (show (0 : ℤ) ≤ 0 by omega)
      (reachesStore_copies .standard (show withinSkew 60 0 0 = true by decide))
  let s₂ : State Copy := ⟨∅, 60, Function.update s₁.phase .second (.verified 60)⟩
  have hsecond : (bridge .standard minuteConfig (copies .standard)).Run s₁ _ s₂ :=
    run_verified .standard minuteConfig (copies .standard) rfl (show (0 : ℤ) ≤ 60 by omega)
      (reachesStore_copies .standard (show withinSkew 60 60 0 = true by decide))
  let s₃ : State Copy := ⟨∅, 60, Function.update s₂.phase .first (.swept 0)⟩
  have hsweep₁ : (bridge .standard minuteConfig (copies .standard)).step s₂ (.sweep .first) s₃ :=
    Step.sweep (show s₂.phase .first = .verified 0 by rfl)
  let s₄ : State Copy := ⟨∅, 60, Function.update s₃.phase .second (.swept 60)⟩
  have hsweep₂ : (bridge .standard minuteConfig (copies .standard)).step s₃ (.sweep .second) s₄ :=
    Step.sweep (show s₃.phase .second = .verified 60 by rfl)
  have hinsert₁ := run_insertion .standard minuteConfig (copies .standard)
    (show s₄.phase .first = .swept 0 by rfl) (show insertRefused ∅ "replayed" = false by decide)
  let s₅ : State Copy := ⟨AList.insert "replayed" 0 ∅, 60,
    Function.update s₄.phase .first (insertion ∅ (copies .standard .first))⟩
  have hinsert₂ := run_insertion .standard minuteConfig (copies .standard)
    (show s₅.phase .second = .swept 60 by rfl)
    (show insertRefused (AList.insert "replayed" 0 ∅) "replayed" = false by decide)
  have hempty (i : Copy) {s : State Copy} (hs : s.seen = ∅) :
      ¬ EvictsLive .standard minuteConfig (copies .standard) s (.sweep i) := by
    rintro ⟨now, n, t, -, hlook, -⟩
    simp [hs] at hlook
  have hquiet {s t : State Copy} {es : List (Event Copy)}
      (h : (bridge .standard minuteConfig (copies .standard)).Run s es t)
      (hes : ∀ i, .sweep i ∉ es) :=
    h.to_restrict (C := fun s e => ¬ EvictsLive .standard minuteConfig (copies .standard) s e) (by
      intro s e he hlive
      cases e with
      | sweep i => exact hes i he
      | _ => exact hlive)
  have hrun := (hquiet (hfirst.append hsecond) (by simp)).append
    (.cons ⟨hsweep₁, hempty .first rfl⟩ (.cons ⟨hsweep₂, hempty .second rfl⟩
      (hquiet (System.Run.append hinsert₁ hinsert₂) (by simp))))
  refine ⟨_, ?_, ?_, accepted_once_unless_evicted_live .standard minuteConfig (copies .standard)
    (signerNonces_copies .standard) hrun⟩
  · rfl
  · rfl

lemma fill (nonces : List String) (hnodup : nonces.Nodup)
    (hw : ∀ n ∈ nonces, wellFormedNonce n = true ∧ stamp n = 0) (s : State Copy)
    (hwait : ∀ n ∈ nonces, s.phase (.filler n) = .waiting)
    (hnew : ∀ n ∈ nonces, s.seen.lookup n = none) (hpos : 0 < s.seen.size)
    (hle : s.seen.size + nonces.length ≤ 100) (hall : s.seen.All (· = 0)) (hclock : s.clock = 0) :
    ∃ es t, (bridge C minuteConfig (copies C)).Run s es t ∧ t.clock = 0 ∧
      t.seen.size = s.seen.size + nonces.length ∧ t.seen.All (· = 0) ∧
      ∀ c, (∀ n, c ≠ .filler n) → t.phase c = s.phase c := by
  induction nonces generalizing s with
  | nil => exact ⟨[], s, .nil s, hclock, rfl, hall, fun _ _ => rfl⟩
  | cons n ns ih =>
    rw [List.nodup_cons] at hnodup
    simp only [List.mem_cons, forall_eq_or_imp, List.length_cons] at hw hwait hnew hle
    obtain ⟨es, hone⟩ :=
      sequential_run C minuteConfig (copies C) hwait.1 (show s.clock ≤ 0 by omega)
    have hverify : verifyRequest C minuteConfig s.seen (copies C (.filler n)) 0 =
        (s.seen.insert n 0, .ok ()) := by
      have hcopy : copies C (.filler n) = signed C n 0 := by simp [copies, Copy.nonce, hw.1.2]
      rw [hcopy, verifyRequest_signed C s.seen (show withinSkew 60 0 0 = true by decide),
        insertOnce_below hpos (by omega) hw.1.1 hnew.1]
      rfl
    rw [hverify] at hone
    have hsize := Table.size_insert_of_none (0 : ℤ) hnew.1
    obtain ⟨es', t, hr, hc, hs, ha, hp⟩ := ih hnodup.2 hw.2
      ⟨s.seen.insert n 0, 0, Function.update s.phase (.filler n) (.done (.ok ()))⟩ (by
        intro m hm
        have hne : m ≠ n := fun h => hnodup.1 (h ▸ hm)
        simpa [hne] using hwait.2 m hm) (by
        intro m hm
        have hne : m ≠ n := fun h => hnodup.1 (h ▸ hm)
        rw [AList.lookup_insert_ne hne]
        exact hnew.2 m hm) (by simp only; omega) (by simp only; omega) (hall.insert rfl) rfl
    refine ⟨es ++ es', t, hone.append hr, hc, ?_, ha, ?_⟩
    · simp only [List.length_cons] at hs ⊢
      omega
    · intro c hcopy
      rw [hp c hcopy]
      simp [hcopy n]

/-- The claimed protection fails whatever the hash functions are. -/
theorem not_replayProtected_concurrent : ¬ ∃ C, ReplayProtected C := by
  rintro ⟨C, hprot⟩
  have hwaiting (c : Copy) : (State.start 0).phase c = .waiting := rfl
  obtain ⟨es₁, hfirst⟩ := sequential_run C minuteConfig (copies C) (hwaiting .first)
    (show (0 : ℤ) ≤ 0 by omega)
  have haccept : verifyRequest C minuteConfig ∅ (copies C .first) 0 =
      (AList.insert "replayed" 0 ∅, .ok ()) := by
    have hcopy : copies C .first = signed C "replayed" 0 := rfl
    rw [hcopy, verifyRequest_signed C ∅ (show withinSkew 60 0 0 = true by decide)]
    rfl
  have hseen : (State.start 0 : State Copy).seen = ∅ := rfl
  rw [hseen, haccept] at hfirst
  obtain ⟨es₂, s, hfill, hclock, hsize, hall, hphase⟩ := fill C fillers fillers_nodup (by decide)
    ⟨AList.insert "replayed" 0 ∅, 0, Function.update (State.start 0).phase .first (.done (.ok ()))⟩
    (by simp [State.start]) (by decide) (by decide) (by decide)
    (Table.All.insert (by intro n v h; simp at h) rfl) rfl
  have hfirstDone : s.phase .first = .done (.ok ()) := by
    rw [hphase .first (by simp)]
    simp
  have hsecond : s.phase .second = .waiting := by
    rw [hphase .second (by simp)]
    simp [State.start]
  have hsweeper : s.phase .sweeper = .waiting := by
    rw [hphase .sweeper (by simp)]
    simp [State.start]
  -- the second copy holds a reading of 60 when the sweep at 61 empties the store
  let s₃ : State Copy := ⟨s.seen, 60, Function.update s.phase .second (.verified 60)⟩
  have hheld : (bridge C minuteConfig (copies C)).Run s _ s₃ :=
    run_verified C minuteConfig (copies C) hsecond (show s.clock ≤ 60 by omega)
      (reachesStore_copies C (show withinSkew 60 60 0 = true by decide))
  let s₄ : State Copy := ⟨s.seen, 61, Function.update s₃.phase .sweeper (.verified 61)⟩
  have hread : (bridge C minuteConfig (copies C)).Run s₃ _ s₄ :=
    run_verified C minuteConfig (copies C)
      (show s₃.phase .sweeper = .waiting by simpa [s₃] using hsweeper)
      (show (60 : ℤ) ≤ 61 by omega)
      (reachesStore_copies C (show withinSkew 60 61 (stamp "sweeper") = true by decide))
  let s₅ : State Copy := ⟨∅, 61, Function.update s₄.phase .sweeper (.swept 61)⟩
  have hevict : (bridge C minuteConfig (copies C)).step s₄ (.sweep .sweeper) s₅ := by
    have h : Step C minuteConfig (copies C) s₄ (.sweep .sweeper) _ :=
      .sweep (show s₄.phase .sweeper = .verified 61 by simp [s₄])
    have hempty : sweep s₄.seen 61 minuteConfig.allowedSkewSeconds = ∅ := sweep_hundred hsize hall
    rw [hempty] at h
    exact h
  let s₆ : State Copy := ⟨∅, 61, Function.update s₅.phase .second (.swept 60)⟩
  have hsweep : (bridge C minuteConfig (copies C)).step s₅ (.sweep .second) s₆ :=
    Step.sweep (show s₅.phase .second = .verified 60 by simp [s₅, s₄, s₃])
  have hinsert := run_insertion C minuteConfig (copies C)
    (show s₆.phase .second = .swept 60 by simp [s₆])
    (show insertRefused ∅ "replayed" = false by decide)
  have hrun := (hfirst.append hfill).append
    (hheld.append (hread.append (.cons hevict (.cons hsweep hinsert))))
  have heq := hprot minuteConfig Copy (copies C) (by decide) (signerNonces_copies C) 0 _ _ hrun
    .first .second rfl (by simp [State.accepted, s₆, s₅, s₄, s₃, hfirstDone])
    (by simp [State.accepted, insertion, s₆])
  simp at heq

end PcRemote.BridgeConcurrency
