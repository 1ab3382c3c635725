import PcRemote.ConfirmationProtocol

/-! The operation lock of the client. Locking empties both slots, and while locked nothing can
fill them; so what is carried out after an unlock was also asked for after it. -/
namespace PcRemote.Telegram
open Text Signing OtaUpdate Transition

/-- The sender of the part of an update that is processed. -/
def senderOf (update : Json) : Option ℤ :=
  ((partOf update "callback_query").or (partOf update "message")).map fun part =>
    ((part.index "from").index "id").i64OrDefault

lemma callbackRequest_of_not_allowed {config : ClientConfig} {callback : Json}
    (h : isAllowed config ((callback.index "from").index "id").i64OrDefault = false) :
    callbackRequest config callback = .unauthorized := by
  simp [callbackRequest, h]

lemma messageRequest_of_not_allowed {config : ClientConfig} {message : Json}
    (h : isAllowed config ((message.index "from").index "id").i64OrDefault = false) :
    messageRequest config message = .unauthorized := by
  simp [messageRequest, h]

/-- Only the owner can ask for the lock to be released. -/
lemma allowed_of_unlocks {config : ClientConfig} {update : Json}
    (h : (requestOf config update).unlocks = true) :
    ∃ fromId, senderOf update = some fromId ∧ isAllowed config fromId = true := by
  unfold requestOf at h
  unfold senderOf
  cases hcallback : partOf update "callback_query" with
  | some callback =>
    refine ⟨_, rfl, ?_⟩
    by_contra hallowed
    rw [Bool.not_eq_true] at hallowed
    simp [hcallback, callbackRequest_of_not_allowed hallowed, Request.unlocks] at h
  | none =>
    cases hmessage : partOf update "message" with
    | some message =>
      refine ⟨_, rfl, ?_⟩
      by_contra hallowed
      rw [Bool.not_eq_true] at hallowed
      simp [hcallback, hmessage, messageRequest_of_not_allowed hallowed, Request.unlocks] at h
    | none => simp [hcallback, hmessage, Request.unlocks] at h

section Lock
variable {C : Crypto} {decode : List UInt8 → Except String OtaManifest} {config : ClientConfig}

/-- While locked, an update does nothing that matters, or it sets the lock. -/
lemma Handled.locked_cases {env : Env} {c c' : Client} {request : Request}
    {effects : List Effect} (h : Handled C decode config env c request c' effects)
    (hlocked : c.locked = true) :
    (loud effects = [] ∧ c'.locked = true) ∨
      ∃ locked, loud effects = [.setLock locked] ∧ c' = c.setOperationLock locked ∧
        (locked = false → request.unlocks = true) := by
  have unlocked_absurd : ¬ c.locked = false := by simp [hlocked]
  cases h with
  | quiet hslots hl => exact Or.inl ⟨hl, (locked_of_slots hslots).trans hlocked⟩
  | wake hunlocked => exact absurd hunlocked unlocked_absurd
  | issue hunlocked => exact absurd hunlocked unlocked_absurd
  | prompt hunlocked => exact absurd hunlocked unlocked_absurd
  | typedIgnored hslots hl => exact Or.inl ⟨hl, (locked_of_slots hslots).trans hlocked⟩
  | typedAccepted hunlocked => exact absurd hunlocked unlocked_absurd
  | typedRefused hunlocked => exact absurd hunlocked unlocked_absurd
  | refused hunlocked => exact absurd hunlocked unlocked_absurd
  | executed hunlocked => exact absurd hunlocked unlocked_absurd
  | updated hunlocked => exact absurd hunlocked unlocked_absurd
  | @lock _ locked hc hl hattempt htyped hunlock => exact Or.inr ⟨locked, hl, hc, hunlock⟩

lemma Handled.loud_of_locked {env : Env} {c c' : Client} {request : Request}
    {effects : List Effect} (h : Handled C decode config env c request c' effects)
    (hlocked : c.locked = true) {effect : Effect} (hmem : effect ∈ effects)
    (hloud : effect.isLoud = true) : ∃ locked, effect = .setLock locked := by
  have hmem' := mem_loud hmem hloud
  rcases h.locked_cases hlocked with ⟨hl, -⟩ | ⟨locked, hl, -, -⟩
  · simp [hl] at hmem'
  · exact ⟨locked, by simpa [hl] using hmem'⟩

lemma Handled.unlocks {env : Env} {c c' : Client} {request : Request} {effects : List Effect}
    (h : Handled C decode config env c request c' effects) (hlocked : c.locked = true)
    (hunlocked : c'.locked = false) : request.unlocks = true := by
  rcases h.locked_cases hlocked with ⟨-, hkept⟩ | ⟨locked, -, hc, hunlock⟩
  · simp [hunlocked] at hkept
  · cases locked with
    | true => simp [hc, Client.setOperationLock] at hunlocked
    | false => exact hunlock rfl

/-- A typed value that leads to anything is one that was waited for. -/
lemma Handled.awaited {env : Env} {c c' : Client} {request : Request} {effects : List Effect}
    (h : Handled C decode config env c request c' effects) (htyped : request.isTyped = true)
    {effect : Effect} (hmem : effect ∈ effects) (hloud : effect.isLoud = true) :
    ∃ i, c.pendingInput = some i ∧ env.now < i.expiresAt := by
  have hmem' := mem_loud hmem hloud
  have typed_absurd : ¬ request.isTyped = false := by simp [htyped]
  have hno_attempt : request.attempt = none := by
    cases request <;> first | rfl | simp [Request.isTyped] at htyped
  cases h with
  | quiet hslots hl hattempt hno => exact absurd hno typed_absurd
  | wake hunlocked hslots hl hattempt hno => exact absurd hno typed_absurd
  | issue hunlocked hslots hl hattempt hno => exact absurd hno typed_absurd
  | prompt hunlocked hslots hl hattempt hno => exact absurd hno typed_absurd
  | typedIgnored hslots hl => simp [hl] at hmem'
  | typedAccepted hunlocked hinput htime => exact ⟨_, hinput, htime⟩
  | typedRefused hunlocked hinput htime => exact ⟨_, hinput, htime⟩
  | refused hunlocked hslots hl => simp [hl] at hmem'
  | executed hunlocked hp => simp [hp.attempt] at hno_attempt
  | updated hunlocked hp => simp [hp.attempt] at hno_attempt
  | lock hc hl hattempt hno => exact absurd hno typed_absurd

/-- A slot keeps what it holds, is emptied, or takes what is stored. -/
def Refilled {ω : Type*} (old new : Option ω) (stored : ω → Prop) : Prop :=
  ∀ o, new = some o → old = some o ∨ stored o

section Refilled
variable {ω : Type*} {old new : Option ω} {stored : ω → Prop}

lemma Refilled.kept (h : new = old) : Refilled old new stored := by
  intro o ho
  exact Or.inl (h ▸ ho)

lemma Refilled.emptied (h : new = none) : Refilled old new stored := by
  intro o ho
  simp [h] at ho

lemma Refilled.filled {o : ω} (h : new = some o) (hstored : stored o) :
    Refilled old new stored := by
  intro o' ho'
  have heq : o = o' := Option.some.inj (h.symm.trans ho')
  exact Or.inr (heq ▸ hstored)

end Refilled

lemma mem_of_loud {effects es : List Effect} (h : loud effects = es) {e : Effect} (he : e ∈ es) :
    e ∈ effects := (List.mem_filter.mp (h ▸ he)).1

lemma Handled.pending_refilled {env : Env} {c c' : Client} {request : Request}
    {effects : List Effect} (h : Handled C decode config env c request c' effects) :
    Refilled c.pending c'.pending fun p => .storePending p ∈ effects := by
  cases h with
  | quiet hslots => exact .kept (pending_of_slots hslots)
  | wake hunlocked hslots => exact .kept (pending_of_slots hslots)
  | issue hunlocked hslots hl =>
    exact .filled (pending_of_slots hslots) (mem_of_loud hl (List.mem_singleton_self _))
  | prompt hunlocked hslots => exact .kept (pending_of_slots hslots)
  | typedIgnored hslots => exact .kept (pending_of_slots hslots)
  | typedAccepted hunlocked hinput htime hkind hchange hslots hl =>
    exact .filled (pending_of_slots hslots) (mem_of_loud hl (List.mem_singleton_self _))
  | typedRefused hunlocked hinput htime hkind hslots => exact .kept (pending_of_slots hslots)
  | refused hunlocked hslots => exact .emptied (pending_of_slots hslots)
  | executed hunlocked hp hslots => exact .emptied (pending_of_slots hslots)
  | updated hunlocked hp hkind hslots => exact .emptied (pending_of_slots hslots)
  | @lock _ locked hc =>
    cases locked with
    | true => exact .emptied (by simp [hc, Client.setOperationLock])
    | false => exact .kept (by simp [hc, Client.setOperationLock])

lemma Handled.input_refilled {env : Env} {c c' : Client} {request : Request}
    {effects : List Effect} (h : Handled C decode config env c request c' effects) :
    Refilled c.pendingInput c'.pendingInput fun i => .storeInput i ∈ effects := by
  cases h with
  | quiet hslots => exact .kept (input_of_slots hslots)
  | wake hunlocked hslots => exact .kept (input_of_slots hslots)
  | issue hunlocked hslots => exact .kept (input_of_slots hslots)
  | prompt hunlocked hslots hl =>
    exact .filled (input_of_slots hslots) (mem_of_loud hl List.mem_cons_self)
  | typedIgnored hslots => exact .emptied (input_of_slots hslots)
  | typedAccepted hunlocked hinput htime hkind hchange hslots =>
    exact .emptied (input_of_slots hslots)
  | typedRefused hunlocked hinput htime hkind hslots hl =>
    exact .filled (input_of_slots hslots) (mem_of_loud hl List.mem_cons_self)
  | refused hunlocked hslots => exact .kept (input_of_slots hslots)
  | executed hunlocked hp hslots => exact .kept (input_of_slots hslots)
  | updated hunlocked hp hkind hslots => exact .kept (input_of_slots hslots)
  | @lock _ locked hc =>
    cases locked with
    | true => exact .emptied (by simp [hc, Client.setOperationLock])
    | false => exact .kept (by simp [hc, Client.setOperationLock])

/-- What the slots hold was stored by one of the updates. -/
structure Stored (es : List Event) (c : Client) : Prop where
  confirmation : ∀ p, c.pending = some p → ∃ e ∈ es, .storePending p ∈ e.effects
  input : ∀ i, c.pendingInput = some i → ∃ e ∈ es, .storeInput i ∈ e.effects

lemma stored_step {es : List Event} {s t : Session} {e : Event} (hst : Step C decode config s e t)
    (hs : Stored es s.client) : Stored (es ++ [e]) t.client := by
  have handled := handled_of_step hst
  constructor
  · intro p hp
    rcases handled.pending_refilled p hp with hold | hnew
    · obtain ⟨e', he', hstored⟩ := hs.confirmation p hold
      exact ⟨e', List.mem_append_left _ he', hstored⟩
    · exact ⟨e, List.mem_append_right _ (List.mem_singleton_self e), hnew⟩
  · intro i hi
    rcases handled.input_refilled i hi with hold | hnew
    · obtain ⟨e', he', hstored⟩ := hs.input i hold
      exact ⟨e', List.mem_append_left _ he', hstored⟩
    · exact ⟨e, List.mem_append_right _ (List.mem_singleton_self e), hnew⟩

/-- From a state with empty slots on, the updates since then account for what is held. -/
lemma stored_run {es : List Event} {u s : Session} (h : (session C decode config).Run u es s)
    (hpending : u.client.pending = none) (hinput : u.client.pendingInput = none) :
    Stored es s.client := by
  apply h.history (J := fun es s => Stored es s.client) (fun _ _ _ _ hst hs => stored_step hst hs)
  exact ⟨by simp [hpending], by simp [hinput]⟩

/-- What a later update may carry out: a confirmation, or a value that was waited for, only if
it was asked for since. -/
structure AskedSince (config : ClientConfig) (later : List Event) (s : Session) (e : Event) :
    Prop where
  confirmed : ∀ effect ∈ e.effects, ∀ kind, effect.executes = some kind →
    ∃ issue ∈ later, ∃ p, .storePending p ∈ issue.effects ∧ p.kind = kind ∧
      Redeems e.env s.client (requestOf config e.update) p
  typed : (requestOf config e.update).isTyped = true →
    ∀ effect ∈ e.effects, effect.isLoud = true →
      ∃ prompt ∈ later, ∃ i, .storeInput i ∈ prompt.effects ∧
        s.client.pendingInput = some i ∧ e.env.now < i.expiresAt

lemma askedSince_of_stored {later : List Event} {s t : Session} {e : Event}
    (hst : Step C decode config s e t) (hs : Stored later s.client) :
    AskedSince config later s e := by
  have handled := handled_of_step hst
  constructor
  · intro effect hmem kind hkind
    obtain ⟨p, hp, hpk, -⟩ := handled.redeems hmem hkind
    obtain ⟨issue, hissue, hstored⟩ := hs.confirmation p hp.pending
    exact ⟨issue, hissue, p, hstored, hpk, hp⟩
  · intro htyped effect hmem hloud
    obtain ⟨i, hi, htime⟩ := handled.awaited htyped hmem hloud
    obtain ⟨prompt, hprompt, hstored⟩ := hs.input i hi
    exact ⟨prompt, hprompt, i, hstored, hi, htime⟩

/-- The lock of the client: while locked nothing is pending or awaited; an update does nothing
but set the lock, and only the owner releases it; and whatever is carried out at any later
time was asked for after this moment. -/
theorem locked_client {settings : RuntimeSettings} {es : List Event} {u : Session}
    (h : (session C decode config).Run (.start settings) es u) (hlocked : u.client.locked = true) :
    (u.client.pending = none ∧ u.client.pendingInput = none) ∧
    (∀ e t, Step C decode config u e t →
      (∀ effect ∈ e.effects, effect.isLoud = true → ∃ locked, effect = .setLock locked) ∧
      (t.client.locked = false → (requestOf config e.update).unlocks = true ∧
        ∃ fromId, senderOf e.update = some fromId ∧ isAllowed config fromId = true)) ∧
    (∀ later s, (session C decode config).Run u later s → ∀ e t, Step C decode config s e t →
      AskedSince config later s e) := by
  have hempty := lockedEmpty_run h hlocked
  refine ⟨hempty, ?_, ?_⟩
  · intro e t hst
    have handled := handled_of_step hst
    constructor
    · intro effect hmem hloud
      exact handled.loud_of_locked hlocked hmem hloud
    · intro hunlocked
      have hrequest := handled.unlocks hlocked hunlocked
      exact ⟨hrequest, allowed_of_unlocks hrequest⟩
  · intro later s hlater e t hst
    exact askedSince_of_stored hst (stored_run hlater hempty.1 hempty.2)

end Lock

section Stale

def eventAt (c : Client) (now : Instant) (text : String) : Event :=
  ⟨envAt now, ownerMessage text, (handleAt c now text).2⟩

lemma step_eventAt {c : Client} {now : Instant} {text : String}
    (h : decide (Effect.restart ∈ (handleAt c now text).2) = false) :
    Step .standard noManifest ownerConfig ⟨c, false⟩ (eventAt c now text)
      ⟨(handleAt c now text).1, false⟩ := by
  have hstep : Step .standard noManifest ownerConfig ⟨c, false⟩ (eventAt c now text)
      ⟨(handleAt c now text).1, decide (Effect.restart ∈ (handleAt c now text).2)⟩ :=
    .update c (envAt now) (ownerMessage text)
  rwa [h] at hstep

def lockedOwner : Client := (handleAt asked.1 6 "/lock").1

def unlockedOwner : Client := (handleAt lockedOwner 7 "/unlock").1

lemma run_locked : (session .standard noManifest ownerConfig).Run (.start initialSettings)
    [eventAt (.new initialSettings) 5 "/reboot", eventAt asked.1 6 "/lock"]
    ⟨lockedOwner, false⟩ :=
  .cons (step_eventAt (by decide)) (.one (step_eventAt (by decide)))

/-- The nonce issued before the lock is worth nothing after the unlock. -/
theorem locked_client_reboot :
    (handleAt unlockedOwner 8 "/confirm_reboot 222222").2.filterMap Effect.executes = [] := by
  have hunlock : Step .standard noManifest ownerConfig ⟨lockedOwner, false⟩
      (eventAt lockedOwner 7 "/unlock") ⟨unlockedOwner, false⟩ := step_eventAt (by decide)
  have hconfirm : Step .standard noManifest ownerConfig ⟨unlockedOwner, false⟩
      (eventAt unlockedOwner 8 "/confirm_reboot 222222") _ := step_eventAt (by decide)
  have hsince := (locked_client run_locked (by decide)).2.2 _ _ (.one hunlock) _ _ hconfirm
  rw [List.filterMap_eq_nil_iff]
  intro effect hmem
  by_contra hne
  obtain ⟨kind, hkind⟩ := Option.ne_none_iff_exists'.mp hne
  obtain ⟨issue, hissue, p, hstored, -⟩ := hsince.confirmed effect hmem kind hkind
  rw [List.mem_singleton.mp hissue] at hstored
  have hunlocks : (eventAt lockedOwner 7 "/unlock").effects =
      [.setLock false, .sendMessage 42 "操作のロックを解除しました。"] := by decide
  simp [hunlocks] at hstored

end Stale

end PcRemote.Telegram
