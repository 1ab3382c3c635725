import PcRemote.ClientSteps
import PcRemote.SingleUse

/-! The confirmation protocol over whole sessions. The pending confirmation is a single-use
slot: issuing one is an offer, every attempt to confirm or cancel uses it up, and locking
revokes it. What is executed is therefore always what was issued last. -/
namespace PcRemote.Telegram
open Signing OtaUpdate Transition

/-- While locked, nothing is pending and no value is awaited. -/
def Client.LockedEmpty (c : Client) : Prop :=
  c.locked = true → c.pending = none ∧ c.pendingInput = none

lemma lockedEmpty_new (settings : RuntimeSettings) : (Client.new settings).LockedEmpty := by
  intro h
  exact ⟨rfl, rfl⟩

/-- Whatever the slots are, they are those of an unlocked client, or unchanged, or emptied. -/
lemma lockedEmpty_of_slots {c c' : Client} (h : c.LockedEmpty) (hslots : c'.slots = c.slots) :
    c'.LockedEmpty := by
  intro hl
  rw [pending_of_slots hslots, input_of_slots hslots]
  exact h ((locked_of_slots hslots).symm.trans hl)

lemma lockedEmpty_of_unlocked {c' : Client} {p : Option Pending} {i : Option PendingInput}
    (hslots : c'.slots = (p, i, false)) : c'.LockedEmpty := by
  intro hl
  simp [locked_of_slots hslots] at hl

section Protocol
variable {C : Crypto} {decode : List UInt8 → Except String OtaManifest} {config : ClientConfig}

lemma Handled.lockedEmpty {env : Env} {c c' : Client} {request : Request} {effects : List Effect}
    (h : Handled C decode config env c request c' effects) (hc : c.LockedEmpty) :
    c'.LockedEmpty := by
  cases h with
  | quiet hslots => exact lockedEmpty_of_slots hc hslots
  | wake _ hslots => exact lockedEmpty_of_slots hc hslots
  | issue _ hslots => exact lockedEmpty_of_unlocked hslots
  | prompt _ hslots => exact lockedEmpty_of_unlocked hslots
  | typedIgnored hslots =>
    intro hl
    have hempty := hc ((locked_of_slots hslots).symm.trans hl)
    exact ⟨(pending_of_slots hslots).trans hempty.1, input_of_slots hslots⟩
  | typedAccepted _ _ _ _ _ hslots => exact lockedEmpty_of_unlocked hslots
  | typedRefused _ _ _ _ hslots => exact lockedEmpty_of_unlocked hslots
  | refused _ hslots => exact lockedEmpty_of_unlocked hslots
  | executed _ _ hslots => exact lockedEmpty_of_unlocked hslots
  | updated _ _ _ hslots => exact lockedEmpty_of_unlocked hslots
  | @lock _ locked hc' =>
    intro hl
    cases locked with
    | true => simp [hc', Client.setOperationLock]
    | false => simp [hc', Client.setOperationLock] at hl

lemma lockedEmpty_step {s t : Session} {e : Event} (h : Step C decode config s e t)
    (hs : s.client.LockedEmpty) : t.client.LockedEmpty := by
  cases h with
  | update c env update => exact (handled_processUpdate update).lockedEmpty hs

lemma lockedEmpty_run {settings : RuntimeSettings} {es : List Event} {s : Session}
    (h : (session C decode config).Run (.start settings) es s) : s.client.LockedEmpty :=
  h.invariant (I := fun s => s.client.LockedEmpty) (fun _ _ _ hst hs => lockedEmpty_step hst hs)
    (lockedEmpty_new settings)

/-- An attempt: what is asked for, and when. -/
abbrev Attempt := Request × Instant

def Pending.accepts (p : Pending) (a : Attempt) : Prop :=
  a.1.attempt = some p.nonce ∧ p.nonce ≠ "" ∧ a.2 < p.expiresAt ∧ a.1.confirms p.kind = true

def slotEvent : Effect → Option (SingleUse.Event Pending Attempt PendingKind)
  | .storePending p => some (.offer p)
  | .setLock true => some .revoke
  | _ => none

def executed (effects : List Effect) : Option PendingKind :=
  (effects.filterMap Effect.executes).head?

variable (config) in
/-- What an update means to the slot: its attempt first, then what it stores or clears. -/
def observe (e : Event) : List (SingleUse.Event Pending Attempt PendingKind) :=
  let request := requestOf config e.update
  (if request.attempt = none then [] else [.attempt (request, e.env.now) (executed e.effects)]) ++
    e.effects.filterMap slotEvent

lemma slotEvent_of_not_loud (e : Effect) (h : e.isLoud = false) : slotEvent e = none := by
  cases e <;> first | rfl | simp [Effect.isLoud] at h

lemma executes_of_not_loud (e : Effect) (h : e.isLoud = false) : e.executes = none := by
  cases e <;> first | rfl | simp [Effect.isLoud] at h

lemma slotEvent_of_executes {e : Effect} {kind : PendingKind} (h : e.executes = some kind) :
    slotEvent e = none := by
  cases e <;> first | rfl | simp [Effect.executes] at h

lemma observe_of_loud {e : Event} {effects : List Effect} (h : loud e.effects = effects) :
    observe config e =
      (if (requestOf config e.update).attempt = none then []
        else [.attempt (requestOf config e.update, e.env.now)
          (effects.filterMap Effect.executes).head?]) ++ effects.filterMap slotEvent := by
  dsimp only [observe, executed]
  rw [← filterMap_loud slotEvent_of_not_loud, ← filterMap_loud executes_of_not_loud, h]

lemma slotEvent_updated {env : Env} {before : List Effect} {c : Client} {chatId : ℤ}
    {version : String} (hloud : loud before = []) :
    (before ++ executeConfirmedOtaUpdate C decode config env c chatId version).filterMap slotEvent =
      [] := by
  rw [List.filterMap_append, ← filterMap_loud slotEvent_of_not_loud before, hloud,
    filterMap_executeConfirmedOtaUpdate C decode config env slotEvent_of_not_loud
      (fun _ => rfl) rfl]
  rfl

lemma executes_updated {env : Env} {before : List Effect} {c : Client} {chatId : ℤ}
    {version : String} (hloud : loud before = []) :
    (before ++ executeConfirmedOtaUpdate C decode config env c chatId version).filterMap
      Effect.executes = [.firmwareUpdate version] := by
  rw [List.filterMap_append, ← filterMap_loud executes_of_not_loud before, hloud,
    filterMap_executeConfirmedOtaUpdate C decode config env executes_of_not_loud (fun _ => rfl) rfl]
  rfl

lemma observe_updated {env : Env} {update : Json} {before : List Effect} {c : Client} {chatId : ℤ}
    {version : String} (hloud : loud before = [])
    (hattempt : (requestOf config update).attempt ≠ none) :
    observe config ⟨env, update,
      before ++ executeConfirmedOtaUpdate C decode config env c chatId version⟩ =
        [.attempt (requestOf config update, env.now) (some (.firmwareUpdate version))] := by
  dsimp only [observe, executed]
  rw [slotEvent_updated hloud, executes_updated hloud, if_neg hattempt, List.append_nil,
    List.head?_cons]

lemma run_attempt_none {p : Option Pending} {a : Attempt} :
    (SingleUse.slot Pending.accepts Pending.kind).Run p [.attempt a none] none := by
  apply System.Run.one
  apply SingleUse.Step.attempt
  simp

lemma Redeems.granted {env : Env} {c : Client} {request : Request} {p : Pending}
    (h : Redeems env c request p) (kind : PendingKind) (hkind : some p.kind = some kind) :
    ∃ o, c.pending = some o ∧ o.accepts (request, env.now) ∧ o.kind = kind :=
  ⟨p, h.pending, ⟨h.attempt, h.nonce_ne, h.in_time, h.confirms⟩, Option.some.inj hkind⟩

/-- Handling an update is a run of the slot. -/
lemma Handled.observed {env : Env} {update : Json} {c c' : Client} {effects : List Effect}
    (h : Handled C decode config env c (requestOf config update) c' effects)
    (hc : c.LockedEmpty) :
    (SingleUse.slot Pending.accepts Pending.kind).Run c.pending
      (observe config ⟨env, update, effects⟩) c'.pending := by
  cases h with
  | quiet hslots hloud hattempt =>
    rw [observe_of_loud hloud, pending_of_slots hslots]
    rcases hattempt with hattempt | hlocked
    · rw [if_pos hattempt]
      exact .nil c.pending
    · rw [(hc hlocked).1]
      split_ifs with hattempt
      · exact .nil none
      · exact run_attempt_none
  | wake hunlocked hslots hloud hattempt =>
    rw [observe_of_loud hloud, pending_of_slots hslots, if_pos hattempt]
    exact .nil c.pending
  | @issue _ p hunlocked hslots hloud hattempt htyped =>
    rw [observe_of_loud hloud, pending_of_slots hslots, if_pos hattempt]
    exact .one (.offer c.pending p)
  | prompt hunlocked hslots hloud hattempt htyped =>
    rw [observe_of_loud hloud, pending_of_slots hslots, if_pos hattempt]
    exact .nil c.pending
  | typedIgnored hslots hloud hattempt htyped =>
    rw [observe_of_loud hloud, pending_of_slots hslots, if_pos hattempt]
    exact .nil c.pending
  | @typedAccepted _ i p change hunlocked hinput htime hkind hchange hslots hloud hattempt htyped =>
    rw [observe_of_loud hloud, pending_of_slots hslots, if_pos hattempt]
    exact .one (.offer c.pending p)
  | typedRefused hunlocked hinput htime hkind hslots hloud hattempt htyped =>
    rw [observe_of_loud hloud, pending_of_slots hslots, if_pos hattempt]
    exact .nil c.pending
  | refused hunlocked hslots hloud hattempt =>
    rw [observe_of_loud hloud, pending_of_slots hslots, if_neg (by simp [hattempt])]
    exact run_attempt_none
  | @executed _ p e hunlocked hp hslots hloud he =>
    rw [observe_of_loud hloud, pending_of_slots hslots, if_neg (by simp [hp.attempt]),
      List.filterMap_cons_some he, List.filterMap_cons_none (slotEvent_of_executes he)]
    exact .one (.attempt hp.granted)
  | @updated before p version chatId hunlocked hp hkind hslots hloud =>
    rw [observe_updated hloud (by simp [hp.attempt]), pending_of_slots hslots, ← hkind]
    exact .one (.attempt hp.granted)
  | @lock _ locked hc' hloud hattempt htyped hunlock =>
    rw [observe_of_loud hloud, hc', if_pos hattempt]
    cases locked with
    | true => exact .one (.revoke c.pending)
    | false => exact .nil c.pending

lemma observe_step {s t : Session} {e : Event} (h : Step C decode config s e t)
    (hs : s.client.LockedEmpty) :
    (SingleUse.slot Pending.accepts Pending.kind).Run s.client.pending (observe config e)
      t.client.pending := by
  cases h with
  | update c env update => exact (handled_processUpdate update).observed hs

lemma observe_run {settings : RuntimeSettings} {es : List Event} {s : Session}
    (h : (session C decode config).Run (.start settings) es s) :
    (SingleUse.slot Pending.accepts Pending.kind).Run none (es.flatMap (observe config))
      s.client.pending :=
  h.simulate (fun s => s.client.pending) (observe config) (I := fun s => s.client.LockedEmpty)
    (fun _ _ _ hst hs => lockedEmpty_step hst hs) (fun _ _ _ hst hs => observe_step hst hs)
    (lockedEmpty_new settings)

/-- The effects of an operation that needs a confirmation. -/
def Effect.operates : Effect → Bool
  | .sendCommand .. | .applyChange _ | .executeConfirmedOta _ | .ota _ | .restart => true
  | _ => false

lemma Effect.isLoud_of_operates {e : Effect} (h : e.operates = true) : e.isLoud = true := by
  cases e <;> first | rfl | simp [Effect.operates] at h

lemma Effect.operates_of_executes {e : Effect} {kind : PendingKind}
    (h : e.executes = some kind) : e.operates = true := by
  cases e <;> first | rfl | simp [Effect.executes] at h

/-- An operation takes place only where what is pending is redeemed: on its own, or as part of
a firmware update. -/
lemma Handled.operation {env : Env} {c c' : Client} {request : Request} {effects : List Effect}
    (h : Handled C decode config env c request c' effects) {effect : Effect}
    (hmem : effect ∈ effects) (hoperates : effect.operates = true) :
    (∃ p, Redeems env c request p ∧ loud effects = [effect] ∧ effect.executes = some p.kind ∧
      ∀ version, p.kind ≠ .firmwareUpdate version) ∨
    ∃ before p version chatId, Redeems env c request p ∧ p.kind = .firmwareUpdate version ∧
      loud before = [] ∧
      effects = before ++ executeConfirmedOtaUpdate C decode config env c' chatId version := by
  have hmem' := mem_loud hmem (Effect.isLoud_of_operates hoperates)
  have absent : ∀ es, loud effects = es → ¬ ∀ e ∈ es, e.operates = false := by
    intro es he hnone
    rw [he] at hmem'
    simp [hnone effect hmem'] at hoperates
  cases h with
  | quiet hslots hl => exact absurd (by simp) (absent _ hl)
  | wake hunlocked hslots hl => exact absurd (by simp [Effect.operates]) (absent _ hl)
  | issue hunlocked hslots hl => exact absurd (by simp [Effect.operates]) (absent _ hl)
  | prompt hunlocked hslots hl => exact absurd (by simp [Effect.operates]) (absent _ hl)
  | typedIgnored hslots hl => exact absurd (by simp) (absent _ hl)
  | typedAccepted hunlocked hinput htime hkind hchange hslots hl =>
    exact absurd (by simp [Effect.operates]) (absent _ hl)
  | typedRefused hunlocked hinput htime hkind hslots hl =>
    exact absurd (by simp [Effect.operates]) (absent _ hl)
  | refused hunlocked hslots hl => exact absurd (by simp) (absent _ hl)
  | @executed _ p e hunlocked hp hslots hl he hkind =>
    rw [hl, List.mem_singleton] at hmem'
    subst hmem'
    exact Or.inl ⟨p, hp, hl, he, hkind⟩
  | @updated before p version chatId hunlocked hp hkind hslots hl =>
    exact Or.inr ⟨before, p, version, chatId, hp, hkind, hl, rfl⟩
  | lock hc hl => exact absurd (by simp [Effect.operates]) (absent _ hl)

/-- An update that executes something redeems what is pending, and executes just that. -/
lemma Handled.redeems {env : Env} {update : Json} {c c' : Client} {effects : List Effect}
    (h : Handled C decode config env c (requestOf config update) c' effects) {effect : Effect}
    {kind : PendingKind} (hmem : effect ∈ effects) (hkind : effect.executes = some kind) :
    ∃ p, Redeems env c (requestOf config update) p ∧ p.kind = kind ∧
      observe config ⟨env, update, effects⟩ =
        [.attempt (requestOf config update, env.now) (some kind)] ∧
      effects.filterMap Effect.executes = [kind] := by
  rcases h.operation hmem (Effect.operates_of_executes hkind) with
    ⟨p, hp, hloud, he, -⟩ | ⟨before, p, version, chatId, hp, hpk, hquiet, rfl⟩
  · have hpk : p.kind = kind := Option.some.inj (he.symm.trans hkind)
    refine ⟨p, hp, hpk, ?_, ?_⟩
    · rw [observe_of_loud hloud, if_neg (by simp [hp.attempt]), List.filterMap_cons_some hkind,
        List.filterMap_cons_none (slotEvent_of_executes hkind)]
      rfl
    · rw [← filterMap_loud executes_of_not_loud, hloud, List.filterMap_cons_some hkind]
      rfl
  · have hversion : kind = .firmwareUpdate version := by
      have hcollected := List.mem_filterMap.mpr ⟨effect, hmem, hkind⟩
      rwa [executes_updated hquiet, List.mem_singleton] at hcollected
    subst hversion
    exact ⟨p, hp, hpk, observe_updated hquiet (by simp [hp.attempt]), executes_updated hquiet⟩

/-- After an attempt nothing is pending. -/
lemma Handled.pending_none {env : Env} {c c' : Client} {request : Request}
    {effects : List Effect} (h : Handled C decode config env c request c' effects)
    (hc : c.LockedEmpty) (hattempt : request.attempt ≠ none) : c'.pending = none := by
  cases h with
  | quiet hslots hloud hguard =>
    exact (pending_of_slots hslots).trans (hc (hguard.resolve_left hattempt)).1
  | wake hunlocked hslots hloud hnone => exact absurd hnone hattempt
  | issue hunlocked hslots hloud hnone => exact absurd hnone hattempt
  | prompt hunlocked hslots hloud hnone => exact absurd hnone hattempt
  | typedIgnored hslots hloud hnone => exact absurd hnone hattempt
  | typedAccepted hunlocked hinput htime hkind hchange hslots hloud hnone =>
    exact absurd hnone hattempt
  | typedRefused hunlocked hinput htime hkind hslots hloud hnone => exact absurd hnone hattempt
  | refused hunlocked hslots => exact pending_of_slots hslots
  | executed hunlocked hp hslots => exact pending_of_slots hslots
  | updated hunlocked hp hkind hslots => exact pending_of_slots hslots
  | lock hc' hloud hnone => exact absurd hnone hattempt

/-- What an update without an attempt that leaves the slot alone does not contain. -/
lemma untouched_of_observe_nil {e : Event} (h : observe config e = []) :
    (requestOf config e.update).attempt = none ∧ .setLock true ∉ e.effects ∧
      ∀ p, .storePending p ∉ e.effects := by
  obtain ⟨hattempt, hslot⟩ := List.append_eq_nil_iff.mp h
  have hnone := List.filterMap_eq_nil_iff.mp hslot
  refine ⟨?_, ?_, ?_⟩
  · by_contra hne
    rw [if_neg hne] at hattempt
    simp at hattempt
  · intro hmem
    simpa [slotEvent] using hnone _ hmem
  · intro p hmem
    simpa [slotEvent] using hnone _ hmem

/-- An update that issues a confirmation does nothing else that matters. -/
lemma Handled.issues {env : Env} {c c' : Client} {request : Request} {effects : List Effect}
    (h : Handled C decode config env c request c' effects) {p : Pending}
    (hp : .storePending p ∈ effects) : loud effects = [.storePending p] := by
  have hmem := mem_loud hp rfl
  cases h with
  | quiet hslots hl => simp [hl] at hmem
  | wake hunlocked hslots hl => simp [hl] at hmem
  | issue hunlocked hslots hl => simpa [hl, eq_comm] using hmem
  | prompt hunlocked hslots hl => simp [hl] at hmem
  | typedIgnored hslots hl => simp [hl] at hmem
  | typedAccepted hunlocked hinput htime hkind hchange hslots hl =>
    simpa [hl, eq_comm] using hmem
  | typedRefused hunlocked hinput htime hkind hslots hl => simp [hl] at hmem
  | refused hunlocked hslots hl => simp [hl] at hmem
  | executed hunlocked hp' hslots hl he =>
    rw [hl, List.mem_singleton] at hmem
    simp [← hmem, Effect.executes] at he
  | updated hunlocked hp' hkind hslots hl =>
    have hoffer := List.mem_filterMap.mpr ⟨_, hp, (rfl : slotEvent (.storePending p) = _)⟩
    rw [slotEvent_updated hl] at hoffer
    simp at hoffer
  | lock hc' hl => simp [hl] at hmem

lemma storePending_of_observe (config : ClientConfig) {e : Event} {p : Pending}
    (h : .offer p ∈ observe config e) :
    .storePending p ∈ e.effects := by
  rcases List.mem_append.mp h with hattempt | hslot
  · split_ifs at hattempt <;> simp at hattempt
  · obtain ⟨x, hx, hp⟩ := List.mem_filterMap.mp hslot
    unfold slotEvent at hp
    split at hp
    · rename_i q
      have hq : q = p := by simpa using hp
      exact hq ▸ hx
    · simp at hp
    · simp at hp

/-- What an execution in a session presupposes: the last confirmation issued, for the same
operation, redeemed in time, and untouched in between. -/
structure Presupposed (config : ClientConfig) (pre : List Event) (e : Event) (kind : PendingKind) :
    Prop where
  issued : ∃ before issue mid p, pre = before ++ issue :: mid ∧
    loud issue.effects = [.storePending p] ∧ p.kind = kind ∧
    (requestOf config e.update).attempt = some p.nonce ∧ p.nonce ≠ "" ∧
    e.env.now < p.expiresAt ∧ (requestOf config e.update).confirms kind = true ∧
    ∀ e' ∈ mid, (requestOf config e'.update).attempt = none ∧ .setLock true ∉ e'.effects ∧
      ∀ q, .storePending q ∉ e'.effects
  alone : e.effects.filterMap Effect.executes = [kind]
  untouched : .setLock true ∉ e.effects ∧ ∀ q, .storePending q ∉ e.effects

lemma handled_of_step {s t : Session} {e : Event} (h : Step C decode config s e t) :
    Handled C decode config e.env s.client (requestOf config e.update) t.client e.effects := by
  cases h with
  | update c env update => exact handled_processUpdate update

lemma presupposed_of_executes {settings : RuntimeSettings} {pre post : List Event} {e : Event}
    {s : Session} (h : (session C decode config).Run (.start settings) (pre ++ e :: post) s)
    {effect : Effect} {kind : PendingKind} (hmem : effect ∈ e.effects)
    (hkind : effect.executes = some kind) : Presupposed config pre e kind := by
  obtain ⟨u, u', hpre, hstep, hpost⟩ := h.split
  obtain ⟨p, -, -, hobserve, halone⟩ := (handled_of_step hstep).redeems hmem hkind
  obtain ⟨before, issue, mid, xs, o, hsplit, hissue, hmid, haccepts, hcontent⟩ :=
    SingleUse.used_offer_observed (observe_run h) hobserve
  refine ⟨⟨before, issue, mid, o, hsplit, ?_, hcontent, haccepts.1, haccepts.2.1, haccepts.2.2.1,
    hcontent ▸ haccepts.2.2.2, fun e' he' => untouched_of_observe_nil (hmid e' he')⟩, halone, ?_⟩
  · rw [hsplit] at hpre
    obtain ⟨v, v', hbefore, hissued, hrest⟩ := hpre.split
    apply (handled_of_step hissued).issues
    apply storePending_of_observe config
    rw [hissue]
    simp
  · have hslot : e.effects.filterMap slotEvent = [] := by
      have hlength := congrArg List.length hobserve
      dsimp only [observe] at hlength
      rw [if_neg (by simp [haccepts.1])] at hlength
      simpa using hlength
    have hnone := List.filterMap_eq_nil_iff.mp hslot
    refine ⟨fun hl => ?_, fun q hq => ?_⟩
    · simpa [slotEvent] using hnone _ hl
    · simpa [slotEvent] using hnone _ hq

/-- The confirmation protocol: what is executed was issued last, unchanged and in time; an
issue is executed at most once; an attempt leaves nothing pending, and executes nothing that
it does not redeem. -/
theorem confirmation_protocol {settings : RuntimeSettings} {es : List Event} {s : Session}
    (h : (session C decode config).Run (.start settings) es s) :
    (∀ pre e post, es = pre ++ e :: post → ∀ effect ∈ e.effects, ∀ kind,
      effect.executes = some kind → Presupposed config pre e kind) ∧
    (∀ pre e₁ mid e₂ post, es = pre ++ e₁ :: mid ++ e₂ :: post →
      (∃ effect ∈ e₁.effects, effect.executes ≠ none) →
      (∃ effect ∈ e₂.effects, effect.executes ≠ none) →
      ∃ e ∈ mid, ∃ p, .storePending p ∈ e.effects) ∧
    (∀ pre e post, es = pre ++ e :: post → (requestOf config e.update).attempt ≠ none →
      ∃ u u', (session C decode config).Run (.start settings) pre u ∧
        Step C decode config u e u' ∧ u'.client.pending = none ∧
        ∀ effect ∈ e.effects, ∀ kind, effect.executes = some kind →
          ∃ p, Redeems e.env u.client (requestOf config e.update) p ∧ p.kind = kind) := by
  refine ⟨?_, ?_, ?_⟩
  · rintro pre e post rfl effect hmem kind hkind
    exact presupposed_of_executes h hmem hkind
  · rintro pre e₁ mid e₂ post rfl ⟨x₁, hx₁, hne₁⟩ ⟨x₂, hx₂, hne₂⟩
    obtain ⟨k₁, hk₁⟩ := Option.ne_none_iff_exists'.mp hne₁
    obtain ⟨k₂, hk₂⟩ := Option.ne_none_iff_exists'.mp hne₂
    obtain ⟨u₂, u₂', hpre₂, hstep₂, -⟩ := h.split
    obtain ⟨u₁, u₁', -, hstep₁, -⟩ := hpre₂.split
    obtain ⟨-, -, -, hobserve₁, -⟩ := (handled_of_step hstep₁).redeems hx₁ hk₁
    obtain ⟨-, -, -, hobserve₂, -⟩ := (handled_of_step hstep₂).redeems hx₂ hk₂
    obtain ⟨e, he, xs, p, hoffer⟩ :=
      SingleUse.offer_between (observe_run h) hobserve₁ hobserve₂
    refine ⟨e, he, p, storePending_of_observe config ?_⟩
    rw [hoffer]
    simp
  · rintro pre e post rfl hattempt
    obtain ⟨u, u', hpre, hstep, -⟩ := h.split
    have handled := handled_of_step hstep
    refine ⟨u, u', hpre, hstep, handled.pending_none (lockedEmpty_run hpre) hattempt, ?_⟩
    intro effect hmem kind hkind
    obtain ⟨p, hp, hpk, -⟩ := handled.redeems hmem hkind
    exact ⟨p, hp, hpk⟩

end Protocol

section Reboot

def ownerConfig : ClientConfig := ⟨"42", 60, "02:00:00:00:00:01", "secret"⟩

def initialSettings : RuntimeSettings := ⟨"192.168.1.50", 80, 9, 100, fun _ => none⟩

/-- A slot that refuses to be written. -/
def sealedSlot : Slot where
  size := 0
  initiate := .error "sealed"
  write _ _ := .error "sealed"
  complete := .error "sealed"
  write_bounded _ _ h := by simp at h

def envAt (now : Instant) : Env where
  now := now
  issuedAt := now
  draw := fun _ => 0
  pcOnline := true
  bridgeOnline := true
  battery := none
  wakeSent := true
  commandStatus := some 200
  nvsWritten := true
  manifest := .clockNotSynced
  progressMessageId := none
  slot := sealedSlot
  image := .clockNotSynced

def ownerMessage (text : String) : Json :=
  .obj [("message", .obj [("from", .obj [("id", .int 42)]), ("chat", .obj [("id", .int 42)]),
    ("text", .str text)])]

def noManifest : List UInt8 → Except String OtaManifest := fun _ => .error "line 1 column 0"

def handleAt (c : Client) (now : Instant) (text : String) : Outcome :=
  processUpdate .standard noManifest ownerConfig (envAt now) c (ownerMessage text)

def asked : Outcome := handleAt (.new initialSettings) 5 "/reboot"

def confirmed : Outcome := handleAt asked.1 7 "/confirm_reboot 222222"

def askedEvent : Event := ⟨envAt 5, ownerMessage "/reboot", asked.2⟩

def confirmedEvent : Event := ⟨envAt 7, ownerMessage "/confirm_reboot 222222", confirmed.2⟩

lemma run_confirmed : ∃ s, (session .standard noManifest ownerConfig).Run (.start initialSettings)
    [askedEvent, confirmedEvent] s := by
  have hrestart : decide (Effect.restart ∈ asked.2) = false := by decide
  have hasked : Step .standard noManifest ownerConfig (.start initialSettings) askedEvent
      ⟨asked.1, decide (Effect.restart ∈ asked.2)⟩ := .update _ _ _
  rw [hrestart] at hasked
  have hconfirmed : Step .standard noManifest ownerConfig ⟨asked.1, false⟩ confirmedEvent
      ⟨confirmed.1, decide (Effect.restart ∈ confirmed.2)⟩ := .update _ _ _
  exact ⟨_, .cons hasked (.one hconfirmed)⟩

theorem confirmation_protocol_reboot :
    Presupposed ownerConfig [askedEvent] confirmedEvent (.power .reboot) := by
  obtain ⟨s, hrun⟩ := run_confirmed
  have hsent : Effect.sendCommand .reboot "192.168.1.50" ∈ confirmedEvent.effects := by decide
  exact (confirmation_protocol hrun).1 [askedEvent] confirmedEvent [] rfl _ hsent _ rfl

end Reboot

end PcRemote.Telegram
