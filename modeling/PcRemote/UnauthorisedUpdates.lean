import Mathlib.Data.List.Chain
import PcRemote.ClientLock
import PcRemote.Noninterference

/-! Updates from others than the owner. They touch nothing but the counter of the alerts, and
nothing else reads that counter; so the owner's updates go as if the others had never come. -/
namespace PcRemote.Telegram
open Text Signing OtaUpdate Transition Noninterference

/-- An update with what it meets. The nonce comes from a stream and not from here. -/
structure Dispatched where
  env : Env
  update : Json

/-- An update without a sender is one that nobody is refused for. -/
def Dispatched.authorised (config : ClientConfig) (d : Dispatched) : Bool :=
  (senderOf d.update).all (isAllowed config)

structure Serving where
  client : Client
  drawn : ℕ

/-- What is seen of one update: all that was done for it, and the slots and the lock after it. -/
structure Served where
  effects : List Effect
  slots : Option Pending × Option PendingInput × Bool

def Effect.issues : Effect → Bool
  | .storePending _ => true
  | _ => false

section Serve
variable (C : Crypto) (decode : List UInt8 → Except String OtaManifest) (config : ClientConfig)
  (nonces : ℕ → Fin 6 → UInt32)

/-- A nonce of the stream is used up by every confirmation that is issued. -/
def serve (s : Serving) (d : Dispatched) : Serving × Served :=
  let r := processUpdate C decode config { d.env with draw := nonces s.drawn } s.client d.update
  (⟨r.1, s.drawn + r.2.countP Effect.issues⟩, ⟨r.2, r.1.slots⟩)

/-- Every update of a sequence with what is seen of it. -/
def served (s : Serving) (ds : List Dispatched) : List (Dispatched × Served) :=
  (feed (serve C decode config nonces) s ds).1

end Serve

def Client.withAlerts (c : Client) (a : AlertThrottle) : Client :=
  { c with unauthorizedAlerts := a }

/-- The same outcome for a client with another counter. -/
def withAlerts (o : Outcome) (a : AlertThrottle) : Outcome := (o.1.withAlerts a, o.2)

section Handlers
variable {C : Crypto} {decode : List UInt8 → Except String OtaManifest} {config : ClientConfig}
  {env : Env} (c : Client) (a : AlertThrottle) (chatId : ℤ)

lemma handleSettingInput_withAlerts (kind : SettingKind) (raw : String) :
    handleSettingInput config env (c.withAlerts a) chatId kind raw =
      withAlerts (handleSettingInput config env c chatId kind raw) a := by
  unfold handleSettingInput
  cases kind.parse raw <;> rfl

lemma handleSetCommand_withAlerts (kind : SettingKind) (args : String) :
    handleSetCommand config env (c.withAlerts a) chatId kind args =
      withAlerts (handleSetCommand config env c chatId kind args) a := by
  unfold handleSetCommand
  split_ifs
  · rfl
  · exact handleSettingInput_withAlerts c a chatId kind args

lemma handleUpdateCommand_withAlerts :
    handleUpdateCommand C decode config env (c.withAlerts a) chatId =
      withAlerts (handleUpdateCommand C decode config env c chatId) a := by
  unfold handleUpdateCommand
  cases fetchManifest C decode config env with
  | error e => rfl
  | ok m =>
    simp only
    split_ifs <;> rfl

lemma consumePending_withAlerts (supplied : String) :
    (c.withAlerts a).consumePending env supplied =
      ((c.consumePending env supplied).1.withAlerts a, (c.consumePending env supplied).2) := rfl

lemma handleConfirmation_withAlerts (action : PowerAction) (supplied : String) :
    handleConfirmation env (c.withAlerts a) chatId action supplied =
      withAlerts (handleConfirmation env c chatId action supplied) a := by
  unfold handleConfirmation
  rw [consumePending_withAlerts]
  dsimp only
  rcases (c.consumePending env supplied).2 with - | kind
  · rfl
  · cases kind with
    | power pendingAction =>
      dsimp only
      split_ifs <;> rfl
    | config change => rfl
    | firmwareUpdate version => rfl

lemma handleConfigConfirmation_withAlerts (supplied : String) :
    handleConfigConfirmation env (c.withAlerts a) chatId supplied =
      withAlerts (handleConfigConfirmation env c chatId supplied) a := by
  unfold handleConfigConfirmation
  rw [consumePending_withAlerts]
  dsimp only
  rcases (c.consumePending env supplied).2 with - | kind
  · rfl
  · cases kind <;> rfl

lemma handleUpdateConfirmation_withAlerts (supplied : String) :
    handleUpdateConfirmation C decode config env (c.withAlerts a) chatId supplied =
      withAlerts (handleUpdateConfirmation C decode config env c chatId supplied) a := by
  unfold handleUpdateConfirmation
  rw [consumePending_withAlerts]
  dsimp only
  rcases (c.consumePending env supplied).2 with - | kind
  · rfl
  · cases kind <;> rfl

lemma runCommand_withAlerts (name args : String) :
    runCommand C decode config env (c.withAlerts a) chatId name args =
      withAlerts (runCommand C decode config env c chatId name args) a := by
  fun_cases runCommand C decode config env c chatId name args <;> simp only [runCommand]
  all_goals first
    | exact handleConfirmation_withAlerts c a chatId _ args
    | exact handleConfigConfirmation_withAlerts c a chatId args
    | exact handleUpdateConfirmation_withAlerts c a chatId args
    | exact handleUpdateCommand_withAlerts c a chatId
    | exact handleSetCommand_withAlerts c a chatId _ args
    | rfl

lemma executePending_withAlerts (id : String) (kind : PendingKind) :
    executePending C decode config env (c.withAlerts a) id chatId kind =
      withAlerts (executePending C decode config env c id chatId kind) a := by
  cases kind <;> rfl

lemma handleDecision_withAlerts (id : String) (confirm : Bool) (target : CallbackTarget)
    (nonce : String) :
    handleDecision C decode config env (c.withAlerts a) id chatId confirm target nonce =
      withAlerts (handleDecision C decode config env c id chatId confirm target nonce) a := by
  unfold handleDecision
  rw [consumePending_withAlerts]
  dsimp only
  cases confirm <;>
    rcases (c.consumePending env nonce).2.filter (fun kind => target.covers kind) with - | kind
  · rfl
  · rfl
  · rfl
  · exact executePending_withAlerts _ a chatId id kind

lemma handleStatusAction_withAlerts (id : String) (messageId : ℤ) (action : StatusAction) :
    handleStatusAction config env (c.withAlerts a) id chatId messageId action =
      withAlerts (handleStatusAction config env c id chatId messageId action) a := by
  cases action with
  | refresh => rfl
  | wake => rfl
  | reboot | shutdown =>
    simp only [handleStatusAction, handleStatusAction.confirmFromButton]
    split_ifs <;> rfl

lemma handleCallback_withAlerts (id : String) (messageId : ℤ) (parsed : Callback) :
    handleCallback C decode config env (c.withAlerts a) id chatId messageId parsed =
      withAlerts (handleCallback C decode config env c id chatId messageId parsed) a := by
  cases parsed with
  | decision confirm target nonce =>
    exact handleDecision_withAlerts c a chatId id confirm target nonce
  | editSetting kind =>
    simp only [handleCallback]
    split_ifs <;> rfl
  | setLock locked =>
    cases locked <;> rfl
  | status action => exact handleStatusAction_withAlerts c a chatId id messageId action

lemma handleTyped_withAlerts (text : String) :
    handleTyped config env (c.withAlerts a) chatId text =
      withAlerts (handleTyped config env c chatId text) a := by
  unfold handleTyped
  have htake : (c.withAlerts a).takePendingInput env =
      ((c.takePendingInput env).1.withAlerts a, (c.takePendingInput env).2) := rfl
  have hinput : (c.withAlerts a).pendingInput = c.pendingInput := rfl
  have hlocked : (c.withAlerts a).locked = c.locked := rfl
  rw [htake, hinput, hlocked]
  dsimp only
  cases c.pendingInput with
  | none => rfl
  | some input =>
    cases (c.takePendingInput env).2 with
    | none => rfl
    | some kind =>
      dsimp only
      split_ifs
      · rfl
      · exact handleSettingInput_withAlerts _ a chatId kind text

lemma dispatchCommand_withAlerts (name args : String) :
    dispatchCommand C decode config env (c.withAlerts a) chatId name args =
      withAlerts (dispatchCommand C decode config env c chatId name args) a := by
  unfold dispatchCommand
  have hlocked : (c.withAlerts a).locked = c.locked := rfl
  rw [hlocked]
  split_ifs
  · rfl
  · exact runCommand_withAlerts c a chatId name args

/-- What an update from the owner does is the same whatever the counter is, and leaves it. -/
lemma processUpdate_withAlerts {update : Json}
    (h : (senderOf update).all (isAllowed config) = true) :
    processUpdate C decode config env (c.withAlerts a) update =
      withAlerts (processUpdate C decode config env c update) a := by
  unfold processUpdate
  unfold senderOf at h
  cases hcallback : partOf update "callback_query" with
  | some callback =>
    rw [hcallback, Option.some_or, Option.map_some, Option.all_some] at h
    dsimp only [handleCallbackQuery]
    rw [if_neg (not_not.mpr h), if_neg (not_not.mpr h)]
    cases Callback.parse (callback.index "data").strOrDefault with
    | none => rfl
    | some parsed =>
      have hlocked : (c.withAlerts a).locked = c.locked := rfl
      dsimp only
      rw [hlocked]
      split_ifs
      · rfl
      · exact handleCallback_withAlerts c a _ _ _ parsed
  | none =>
    cases hmessage : partOf update "message" with
    | some message =>
      rw [hcallback, hmessage, Option.none_or, Option.map_some, Option.all_some] at h
      dsimp only [handleMessage]
      rw [if_neg (not_not.mpr h), if_neg (not_not.mpr h)]
      split_ifs
      · rfl
      · exact dispatchCommand_withAlerts c a _ _ _
      · exact handleTyped_withAlerts c a _ _
    | none => rfl

end Handlers

/-- A button is answered, whoever pressed it; a message is not. -/
def refusalAnswer (update : Json) : List Effect :=
  match partOf update "callback_query" with
  | some callback => [.answerCallbackQuery (callback.index "id").strOrDefault "権限がありません"]
  | none => []

section Refused
variable {C : Crypto} {decode : List UInt8 → Except String OtaManifest} {config : ClientConfig}
  {env : Env} {c : Client} {update : Json}

lemma processUpdate_refused (h : (senderOf update).all (isAllowed config) = false) :
    processUpdate C decode config env c update =
      (c.withAlerts (c.unauthorizedAlerts.record env.now).1,
        refusalAnswer update ++ (recordUnauthorizedAccess config env c).2) := by
  unfold processUpdate refusalAnswer
  unfold senderOf at h
  cases hcallback : partOf update "callback_query" with
  | some callback =>
    rw [hcallback, Option.some_or, Option.map_some, Option.all_some] at h
    dsimp only [handleCallbackQuery]
    rw [if_pos (by simp [h])]
    rfl
  | none =>
    cases hmessage : partOf update "message" with
    | some message =>
      rw [hcallback, hmessage, Option.none_or, Option.map_some, Option.all_some] at h
      dsimp only [handleMessage]
      rw [if_pos (by simp [h])]
      rfl
    | none =>
      rw [hcallback, hmessage] at h
      cases h

/-- Nothing is sent, or the alert is due and goes to the owner. -/
lemma alert_cases (config : ClientConfig) (env : Env) (c : Client) :
    (recordUnauthorizedAccess config env c).2 = [] ∨
      ∃ count owner, (c.unauthorizedAlerts.record env.now).2 = some count ∧
        ConfigValidation.parseTelegramUserId config.allowedUserId = some owner ∧
        (recordUnauthorizedAccess config env c).2 = [.sendMessage owner (unauthorizedText count)] := by
  simp only [recordUnauthorizedAccess]
  cases (c.unauthorizedAlerts.record env.now).2 with
  | none => exact .inl rfl
  | some count =>
    cases ConfigValidation.parseTelegramUserId config.allowedUserId with
    | none => exact .inl rfl
    | some owner => exact .inr ⟨count, owner, rfl, rfl, rfl⟩

lemma countP_issues_refused :
    (refusalAnswer update ++ (recordUnauthorizedAccess config env c).2).countP Effect.issues = 0 := by
  have hanswer : (refusalAnswer update).countP Effect.issues = 0 := by
    unfold refusalAnswer
    cases partOf update "callback_query" <;> rfl
  have halert : (recordUnauthorizedAccess config env c).2.countP Effect.issues = 0 := by
    rcases alert_cases config env c with hnone | ⟨count, owner, -, -, hsome⟩
    · rw [hnone, List.countP_nil]
    · rw [hsome]
      rfl
  rw [List.countP_append, hanswer, halert]

end Refused

section Runs
variable {C : Crypto} {decode : List UInt8 → Except String OtaManifest} {config : ClientConfig}
  {nonces : ℕ → Fin 6 → UInt32}

/-- Two states that differ in the counter of the alerts at most. -/
def Alike (s t : Serving) : Prop :=
  s.drawn = t.drawn ∧ t.client = s.client.withAlerts t.client.unauthorizedAlerts

lemma alike_equivalence : Equivalence Alike where
  refl _ := ⟨rfl, rfl⟩
  symm h := by
    refine ⟨h.1.symm, ?_⟩
    rw [h.2]
    rfl
  trans h g := by
    refine ⟨h.1.trans g.1, ?_⟩
    rw [g.2, h.2]
    rfl

lemma serve_refused {s : Serving} {d : Dispatched} (h : d.authorised config = false) :
    serve C decode config nonces s d =
      (⟨s.client.withAlerts (s.client.unauthorizedAlerts.record d.env.now).1, s.drawn⟩,
        ⟨refusalAnswer d.update ++ (recordUnauthorizedAccess config d.env s.client).2,
          s.client.slots⟩) := by
  have hcount : (refusalAnswer d.update ++ (recordUnauthorizedAccess config
      { d.env with draw := nonces s.drawn } s.client).2).countP Effect.issues = 0 :=
    countP_issues_refused
  simp only [serve, processUpdate_refused h, hcount, Nat.add_zero]
  rfl

lemma serve_authorised {s t : Serving} {d : Dispatched} (h : d.authorised config = true)
    (hst : Alike s t) :
    (serve C decode config nonces s d).2 = (serve C decode config nonces t d).2 ∧
      Alike (serve C decode config nonces s d).1 (serve C decode config nonces t d).1 := by
  obtain ⟨hdrawn, hclient⟩ := hst
  have hsame : processUpdate C decode config { d.env with draw := nonces t.drawn } t.client
      d.update = withAlerts (processUpdate C decode config { d.env with draw := nonces s.drawn }
        s.client d.update) t.client.unauthorizedAlerts := by
    rw [hclient, hdrawn]
    exact processUpdate_withAlerts s.client _ h
  simp only [serve, Alike, hsame, hdrawn]
  exact ⟨rfl, rfl, rfl⟩

lemma unwinding :
    Unwinding (serve C decode config nonces) (Dispatched.authorised config) Alike where
  equivalence := alike_equivalence
  skip s d h := by
    rw [serve_refused h]
    exact ⟨rfl, rfl⟩
  output s t d h hst := (serve_authorised h hst).1
  step s t d h hst := (serve_authorised h hst).2

/-- An update from the owner leaves the counter of the alerts. -/
lemma alerts_serve {s : Serving} {d : Dispatched} (h : d.authorised config = true) :
    (serve C decode config nonces s d).1.client.unauthorizedAlerts =
      s.client.unauthorizedAlerts := by
  have hkeep : processUpdate C decode config { d.env with draw := nonces s.drawn } s.client
      d.update = withAlerts (processUpdate C decode config { d.env with draw := nonces s.drawn }
        s.client d.update) s.client.unauthorizedAlerts :=
    processUpdate_withAlerts s.client s.client.unauthorizedAlerts h
  exact congrArg (fun o : Outcome => o.1.unauthorizedAlerts) hkeep

/-- The limits of the alerts stay as they are. -/
lemma limits_serve {s : Serving} (d : Dispatched) :
    (serve C decode config nonces s d).1.client.unauthorizedAlerts.threshold =
        s.client.unauthorizedAlerts.threshold ∧
      (serve C decode config nonces s d).1.client.unauthorizedAlerts.interval =
        s.client.unauthorizedAlerts.interval := by
  cases h : d.authorised config with
  | true =>
    rw [alerts_serve h]
    exact ⟨rfl, rfl⟩
  | false =>
    rw [serve_refused h]
    rcases s.client.unauthorizedAlerts.record_cases d.env.now with ⟨n, hn⟩ | ⟨count, hfire, -⟩
    · simp [Client.withAlerts, hn]
    · simp [Client.withAlerts, hfire]

/-- What a refused update leads to: the answer to a button, and at most the alert. -/
def OnlyRefused (config : ClientConfig) (threshold : ℕ) (update : Json) (effects : List Effect) :
    Prop :=
  effects = refusalAnswer update ∨
    ∃ count owner, threshold ≤ count ∧
      ConfigValidation.parseTelegramUserId config.allowedUserId = some owner ∧
      effects = refusalAnswer update ++ [.sendMessage owner (unauthorizedText count)]

lemma onlyRefused_serve {s : Serving} {d : Dispatched} (h : d.authorised config = false) :
    OnlyRefused config s.client.unauthorizedAlerts.threshold d.update
      (serve C decode config nonces s d).2.effects := by
  rw [serve_refused h]
  rcases alert_cases config d.env s.client with hnone | ⟨count, owner, hcount, howner, hsome⟩
  · left
    simp only [hnone, List.append_nil]
  · right
    refine ⟨count, owner, ?_, howner, by simp only [hsome]⟩
    rcases s.client.unauthorizedAlerts.record_cases d.env.now with ⟨n, hn⟩ | ⟨m, hfire, hle, -⟩
    · rw [hn] at hcount
      cases hcount
    · rw [hfire] at hcount
      rwa [← Option.some.inj hcount]

def Effect.isMessage : Effect → Bool
  | .sendMessage .. => true
  | _ => false

/-- A refused update that the owner was told about. -/
def alerted (config : ClientConfig) (r : Dispatched × Served) : Bool :=
  !r.1.authorised config && r.2.effects.any Effect.isMessage

def alertTimes (config : ClientConfig) (rs : List (Dispatched × Served)) : List Instant :=
  (rs.filter (alerted config)).map fun r => r.1.env.now

lemma alertTimes_cons (r : Dispatched × Served) (rs : List (Dispatched × Served)) :
    alertTimes config (r :: rs) =
      if alerted config r then r.1.env.now :: alertTimes config rs else alertTimes config rs := by
  unfold alertTimes
  rw [List.filter_cons]
  split_ifs <;> rfl

lemma any_isMessage_refusalAnswer (update : Json) :
    (refusalAnswer update).any Effect.isMessage = false := by
  unfold refusalAnswer
  cases partOf update "callback_query" <;> rfl

/-- A refused update that fires the counter is alerted about, when the owner is known. -/
lemma alerted_cases (C : Crypto) (decode : List UInt8 → Except String OtaManifest)
    (nonces : ℕ → Fin 6 → UInt32) {owner : ℤ}
    (howner : ConfigValidation.parseTelegramUserId config.allowedUserId = some owner) (s : Serving)
    (d : Dispatched) :
    (alerted config (d, (serve C decode config nonces s d).2) = false ∧
        (serve C decode config nonces s d).1.client.unauthorizedAlerts.lastFired =
          s.client.unauthorizedAlerts.lastFired) ∨
      (alerted config (d, (serve C decode config nonces s d).2) = true ∧
        (serve C decode config nonces s d).1.client.unauthorizedAlerts.lastFired =
          some d.env.now ∧
        ∀ fired, s.client.unauthorizedAlerts.lastFired = some fired →
          s.client.unauthorizedAlerts.interval ≤ d.env.now - fired) := by
  cases h : d.authorised config with
  | true => exact .inl ⟨by simp [alerted, h], by rw [alerts_serve h]⟩
  | false =>
    rw [serve_refused h]
    simp only [alerted, h, Bool.not_false, Bool.true_and, List.any_append,
      any_isMessage_refusalAnswer, Bool.false_or]
    rcases s.client.unauthorizedAlerts.record_cases d.env.now with
      ⟨n, hn⟩ | ⟨count, hfire, -, hlate⟩
    · left
      simp [recordUnauthorizedAccess, hn, Client.withAlerts]
    · right
      refine ⟨?_, ?_, hlate⟩
      · simp [recordUnauthorizedAccess, hfire, howner, Effect.isMessage]
      · simp [Client.withAlerts, hfire]

lemma alertTimes_of_owner_none
    (howner : ConfigValidation.parseTelegramUserId config.allowedUserId = none) (s : Serving)
    (ds : List Dispatched) : alertTimes config (served C decode config nonces s ds) = [] := by
  rw [alertTimes, List.map_eq_nil_iff, List.filter_eq_nil_iff]
  intro r hr halerted
  obtain ⟨s', -, hs'⟩ := exists_of_mem_feed (I := fun _ => True) (fun _ _ _ => trivial) trivial hr
  obtain ⟨hrefused, hany⟩ := Bool.and_eq_true_iff.mp halerted
  have h : r.1.authorised config = false := by simpa using hrefused
  rw [hs'] at hany
  have honly : OnlyRefused config s'.client.unauthorizedAlerts.threshold r.1.update
      (serve C decode config nonces s' r.1).2.effects := onlyRefused_serve h
  rcases honly with hanswer | ⟨count, owner, -, hsome, -⟩
  · rw [hanswer, any_isMessage_refusalAnswer] at hany
    cases hany
  · rw [howner] at hsome
    cases hsome

/-- One alert is at least the interval after the one before it, which the counter remembers. -/
lemma isChain_alertTimes {owner : ℤ}
    (howner : ConfigValidation.parseTelegramUserId config.allowedUserId = some owner) {n : ℕ}
    (s : Serving) (hs : s.client.unauthorizedAlerts.interval = n) (ds : List Dispatched) :
    (s.client.unauthorizedAlerts.lastFired.toList ++
      alertTimes config (served C decode config nonces s ds)).IsChain fun a b => n ≤ b - a := by
  induction ds generalizing s with
  | nil =>
    cases s.client.unauthorizedAlerts.lastFired with
    | none => exact List.isChain_nil
    | some fired => exact List.isChain_singleton _
  | cons d ds ih =>
    have hrest := ih (serve C decode config nonces s d).1 ((limits_serve d).2.trans hs)
    change (_ ++ alertTimes config ((d, _) :: served C decode config nonces
      (serve C decode config nonces s d).1 ds)).IsChain _
    rw [alertTimes_cons]
    rcases alerted_cases C decode nonces howner s d with
      ⟨halerted, hlast⟩ | ⟨halerted, hlast, hlate⟩
    · rw [if_neg (by simp [halerted])]
      rwa [hlast] at hrest
    · rw [if_pos halerted]
      rw [hlast] at hrest
      cases hfired : s.client.unauthorizedAlerts.lastFired with
      | none => exact hrest
      | some fired =>
        rw [← hs]
        rw [← hs] at hrest
        exact List.IsChain.cons_cons (hlate fired hfired) hrest

/-- Updates from others than the owner do not interfere. What is done for the owner's updates,
and the slots and the lock after each of them, are those of a run without the others; a refused
update leads to the answer to a button, if it is one, and at most the alert to the owner; and
the alerts keep their distance. -/
theorem unauthorised_noninterference (s : Serving) (ds : List Dispatched) :
    (served C decode config nonces s ds).filter (fun r => r.1.authorised config) =
        served C decode config nonces s (ds.filter (Dispatched.authorised config)) ∧
      (∀ r ∈ served C decode config nonces s ds, r.1.authorised config = false →
        OnlyRefused config s.client.unauthorizedAlerts.threshold r.1.update r.2.effects) ∧
      (alertTimes config (served C decode config nonces s ds)).IsChain
        fun a b => s.client.unauthorizedAlerts.interval ≤ b - a := by
  refine ⟨unwinding.filter_feed (alike_equivalence.refl s) ds, ?_, ?_⟩
  · intro r hr hrefused
    obtain ⟨s', hlimit, hs'⟩ := exists_of_mem_feed
      (I := fun s' => s'.client.unauthorizedAlerts.threshold =
        s.client.unauthorizedAlerts.threshold)
      (fun s' d h => (limits_serve d).1.trans h) rfl hr
    rw [hs', ← hlimit]
    exact onlyRefused_serve hrefused
  · cases howner : ConfigValidation.parseTelegramUserId config.allowedUserId with
    | none =>
      rw [alertTimes_of_owner_none howner]
      exact List.isChain_nil
    | some owner => exact (isChain_alertTimes howner s rfl ds).right_of_append

end Runs

end PcRemote.Telegram
