import PcRemote.ClientDispatch

/-! What one update can do. Every handler is accounted for once, in the cases of a single
relation; what holds over whole sessions is derived from these cases alone. -/
namespace PcRemote.Telegram
open Text Signing OtaUpdate FirmwareVersion Transition

/-- What an update asks for, and whether its sender may ask for anything. -/
inductive Request
  | none
  | unauthorized
  | button (callback : Callback)
  | command (name args : String)
  | typed (text : String)
  deriving DecidableEq, Repr

def callbackRequest (config : ClientConfig) (callback : Json) : Request :=
  if isAllowed config ((callback.index "from").index "id").i64OrDefault then
    match Callback.parse (callback.index "data").strOrDefault with
    | some parsed => .button parsed
    | none => .none
  else .unauthorized

def messageRequest (config : ClientConfig) (message : Json) : Request :=
  if isAllowed config ((message.index "from").index "id").i64OrDefault then
    let text := trim (message.index "text").strOrDefault
    if text = "" then .none
    else if startsWith '/' text then .command (commandOf text).1 (commandOf text).2
    else .typed text
  else .unauthorized

def requestOf (config : ClientConfig) (update : Json) : Request :=
  match partOf update "callback_query" with
  | some callback => callbackRequest config callback
  | none =>
      match partOf update "message" with
      | some message => messageRequest config message
      | none => .none

namespace Request

def confirmCommands : List String :=
  ["/confirm_reboot", "/confirm_shutdown", "/confirm_sleep", "/confirm_update", "/confirm_set"]

/-- The nonce supplied by an attempt to confirm or to cancel. -/
def attempt : Request → Option String
  | .button (.decision _ _ nonce) => some nonce
  | .command name args => if name ∈ confirmCommands then some args else Option.none
  | .button _ | .typed _ | .unauthorized | .none => Option.none

/-- Whether an attempt is to confirm what is pending, and not something else. -/
def confirms (request : Request) (kind : PendingKind) : Bool :=
  match request with
  | .button (.decision confirm target _) => confirm && target.covers kind
  | .command name _ =>
      match kind with
      | .power action => name == confirmCommand action
      | .config _ => name == "/confirm_set"
      | .firmwareUpdate _ => name == "/confirm_update"
  | .button _ | .typed _ | .unauthorized | .none => false

def isTyped : Request → Bool
  | .typed _ => true
  | .button _ | .command .. | .unauthorized | .none => false

def unlocks : Request → Bool
  | .button callback => callback = .setLock false
  | .command name _ => name = "/unlock"
  | .typed _ | .unauthorized | .none => false

end Request

/-- The effects that change what is pending, awaited or locked, that ask for a value, and that
operate. -/
def Effect.isLoud : Effect → Bool
  | .storePending _ | .storeInput _ | .setLock _ | .sendWakeOnLan .. | .sendCommand .. |
    .applyChange _ | .executeConfirmedOta _ | .ota _ | .restart | .sendForceReply .. => true
  | .sendMessage .. | .sendMessageWithKeyboard .. | .sendStatus .. | .editStatus .. |
    .sendMessageReturningId .. | .editMessageText .. |
    .answerCallbackQuery .. | .answerCallbackQueryAndSend .. | .beginWakeWatch _ |
    .beginSleepWatch | .fetchManifest .. => false

def loud (effects : List Effect) : List Effect := effects.filter Effect.isLoud

/-- The confirmed operation an effect carries out. -/
def Effect.executes : Effect → Option PendingKind
  | .sendCommand action _ => some (.power action)
  | .applyChange change => some (.config change)
  | .executeConfirmedOta version => some (.firmwareUpdate version)
  | _ => none

@[simp] lemma loud_nil : loud [] = [] := rfl

@[simp] lemma loud_append (xs ys : List Effect) : loud (xs ++ ys) = loud xs ++ loud ys :=
  List.filter_append ..

@[simp] lemma loud_cons (e : Effect) (es : List Effect) :
    loud (e :: es) = if e.isLoud then e :: loud es else loud es :=
  List.filter_cons ..

@[simp] lemma loud_answerAndSend (id answerText : String) (chatId : ℤ) (text : String) :
    loud (answerAndSend id answerText chatId text) = [] := by
  unfold answerAndSend
  split_ifs <;> rfl

@[simp] lemma loud_settingsMenu (c : Client) (chatId : ℤ) : loud (settingsMenu c chatId) = [] := rfl

lemma loud_doWake (config : ClientConfig) (env : Env) (c : Client) (chatId : ℤ) :
    loud (doWake config env c chatId) =
      [.sendWakeOnLan config.pcMacAddress c.settings.wolPort] := by
  unfold doWake
  split_ifs <;> rfl

lemma loud_runPowerAction (env : Env) (c : Client) (action : PowerAction) :
    loud (runPowerAction env c action).1 = [.sendCommand action c.settings.pcIpAddress] := by
  unfold runPowerAction
  split_ifs <;> rfl

lemma mem_loud {e : Effect} {effects : List Effect} (h : e ∈ effects) (he : e.isLoud = true) :
    e ∈ loud effects := List.mem_filter.mpr ⟨h, he⟩

/-- What is collected from the effects that matter is what is collected from all. -/
lemma filterMap_loud {β : Type*} {f : Effect → Option β} (hf : ∀ e, e.isLoud = false → f e = none)
    (effects : List Effect) : (loud effects).filterMap f = effects.filterMap f := by
  induction effects with
  | nil => rfl
  | cons e es ih =>
    rw [loud_cons]
    split_ifs with hloud
    · rw [List.filterMap_cons, List.filterMap_cons, ih]
    · rw [ih, List.filterMap_cons_none (hf e (by simpa using hloud))]

lemma loud_editProgressMessage (chatId : ℤ) (messageId : Option ℤ) (lastText text : String) :
    loud (editProgressMessage chatId messageId lastText text).2 = [] := by
  unfold editProgressMessage
  cases messageId with
  | none => rfl
  | some id =>
    simp only
    split_ifs <;> rfl

lemma loud_reportOta (chatId : ℤ) (messageId : Option ℤ) (m : OtaManifest)
    (events : List OtaEvent) (lastProgress lastApplying : String) :
    loud (reportOta chatId messageId m lastProgress lastApplying events) =
      events.map Effect.ota := by
  induction events generalizing lastProgress lastApplying with
  | nil => rfl
  | cons event rest ih =>
    cases event <;>
      simp [reportOta, Effect.isLoud, loud_editProgressMessage, ih]

section Update
variable (C : Crypto) (decode : List UInt8 → Except String OtaManifest) (config : ClientConfig)
  (env : Env)

lemma loud_executeOtaUpdate (chatId : ℤ) (m : OtaManifest) :
    loud (executeOtaUpdate C env chatId m) =
      (downloadAndFlash C m env.slot env.image).1.map Effect.ota ++
        match (downloadAndFlash C m env.slot env.image).2 with
        | .ok () => [.restart]
        | .error _ => [] := by
  dsimp only [executeOtaUpdate]
  cases hresult : (downloadAndFlash C m env.slot env.image).2 with
  | ok =>
    by_cases hchat : chatId = 0 <;> simp [hchat, loud_reportOta, Effect.isLoud]
  | error e =>
    by_cases hchat : chatId = 0 <;> simp [hchat, loud_reportOta, Effect.isLoud]

/-- The update runs with the manifest fetched after the confirmation, if it is of the
confirmed version. -/
lemma loud_executeConfirmedOtaUpdate (c : Client) (chatId : ℤ) (version : String) :
    loud (executeConfirmedOtaUpdate C decode config env c chatId version) =
      .executeConfirmedOta version ::
        match fetchManifest C decode config env with
        | .ok m => if m.version = version then loud (executeOtaUpdate C env chatId m) else []
        | .error _ => [] := by
  unfold executeConfirmedOtaUpdate
  cases fetchManifest C decode config env with
  | error e => rfl
  | ok m =>
    simp only
    split_ifs <;> rfl

/-- After its first effect, an update only streams, switches and restarts. -/
lemma filterMap_executeConfirmedOtaUpdate {β : Type*} {f : Effect → Option β}
    (hf : ∀ e, e.isLoud = false → f e = none) (hota : ∀ event, f (.ota event) = none)
    (hrestart : f .restart = none) (c : Client) (chatId : ℤ) (version : String) :
    (executeConfirmedOtaUpdate C decode config env c chatId version).filterMap f =
      (f (.executeConfirmedOta version)).toList := by
  have hrest : ∀ m, (loud (executeOtaUpdate C env chatId m)).filterMap f = [] := by
    intro m
    rw [loud_executeOtaUpdate, List.filterMap_append, List.filterMap_map]
    have hnone : (f ∘ Effect.ota) = fun _ => none := funext hota
    rw [hnone, List.filterMap_none, List.nil_append]
    split
    · simp [hrestart]
    · rfl
  rw [← filterMap_loud hf, loud_executeConfirmedOtaUpdate]
  cases fetchManifest C decode config env with
  | error e => cases hv : f (.executeConfirmedOta version) <;> simp [hv]
  | ok m =>
    simp only
    split_ifs with hversion
    · cases hv : f (.executeConfirmedOta version) <;> simp [hv, hrest m]
    · cases hv : f (.executeConfirmedOta version) <;> simp [hv]

end Update

/-! ### The cases of a step -/

def Client.slots (c : Client) : Option Pending × Option PendingInput × Bool :=
  (c.pending, c.pendingInput, c.locked)

section Slots
variable {c : Client} {p : Option Pending} {i : Option PendingInput} {l : Bool}

lemma pending_of_slots (h : c.slots = (p, i, l)) : c.pending = p := congrArg (fun s => s.1) h

lemma input_of_slots (h : c.slots = (p, i, l)) : c.pendingInput = i := congrArg (fun s => s.2.1) h

lemma locked_of_slots (h : c.slots = (p, i, l)) : c.locked = l := congrArg (fun s => s.2.2) h

end Slots

section Handled
variable (C : Crypto) (decode : List UInt8 → Except String OtaManifest) (config : ClientConfig)
  (env : Env)

/-- The offer a request confirms: the pending one, with its nonce, in time. -/
structure Redeems (c : Client) (request : Request) (p : Pending) : Prop where
  pending : c.pending = some p
  attempt : request.attempt = some p.nonce
  nonce_ne : p.nonce ≠ ""
  in_time : env.now < p.expiresAt
  confirms : request.confirms p.kind = true

inductive Handled (c : Client) (request : Request) : Client → List Effect → Prop
  | quiet {c' : Client} {effects : List Effect} (hslots : c'.slots = c.slots)
      (hloud : loud effects = []) (hattempt : request.attempt = none ∨ c.locked = true)
      (htyped : request.isTyped = false) : Handled c request c' effects
  | wake {c' : Client} {effects : List Effect} {mac : String} {port : ℕ}
      (hunlocked : c.locked = false) (hslots : c'.slots = c.slots)
      (hloud : loud effects = [.sendWakeOnLan mac port]) (hattempt : request.attempt = none)
      (htyped : request.isTyped = false) : Handled c request c' effects
  | issue {c' : Client} {effects : List Effect} {p : Pending} (hunlocked : c.locked = false)
      (hslots : c'.slots = (some p, c.pendingInput, false))
      (hloud : loud effects = [.storePending p]) (hattempt : request.attempt = none)
      (htyped : request.isTyped = false) : Handled c request c' effects
  | prompt {c' : Client} {effects : List Effect} {i : PendingInput} {chatId : ℤ}
      {text placeholder : String} (hunlocked : c.locked = false)
      (hslots : c'.slots = (c.pending, some i, false))
      (hloud : loud effects = [.storeInput i, .sendForceReply chatId text placeholder])
      (hattempt : request.attempt = none) (htyped : request.isTyped = false) :
      Handled c request c' effects
  | typedIgnored {c' : Client} {effects : List Effect}
      (hslots : c'.slots = (c.pending, none, c.locked))
      (hloud : loud effects = []) (hattempt : request.attempt = none)
      (htyped : request.isTyped = true) : Handled c request c' effects
  | typedAccepted {c' : Client} {effects : List Effect} {i : PendingInput} {p : Pending}
      {change : ConfigChange} (hunlocked : c.locked = false) (hinput : c.pendingInput = some i)
      (htime : env.now < i.expiresAt) (hkind : p.kind = .config change)
      (hchange : change.kind = i.kind)
      (hslots : c'.slots = (some p, none, false)) (hloud : loud effects = [.storePending p])
      (hattempt : request.attempt = none) (htyped : request.isTyped = true) :
      Handled c request c' effects
  | typedRefused {c' : Client} {effects : List Effect} {i i' : PendingInput} {chatId : ℤ}
      {text placeholder : String} (hunlocked : c.locked = false) (hinput : c.pendingInput = some i)
      (htime : env.now < i.expiresAt) (hkind : i'.kind = i.kind)
      (hslots : c'.slots = (c.pending, some i', false))
      (hloud : loud effects = [.storeInput i', .sendForceReply chatId text placeholder])
      (hattempt : request.attempt = none) (htyped : request.isTyped = true) :
      Handled c request c' effects
  | refused {c' : Client} {effects : List Effect} {nonce : String} (hunlocked : c.locked = false)
      (hslots : c'.slots = (none, c.pendingInput, false)) (hloud : loud effects = [])
      (hattempt : request.attempt = some nonce) : Handled c request c' effects
  | executed {c' : Client} {effects : List Effect} {p : Pending} {e : Effect}
      (hunlocked : c.locked = false) (hp : Redeems env c request p)
      (hslots : c'.slots = (none, c.pendingInput, false)) (hloud : loud effects = [e])
      (he : e.executes = some p.kind) (hkind : ∀ version, p.kind ≠ .firmwareUpdate version) :
      Handled c request c' effects
  | updated {c' : Client} {before : List Effect} {p : Pending} {version : String} {chatId : ℤ}
      (hunlocked : c.locked = false) (hp : Redeems env c request p)
      (hkind : p.kind = .firmwareUpdate version)
      (hslots : c'.slots = (none, c.pendingInput, false)) (hloud : loud before = []) :
      Handled c request c'
        (before ++ executeConfirmedOtaUpdate C decode config env c' chatId version)
  | lock {c' : Client} {effects : List Effect} {locked : Bool} (hc : c' = c.setOperationLock locked)
      (hloud : loud effects = [.setLock locked]) (hattempt : request.attempt = none)
      (htyped : request.isTyped = false) (hunlock : locked = false → request.unlocks = true) :
      Handled c request c' effects

end Handled

lemma consumePending_eq_some {env : Env} {c : Client} {supplied : String} {kind : PendingKind}
    (h : (c.consumePending env supplied).2 = some kind) :
    ∃ p, c.pending = some p ∧ p.kind = kind ∧ p.nonce = supplied ∧ supplied ≠ "" ∧
      env.now < p.expiresAt := by
  simp only [Client.consumePending, Option.map_eq_some_iff, Option.filter_eq_some_iff,
    decide_eq_true_eq] at h
  obtain ⟨p, ⟨hp, hne, hnonce, htime⟩, hkind⟩ := h
  exact ⟨p, hp, hkind, hnonce, hne, htime⟩

section Decisions
variable {C : Crypto} {decode : List UInt8 → Except String OtaManifest} {config : ClientConfig}
  {env : Env} {c : Client} {request : Request}

lemma redeems_of_consumePending {supplied : String} {kind : PendingKind}
    (h : (c.consumePending env supplied).2 = some kind)
    (hattempt : request.attempt = some supplied) (hconfirms : request.confirms kind = true) :
    ∃ p, Redeems env c request p ∧ p.kind = kind := by
  obtain ⟨p, hp, rfl, rfl, hne, htime⟩ := consumePending_eq_some h
  exact ⟨p, ⟨hp, hattempt, hne, htime, hconfirms⟩, rfl⟩

lemma slots_consumePending (env : Env) (hunlocked : c.locked = false) (supplied : String) :
    (c.consumePending env supplied).1.slots = (none, c.pendingInput, false) := by
  simp [Client.slots, Client.consumePending, hunlocked]

/-- An operation that was confirmed: its own effect is the only one that matters, and a
firmware update is carried through to its end. -/
lemma handled_executePending {supplied id : String} {chatId : ℤ} {kind : PendingKind}
    (hunlocked : c.locked = false) (h : (c.consumePending env supplied).2 = some kind)
    (hattempt : request.attempt = some supplied) (hconfirms : request.confirms kind = true) :
    Handled C decode config env c request
      (executePending C decode config env (c.consumePending env supplied).1 id chatId kind).1
      (executePending C decode config env (c.consumePending env supplied).1 id chatId kind).2 := by
  obtain ⟨p, hp, hkind⟩ := redeems_of_consumePending h hattempt hconfirms
  have hslots := slots_consumePending env hunlocked supplied
  cases kind with
  | power action =>
    apply Handled.executed hunlocked hp hslots (e := .sendCommand action c.settings.pcIpAddress)
    · simp only [executePending, loud_append, loud_answerAndSend, List.append_nil]
      exact loud_runPowerAction env _ action
    · exact congrArg some hkind.symm
    · simp [hkind]
  | config change =>
    have happlied : (executePending C decode config env (c.consumePending env supplied).1 id chatId
        (.config change)).1.slots = (none, c.pendingInput, false) := hslots
    apply Handled.executed hunlocked hp happlied (e := .applyChange change)
    · simp [executePending, applyConfigChange, Effect.isLoud]
    · exact congrArg some hkind.symm
    · simp [hkind]
  | firmwareUpdate version =>
    have hloud : loud [Effect.answerCallbackQuery id "更新を開始します"] = [] := rfl
    exact Handled.updated hunlocked hp hkind hslots hloud

lemma handled_handleDecision {id nonce : String} {chatId : ℤ} {confirm : Bool}
    {target : CallbackTarget} (hunlocked : c.locked = false) :
    Handled C decode config env c (.button (.decision confirm target nonce))
      (handleDecision C decode config env c id chatId confirm target nonce).1
      (handleDecision C decode config env c id chatId confirm target nonce).2 := by
  have hslots := slots_consumePending env hunlocked nonce
  dsimp only [handleDecision]
  cases hvalid : (c.consumePending env nonce).2.filter fun kind => target.covers kind with
  | none => cases confirm <;> exact .refused hunlocked hslots (by simp) rfl
  | some kind =>
    obtain ⟨hkind, hcovers⟩ := Option.filter_eq_some_iff.mp hvalid
    cases confirm with
    | false => exact .refused hunlocked hslots (by simp) rfl
    | true => exact handled_executePending hunlocked hkind rfl hcovers

lemma handled_handleConfirmation {chatId : ℤ} {action : PowerAction} {supplied : String}
    (hunlocked : c.locked = false) (hattempt : request.attempt = some supplied)
    (hconfirms : request.confirms (.power action) = true) :
    Handled C decode config env c request
      (handleConfirmation env c chatId action supplied).1
      (handleConfirmation env c chatId action supplied).2 := by
  have hslots := slots_consumePending env hunlocked supplied
  dsimp only [handleConfirmation]
  cases hvalid : (c.consumePending env supplied).2 with
  | none => exact .refused hunlocked hslots rfl hattempt
  | some kind =>
    cases kind with
    | power pendingAction =>
      by_cases haction : pendingAction = action
      · subst haction
        obtain ⟨p, hp, hkind⟩ := redeems_of_consumePending hvalid hattempt hconfirms
        simp only [if_true]
        apply Handled.executed hunlocked hp hslots
          (e := .sendCommand pendingAction c.settings.pcIpAddress)
        · rw [loud_append, loud_runPowerAction]
          rfl
        · exact congrArg some hkind.symm
        · simp [hkind]
      · simp only [haction, if_false]
        exact .refused hunlocked hslots rfl hattempt
    | config change => exact .refused hunlocked hslots rfl hattempt
    | firmwareUpdate version => exact .refused hunlocked hslots rfl hattempt

lemma handled_handleConfigConfirmation {chatId : ℤ} {supplied : String}
    (hunlocked : c.locked = false) (hattempt : request.attempt = some supplied)
    (hconfirms : ∀ change, request.confirms (.config change) = true) :
    Handled C decode config env c request
      (handleConfigConfirmation env c chatId supplied).1
      (handleConfigConfirmation env c chatId supplied).2 := by
  have hslots := slots_consumePending env hunlocked supplied
  dsimp only [handleConfigConfirmation]
  cases hvalid : (c.consumePending env supplied).2 with
  | none => exact .refused hunlocked hslots rfl hattempt
  | some kind =>
    cases kind with
    | power action => exact .refused hunlocked hslots rfl hattempt
    | config change =>
      obtain ⟨p, hp, hkind⟩ := redeems_of_consumePending hvalid hattempt (hconfirms change)
      have happlied : (applyConfigChange env (c.consumePending env supplied).1 change).1.1.slots =
          (none, c.pendingInput, false) := hslots
      exact .executed hunlocked hp happlied (e := .applyChange change) rfl
        (congrArg some hkind.symm) (by simp [hkind])
    | firmwareUpdate version => exact .refused hunlocked hslots rfl hattempt

lemma handled_handleUpdateConfirmation {chatId : ℤ} {supplied : String}
    (hunlocked : c.locked = false) (hattempt : request.attempt = some supplied)
    (hconfirms : ∀ version, request.confirms (.firmwareUpdate version) = true) :
    Handled C decode config env c request
      (handleUpdateConfirmation C decode config env c chatId supplied).1
      (handleUpdateConfirmation C decode config env c chatId supplied).2 := by
  have hslots := slots_consumePending env hunlocked supplied
  dsimp only [handleUpdateConfirmation]
  cases hvalid : (c.consumePending env supplied).2 with
  | none => exact .refused hunlocked hslots rfl hattempt
  | some kind =>
    cases kind with
    | power action => exact .refused hunlocked hslots rfl hattempt
    | config change => exact .refused hunlocked hslots rfl hattempt
    | firmwareUpdate version =>
      obtain ⟨p, hp, hkind⟩ := redeems_of_consumePending hvalid hattempt (hconfirms version)
      have hloud : loud [] = [] := rfl
      exact .updated hunlocked hp hkind hslots hloud

end Decisions

section Issues
variable {C : Crypto} {decode : List UInt8 → Except String OtaManifest} {config : ClientConfig}
  {env : Env} {c : Client} {request : Request}

lemma handled_requestConfirmation (before : List Effect) {chatId : ℤ} {action : PowerAction}
    (hunlocked : c.locked = false) (hattempt : request.attempt = none)
    (htyped : request.isTyped = false) (hbefore : loud before = []) :
    Handled C decode config env c request
      (requestConfirmation config env c chatId action).1
      (before ++ (requestConfirmation config env c chatId action).2) := by
  have hslots : (requestConfirmation config env c chatId action).1.slots =
      (some ⟨.power action, generateNonce env.draw, expiry config env⟩, c.pendingInput, false) := by
    simp [Client.slots, requestConfirmation, Client.store, hunlocked]
  apply Handled.issue hunlocked hslots _ hattempt htyped
  rw [loud_append, hbefore]
  rfl

lemma handled_handleUpdateCommand {chatId : ℤ} (hunlocked : c.locked = false)
    (hattempt : request.attempt = none) (htyped : request.isTyped = false) :
    Handled C decode config env c request
      (handleUpdateCommand C decode config env c chatId).1
      (handleUpdateCommand C decode config env c chatId).2 := by
  unfold handleUpdateCommand
  cases fetchManifest C decode config env with
  | error e => exact .quiet rfl rfl (Or.inl hattempt) htyped
  | ok m =>
    by_cases hsame : compareVersions firmwareVersion m.version = .same
    · simp only [hsame]
      exact .quiet rfl rfl (Or.inl hattempt) htyped
    · have hshows : (compareVersions firmwareVersion m.version).showsConfirmButton = true := by
        simpa [VersionOrder.showsConfirmButton] using hsame
      simp only [hshows, not_true_eq_false, if_false]
      have hslots : (c.store config env (.firmwareUpdate m.version)
          (generateNonce env.draw)).1.slots =
            (some ⟨.firmwareUpdate m.version, generateNonce env.draw, expiry config env⟩,
              c.pendingInput, false) := by
        simp [Client.slots, Client.store, hunlocked]
      exact .issue hunlocked hslots rfl hattempt htyped

lemma handled_startSettingInput (before : List Effect) {chatId : ℤ} {kind : SettingKind}
    (hunlocked : c.locked = false) (hattempt : request.attempt = none)
    (htyped : request.isTyped = false) (hbefore : loud before = []) :
    Handled C decode config env c request
      (startSettingInput config env c chatId kind).1
      (before ++ (startSettingInput config env c chatId kind).2) := by
  have hslots : (startSettingInput config env c chatId kind).1.slots =
      (c.pending, some ⟨kind, expiry config env⟩, false) := by
    simp [Client.slots, startSettingInput, Client.awaitInput, hunlocked]
  have hloud : loud (before ++ (startSettingInput config env c chatId kind).2) =
      loud (startSettingInput config env c chatId kind).2 := by
    rw [loud_append, hbefore, List.nil_append]
  exact .prompt hunlocked hslots hloud hattempt htyped

lemma handled_handleSetCommand {chatId : ℤ} {kind : SettingKind} {args : String}
    (hunlocked : c.locked = false) (hattempt : request.attempt = none)
    (htyped : request.isTyped = false) :
    Handled C decode config env c request
      (handleSetCommand config env c chatId kind args).1
      (handleSetCommand config env c chatId kind args).2 := by
  unfold handleSetCommand
  split_ifs with hargs
  · exact handled_startSettingInput [] hunlocked hattempt htyped rfl
  · unfold handleSettingInput
    cases kind.parse args with
    | ok change =>
      have hslots : (requestConfigConfirmation config env c chatId change
          (kind.current c.settings)).1.slots =
            (some ⟨.config change, generateNonce env.draw, expiry config env⟩,
              c.pendingInput, false) := by
        simp [Client.slots, requestConfigConfirmation, Client.store, hunlocked]
      exact .issue hunlocked hslots rfl hattempt htyped
    | error message =>
      have hslots : (c.awaitInput config env kind).1.slots =
          (c.pending, some ⟨kind, expiry config env⟩, false) := by
        simp [Client.slots, Client.awaitInput, hunlocked]
      exact .prompt hunlocked hslots rfl hattempt htyped

lemma takePendingInput_eq_some {kind : SettingKind} (h : (c.takePendingInput env).2 = some kind) :
    ∃ i, c.pendingInput = some i ∧ i.kind = kind ∧ env.now < i.expiresAt := by
  simp only [Client.takePendingInput, Option.map_eq_some_iff, Option.filter_eq_some_iff,
    decide_eq_true_eq] at h
  obtain ⟨i, ⟨hi, htime⟩, hkind⟩ := h
  exact ⟨i, hi, hkind, htime⟩

/-- A typed text uses up the prompt; a value that does not validate is prompted for anew. -/
lemma handled_handleTyped {chatId : ℤ} {text : String} :
    Handled C decode config env c (.typed text) (handleTyped config env c chatId text).1
      (handleTyped config env c chatId text).2 := by
  dsimp only [handleTyped]
  cases hinput : c.pendingInput with
  | none =>
    have hslots : c.slots = (c.pending, none, c.locked) := by simp [Client.slots, hinput]
    exact .typedIgnored hslots rfl rfl rfl
  | some i =>
    cases htaken : (c.takePendingInput env).2 with
    | none => exact .typedIgnored rfl rfl rfl rfl
    | some kind =>
      obtain ⟨i', hi', rfl, htime⟩ := takePendingInput_eq_some htaken
      by_cases hlocked : c.locked = true
      · simp only [hlocked, if_true]
        exact .typedIgnored rfl rfl rfl rfl
      · have hunlocked : c.locked = false := by simpa using hlocked
        simp only [hunlocked, Bool.false_eq_true, if_false]
        unfold handleSettingInput
        cases hparse : i'.kind.parse text with
        | ok change =>
          have hslots : (requestConfigConfirmation config env (c.takePendingInput env).1 chatId
              change (i'.kind.current (c.takePendingInput env).1.settings)).1.slots =
                (some ⟨.config change, generateNonce env.draw, expiry config env⟩, none, false) := by
            simp [Client.slots, requestConfigConfirmation, Client.store, Client.takePendingInput,
              hunlocked]
          exact .typedAccepted hunlocked hi' htime rfl (SettingKind.kind_of_parse hparse) hslots
            rfl rfl rfl
        | error message =>
          have hslots : ((c.takePendingInput env).1.awaitInput config env i'.kind).1.slots =
              (c.pending, some ⟨i'.kind, expiry config env⟩, false) := by
            simp [Client.slots, Client.awaitInput, Client.takePendingInput, hunlocked]
          have hkind : (⟨i'.kind, expiry config env⟩ : PendingInput).kind = i'.kind := rfl
          exact .typedRefused hunlocked hi' htime hkind hslots rfl rfl rfl

end Issues

section Requests
variable {C : Crypto} {decode : List UInt8 → Except String OtaManifest} {config : ClientConfig}
  {env : Env} {c : Client}

/-- Each command is handled; those that are not allowed while locked only when unlocked. -/
lemma handled_runCommand {chatId : ℤ} {name args : String}
    (hguard : c.locked = false ∨ name ∈ allowedWhileLocked) :
    Handled C decode config env c (.command name args)
      (runCommand C decode config env c chatId name args).1
      (runCommand C decode config env c chatId name args).2 := by
  have unlocked : name ∉ allowedWhileLocked → c.locked = false := fun h => hguard.resolve_right h
  unfold runCommand
  split
  · exact .quiet rfl rfl (Or.inl rfl) rfl
  · exact .quiet rfl rfl (Or.inl rfl) rfl
  · exact .lock rfl rfl rfl rfl (fun h => absurd h (by simp))
  · exact .lock rfl rfl rfl rfl (fun _ => rfl)
  · exact .wake (unlocked (by decide)) rfl (loud_doWake config env c chatId) rfl rfl
  · exact handled_requestConfirmation [] (unlocked (by decide)) rfl rfl rfl
  · exact handled_requestConfirmation [] (unlocked (by decide)) rfl rfl rfl
  · exact handled_requestConfirmation [] (unlocked (by decide)) rfl rfl rfl
  · exact handled_handleConfirmation (unlocked (by decide)) rfl rfl
  · exact handled_handleConfirmation (unlocked (by decide)) rfl rfl
  · exact handled_handleConfirmation (unlocked (by decide)) rfl rfl
  · exact handled_handleUpdateCommand (unlocked (by decide)) rfl rfl
  · exact handled_handleUpdateConfirmation (unlocked (by decide)) rfl fun _ => rfl
  · exact handled_handleSetCommand (unlocked (by decide)) rfl rfl
  · exact handled_handleSetCommand (unlocked (by decide)) rfl rfl
  · exact handled_handleSetCommand (unlocked (by decide)) rfl rfl
  · exact handled_handleConfigConfirmation (unlocked (by decide)) rfl fun _ => rfl
  · have hconfirm : name ∉ Request.confirmCommands := by
      simp_all [Request.confirmCommands]
    have hattempt : (Request.command name args).attempt = none := if_neg hconfirm
    exact .quiet rfl rfl (Or.inl hattempt) rfl

lemma handled_handleStatusAction {id : String} {chatId messageId : ℤ} {action : StatusAction}
    (hunlocked : c.locked = false) :
    Handled C decode config env c (.button (.status action))
      (handleStatusAction config env c id chatId messageId action).1
      (handleStatusAction config env c id chatId messageId action).2 := by
  have hconfirm : ∀ power : PowerAction, Handled C decode config env c (.button (.status action))
      (handleStatusAction.confirmFromButton config env c id chatId power).1
      (handleStatusAction.confirmFromButton config env c id chatId power).2 := by
    intro power
    dsimp only [handleStatusAction.confirmFromButton]
    split_ifs with hchat
    · exact handled_requestConfirmation [.answerCallbackQuery id power.labelJa] hunlocked rfl rfl rfl
    · exact .quiet rfl rfl (Or.inl rfl) rfl
  cases action with
  | refresh =>
    apply Handled.quiet rfl _ (Or.inl rfl) rfl
    simp only [handleStatusAction]
    split_ifs <;> rfl
  | wake =>
    simp only [handleStatusAction]
    split_ifs with hchat
    · exact .wake hunlocked rfl (loud_doWake config env c chatId) rfl rfl
    · exact .quiet rfl rfl (Or.inl rfl) rfl
  | reboot => exact hconfirm .reboot
  | shutdown => exact hconfirm .shutdown

lemma handled_handleCallback {id : String} {chatId messageId : ℤ} {parsed : Callback}
    (hguard : c.locked = false ∨ parsed = .setLock false) :
    Handled C decode config env c (.button parsed)
      (handleCallback C decode config env c id chatId messageId parsed).1
      (handleCallback C decode config env c id chatId messageId parsed).2 := by
  cases parsed with
  | decision confirm target nonce => exact handled_handleDecision (hguard.resolve_right (by simp))
  | editSetting kind =>
    have hunlocked := hguard.resolve_right (by simp)
    dsimp only [handleCallback]
    split_ifs with hchat
    · exact handled_startSettingInput [.answerCallbackQuery id kind.labelJa] hunlocked rfl rfl rfl
    · exact .quiet rfl rfl (Or.inl rfl) rfl
  | setLock locked =>
    apply Handled.lock rfl _ rfl rfl
    · intro hlocked
      simp [Request.unlocks, hlocked]
    · simp only [handleCallback]
      split_ifs <;> rfl
  | status action => exact handled_handleStatusAction (hguard.resolve_right (by simp))

lemma handled_unauthorized (before : List Effect) (hbefore : loud before = []) :
    Handled C decode config env c .unauthorized (recordUnauthorizedAccess config env c).1
      (before ++ (recordUnauthorizedAccess config env c).2) := by
  have hslots : (recordUnauthorizedAccess config env c).1.slots = c.slots := rfl
  apply Handled.quiet hslots _ (Or.inl rfl) rfl
  rw [loud_append, hbefore]
  dsimp only [recordUnauthorizedAccess]
  split <;> rfl

lemma handled_handleCallbackQuery {callback : Json} :
    Handled C decode config env c (callbackRequest config callback)
      (handleCallbackQuery C decode config env c callback).1
      (handleCallbackQuery C decode config env c callback).2 := by
  dsimp only [callbackRequest, handleCallbackQuery]
  by_cases hallowed : isAllowed config ((callback.index "from").index "id").i64OrDefault = true
  · rw [if_pos hallowed, if_neg (not_not.mpr hallowed)]
    cases hparse : Callback.parse (callback.index "data").strOrDefault with
    | none => exact .quiet rfl rfl (Or.inl rfl) rfl
    | some parsed =>
      by_cases hrefused : c.locked = true ∧ parsed ≠ .setLock false
      · simp only
        rw [if_pos hrefused]
        exact .quiet rfl rfl (Or.inr hrefused.1) rfl
      · simp only
        rw [if_neg hrefused]
        apply handled_handleCallback
        by_cases hlocked : c.locked = true
        · right
          exact not_not.mp fun h => hrefused ⟨hlocked, h⟩
        · left
          simpa using hlocked
  · rw [if_neg hallowed, if_pos hallowed]
    exact handled_unauthorized [.answerCallbackQuery _ "権限がありません"] rfl

lemma handled_handleMessage {message : Json} :
    Handled C decode config env c (messageRequest config message)
      (handleMessage C decode config env c message).1
      (handleMessage C decode config env c message).2 := by
  dsimp only [messageRequest, handleMessage]
  by_cases hallowed : isAllowed config ((message.index "from").index "id").i64OrDefault = true
  · rw [if_pos hallowed, if_neg (not_not.mpr hallowed)]
    by_cases hempty : trim (message.index "text").strOrDefault = ""
    · simp only [hempty, if_true]
      exact .quiet rfl rfl (Or.inl rfl) rfl
    · by_cases hslash : startsWith '/' (trim (message.index "text").strOrDefault) = true
      · simp only [hempty, hslash, not_true_eq_false, if_false, if_true]
        unfold dispatchCommand
        by_cases hrefused : c.locked = true ∧
            (commandOf (trim (message.index "text").strOrDefault)).1 ∉ allowedWhileLocked
        · rw [if_pos hrefused]
          exact .quiet rfl rfl (Or.inr hrefused.1) rfl
        · rw [if_neg hrefused]
          apply handled_runCommand
          by_cases hlocked : c.locked = true
          · right
            exact not_not.mp fun h => hrefused ⟨hlocked, h⟩
          · left
            simpa using hlocked
      · simp only [hempty, hslash, if_false]
        exact handled_handleTyped
  · rw [if_neg hallowed, if_pos hallowed]
    exact handled_unauthorized [] rfl

/-- Every update is one of the cases. -/
theorem handled_processUpdate (update : Json) :
    Handled C decode config env c (requestOf config update)
      (processUpdate C decode config env c update).1
      (processUpdate C decode config env c update).2 := by
  unfold requestOf processUpdate
  cases partOf update "callback_query" with
  | some callback => exact handled_handleCallbackQuery
  | none =>
    cases partOf update "message" with
    | some message => exact handled_handleMessage
    | none => exact .quiet rfl rfl (Or.inl rfl) rfl

end Requests

end PcRemote.Telegram
