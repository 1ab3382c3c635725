import Mathlib.Data.List.GetD
import PcRemote.Delimited
import PcRemote.TelegramApi

/-! The data of the buttons: what is put together at each place where a button is offered is read
back as the callback it was meant for, and nothing else is read as one. -/
namespace PcRemote.Telegram
open Text Delimited Signing OtaUpdate

def CallbackTarget.word : CallbackTarget → String
  | .power action => action.slug
  | .config => "config"
  | .firmwareUpdate => "update"

def StatusAction.word : StatusAction → String
  | .refresh => "refresh"
  | .wake => "wake"
  | .reboot => "reboot"
  | .shutdown => "shutdown"

def joinFields (fields : List String) : String :=
  String.ofList (join ':' (fields.map String.toList))

namespace Callback

def fields : Callback → List String
  | .decision confirm target nonce => [if confirm then "confirm" else "cancel", target.word, nonce]
  | .editSetting kind => ["setedit", kind.slug]
  | .setLock locked => ["lock", if locked then "on" else "off"]
  | .status action => ["status", action.word]

def data (callback : Callback) : String := joinFields callback.fields

def NonceGiven : Callback → Prop
  | .decision _ _ nonce => nonce ≠ ""
  | .editSetting _ | .setLock _ | .status _ => True

/-- A nonce is a field of its own and not empty. -/
def WellFormed : Callback → Prop
  | .decision _ _ nonce => nonce ≠ "" ∧ ':' ∉ nonce.toList
  | .editSetting _ | .setLock _ | .status _ => True

end Callback

lemma split_eq_iff {s : String} {fields : List String} (hfields : fields ≠ []) :
    split ':' s = fields ↔ s = joinFields fields ∧ ∀ f ∈ fields, ':' ∉ f.toList := by
  have hsplit : split ':' s = fields ↔ s.toList.splitOn ':' = fields.map String.toList := by
    constructor
    · rintro rfl
      simp [split, Function.comp_def]
    · intro h
      rw [split, h]
      simp [Function.comp_def]
  rw [hsplit, splitOn_eq_iff (by simpa using hfields), joinFields, Free, List.forall_mem_map]
  refine and_congr ⟨fun h => ?_, fun h => ?_⟩ Iff.rfl
  · rw [← h, String.ofList_toList]
  · rw [h, String.toList_ofList]

lemma fromSlug_eq_some_power {slug : String} {action : PowerAction} :
    PowerAction.fromSlug slug = some action ↔ slug = action.slug := by
  constructor
  · intro h
    exact (beq_iff_eq.mp (List.find?_some h :)).symm
  · rintro rfl
    exact PowerAction.fromSlug_slug action

lemma fromSlug_eq_some_setting {slug : String} {kind : SettingKind} :
    SettingKind.fromSlug slug = some kind ↔ slug = kind.slug := by
  constructor
  · intro h
    exact (beq_iff_eq.mp (List.find?_some h :)).symm
  · rintro rfl
    cases kind <;> decide

lemma targetOf_eq_some {word : String} {target : CallbackTarget} :
    Callback.targetOf word = some target ↔ word = target.word := by
  unfold Callback.targetOf
  split_ifs with hconfig hupdate
  · subst hconfig
    cases target with
    | power action => cases action <;> decide
    | config => decide
    | firmwareUpdate => decide
  · subst hupdate
    cases target with
    | power action => cases action <;> decide
    | config => decide
    | firmwareUpdate => decide
  · cases target with
    | power action => simp [CallbackTarget.word, fromSlug_eq_some_power]
    | config => simp [CallbackTarget.word, hconfig]
    | firmwareUpdate => simp [CallbackTarget.word, hupdate]

/-- The decision that a button of three fields stands for. -/
lemma parseDecision_eq_some {confirm : Bool} {word nonce : String} {callback : Callback}
    (h : (if nonce = "" then none else Callback.parseDecision confirm word nonce) = some callback) :
    ∃ target, callback = .decision confirm target nonce ∧ word = target.word ∧ nonce ≠ "" := by
  split_ifs at h with hempty
  obtain ⟨target, htarget, rfl⟩ := Option.map_eq_some_iff.mp h
  exact ⟨target, rfl, targetOf_eq_some.mp htarget, hempty⟩

/-- What is read is encoded in the fields that were read. -/
lemma fields_of_parse {data : String} {callback : Callback}
    (h : Callback.parse data = some callback) :
    split ':' data = callback.fields ∧ callback.NonceGiven := by
  unfold Callback.parse at h
  split at h
  · next word nonce hsplit =>
    obtain ⟨target, rfl, rfl, hempty⟩ := parseDecision_eq_some h
    exact ⟨hsplit, hempty⟩
  · next word nonce hsplit =>
    obtain ⟨target, rfl, rfl, hempty⟩ := parseDecision_eq_some h
    exact ⟨hsplit, hempty⟩
  · next slug hsplit =>
    obtain ⟨kind, hkind, rfl⟩ := Option.map_eq_some_iff.mp h
    rw [fromSlug_eq_some_setting.mp hkind] at hsplit
    exact ⟨hsplit, trivial⟩
  · next hsplit => obtain rfl := Option.some.inj h; exact ⟨hsplit, trivial⟩
  · next hsplit => obtain rfl := Option.some.inj h; exact ⟨hsplit, trivial⟩
  · next hsplit => obtain rfl := Option.some.inj h; exact ⟨hsplit, trivial⟩
  · next hsplit => obtain rfl := Option.some.inj h; exact ⟨hsplit, trivial⟩
  · next hsplit => obtain rfl := Option.some.inj h; exact ⟨hsplit, trivial⟩
  · next hsplit => obtain rfl := Option.some.inj h; exact ⟨hsplit, trivial⟩
  · cases h

lemma parse_of_fields {data : String} {callback : Callback}
    (h : split ':' data = callback.fields) (hnonce : callback.NonceGiven) :
    Callback.parse data = some callback := by
  unfold Callback.parse
  rw [h]
  cases callback with
  | decision confirm target nonce =>
    have htarget : Callback.targetOf target.word = some target := targetOf_eq_some.mpr rfl
    have hne : nonce ≠ "" := hnonce
    cases confirm <;> simp [Callback.fields, Callback.parseDecision, htarget, hne]
  | editSetting kind =>
    have hkind : SettingKind.fromSlug kind.slug = some kind := fromSlug_eq_some_setting.mpr rfl
    simp [Callback.fields, hkind]
  | setLock locked => cases locked <;> rfl
  | status action => cases action <;> rfl

lemma wellFormed_iff {callback : Callback} :
    callback.WellFormed ↔ (∀ f ∈ callback.fields, ':' ∉ f.toList) ∧ callback.NonceGiven := by
  cases callback with
  | decision confirm target nonce =>
    have hword : ':' ∉ target.word.toList := by
      cases target with
      | power action => cases action <;> decide
      | config => decide
      | firmwareUpdate => decide
    have hverb : ':' ∉ (if confirm then "confirm" else "cancel").toList := by
      cases confirm <;> decide
    simp [Callback.WellFormed, Callback.NonceGiven, Callback.fields, hword, hverb, and_comm]
  | editSetting kind =>
    cases kind <;> exact iff_of_true trivial ⟨by decide, trivial⟩
  | setLock locked =>
    cases locked <;> exact iff_of_true trivial ⟨by decide, trivial⟩
  | status action =>
    cases action <;> exact iff_of_true trivial ⟨by decide, trivial⟩

/-- A text is read as a callback exactly if it is the data that the callback is written as. -/
theorem parse_eq_some {data : String} {callback : Callback} :
    Callback.parse data = some callback ↔ callback.WellFormed ∧ data = callback.data := by
  have hne : callback.fields ≠ [] := by cases callback <;> exact List.cons_ne_nil _ _
  constructor
  · intro h
    obtain ⟨hsplit, hnonce⟩ := fields_of_parse h
    obtain ⟨hdata, hfree⟩ := (split_eq_iff hne).mp hsplit
    exact ⟨wellFormed_iff.mpr ⟨hfree, hnonce⟩, hdata⟩
  · rintro ⟨hwell, hdata⟩
    obtain ⟨hfree, hnonce⟩ := wellFormed_iff.mp hwell
    exact parse_of_fields ((split_eq_iff hne).mpr ⟨hdata, hfree⟩) hnonce

/-- Two buttons with the same data are the same. -/
lemma data_injective {a b : Callback} (ha : a.WellFormed) (hb : b.WellFormed)
    (h : a.data = b.data) : a = b := by
  have hread := parse_eq_some.mpr ⟨ha, rfl⟩
  rw [h, parse_eq_some.mpr ⟨hb, rfl⟩] at hread
  exact (Option.some.inj hread).symm

lemma mem_generateNonce {draw : Fin 6 → UInt32} {c : Char} (h : c ∈ (generateNonce draw).toList) :
    c ∈ nonceCharset := by
  rw [generateNonce, String.toList_ofList, List.mem_ofFn] at h
  obtain ⟨i, rfl⟩ := h
  rw [List.getD_eq_getElem _ _ (Nat.mod_lt _ (by decide))]
  exact List.getElem_mem _

lemma wellFormed_decision (confirm : Bool) (target : CallbackTarget) (draw : Fin 6 → UInt32) :
    (Callback.decision confirm target (generateNonce draw)).WellFormed := by
  refine ⟨fun h => ?_, fun h => ?_⟩
  · have hlength := congrArg (fun s => s.toList.length) h
    simp [generateNonce] at hlength
  · exact absurd (mem_generateNonce h) (by decide)

lemma data_decision (confirm : Bool) (target : CallbackTarget) (nonce : String) :
    (Callback.decision confirm target nonce).data =
      (if confirm then "confirm" else "cancel") ++ ":" ++ target.word ++ ":" ++ nonce := by
  apply String.toList_injective
  simp [Callback.data, joinFields, Callback.fields, join, List.intercalate, List.intersperse]

/-- What the buttons of a confirmation decide about. -/
def PendingKind.target : PendingKind → CallbackTarget
  | .power action => .power action
  | .config _ => .config
  | .firmwareUpdate _ => .firmwareUpdate

def PendingKind.confirmLabel : PendingKind → String
  | .power action => action.labelJa
  | .config _ => "登録"
  | .firmwareUpdate _ => "更新"

/-- The two buttons of a confirmation, by their texts. -/
def Pending.callbacks (pending : Pending) : List (String × Callback) :=
  [(pending.kind.confirmLabel, .decision true pending.kind.target pending.nonce),
    ("キャンセル", .decision false pending.kind.target pending.nonce)]

/-- One button for each setting, and the one that turns the lock over. -/
def settingsCallbacks (locked : Bool) : List (String × Callback) :=
  SettingKind.all.map (fun kind => (kind.labelJa ++ "を変更", .editSetting kind)) ++
    [(if locked then "ロックを解除" else "電源操作をロック", .setLock (!locked))]

def refreshCallback : String × Callback := ("↻ 最新の状態に更新", .status .refresh)

def statusCallbacks : StatusMessage.PcControlStatus → List (String × Callback)
  | .ready => [("🔄 PCを再起動", .status .reboot), ("⏻ シャットダウン", .status .shutdown),
      refreshCallback]
  | .off => [("⏻ PCを起動", .status .wake), refreshCallback]
  | .locked => [("🔓 ロックを解除", .setLock false), refreshCallback]
  | .bridgeUnavailable => [refreshCallback]

def Client.controlStatus (env : Env) (c : Client) : StatusMessage.PcControlStatus :=
  StatusMessage.PcStatusSnapshot.status
    ⟨env.pcOnline, !c.locked && env.pcOnline && env.bridgeOnline, c.locked⟩

/-- What a message is to offer, by the texts of its buttons: the decision about what is pending, the
settings, or what the status allows. The client is the one that the update leaves behind. -/
inductive Intends (env : Env) (c : Client) : Effect → List (String × Callback) → Prop
  | confirmation {pending : Pending} (chatId : ℤ) (text : String) (rows : List (List Button))
      (h : c.pending = some pending) :
      Intends env c (.sendMessageWithKeyboard chatId text rows) pending.callbacks
  | settings (chatId : ℤ) (text : String) (rows : List (List Button)) :
      Intends env c (.sendMessageWithKeyboard chatId text rows) (settingsCallbacks c.locked)
  | sendStatus (chatId : ℤ) (text : String) (rows : List (List Button)) :
      Intends env c (.sendStatus chatId text rows) (statusCallbacks (c.controlStatus env))
  | editStatus (chatId messageId : ℤ) (text : String) (rows : List (List Button)) :
      Intends env c (.editStatus chatId messageId text rows) (statusCallbacks (c.controlStatus env))

/-- Every button that is attached is read back as what it is to stand for. -/
structure Offers (env : Env) (c : Client) (effects : List Effect) : Prop where
  readBack : ∀ e ∈ effects, e.buttons ≠ [] → ∃ meant, Intends env c e meant ∧
    e.buttons.map (fun b => (b.text, Callback.parse b.data)) = meant.map fun m => (m.1, some m.2)

section Offers
variable {env : Env} {c : Client}

lemma offers_nil : Offers env c [] := ⟨fun _ h => absurd h List.not_mem_nil⟩

lemma Offers.append {xs ys : List Effect} (hx : Offers env c xs) (hy : Offers env c ys) :
    Offers env c (xs ++ ys) := ⟨List.forall_mem_append.mpr ⟨hx.readBack, hy.readBack⟩⟩

lemma offers_of_plain {effects : List Effect} (h : Plain effects) : Offers env c effects :=
  ⟨fun e he hne => absurd (h e he).1 hne⟩

/-- An effect without buttons comes before. -/
lemma Offers.cons {e : Effect} {es : List Effect} (he : e.buttons = []) (h : Offers env c es) :
    Offers env c (e :: es) := ⟨List.forall_mem_cons.mpr ⟨fun hne => absurd he hne, h.readBack⟩⟩

lemma offers_single {e : Effect} {meant : List (String × Callback)}
    (hintends : Intends env c e meant) (hwell : ∀ m ∈ meant, m.2.WellFormed)
    (h : e.buttons.map (fun b => (b.text, b.data)) = meant.map fun m => (m.1, m.2.data)) :
    Offers env c [e] := by
  refine ⟨List.forall_mem_singleton.mpr fun _ => ⟨meant, hintends, ?_⟩⟩
  have hread : ∀ m ∈ meant, (m.1, Callback.parse m.2.data) = (m.1, some m.2) := fun m hm => by
    rw [parse_eq_some.mpr ⟨hwell m hm, rfl⟩]
  calc e.buttons.map (fun b => (b.text, Callback.parse b.data))
      = (e.buttons.map fun b => (b.text, b.data)).map fun p => (p.1, Callback.parse p.2) := by
        rw [List.map_map]
        rfl
    _ = meant.map fun m => (m.1, Callback.parse m.2.data) := by
        rw [h, List.map_map]
        rfl
    _ = meant.map fun m => (m.1, some m.2) := List.map_congr_left hread

lemma offers_message (chatId : ℤ) (text : String) : Offers env c [.sendMessage chatId text] :=
  .cons rfl offers_nil

lemma offers_answerAndSend (id answerText : String) (chatId : ℤ) (text : String) :
    Offers env c (answerAndSend id answerText chatId text) := by
  unfold answerAndSend
  split_ifs <;> exact .cons rfl offers_nil

lemma wellFormed_statusCallbacks (status : StatusMessage.PcControlStatus) :
    ∀ m ∈ statusCallbacks status, m.2.WellFormed := by
  cases status <;> simp [statusCallbacks, refreshCallback, Callback.WellFormed]

lemma data_statusButtons (status : StatusMessage.PcControlStatus) :
    (StatusMessage.statusButtons status).flatten.map (fun b => (b.text, b.data)) =
      (statusCallbacks status).map fun m => (m.1, m.2.data) := by
  cases status <;> decide

lemma offers_sendStatus (env : Env) (c : Client) (chatId : ℤ) :
    Offers env c [.sendStatus chatId (statusMessage env c).1 (statusMessage env c).2] :=
  offers_single (.sendStatus _ _ _) (wellFormed_statusCallbacks _) (data_statusButtons _)

lemma offers_editStatus (env : Env) (c : Client) (chatId messageId : ℤ) :
    Offers env c [.editStatus chatId messageId (statusMessage env c).1 (statusMessage env c).2] :=
  offers_single (.editStatus _ _ _ _) (wellFormed_statusCallbacks _) (data_statusButtons _)

lemma offers_settingsMenu (env : Env) (c : Client) (chatId : ℤ) :
    Offers env c (settingsMenu c chatId) := by
  refine offers_single (.settings _ _ _) ?_ ?_
  · simp [settingsCallbacks, SettingKind.all, Callback.WellFormed]
  · simp only [Effect.buttons]
    cases c.locked <;> decide

/-- The two buttons of a confirmation are for its target and carry its nonce. -/
lemma offers_confirmButtons (kind : PendingKind) {draw : Fin 6 → UInt32} {expiresAt : Instant}
    (hpending : c.pending = some ⟨kind, generateNonce draw, expiresAt⟩) (chatId : ℤ)
    (text : String) {label confirmData cancelData : String} (hlabel : label = kind.confirmLabel)
    (hconfirm : confirmData = "confirm:" ++ kind.target.word ++ ":" ++ generateNonce draw)
    (hcancel : cancelData = "cancel:" ++ kind.target.word ++ ":" ++ generateNonce draw) :
    Offers env c [confirmButtons chatId text label confirmData cancelData] := by
  refine offers_single (.confirmation _ _ _ hpending) ?_ ?_
  · simp [Pending.callbacks, wellFormed_decision]
  · simp [confirmButtons, Pending.callbacks, data_decision, hlabel, hconfirm, hcancel]

end Offers

section Handlers
variable {C : Crypto} {decode : List UInt8 → Except String OtaManifest} {config : ClientConfig}
  {env : Env}

/-- What a handler offers goes with the client that it leaves behind. -/
def OffersWith (env : Env) (r : Outcome) : Prop := Offers env r.1 r.2

lemma offers_requestConfirmation (c : Client) (chatId : ℤ) (action : PowerAction) :
    OffersWith env (requestConfirmation config env c chatId action) :=
  .cons rfl (offers_confirmButtons (.power action) rfl chatId _ rfl rfl rfl)

lemma offers_requestConfigConfirmation (c : Client) (chatId : ℤ) (change : ConfigChange)
    (currentValue : String) :
    OffersWith env (requestConfigConfirmation config env c chatId change currentValue) := by
  have hconfirm : "confirm:config:" = "confirm:" ++ "config" ++ ":" := by decide
  have hcancel : "cancel:config:" = "cancel:" ++ "config" ++ ":" := by decide
  exact .cons rfl (offers_confirmButtons (.config change) rfl chatId _ rfl
    (congrArg (· ++ _) hconfirm) (congrArg (· ++ _) hcancel))

lemma offers_handleUpdateCommand (c : Client) (chatId : ℤ) :
    OffersWith env (handleUpdateCommand C decode config env c chatId) := by
  have hconfirm : "confirm:update:" = "confirm:" ++ "update" ++ ":" := by decide
  have hcancel : "cancel:update:" = "cancel:" ++ "update" ++ ":" := by decide
  unfold handleUpdateCommand
  cases fetchManifest C decode config env with
  | error e => exact .cons rfl (.cons rfl offers_nil)
  | ok m =>
    dsimp only
    split_ifs
    · exact .cons rfl (.cons rfl (offers_confirmButtons (.firmwareUpdate m.version) rfl
        chatId _ rfl (congrArg (· ++ _) hconfirm) (congrArg (· ++ _) hcancel)))
    · exact .cons rfl (.cons rfl offers_nil)

lemma offers_handleSettingInput (c : Client) (chatId : ℤ) (kind : SettingKind) (raw : String) :
    OffersWith env (handleSettingInput config env c chatId kind raw) := by
  unfold handleSettingInput
  cases kind.parse raw with
  | ok change => exact offers_requestConfigConfirmation ..
  | error message => exact .cons rfl (.cons rfl offers_nil)

lemma offers_handleSetCommand (c : Client) (chatId : ℤ) (kind : SettingKind) (args : String) :
    OffersWith env (handleSetCommand config env c chatId kind args) := by
  unfold handleSetCommand
  split_ifs
  · exact offers_of_plain (plain_startSettingInput c chatId kind)
  · exact offers_handleSettingInput ..

lemma offers_handleConfirmation (c : Client) (chatId : ℤ) (action : PowerAction)
    (supplied : String) : OffersWith env (handleConfirmation env c chatId action supplied) := by
  dsimp only [handleConfirmation]
  split
  · split_ifs
    · exact (offers_of_plain (plain_runPowerAction _ action)).append (offers_message ..)
    · exact offers_message ..
  all_goals exact offers_message ..

lemma offers_handleConfigConfirmation (c : Client) (chatId : ℤ) (supplied : String) :
    OffersWith env (handleConfigConfirmation env c chatId supplied) := by
  dsimp only [handleConfigConfirmation]
  split
  · exact (offers_of_plain (plain_applyConfigChange _ _)).append (offers_message ..)
  all_goals exact offers_message ..

lemma offers_handleUpdateConfirmation (c : Client) (chatId : ℤ) (supplied : String) :
    OffersWith env (handleUpdateConfirmation C decode config env c chatId supplied) := by
  dsimp only [handleUpdateConfirmation]
  split
  · exact offers_of_plain (plain_executeConfirmedOtaUpdate _ chatId _)
  all_goals exact offers_message ..

lemma offers_runCommand (c : Client) (chatId : ℤ) (name args : String) :
    OffersWith env (runCommand C decode config env c chatId name args) := by
  unfold runCommand
  split
  · exact offers_sendStatus env c chatId
  · exact offers_settingsMenu env c chatId
  · exact .cons rfl (offers_message ..)
  · exact .cons rfl (offers_message ..)
  · exact offers_of_plain (plain_doWake c chatId)
  · exact offers_requestConfirmation ..
  · exact offers_requestConfirmation ..
  · exact offers_requestConfirmation ..
  · exact offers_handleConfirmation ..
  · exact offers_handleConfirmation ..
  · exact offers_handleConfirmation ..
  · exact offers_handleUpdateCommand ..
  · exact offers_handleUpdateConfirmation ..
  · exact offers_handleSetCommand ..
  · exact offers_handleSetCommand ..
  · exact offers_handleSetCommand ..
  · exact offers_handleConfigConfirmation ..
  · exact offers_nil

lemma offers_executePending (c : Client) (id : String) (chatId : ℤ) (kind : PendingKind) :
    OffersWith env (executePending C decode config env c id chatId kind) := by
  cases kind with
  | power action =>
    exact (offers_of_plain (plain_runPowerAction c action)).append (offers_answerAndSend ..)
  | config change =>
    exact (offers_of_plain (plain_applyConfigChange c change)).append (offers_answerAndSend ..)
  | firmwareUpdate version =>
    exact .cons rfl (offers_of_plain (plain_executeConfirmedOtaUpdate c chatId version))

lemma offers_handleDecision (c : Client) (id : String) (chatId : ℤ) (confirm : Bool)
    (target : CallbackTarget) (nonce : String) :
    OffersWith env (handleDecision C decode config env c id chatId confirm target nonce) := by
  dsimp only [handleDecision]
  cases (c.consumePending env nonce).2.filter fun kind => target.covers kind with
  | none => cases confirm <;> exact offers_answerAndSend ..
  | some kind =>
    cases confirm with
    | false => exact offers_answerAndSend ..
    | true => exact offers_executePending ..

lemma offers_handleStatusAction (c : Client) (id : String) (chatId messageId : ℤ)
    (action : StatusAction) :
    OffersWith env (handleStatusAction config env c id chatId messageId action) := by
  have hconfirm : ∀ power : PowerAction,
      OffersWith env (handleStatusAction.confirmFromButton config env c id chatId power) := by
    intro power
    dsimp only [handleStatusAction.confirmFromButton]
    split_ifs
    · exact .cons rfl (offers_requestConfirmation ..)
    · exact .cons rfl offers_nil
  cases action with
  | refresh =>
    simp only [handleStatusAction]
    split_ifs
    · exact (offers_editStatus env c chatId messageId).append (.cons rfl offers_nil)
    · exact .cons rfl offers_nil
  | wake =>
    simp only [handleStatusAction]
    split_ifs
    · exact .cons rfl (offers_of_plain (plain_doWake c chatId))
    · exact .cons rfl offers_nil
  | reboot => exact hconfirm .reboot
  | shutdown => exact hconfirm .shutdown

lemma offers_handleCallback (c : Client) (id : String) (chatId messageId : ℤ) (parsed : Callback) :
    OffersWith env (handleCallback C decode config env c id chatId messageId parsed) := by
  cases parsed with
  | decision confirm target nonce => exact offers_handleDecision ..
  | editSetting kind =>
    dsimp only [handleCallback]
    split_ifs
    · exact .cons rfl (offers_of_plain (plain_startSettingInput c chatId kind))
    · exact .cons rfl offers_nil
  | setLock locked =>
    dsimp only [handleCallback]
    refine .cons rfl (.cons rfl ?_)
    by_cases hchat : chatId ≠ 0
    · rw [if_pos hchat]
      exact offers_settingsMenu ..
    · rw [if_neg hchat]
      exact offers_nil
  | status action => exact offers_handleStatusAction ..

lemma offers_handleCallbackQuery (c : Client) (callback : Json) :
    OffersWith env (handleCallbackQuery C decode config env c callback) := by
  dsimp only [handleCallbackQuery]
  by_cases hallowed : isAllowed config ((callback.index "from").index "id").i64OrDefault = true
  · rw [if_neg (not_not.mpr hallowed)]
    cases Callback.parse (callback.index "data").strOrDefault with
    | none => exact .cons rfl offers_nil
    | some parsed =>
      dsimp only
      split_ifs
      · exact .cons rfl offers_nil
      · exact offers_handleCallback ..
  · rw [if_pos hallowed]
    exact .cons rfl (offers_of_plain (plain_recordUnauthorizedAccess c))

lemma offers_handleTyped (c : Client) (chatId : ℤ) (text : String) :
    OffersWith env (handleTyped config env c chatId text) := by
  dsimp only [handleTyped]
  split
  · exact offers_nil
  · exact offers_nil
  · split_ifs
    · exact offers_message ..
    · exact offers_handleSettingInput ..

lemma offers_handleMessage (c : Client) (message : Json) :
    OffersWith env (handleMessage C decode config env c message) := by
  dsimp only [handleMessage, dispatchCommand]
  split_ifs
  · exact offers_nil
  · exact offers_message ..
  · exact offers_runCommand ..
  · exact offers_handleTyped ..
  · exact offers_of_plain (plain_recordUnauthorizedAccess c)

/-- Whatever an update leads to, its buttons are written as callbacks. -/
lemma offers_processUpdate (c : Client) (update : Json) :
    OffersWith env (processUpdate C decode config env c update) := by
  unfold processUpdate
  cases partOf update "callback_query" with
  | some callback => exact offers_handleCallbackQuery c callback
  | none =>
    cases partOf update "message" with
    | some message => exact offers_handleMessage c message
    | none => exact offers_nil

end Handlers

/-- The data of the buttons is a code: what a callback is written as is read as that callback and
as no other, and nothing else is read as one. Every button that is ever attached to a message is
read back as what it stands for there: the decision about what has just become pending, with its
nonce, the setting that it names, the lock turned over, or the action of the status. -/
theorem button_data_codec :
    (∀ data callback, Callback.parse data = some callback ↔
      callback.WellFormed ∧ data = callback.data) ∧
    (∀ a b : Callback, a.WellFormed → b.WellFormed → a.data = b.data → a = b) ∧
    ∀ C decode config env c update,
      Offers env (processUpdate C decode config env c update).1
        (processUpdate C decode config env c update).2 :=
  ⟨fun _ _ => parse_eq_some, fun _ _ => data_injective, fun _ _ _ _ => offers_processUpdate⟩

end PcRemote.Telegram
