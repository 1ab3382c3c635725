import PcRemote.TelegramClient
import PcRemote.Transition

/-! From an update to the handler it is for: decisions, commands, buttons, typed values. A
session is the run of one client, up to the restart an update may end in. -/
namespace PcRemote.Telegram
open Text Signing OtaUpdate Transition

section Dispatch
variable (C : Crypto) (decode : List UInt8 → Except String OtaManifest) (config : ClientConfig)
  (env : Env)

def handleConfirmation (c : Client) (chatId : ℤ) (action : PowerAction) (supplied : String) :
    Outcome :=
  let r := c.consumePending env supplied
  let refusal := "有効なPCの" ++ action.labelJa ++
    "確認がありません。期限切れ、使用済み、またはnonce不一致です。\nもう一度 /" ++ action.slug ++
    " から実行してください。"
  match r.2 with
  | some (.power pendingAction) =>
      if pendingAction = action then
        let ran := runPowerAction env r.1 action
        (r.1, ran.1 ++ [.sendMessage chatId ran.2])
      else (r.1, [.sendMessage chatId refusal])
  | some (.config _) | some (.firmwareUpdate _) | none => (r.1, [.sendMessage chatId refusal])

def handleConfigConfirmation (c : Client) (chatId : ℤ) (supplied : String) : Outcome :=
  let r := c.consumePending env supplied
  match r.2 with
  | some (.config change) =>
      let applied := applyConfigChange env r.1 change
      (applied.1.1, applied.1.2 ++ [.sendMessage chatId applied.2])
  | some (.power _) | some (.firmwareUpdate _) | none =>
      (r.1, [.sendMessage chatId ("有効な設定変更確認がありません。期限切れ、使用済み、または" ++
        "nonce不一致です。\nもう一度 /set_ip 等から実行してください。")])

def handleUpdateConfirmation (c : Client) (chatId : ℤ) (supplied : String) : Outcome :=
  let r := c.consumePending env supplied
  match r.2 with
  | some (.firmwareUpdate version) =>
      (r.1, executeConfirmedOtaUpdate C decode config env r.1 chatId version)
  | some (.power _) | some (.config _) | none =>
      (r.1, [.sendMessage chatId ("有効な更新確認がありません。期限切れ、使用済み、またはnonce不一致です。" ++
        "\nもう一度 /update から実行してください。")])

def allowedWhileLocked : List String := ["/status", "/settings", "/lock", "/unlock"]

def lockedText : String := "操作はロック中です。/unlock で解除してから実行してください。"

def runCommand (c : Client) (chatId : ℤ) (command args : String) : Outcome :=
  match command with
  | "/status" =>
      let status := statusMessage env c
      (c, [.sendStatus chatId status.1 status.2])
  | "/settings" => (c, settingsMenu c chatId)
  | "/lock" =>
      (c.setOperationLock true,
        [.setLock true, .sendMessage chatId "操作をロックしました。/unlock で解除できます。"])
  | "/unlock" =>
      (c.setOperationLock false,
        [.setLock false, .sendMessage chatId "操作のロックを解除しました。"])
  | "/wake" => (c, doWake config env c chatId)
  | "/reboot" => requestConfirmation config env c chatId .reboot
  | "/shutdown" => requestConfirmation config env c chatId .shutdown
  | "/sleep" => requestConfirmation config env c chatId .sleep
  | "/confirm_reboot" => handleConfirmation env c chatId .reboot args
  | "/confirm_shutdown" => handleConfirmation env c chatId .shutdown args
  | "/confirm_sleep" => handleConfirmation env c chatId .sleep args
  | "/update" => handleUpdateCommand C decode config env c chatId
  | "/confirm_update" => handleUpdateConfirmation C decode config env c chatId args
  | "/set_ip" => handleSetCommand config env c chatId .pcIp args
  | "/set_wol_port" => handleSetCommand config env c chatId .wolPort args
  | "/set_brightness" => handleSetCommand config env c chatId .brightness args
  | "/confirm_set" => handleConfigConfirmation env c chatId args
  | _ => (c, [])

/-- While locked, only what is listed as allowed goes through. -/
def dispatchCommand (c : Client) (chatId : ℤ) (command args : String) : Outcome :=
  if c.locked ∧ command ∉ allowedWhileLocked then (c, [.sendMessage chatId lockedText])
  else runCommand C decode config env c chatId command args

def isAllowed (fromId : ℤ) : Bool :=
  ConfigValidation.telegramUserIdMatches config.allowedUserId fromId

def unauthorizedText (count : ℕ) : String :=
  "未許可ユーザーからのアクセスを" ++ toString count ++ "回検知しました。\n操作は実行されていません。"

/-- The alert goes to the owner and carries nothing that the sender chose. -/
def recordUnauthorizedAccess (c : Client) : Outcome :=
  let r := c.unauthorizedAlerts.record env.now
  ({ c with unauthorizedAlerts := r.1 },
    match r.2, ConfigValidation.parseTelegramUserId config.allowedUserId with
    | some count, some chatId => [.sendMessage chatId (unauthorizedText count)]
    | _, _ => [])

/-- The answer to a button, and with it a message when the chat is known. -/
def answerAndSend (id answerText : String) (chatId : ℤ) (text : String) : List Effect :=
  if chatId ≠ 0 then [.answerCallbackQueryAndSend id answerText chatId text]
  else [.answerCallbackQuery id answerText]

def noConfirmationText : String := "有効な確認がありません。期限切れ、使用済み、またはnonce不一致です。"

/-- What a confirmed operation does, answered to the button it was confirmed with. -/
def executePending (c : Client) (id : String) (chatId : ℤ) (kind : PendingKind) : Outcome :=
  match kind with
  | .power action =>
      let ran := runPowerAction env c action
      (c, ran.1 ++ answerAndSend id ran.2 chatId ran.2)
  | .config change =>
      let applied := applyConfigChange env c change
      (applied.1.1, applied.1.2 ++ answerAndSend id applied.2 chatId applied.2)
  | .firmwareUpdate version =>
      (c, .answerCallbackQuery id "更新を開始します" ::
        executeConfirmedOtaUpdate C decode config env c chatId version)

/-- The nonce alone is not enough: the button must also be for what is pending. -/
def handleDecision (c : Client) (id : String) (chatId : ℤ) (confirm : Bool)
    (target : CallbackTarget) (nonce : String) : Outcome :=
  let r := c.consumePending env nonce
  match confirm, r.2.filter fun kind => target.covers kind with
  | false, some kind =>
      (r.1, answerAndSend id "キャンセルしました" chatId (kind.labelJa ++ "をキャンセルしました。"))
  | false, none => (r.1, answerAndSend id "処理済みです" chatId noConfirmationText)
  | true, none =>
      (r.1, answerAndSend id "期限切れまたは処理済みです" chatId
        (noConfirmationText ++ "\nもう一度実行してください。"))
  | true, some kind => executePending C decode config env r.1 id chatId kind

def handleStatusAction (c : Client) (id : String) (chatId messageId : ℤ) :
    StatusAction → Outcome
  | .refresh =>
      let status := statusMessage env c
      (c, (if chatId ≠ 0 ∧ messageId ≠ 0 then [.editStatus chatId messageId status.1 status.2]
        else []) ++ [.answerCallbackQuery id "最新の状態にしました"])
  | .wake =>
      (c, .answerCallbackQuery id "PCの起動を指示します" ::
        if chatId ≠ 0 then doWake config env c chatId else [])
  | .reboot => confirmFromButton .reboot
  | .shutdown => confirmFromButton .shutdown
where
  confirmFromButton (action : PowerAction) : Outcome :=
    let r := if chatId ≠ 0 then requestConfirmation config env c chatId action else (c, [])
    (r.1, .answerCallbackQuery id action.labelJa :: r.2)

def handleCallback (c : Client) (id : String) (chatId messageId : ℤ) : Callback → Outcome
  | .decision confirm target nonce =>
      handleDecision C decode config env c id chatId confirm target nonce
  | .editSetting kind =>
      let r := if chatId ≠ 0 then startSettingInput config env c chatId kind else (c, [])
      (r.1, .answerCallbackQuery id kind.labelJa :: r.2)
  | .status action => handleStatusAction config env c id chatId messageId action
  | .setLock locked =>
      let c := c.setOperationLock locked
      (c, .setLock locked ::
        .answerCallbackQuery id (if locked then "操作をロックしました" else "操作のロックを解除しました") ::
        if chatId ≠ 0 then settingsMenu c chatId else [])

def handleCallbackQuery (c : Client) (callback : Json) : Outcome :=
  let id := (callback.index "id").strOrDefault
  let fromId := ((callback.index "from").index "id").i64OrDefault
  if ¬ isAllowed config fromId then
    let r := recordUnauthorizedAccess config env c
    (r.1, .answerCallbackQuery id "権限がありません" :: r.2)
  else
    match Callback.parse (callback.index "data").strOrDefault with
    | none => (c, [.answerCallbackQuery id "無効なボタンです"])
    | some parsed =>
        if c.locked ∧ parsed ≠ .setLock false then (c, [.answerCallbackQuery id "操作はロック中です"])
        else
          let message := callback.index "message"
          let chatId := ((message.index "chat").index "id").i64OrDefault
          let messageId := (message.index "message_id").i64OrDefault
          handleCallback C decode config env c id chatId messageId parsed

/-- The command of a text, without the suffix that names the bot, and its arguments. -/
def commandOf (text : String) : String × String :=
  let parts := match splitOnce ' ' text with
    | some (command, args) => (command, trim args)
    | none => (text, "")
  (((split '@' parts.1).head?).getD parts.1, parts.2)

/-- A text that is no command is the value of the setting that is being asked for, if any. -/
def handleTyped (c : Client) (chatId : ℤ) (text : String) : Outcome :=
  let r := c.takePendingInput env
  match c.pendingInput, r.2 with
  | none, _ => (c, [])
  | some _, none => (r.1, [])
  | some _, some kind =>
      if c.locked then (r.1, [.sendMessage chatId lockedText])
      else handleSettingInput config env r.1 chatId kind text

def handleMessage (c : Client) (message : Json) : Outcome :=
  let fromId := ((message.index "from").index "id").i64OrDefault
  if ¬ isAllowed config fromId then recordUnauthorizedAccess config env c
  else
    let chatId := ((message.index "chat").index "id").i64OrDefault
    let text := trim (message.index "text").strOrDefault
    if text = "" then (c, [])
    else if ¬ startsWith '/' text then handleTyped config env c chatId text
    else
      let parsed := commandOf text
      dispatchCommand C decode config env c chatId parsed.1 parsed.2

/-- The part of an update under a key, unless it is missing or null. -/
def partOf (update : Json) (key : String) : Option Json :=
  (update.get key).filter fun part => !part.isNull

def processUpdate (c : Client) (update : Json) : Outcome :=
  match partOf update "callback_query" with
  | some callback => handleCallbackQuery C decode config env c callback
  | none =>
      match partOf update "message" with
      | some message => handleMessage C decode config env c message
      | none => (c, [])

end Dispatch

structure Session where
  client : Client
  restarted : Bool

def Session.start (settings : RuntimeSettings) : Session := ⟨.new settings, false⟩

/-- An update, what it met, and what was done for it. -/
structure Event where
  env : Env
  update : Json
  effects : List Effect

section Session
variable (C : Crypto) (decode : List UInt8 → Except String OtaManifest) (config : ClientConfig)

/-- No update is handled once the device has restarted. -/
inductive Step : Session → Event → Session → Prop
  | update (c : Client) (env : Env) (update : Json) :
      Step ⟨c, false⟩ ⟨env, update, (processUpdate C decode config env c update).2⟩
        ⟨(processUpdate C decode config env c update).1,
          decide (Effect.restart ∈ (processUpdate C decode config env c update).2)⟩

def session : System Session Event := ⟨Step C decode config⟩

end Session

end PcRemote.Telegram
