import PcRemote.AlertThrottle
import PcRemote.Callback
import PcRemote.FirmwareVersion
import PcRemote.Json
import PcRemote.OtaUpdate
import PcRemote.StatusMessage
import PcRemote.WakeCheck

/-! The Telegram client: what it keeps between updates, and how it handles one. A handler
gives the new state and everything it did, in order. -/
namespace PcRemote.Telegram
open Text Signing OtaUpdate FirmwareVersion

/-- A reading of the monotonic clock, in nanoseconds. -/
abbrev Instant := ℕ

def fromSecs (seconds : ℕ) : ℕ := seconds * 1000000000

structure ClientConfig where
  allowedUserId : String
  confirmTtlSecs : ℕ
  pcMacAddress : String
  bridgeSharedSecret : String

structure Pending where
  kind : PendingKind
  nonce : String
  expiresAt : Instant
  deriving DecidableEq, Repr

/-- A setting whose value is expected in the next message. -/
structure PendingInput where
  kind : SettingKind
  expiresAt : Instant
  deriving DecidableEq, Repr

structure Client where
  pending : Option Pending
  pendingInput : Option PendingInput
  locked : Bool
  settings : RuntimeSettings
  unauthorizedAlerts : AlertThrottle

def Client.new (settings : RuntimeSettings) : Client := ⟨none, none, false, settings, .default⟩

/-- What an update meets outside the client: clock readings, random draws, probes, and how
each operation turns out. -/
structure Env where
  now : Instant
  issuedAt : Instant
  draw : Fin 6 → UInt32
  pcOnline : Bool
  bridgeOnline : Bool
  battery : Option Battery
  wakeSent : Bool
  commandStatus : Option ℕ
  nvsWritten : Bool
  manifest : Fetch
  progressMessageId : Option ℤ
  slot : Slot
  image : Fetch

inductive Effect
  | sendMessage (chatId : ℤ) (text : String)
  | sendMessageWithKeyboard (chatId : ℤ) (text : String) (rows : List (List Button))
  | sendStatus (chatId : ℤ) (text : String) (rows : List (List Button))
  | editStatus (chatId messageId : ℤ) (text : String) (rows : List (List Button))
  | sendForceReply (chatId : ℤ) (text placeholder : String)
  | sendMessageReturningId (chatId : ℤ) (text : String)
  | editMessageText (chatId messageId : ℤ) (text : String)
  | answerCallbackQuery (id text : String)
  | answerCallbackQueryAndSend (id answerText : String) (chatId : ℤ) (sendText : String)
  | storePending (pending : Pending)
  | storeInput (input : PendingInput)
  | setLock (locked : Bool)
  | sendWakeOnLan (macText : String) (port : ℕ)
  | beginWakeWatch (pcOnline : Bool)
  | sendCommand (action : PowerAction) (pcIpAddress : String)
  | beginSleepWatch
  | applyChange (change : ConfigChange)
  | fetchManifest (pcIpAddress : String) (fetch : Fetch)
  | executeConfirmedOta (version : String)
  | ota (event : OtaEvent)
  | restart
  deriving DecidableEq, Repr

abbrev Outcome := Client × List Effect

def nonceCharset : List Char := "23456789ABCDEFGHJKLMNPQRSTUVWXYZ".toList

def generateNonce (draw : Fin 6 → UInt32) : String :=
  String.ofList (List.ofFn fun i => nonceCharset.getD ((draw i).toNat % nonceCharset.length) '2')

section Handlers
variable (config : ClientConfig) (env : Env)

/-- A value that starts to count now runs out after the time to live. -/
def expiry : Instant := env.issuedAt + fromSecs config.confirmTtlSecs

namespace Client

def store (c : Client) (kind : PendingKind) (nonce : String) : Client × Effect :=
  let pending := ⟨kind, nonce, expiry config env⟩
  ({ c with pending := some pending }, .storePending pending)

def awaitInput (c : Client) (kind : SettingKind) : Client × Effect :=
  let input := ⟨kind, expiry config env⟩
  ({ c with pendingInput := some input }, .storeInput input)

/-- Whatever the outcome, the confirmation is used up. -/
def consumePending (c : Client) (supplied : String) : Client × Option PendingKind :=
  ({ c with pending := none },
    (c.pending.filter fun p => supplied ≠ "" ∧ p.nonce = supplied ∧ env.now < p.expiresAt).map
      fun p => p.kind)

def takePendingInput (c : Client) : Client × Option SettingKind :=
  ({ c with pendingInput := none },
    (c.pendingInput.filter fun p => env.now < p.expiresAt).map fun p => p.kind)

def setOperationLock (c : Client) (locked : Bool) : Client :=
  if locked then { c with locked := true, pending := none, pendingInput := none }
  else { c with locked := false }

end Client

def statusMessage (c : Client) : String × List (List Button) :=
  let batteryLine := match env.battery with
    | some b => Battery.statusJa b.percent (Battery.classify b.charging b.powered)
    | none => "不明"
  let snapshot : StatusMessage.PcStatusSnapshot :=
    ⟨env.pcOnline, !c.locked && env.pcOnline && env.bridgeOnline, c.locked⟩
  (StatusMessage.statusMessageHtml snapshot.status (StatusMessage.pcOnlineLabelJa env.pcOnline)
      batteryLine firmwareVersion,
    StatusMessage.statusButtons snapshot.status)

def settingsMenu (c : Client) (chatId : ℤ) : List Effect :=
  let text := "現在の設定\n・PC IPアドレス: " ++ c.settings.pcIpAddress ++ "\n・WOLポート: " ++
    toString c.settings.wolPort ++ "\n・画面の明るさ: " ++ toString c.settings.brightnessPercent ++
    "%\n・操作ロック: " ++ (if c.locked then "ロック中" else "解除中") ++
    "\n\n変更したい項目のボタンを押してください。"
  let editRows := SettingKind.all.map fun kind =>
    [(⟨kind.labelJa ++ "を変更", "setedit:" ++ kind.slug⟩ : Button)]
  let lockRow : List Button :=
    if c.locked then [⟨"ロックを解除", "lock:off"⟩] else [⟨"電源操作をロック", "lock:on"⟩]
  [.sendMessageWithKeyboard chatId text (editRows ++ [lockRow])]

def confirmButtons (chatId : ℤ) (text confirmLabel confirmData cancelData : String) : Effect :=
  .sendMessageWithKeyboard chatId text [[⟨confirmLabel, confirmData⟩, ⟨"キャンセル", cancelData⟩]]

def confirmCommand : PowerAction → String
  | .reboot => "/confirm_reboot"
  | .shutdown => "/confirm_shutdown"
  | .sleep => "/confirm_sleep"

def requestConfirmation (c : Client) (chatId : ℤ) (action : PowerAction) : Outcome :=
  let nonce := generateNonce env.draw
  let r := c.store config env (.power action) nonce
  let text := "PCを" ++ action.labelJa ++ "しますか？\nボタンを押すと実行します。\n手入力する場合: " ++
    confirmCommand action ++ " " ++ nonce
  (r.1, [r.2, confirmButtons chatId text action.labelJa ("confirm:" ++ action.slug ++ ":" ++ nonce)
    ("cancel:" ++ action.slug ++ ":" ++ nonce)])

def requestConfigConfirmation (c : Client) (chatId : ℤ) (change : ConfigChange)
    (currentValue : String) : Outcome :=
  let nonce := generateNonce env.draw
  let r := c.store config env (.config change) nonce
  let text := change.labelJa ++ "を変更しますか？\n現在: " ++ currentValue ++ "\n変更後: " ++
    change.displayValue ++ "\nボタンを押すと反映します。\n手入力する場合: /confirm_set " ++ nonce
  (r.1, [r.2, confirmButtons chatId text "登録" ("confirm:config:" ++ nonce)
    ("cancel:config:" ++ nonce)])

def startSettingInput (c : Client) (chatId : ℤ) (kind : SettingKind) : Outcome :=
  let r := c.awaitInput config env kind
  let text := kind.labelJa ++ "の新しい値を送信してください。\n現在: " ++ kind.current c.settings ++
    "\n例: " ++ kind.sample
  (r.1, [r.2, .sendForceReply chatId text kind.sample])

/-- A value that does not validate is asked for again. -/
def handleSettingInput (c : Client) (chatId : ℤ) (kind : SettingKind) (raw : String) : Outcome :=
  match kind.parse raw with
  | .ok change => requestConfigConfirmation config env c chatId change (kind.current c.settings)
  | .error message =>
      let r := c.awaitInput config env kind
      (r.1, [r.2, .sendForceReply chatId message kind.sample])

def handleSetCommand (c : Client) (chatId : ℤ) (kind : SettingKind) (args : String) : Outcome :=
  if args = "" then startSettingInput config env c chatId kind
  else handleSettingInput config env c chatId kind args

def doWake (c : Client) (chatId : ℤ) : List Effect :=
  .sendWakeOnLan config.pcMacAddress c.settings.wolPort ::
    if env.wakeSent then
      [.beginWakeWatch env.pcOnline, .sendMessage chatId WakeCheck.wakeRequestText]
    else [.sendMessage chatId WakeCheck.wakeRequestFailedText]

/-- The command, and its report. An accepted sleep also holds back the notice of the PC
going off. -/
def runPowerAction (c : Client) (action : PowerAction) : List Effect × String :=
  (.sendCommand action c.settings.pcIpAddress ::
      if env.commandStatus.any BridgeClient.isAccepted ∧ action = .sleep then [.beginSleepWatch]
      else [],
    BridgeClient.resultText action env.commandStatus)

def applyConfigChange (c : Client) (change : ConfigChange) : Outcome × String :=
  let r := change.apply c.settings env.nvsWritten
  (({ c with settings := r.1 }, [.applyChange change]),
    if r.2 then change.labelJa ++ "を変更しました。\n新しい値: " ++ change.displayValue
    else change.labelJa ++ "の保存に失敗しました。設定は変更されていません。")

end Handlers

/-- An edit of the progress message, unless the text is the one shown already. -/
def editProgressMessage (chatId : ℤ) (messageId : Option ℤ) (lastText text : String) :
    String × List Effect :=
  match messageId with
  | none => (lastText, [])
  | some id => if text = lastText then (lastText, []) else (text, [.editMessageText chatId id text])

/-- The events of an update, with the edits of the progress message they lead to. -/
def reportOta (chatId : ℤ) (messageId : Option ℤ) (m : OtaManifest) :
    String → String → List OtaEvent → List Effect
  | _, _, [] => []
  | lastProgress, lastApplying, event :: rest =>
      match event with
      | .progress received =>
          let edit := editProgressMessage chatId messageId lastProgress
            (OtaManifest.otaProgressText m.version received m.size)
          .ota event :: edit.2 ++ reportOta chatId messageId m edit.1 lastApplying rest
      | .applying =>
          let edit := editProgressMessage chatId messageId lastApplying
            (OtaManifest.otaApplyingText m.version)
          .ota event :: edit.2 ++ reportOta chatId messageId m lastProgress edit.1 rest
      | .signedGet .. | .initiate | .write _ | .complete _ | .abort =>
          .ota event :: reportOta chatId messageId m lastProgress lastApplying rest

section Update
variable (C : Crypto) (decode : List UInt8 → Except String OtaManifest) (config : ClientConfig)
  (env : Env)

def fetchManifest : Except OtaError OtaManifest :=
  fetchVerifiedManifest C decode (utf8 config.bridgeSharedSecret) env.manifest

/-- A successful update ends in a restart and is not reported on. -/
def executeOtaUpdate (chatId : ℤ) (m : OtaManifest) : List Effect :=
  let r := downloadAndFlash C m env.slot env.image
  let messageId := if chatId ≠ 0 then env.progressMessageId else none
  (if chatId ≠ 0 then [.sendMessageReturningId chatId
      "firmware更新を開始します。完了すると自動でM5Stackを再起動します。"] else []) ++
    reportOta chatId messageId m "" "" r.1 ++
    match r.2 with
    | .ok () => [.restart]
    | .error e =>
        if chatId ≠ 0 then
          [.sendMessage chatId ("firmware更新に失敗しました。\n" ++ e.userMessage)]
        else []

/-- The manifest is fetched once more and must still be of the confirmed version; the update
then uses this very manifest. -/
def executeConfirmedOtaUpdate (c : Client) (chatId : ℤ) (confirmedVersion : String) : List Effect :=
  .executeConfirmedOta confirmedVersion ::
    .fetchManifest c.settings.pcIpAddress env.manifest ::
    match fetchManifest C decode config env with
    | .ok m =>
        if m.version = confirmedVersion then executeOtaUpdate C env chatId m
        else [.sendMessage chatId
          "更新情報が確認時から変わりました。更新は行いません。\nもう一度 /update から実行してください。"]
    | .error _ => [.sendMessage chatId
        "更新情報の取得に失敗しました。更新は行いません。\nもう一度 /update から実行してください。"]

def handleUpdateCommand (c : Client) (chatId : ℤ) : Outcome :=
  let fetched : Effect := .fetchManifest c.settings.pcIpAddress env.manifest
  match fetchManifest C decode config env with
  | .error _ => (c, [fetched, .sendMessage chatId "更新情報の取得に失敗しました。"])
  | .ok m =>
      let body := otaConfirmText firmwareVersion m.version m.size
      if ¬ (compareVersions firmwareVersion m.version).showsConfirmButton then
        (c, [fetched, .sendMessage chatId body])
      else
        let nonce := generateNonce env.draw
        let r := c.store config env (.firmwareUpdate m.version) nonce
        (r.1, [fetched, r.2, confirmButtons chatId
          (body ++ "\n手入力する場合: /confirm_update " ++ nonce) "更新"
          ("confirm:update:" ++ nonce) ("cancel:update:" ++ nonce)])

end Update

end PcRemote.Telegram
