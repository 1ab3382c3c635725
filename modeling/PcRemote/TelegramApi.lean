import PcRemote.ClientDispatch

/-! The requests to the Bot API that the effects of an update make, over connections that can fail,
and the parts of the effects that a user sees as a button or as the answer to one. -/
namespace PcRemote.Telegram
open Signing OtaUpdate

structure Post where
  method : String
  body : Json

/-- How the connections of one effect turn out: whether a client can be created, whether the first
request over it succeeds, and whether a second client can be created if it does not. -/
structure Link where
  created : Bool
  answered : Bool
  recreated : Bool

def postJson (link : Link) (method : String) (body : Json) : List Post :=
  if link.created then [⟨method, body⟩] else []

def messageBody (chatId : ℤ) (text : String) (more : List (String × Json)) : Json :=
  .obj (("chat_id", .int chatId) :: ("text", .str text) :: more)

def editBody (chatId messageId : ℤ) (text : String) (more : List (String × Json)) : Json :=
  .obj (("chat_id", .int chatId) :: ("message_id", .int messageId) :: ("text", .str text) :: more)

def inlineKeyboard (rows : List (List Button)) : Json :=
  .obj [("inline_keyboard", .arr (rows.map fun row => .arr (row.map fun b =>
    .obj [("text", .str b.text), ("callback_data", .str b.data)])))]

def forceReply (placeholder : String) : Json :=
  .obj [("force_reply", .bool true), ("input_field_placeholder", .str placeholder)]

/-- An empty text is left out. -/
def answerBody (id text : String) : Json :=
  .obj (("callback_query_id", .str id) :: if text = "" then [] else [("text", .str text)])

/-- The message follows over the same connection, or over a new one if the answer failed. -/
def Api.answerCallbackQueryAndSend (link : Link) (id answerText : String) (chatId : ℤ)
    (sendText : String) : List Post :=
  if ¬ link.created then []
  else ⟨"answerCallbackQuery", answerBody id answerText⟩ ::
    if ¬ link.answered ∧ ¬ link.recreated then []
    else if chatId ≠ 0 then [⟨"sendMessage", messageBody chatId sendText []⟩] else []

/-- The requests that an effect makes to the Bot API. -/
def Effect.posts (link : Link) : Effect → List Post
  | .sendMessage chatId text | .sendMessageReturningId chatId text =>
      postJson link "sendMessage" (messageBody chatId text [])
  | .sendMessageWithKeyboard chatId text rows =>
      postJson link "sendMessage" (messageBody chatId text [("reply_markup", inlineKeyboard rows)])
  | .sendStatus chatId text rows =>
      postJson link "sendMessage" (messageBody chatId text
        [("parse_mode", .str "HTML"), ("reply_markup", inlineKeyboard rows)])
  | .editStatus chatId messageId text rows =>
      postJson link "editMessageText" (editBody chatId messageId text
        [("parse_mode", .str "HTML"), ("reply_markup", inlineKeyboard rows)])
  | .sendForceReply chatId text placeholder =>
      postJson link "sendMessage" (messageBody chatId text
        [("reply_markup", forceReply placeholder)])
  | .editMessageText chatId messageId text =>
      postJson link "editMessageText" (editBody chatId messageId text [])
  | .answerCallbackQuery id text => postJson link "answerCallbackQuery" (answerBody id text)
  | .answerCallbackQueryAndSend id answerText chatId sendText =>
      Api.answerCallbackQueryAndSend link id answerText chatId sendText
  | .storePending _ | .storeInput _ | .setLock _ | .sendWakeOnLan .. | .beginWakeWatch _ |
    .sendCommand .. | .beginSleepWatch | .applyChange _ | .fetchManifest .. |
    .executeConfirmedOta _ | .ota _ | .restart => []

/-- The requests of a list of effects, each over its own connections. -/
def posts : (ℕ → Link) → List Effect → List Post
  | _, [] => []
  | links, e :: es => e.posts (links 0) ++ posts (fun n => links (n + 1)) es

/-- The buttons that an effect attaches to a message. -/
@[simp] def Effect.buttons : Effect → List Button
  | .sendMessageWithKeyboard _ _ rows | .sendStatus _ _ rows | .editStatus _ _ _ rows =>
      rows.flatten
  | .sendMessage .. | .sendMessageReturningId .. | .sendForceReply .. | .editMessageText .. |
    .answerCallbackQuery .. | .answerCallbackQueryAndSend .. | .storePending _ | .storeInput _ |
    .setLock _ | .sendWakeOnLan .. | .beginWakeWatch _ | .sendCommand .. | .beginSleepWatch |
    .applyChange _ | .fetchManifest .. | .executeConfirmedOta _ | .ota _ | .restart => []

/-- The id of the button that an effect answers, and the text of the answer. -/
@[simp] def Effect.answer : Effect → Option (String × String)
  | .answerCallbackQuery id text | .answerCallbackQueryAndSend id text _ _ => some (id, text)
  | .sendMessage .. | .sendMessageReturningId .. | .sendMessageWithKeyboard .. | .sendStatus .. |
    .editStatus .. | .sendForceReply .. | .editMessageText .. | .storePending _ | .storeInput _ |
    .setLock _ | .sendWakeOnLan .. | .beginWakeWatch _ | .sendCommand .. | .beginSleepWatch |
    .applyChange _ | .fetchManifest .. | .executeConfirmedOta _ | .ota _ | .restart => none

/-- An effect that neither attaches a button nor answers one. -/
@[simp] def Effect.Plain (e : Effect) : Prop := e.buttons = [] ∧ e.answer = none

def Plain (effects : List Effect) : Prop := ∀ e ∈ effects, e.Plain

@[simp] lemma plain_nil : Plain [] := fun _ h => absurd h List.not_mem_nil

@[simp] lemma plain_cons {e : Effect} {es : List Effect} : Plain (e :: es) ↔ e.Plain ∧ Plain es :=
  List.forall_mem_cons

@[simp] lemma plain_append {xs ys : List Effect} : Plain (xs ++ ys) ↔ Plain xs ∧ Plain ys :=
  List.forall_mem_append

section Plain
variable {config : ClientConfig} {env : Env}

lemma plain_recordUnauthorizedAccess (c : Client) :
    Plain (recordUnauthorizedAccess config env c).2 := by
  dsimp only [recordUnauthorizedAccess]
  split
  · simp
  · exact plain_nil

lemma plain_startSettingInput (c : Client) (chatId : ℤ) (kind : SettingKind) :
    Plain (startSettingInput config env c chatId kind).2 := by
  simp [startSettingInput, Client.awaitInput]

lemma plain_doWake (c : Client) (chatId : ℤ) : Plain (doWake config env c chatId) := by
  unfold doWake
  split_ifs <;> simp

lemma plain_runPowerAction (c : Client) (action : PowerAction) :
    Plain (runPowerAction env c action).1 := by
  unfold runPowerAction
  split_ifs <;> simp

lemma plain_applyConfigChange (c : Client) (change : ConfigChange) :
    Plain (applyConfigChange env c change).1.2 := by
  simp [applyConfigChange]

lemma plain_editProgressMessage (chatId : ℤ) (messageId : Option ℤ) (lastText text : String) :
    Plain (editProgressMessage chatId messageId lastText text).2 := by
  unfold editProgressMessage
  cases messageId with
  | none => exact plain_nil
  | some id =>
    simp only
    split_ifs <;> simp

lemma plain_reportOta (chatId : ℤ) (messageId : Option ℤ) (m : OtaManifest)
    (events : List OtaEvent) (lastProgress lastApplying : String) :
    Plain (reportOta chatId messageId m lastProgress lastApplying events) := by
  induction events generalizing lastProgress lastApplying with
  | nil => exact plain_nil
  | cons event rest ih =>
    cases event <;>
      simp [reportOta, plain_editProgressMessage, ih]

end Plain

section Update
variable {C : Crypto} {decode : List UInt8 → Except String OtaManifest}
  {config : ClientConfig} {env : Env}

lemma plain_executeOtaUpdate (chatId : ℤ) (m : OtaManifest) :
    Plain (executeOtaUpdate C env chatId m) := by
  dsimp only [executeOtaUpdate]
  by_cases hchat : chatId = 0
  · cases (downloadAndFlash C m env.slot env.image).2 <;>
      simp [hchat, plain_reportOta]
  · cases (downloadAndFlash C m env.slot env.image).2 <;>
      simp [hchat, plain_reportOta]

lemma plain_executeConfirmedOtaUpdate (c : Client) (chatId : ℤ) (version : String) :
    Plain (executeConfirmedOtaUpdate C decode config env c chatId version) := by
  unfold executeConfirmedOtaUpdate
  cases fetchManifest C decode config env with
  | error e => simp
  | ok m =>
    simp only
    split_ifs <;> simp [plain_executeOtaUpdate]

end Update

end PcRemote.Telegram
