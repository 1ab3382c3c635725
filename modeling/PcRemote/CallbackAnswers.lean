import PcRemote.ConfirmationProtocol
import PcRemote.TelegramApi

/-! Every press of a button is answered, and answered once: on each way out of the handler there is
one answer, and what else the handler does answers nothing. -/
namespace PcRemote.Telegram
open Signing OtaUpdate

def answers (effects : List Effect) : List (String × String) := effects.filterMap Effect.answer

@[simp] lemma answers_cons (e : Effect) (es : List Effect) :
    answers (e :: es) = e.answer.toList ++ answers es := by
  cases h : e.answer with
  | none => rw [answers, List.filterMap_cons_none h]; rfl
  | some a => rw [answers, List.filterMap_cons_some h]; rfl

@[simp] lemma answers_append (xs ys : List Effect) :
    answers (xs ++ ys) = answers xs ++ answers ys := List.filterMap_append ..

lemma answers_of_plain {effects : List Effect} (h : Plain effects) : answers effects = [] :=
  List.filterMap_eq_nil_iff.mpr fun e he => (h e he).2

def AnsweredOnce (id : String) (effects : List Effect) : Prop :=
  ∃ text, answers effects = [(id, text)]

/-- The answer comes first, and the rest answers nothing. -/
lemma AnsweredOnce.first {id text : String} {effects : List Effect} (h : answers effects = []) :
    AnsweredOnce id (.answerCallbackQuery id text :: effects) :=
  ⟨text, by rw [answers_cons, h]; rfl⟩

/-- The answer comes last, and nothing before it answers. -/
lemma AnsweredOnce.after {id : String} {before effects : List Effect} (h : answers before = [])
    (he : AnsweredOnce id effects) : AnsweredOnce id (before ++ effects) := by
  obtain ⟨text, heffects⟩ := he
  exact ⟨text, by rw [answers_append, h, heffects, List.nil_append]⟩

lemma AnsweredOnce.cons {id : String} {e : Effect} {effects : List Effect} (h : answers [e] = [])
    (he : AnsweredOnce id effects) : AnsweredOnce id (e :: effects) := .after h he

lemma answeredOnce_answerAndSend (id answerText : String) (chatId : ℤ) (text : String) :
    AnsweredOnce id (answerAndSend id answerText chatId text) := by
  unfold answerAndSend
  split_ifs <;> exact ⟨answerText, rfl⟩

section Handlers
variable {C : Crypto} {decode : List UInt8 → Except String OtaManifest} {config : ClientConfig}
  {env : Env} {id : String}

lemma answeredOnce_executePending (c : Client) (chatId : ℤ) (kind : PendingKind) :
    AnsweredOnce id (executePending C decode config env c id chatId kind).2 := by
  cases kind with
  | power action =>
    exact .after (answers_of_plain (plain_runPowerAction c action))
      (answeredOnce_answerAndSend ..)
  | config change =>
    exact .after (answers_of_plain (plain_applyConfigChange c change))
      (answeredOnce_answerAndSend ..)
  | firmwareUpdate version =>
    exact .first (answers_of_plain (plain_executeConfirmedOtaUpdate c chatId version))

lemma answeredOnce_handleDecision (c : Client) (chatId : ℤ) (confirm : Bool)
    (target : CallbackTarget) (nonce : String) :
    AnsweredOnce id (handleDecision C decode config env c id chatId confirm target nonce).2 := by
  dsimp only [handleDecision]
  cases (c.consumePending env nonce).2.filter fun kind => target.covers kind with
  | none => cases confirm <;> exact answeredOnce_answerAndSend ..
  | some kind =>
    cases confirm with
    | false => exact answeredOnce_answerAndSend ..
    | true => exact answeredOnce_executePending ..

lemma answeredOnce_handleStatusAction (c : Client) (chatId messageId : ℤ) (action : StatusAction) :
    AnsweredOnce id (handleStatusAction config env c id chatId messageId action).2 := by
  have hconfirm : ∀ power : PowerAction, AnsweredOnce id
      (handleStatusAction.confirmFromButton config env c id chatId power).2 := by
    intro power
    dsimp only [handleStatusAction.confirmFromButton]
    split_ifs <;> exact .first rfl
  cases action with
  | refresh =>
    simp only [handleStatusAction]
    split_ifs
    · exact .after rfl (.first rfl)
    · exact .after rfl (.first rfl)
  | wake =>
    simp only [handleStatusAction]
    split_ifs
    · exact .first (answers_of_plain (plain_doWake c chatId))
    · exact .first rfl
  | reboot => exact hconfirm .reboot
  | shutdown => exact hconfirm .shutdown

lemma answeredOnce_handleCallback (c : Client) (chatId messageId : ℤ) (parsed : Callback) :
    AnsweredOnce id (handleCallback C decode config env c id chatId messageId parsed).2 := by
  cases parsed with
  | decision confirm target nonce => exact answeredOnce_handleDecision ..
  | editSetting kind =>
    dsimp only [handleCallback]
    split_ifs
    · exact .first (answers_of_plain (plain_startSettingInput c chatId kind))
    · exact .first rfl
  | setLock locked =>
    simp only [handleCallback]
    split_ifs <;> exact .cons rfl (.first rfl)
  | status action => exact answeredOnce_handleStatusAction ..

lemma answeredOnce_handleCallbackQuery (c : Client) (callback : Json) :
    AnsweredOnce (callback.index "id").strOrDefault
      (handleCallbackQuery C decode config env c callback).2 := by
  dsimp only [handleCallbackQuery]
  by_cases hallowed : isAllowed config ((callback.index "from").index "id").i64OrDefault = true
  · rw [if_neg (not_not.mpr hallowed)]
    cases Callback.parse (callback.index "data").strOrDefault with
    | none => exact .first rfl
    | some parsed =>
      dsimp only
      split_ifs
      · exact .first rfl
      · exact answeredOnce_handleCallback ..
  · rw [if_pos hallowed]
    exact .first (answers_of_plain (plain_recordUnauthorizedAccess c))

end Handlers

def Post.isAnswer (p : Post) : Bool := p.method == "answerCallbackQuery"

/-- The message behind the answer is none, over whichever connection it goes. -/
lemma filter_answerCallbackQueryAndSend {link : Link} (h : link.created = true)
    (id answerText : String) (chatId : ℤ) (sendText : String) :
    (Api.answerCallbackQueryAndSend link id answerText chatId sendText).filter Post.isAnswer =
      [⟨"answerCallbackQuery", answerBody id answerText⟩] := by
  unfold Api.answerCallbackQueryAndSend
  rw [if_neg (not_not.mpr h)]
  split_ifs <;> rfl

lemma filter_posts_of_created {link : Link} (h : link.created = true) (e : Effect) :
    (e.posts link).filter Post.isAnswer =
      e.answer.toList.map fun a => ⟨"answerCallbackQuery", answerBody a.1 a.2⟩ := by
  by_cases hsend : ∃ id answerText chatId sendText,
      e = .answerCallbackQueryAndSend id answerText chatId sendText
  · obtain ⟨id, answerText, chatId, sendText, rfl⟩ := hsend
    exact filter_answerCallbackQueryAndSend h id answerText chatId sendText
  · cases e <;> simp_all [Effect.posts, postJson, Post.isAnswer]

/-- Where a client can always be created, the answers are the requests that are made. -/
lemma filter_posts {links : ℕ → Link} (h : ∀ n, (links n).created = true)
    (effects : List Effect) :
    (posts links effects).filter Post.isAnswer =
      (answers effects).map fun a => ⟨"answerCallbackQuery", answerBody a.1 a.2⟩ := by
  induction effects generalizing links with
  | nil => rfl
  | cons e es ih =>
    rw [posts, List.filter_append, filter_posts_of_created (h 0), ih fun n => h (n + 1),
      answers_cons, List.map_append]

/-- Whoever pressed which button in which state, and however what it asked for turns out: one
answer is requested, and it carries the id of the press. -/
theorem callback_answered_once (C : Crypto) (decode : List UInt8 → Except String OtaManifest)
    (config : ClientConfig) (env : Env) (c : Client) (callback : Json) {links : ℕ → Link}
    (hlinks : ∀ n, (links n).created = true) :
    ∃ body, (posts links (handleCallbackQuery C decode config env c callback).2).filter
        Post.isAnswer = [⟨"answerCallbackQuery", body⟩] ∧
      body.index "callback_query_id" = .str (callback.index "id").strOrDefault := by
  have honce : AnsweredOnce (callback.index "id").strOrDefault
      (handleCallbackQuery C decode config env c callback).2 :=
    answeredOnce_handleCallbackQuery c callback
  obtain ⟨text, htext⟩ := honce
  refine ⟨answerBody (callback.index "id").strOrDefault text, ?_, rfl⟩
  rw [filter_posts hlinks, htext]
  rfl

/-- The press of the confirm button of the reboot that was asked for. -/
def confirmPress : Json :=
  .obj [("id", .str "77"), ("from", .obj [("id", .int 42)]), ("data", .str "confirm:reboot:222222"),
    ("message", .obj [("chat", .obj [("id", .int 42)])])]

theorem callback_answered_once_confirm :
    ∃ body, (posts (fun _ => ⟨true, false, false⟩) (handleCallbackQuery .standard noManifest
        ownerConfig (envAt 7) asked.1 confirmPress).2).filter Post.isAnswer =
      [⟨"answerCallbackQuery", body⟩] ∧ body.index "callback_query_id" = .str "77" :=
  callback_answered_once .standard noManifest ownerConfig (envAt 7) asked.1 confirmPress
    fun _ => rfl

end PcRemote.Telegram
