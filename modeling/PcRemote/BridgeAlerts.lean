import PcRemote.AlertThrottleRuns
import PcRemote.BridgeConfig
import PcRemote.Replace

/-! The bridge's alerts about refused requests. A refusal is recorded by the task that made it, an
alert that falls due is sent by a thread of its own, and all of it interleaves with the other
requests. An alert says how many requests were refused and that nothing was run for them; what goes
wrong with the sending is logged without the token that the address contains. -/
namespace PcRemote.BridgeAlerts
open Text Signing BridgeAuth BridgeServer BridgeConfig AlertThrottle Transition

/-- There is something to be redacted in the token. -/
structure AlertNotifier where
  botToken : String
  chatId : ℤ
  configured : trim botToken ≠ ""
  throttle : AlertThrottle

structure Post where
  url : String
  chatId : ℤ
  text : String
  deriving DecidableEq

def alertText (count : ℕ) : String :=
  s!"m5stack-pc-bridge: 認証に失敗したリクエストを{count}件検知しました。\n電源操作は実行されていません。"

def sendFailedText : String := "failed to send auth failure alert: "

namespace AlertNotifier

/-- Alerts need a token that is not blank, and a chat. -/
def fromConfig (config : AgentConfig) : Option AlertNotifier :=
  match config.telegramBotToken, config.telegramChatId with
  | some botToken, some chatId =>
      if h : trim botToken = "" then none else some ⟨botToken, chatId, h, .default⟩
  | _, _ => none

def record (n : AlertNotifier) (now : ℕ) : AlertNotifier × Option ℕ :=
  ({ n with throttle := (n.throttle.record now).1 }, (n.throttle.record now).2)

def redact (n : AlertNotifier) (message : String) : String :=
  String.ofList (Replace.replace n.botToken.toList redacted.toList message.toList)

def alertPost (n : AlertNotifier) (count : ℕ) : Post where
  url := "https://api.telegram.org/bot" ++ n.botToken ++ "/sendMessage"
  chatId := n.chatId
  text := alertText count

def alertWarning (n : AlertNotifier) (error : String) : String :=
  sendFailedText ++ n.redact error

/-- What is logged of a post, given how it turns out. -/
def warning (n : AlertNotifier) : Except String Unit → Option String
  | .ok () => none
  | .error error => some (n.alertWarning error)

end AlertNotifier

variable {ι : Type*} [DecidableEq ι]

/-- A request is refused for want of authentication. -/
def refuses : Event ι → Bool
  | .missingHeader _ | .verify _ _ _ (.error _) => true
  | _ => false

inductive AlertEvent (ι : Type*)
  | server (e : Event ι)
  | failure (i : ι) (now : ℕ) (count : Option ℕ)
  | alert (count : ℕ) (post : Post) (outcome : Except String Unit) (warning : Option String)

/-- The tasks that have still to record their refusal, and the threads that have an alert to send,
with the count it is about. -/
structure AlertState (ι : Type*) where
  server : State ι
  failing : List ι
  notifier : AlertNotifier
  threads : List ℕ

def AlertState.start (notifier : AlertNotifier) : AlertState ι := ⟨.start, [], notifier, []⟩

section Model
variable (C : Crypto) (commandRequest : List UInt8 → Option Bool) (config : ServerConfig)
  (req : ι → HttpRequest)

inductive AlertStep : AlertState ι → AlertEvent ι → AlertState ι → Prop
  | server {a : AlertState ι} {e : Event ι} {t : State ι}
      (hs : Step C commandRequest config req a.server e t) :
      AlertStep a (.server e) { a with
        server := t
        failing := if refuses e then e.owner :: a.failing else a.failing }
  | failure {a : AlertState ι} {i : ι} {now : ℕ} (hi : i ∈ a.failing) :
      AlertStep a (.failure i now (a.notifier.record now).2) { a with
        failing := a.failing.erase i
        notifier := (a.notifier.record now).1
        threads := a.threads ++ (a.notifier.record now).2.toList }
  | alert {a : AlertState ι} {count : ℕ} {outcome : Except String Unit}
      (hcount : count ∈ a.threads) :
      AlertStep a (.alert count (a.notifier.alertPost count) outcome (a.notifier.warning outcome))
        { a with threads := a.threads.erase count }

def alerting : System (AlertState ι) (AlertEvent ι) :=
  ⟨AlertStep C commandRequest config req⟩

end Model

def serverEvents (es : List (AlertEvent ι)) : List (Event ι) :=
  es.filterMap fun
    | .server e => some e
    | _ => none

/-- The refusals recorded, as the throttle sees them. -/
def recordings (es : List (AlertEvent ι)) : List Recorded :=
  es.filterMap fun
    | .failure _ now count => some (now, count)
    | _ => none

/-- The counts that alerts were sent about, also those that failed. -/
def told (es : List (AlertEvent ι)) : List ℕ :=
  es.filterMap fun
    | .alert count _ _ _ => some count
    | _ => none

section Runs
variable {C : Crypto} {commandRequest : List UInt8 → Option Bool} {config : ServerConfig}
  {req : ι → HttpRequest}

lemma afterVerify_task (s : State ι) (i : ι) (r : HttpRequest) (route : Route)
    (result : Except AuthError Unit) : ∃ task,
      (afterVerify commandRequest s i r route result).task = Function.update s.task i task := by
  cases result with
  | error e => exact ⟨_, rfl⟩
  | ok =>
    cases route with
    | command action =>
      simp only [afterVerify]
      split <;> exact ⟨_, rfl⟩
    | status => exact ⟨_, rfl⟩
    | firmwareManifest => exact ⟨_, rfl⟩
    | firmware => exact ⟨_, rfl⟩

lemma afterAudit_task (dryRun : Bool) (s : State ι) (i : ι) (action : PowerAction)
    (written : Bool) : ∃ task,
      (afterAudit dryRun s i action written).task = Function.update s.task i task := by
  cases written with
  | false => exact ⟨_, rfl⟩
  | true =>
    simp only [afterAudit, not_true_eq_false, if_false]
    split
    · split
      · exact ⟨_, rfl⟩
      · refine ⟨.logged .sleep, ?_⟩
        rw [State.become_task, State.respond_task, Function.update_idem]
    · exact ⟨_, rfl⟩

/-- An event is about a task that has not come to its end, and about no other. -/
lemma step_owner {s t : State ι} {e : Event ι} (hs : Step C commandRequest config req s e t) :
    s.task e.owner ≠ .finished ∧ ∃ task, t.task = Function.update s.task e.owner task := by
  cases hs with
  | respond hp hd => exact ⟨by simp [Event.owner, hp], _, rfl⟩
  | route hp hd => exact ⟨by simp [Event.owner, hp], _, rfl⟩
  | missingHeader hp hh => exact ⟨by simp [Event.owner, hp], _, rfl⟩
  | @verify i route request now nonces result hp hh hv =>
    exact ⟨by simp [Event.owner, hp], afterVerify_task { s with nonces := nonces } i _ route result⟩
  | serve hp => exact ⟨by simp [Event.owner, hp], _, rfl⟩
  | audit hp => exact ⟨by simp [Event.owner, hp], afterAudit_task _ s _ _ _⟩
  | run hp => exact ⟨by simp [Event.owner, hp], _, rfl⟩
  | auditResult hp => exact ⟨by simp [Event.owner, hp], _, rfl⟩
  | crash hp =>
    refine ⟨fun hfinished => ?_, _, rfl⟩
    rw [Event.owner] at hfinished
    rw [hfinished] at hp
    cases hp

/-- A task that has come to its end has no more events. -/
lemma finished_stays {s t : State ι} {e : Event ι} {i : ι}
    (hs : Step C commandRequest config req s e t) (h : s.task i = .finished) :
    e.owner ≠ i ∧ t.task i = .finished := by
  obtain ⟨hlive, task, htask⟩ := step_owner hs
  have howner : e.owner ≠ i := fun howner => hlive (howner ▸ h)
  exact ⟨howner, by rw [htask, Function.update_of_ne howner.symm, h]⟩

/-- A refusal is the end of its task, which has not got as far as an executor. -/
lemma refuses_step {s t : State ι} {e : Event ι} (hs : Step C commandRequest config req s e t)
    (he : refuses e = true) :
    (∃ route, s.task e.owner = .routed route) ∧ t.task e.owner = .finished := by
  cases hs with
  | missingHeader hp hh => exact ⟨⟨_, hp⟩, Function.update_self _ _ _⟩
  | @verify i route request now nonces result hp hh hv =>
    cases result with
    | error e => exact ⟨⟨_, hp⟩, Function.update_self _ _ _⟩
    | ok => cases he
  | _ => cases he

/-- Nothing is ever run for a request that is refused. -/
lemma refused_runs_nothing {s : State ι} {es : List (Event ι)}
    (h : (server C commandRequest config req).Run .start es s) :
    ∀ e ∈ es, refuses e = true →
      s.task e.owner = .finished ∧ es.countP (Event.executes e.owner) = 0 := by
  have hstart : ∀ j, Reached commandRequest config req [] j ((State.start : State ι).task j) :=
    fun _ => List.countP_nil
  refine (h.history (J := fun es s => (∀ j, Reached commandRequest config req es j (s.task j)) ∧
    ∀ e ∈ es, refuses e = true →
      s.task e.owner = .finished ∧ es.countP (Event.executes e.owner) = 0)
    ?_ ⟨hstart, by simp⟩).2
  rintro es s e t hs ⟨hreached, hrefused⟩
  refine ⟨reached_step hs hreached, fun e' he' hrefuses => ?_⟩
  rcases List.mem_append.mp he' with he' | he'
  · obtain ⟨hfinished, hnone⟩ := hrefused e' he' hrefuses
    obtain ⟨howner, hstays⟩ := finished_stays hs hfinished
    refine ⟨hstays, ?_⟩
    rw [countP_executes_snoc, hnone, executes_of_owner_ne howner]
    rfl
  · obtain rfl := List.mem_singleton.mp he'
    obtain ⟨⟨route, hrouted⟩, hfinished⟩ := refuses_step hs hrefuses
    have hnone := hreached e'.owner
    rw [hrouted] at hnone
    refine ⟨hfinished, ?_⟩
    have hquiet : e'.executes e'.owner = false := by
      cases e' with
      | run => cases hrefuses
      | _ => rfl
    rw [countP_executes_snoc, hnone.1, hquiet]
    rfl

/-- The notifier of a run: the one it started with, but for the throttle. -/
def AlertNotifier.Same (n n' : AlertNotifier) : Prop :=
  n.botToken = n'.botToken ∧ n.chatId = n'.chatId

lemma AlertNotifier.Same.post {n n' : AlertNotifier} (h : n.Same n') (count : ℕ) :
    n.alertPost count = n'.alertPost count := by
  obtain ⟨htoken, hchat⟩ := h
  unfold alertPost
  rw [htoken]
  rw [hchat]

lemma AlertNotifier.Same.warning {n n' : AlertNotifier} (h : n.Same n')
    (outcome : Except String Unit) : n.warning outcome = n'.warning outcome := by
  cases outcome with
  | ok => rfl
  | error error =>
    obtain ⟨htoken, -⟩ := h
    unfold AlertNotifier.warning alertWarning redact
    rw [htoken]

/-- What the alerts owe to the events so far. -/
structure Owes (C : Crypto) (commandRequest : List UInt8 → Option Bool) (config : ServerConfig)
    (req : ι → HttpRequest) (n : AlertNotifier) (es : List (AlertEvent ι)) (a : AlertState ι) :
    Prop where
  server : (server C commandRequest config req).Run .start (serverEvents es) a.server
  throttle : (component record).Run n.throttle (recordings es) a.notifier.throttle
  same : a.notifier.Same n
  owed : (serverEvents es).countP refuses = a.failing.length + (recordings es).length
  sent : (counts (recordings es)).Perm (told es ++ a.threads)
  posted : ∀ count post outcome warning, .alert count post outcome warning ∈ es →
    post = n.alertPost count ∧ warning = n.warning outcome

lemma Owes.start (n : AlertNotifier) : Owes C commandRequest config req n [] (.start n) where
  server := .nil _
  throttle := .nil _
  same := ⟨rfl, rfl⟩
  owed := rfl
  sent := .nil
  posted := by simp

lemma Owes.step {n : AlertNotifier} {es : List (AlertEvent ι)} {a b : AlertState ι}
    {e : AlertEvent ι} (h : Owes C commandRequest config req n es a)
    (hs : AlertStep C commandRequest config req a e b) :
    Owes C commandRequest config req n (es ++ [e]) b := by
  cases hs with
  | @server e t hs =>
    have hserver : serverEvents (es ++ [.server e]) = serverEvents es ++ [e] := by
      simp [serverEvents]
    have hrecordings : recordings (es ++ [.server e]) = recordings es := by simp [recordings]
    have htold : told (es ++ [.server e]) = told es := by simp [told]
    exact
      { server := hserver ▸ h.server.append (.one hs)
        throttle := hrecordings ▸ h.throttle
        same := h.same
        owed := by
          rw [hserver, hrecordings, List.countP_append, h.owed, List.countP_singleton]
          dsimp only
          split
          · rw [List.length_cons]
            omega
          · omega
        sent := by
          rw [hrecordings, htold]
          exact h.sent
        posted := by simpa using h.posted }
  | @failure i now hi =>
    have hserver : serverEvents (es ++ [.failure i now (a.notifier.record now).2]) =
        serverEvents es := by simp [serverEvents]
    have hrecordings : recordings (es ++ [.failure i now (a.notifier.record now).2]) =
        recordings es ++ [(now, (a.notifier.record now).2)] := by simp [recordings]
    have htold : told (es ++ [.failure i now (a.notifier.record now).2]) = told es := by
      simp [told]
    exact
      { server := hserver ▸ h.server
        throttle := hrecordings ▸ h.throttle.append (.one rfl)
        same := h.same
        owed := by
          have hpos := List.length_pos_of_mem hi
          rw [hserver, hrecordings, h.owed, List.length_erase_of_mem hi, List.length_append,
            List.length_singleton]
          omega
        sent := by
          rw [hrecordings, htold, counts, List.filterMap_append, ← List.append_assoc]
          refine h.sent.append ?_
          cases (a.notifier.record now).2 <;> simp
        posted := by simpa using h.posted }
  | @alert count outcome hcount =>
    have hserver : serverEvents (es ++ [.alert count (a.notifier.alertPost count)
        outcome (a.notifier.warning outcome)]) = serverEvents es := by simp [serverEvents]
    have hrecordings : recordings (es ++ [.alert count (a.notifier.alertPost count)
        outcome (a.notifier.warning outcome)]) = recordings es := by simp [recordings]
    have htold : told (es ++ [.alert count (a.notifier.alertPost count)
        outcome (a.notifier.warning outcome)]) = told es ++ [count] := by simp [told]
    exact
      { server := hserver ▸ h.server
        throttle := hrecordings ▸ h.throttle
        same := h.same
        owed := by rw [hserver, hrecordings, h.owed]
        sent := by
          rw [hrecordings, htold, List.append_assoc, List.singleton_append]
          exact h.sent.trans ((List.perm_cons_erase hcount).append_left _)
        posted := by
          intro count' post outcome' warning he
          rcases List.mem_append.mp he with he | he
          · exact h.posted count' post outcome' warning he
          · obtain ⟨rfl, rfl, rfl, rfl⟩ := AlertEvent.alert.inj (List.mem_singleton.mp he)
            exact ⟨h.same.post count', h.same.warning outcome'⟩ }

lemma owes_run {n : AlertNotifier} {es : List (AlertEvent ι)} {a : AlertState ι}
    (h : (alerting C commandRequest config req).Run (.start n) es a) :
    Owes C commandRequest config req n es a :=
  h.history (fun _ _ _ _ hs howes => howes.step hs) (.start n)

lemma fromConfig_eq_some {config : AgentConfig} {n : AlertNotifier}
    (h : AlertNotifier.fromConfig config = some n) : config.telegramBotToken = some n.botToken ∧
      config.telegramChatId = some n.chatId ∧ n.throttle = .default := by
  unfold AlertNotifier.fromConfig at h
  split at h
  · next botToken chatId htoken hchat =>
    split at h
    · cases h
    · obtain rfl := Option.some.inj h
      exact ⟨htoken, hchat, rfl⟩
  · cases h

/-- Each refusal is told about in one alert, or is still to be; an alert is about three at least,
no two fall due within an hour, and each goes to the chat with nothing but the number in it. What it
says is true: nothing was run for a request that was refused. -/
theorem alerts_tell_refusals {config : AgentConfig} {n : AlertNotifier}
    (hn : AlertNotifier.fromConfig config = some n) {es : List (AlertEvent ι)} {a : AlertState ι}
    (h : (alerting C commandRequest (serverConfig config) req).Run (.start n) es a)
    (hfits : Fits (recordings es)) :
    (serverEvents es).countP refuses = (told es).sum + a.threads.sum +
      a.notifier.throttle.failures + a.failing.length ∧
    (∀ count ∈ told es, 3 ≤ count) ∧ (told es).length ≤ (firings (recordings es)).length ∧
    (firings (recordings es)).Pairwise (fun t t' => t + 3600 * 1000000000 ≤ t') ∧
    (∀ count post outcome warning, .alert count post outcome warning ∈ es →
      config.telegramChatId = some post.chatId ∧ post.text = alertText count) ∧
    ∀ e ∈ serverEvents es, refuses e = true →
      (serverEvents es).countP (Event.executes e.owner) = 0 := by
  obtain ⟨-, hchat, hdefault⟩ := fromConfig_eq_some hn
  have howes := owes_run h
  have hthrottle := howes.throttle
  rw [hdefault] at hthrottle
  have hkeeps : Keeps 3 (3600 * 1000000000) (recordings es) a.notifier.throttle :=
    keeps_run hthrottle hfits
  have hsent : (counts (recordings es)).sum = (told es).sum + a.threads.sum := by
    rw [howes.sent.sum_nat, List.sum_append]
  have hconserved := hkeeps.conserved
  have howed := howes.owed
  refine ⟨by omega, fun count hcount => ?_, ?_, hkeeps.apart,
    fun count post outcome warning he => ?_, fun e he hrefuses =>
      (refused_runs_nothing howes.server e he hrefuses).2⟩
  · exact hkeeps.enough count (howes.sent.mem_iff.mpr (List.mem_append_left _ hcount))
  · have hlength := howes.sent.length_eq
    have hfired : (counts (recordings es)).length = (firings (recordings es)).length := by
      rw [counts, firings, List.length_map, List.length_filterMap_eq_countP,
        List.countP_eq_length_filter]
    rw [List.length_append] at hlength
    omega
  · obtain ⟨rfl, -⟩ := howes.posted count post outcome warning he
    exact ⟨hchat, rfl⟩

lemma AlertNotifier.token_ne_nil (n : AlertNotifier) : n.botToken.toList ≠ [] := by
  intro h
  apply n.configured
  rw [String.toList_eq_nil_iff.mp h]
  rfl

/-- Telegram's tokens have digits in them, and neither blanks nor brackets. -/
def tokenLike (token : String) : Bool :=
  token.toList.any Char.isDigit && token.toList.all fun c => c != '[' && c != ']' && c != ' '

/-- A token like Telegram's is not to be found in a redacted text. -/
lemma not_infix_alertWarning (n : AlertNotifier) (error : String)
    (h : tokenLike n.botToken = true) :
    ¬ n.botToken.toList <:+: (n.alertWarning error).toList := by
  obtain ⟨hdigit, hforeign⟩ : (∃ c ∈ n.botToken.toList, c.isDigit = true) ∧
      ∀ c ∈ n.botToken.toList, (c ≠ '[' ∧ c ≠ ']') ∧ c ≠ ' ' := by
    simpa [tokenLike] using h
  have hwords : ∀ words : List Char, words.all (fun c => !c.isDigit) = true →
      ¬ n.botToken.toList <:+: words := by
    intro words hall hin
    obtain ⟨c, hc, hcdigit⟩ := hdigit
    have hnot := List.all_eq_true.mp hall c (hin.subset hc)
    rw [hcdigit] at hnot
    cases hnot
  have htext : (n.alertWarning error).toList =
      "failed to send auth failure alert:".toList ++ ' ' ::
        Replace.replace n.botToken.toList ('[' :: ("REDACTED".toList ++ [']'])) error.toList := by
    have hwarned : sendFailedText.toList =
      "failed to send auth failure alert:".toList ++ [' '] := by decide
    have hredacted : redacted.toList = '[' :: ("REDACTED".toList ++ [']']) := by decide
    unfold AlertNotifier.alertWarning AlertNotifier.redact
    rw [String.toList_append, String.toList_ofList, hwarned, hredacted, List.append_assoc,
      List.singleton_append]
  intro hin
  rw [htext] at hin
  rcases Replace.infix_of_infix_append_cons (fun hblank => (hforeign ' ' hblank).2 rfl) hin
    with hin | hin
  · exact hwords _ (by decide) hin
  · exact Replace.not_infix_replace n.token_ne_nil (fun hopen => (hforeign '[' hopen).1.1 rfl)
      (fun hclose => (hforeign ']' hclose).1.2 rfl) (hwords _ (by decide)) error.toList hin

/-- A post that gets through is not logged. What is logged of one that fails is what went wrong with
it, with a mark in the place of each occurrence of the token. No piece between them contains it, and
neither does the line as a whole if the token is like Telegram's. -/
theorem warnings_redacted {n : AlertNotifier} {es : List (AlertEvent ι)} {a : AlertState ι}
    (h : (alerting C commandRequest config req).Run (.start n) es a) :
    ∀ count post outcome warning, .alert count post outcome warning ∈ es →
      (outcome = .ok () → warning = none) ∧
      ∀ error, outcome = .error error → ∃ (text : String) (pieces : List (List Char)),
        warning = some text ∧ n.botToken.toList.intercalate pieces = error.toList ∧
        text.toList = sendFailedText.toList ++ redacted.toList.intercalate pieces ∧
        (∀ piece ∈ pieces, ¬ n.botToken.toList <:+: piece) ∧
        (tokenLike n.botToken = true → ¬ n.botToken.toList <:+: text.toList) := by
  intro count post outcome warning he
  obtain ⟨-, rfl⟩ := (owes_run h).posted count post outcome warning he
  refine ⟨?_, ?_⟩
  · rintro rfl
    rfl
  · rintro error rfl
    obtain ⟨seg, segs, hpieces, hreplaced, hfree⟩ :=
      Replace.exists_pieces n.token_ne_nil redacted.toList error.toList
    refine ⟨n.alertWarning error, seg :: segs, rfl, hpieces, ?_, hfree,
      not_infix_alertWarning n error⟩
    unfold AlertNotifier.alertWarning AlertNotifier.redact
    rw [String.toList_append, String.toList_ofList, hreplaced]

end Runs

section Probe

def probeConfig : AgentConfig where
  bind := "127.0.0.1:18080"
  sharedSecret := "0123456789abcdef0123456789abcdef"
  allowedSkewSeconds := 60
  dryRun := true
  telegramBotToken := some "123456:SECRET-TOKEN"
  telegramChatId := some 1

def probeNotifier : AlertNotifier := ⟨"123456:SECRET-TOKEN", 1, by decide, .default⟩

def probeRequest : HttpRequest := ⟨"POST", "/reboot", [], []⟩

abbrev probe : System (AlertState ℕ) (AlertEvent ℕ) :=
  alerting .standard (fun _ => none) (serverConfig probeConfig) fun _ => probeRequest

/-- A request without headers, refused and recorded. -/
def probeEvents (n : AlertNotifier) (i now : ℕ) : List (AlertEvent ℕ) :=
  [.server (.route i), .server (.missingHeader i), .failure i now (n.record now).2]

lemma probe_run {a : AlertState ℕ} {i : ℕ} (hi : a.server.task i = .received) (now : ℕ) :
    ∃ b, probe.Run a (probeEvents a.notifier i now) b ∧
      b.notifier = (a.notifier.record now).1 ∧
      b.threads = a.threads ++ (a.notifier.record now).2.toList ∧
      ∀ j, j ≠ i → b.server.task j = a.server.task j := by
  have hroute : Step .standard (fun _ => none) (serverConfig probeConfig) (fun _ => probeRequest)
      a.server (.route i) (a.server.become i (.routed (.command .reboot))) := .route hi rfl
  have hrefuse : Step .standard (fun _ => none) (serverConfig probeConfig) (fun _ => probeRequest)
      (a.server.become i (.routed (.command .reboot))) (.missingHeader i)
      ((a.server.become i (.routed (.command .reboot))).respond i unauthorized) :=
    .missingHeader (Function.update_self _ _ _) rfl
  refine ⟨_, .cons (.server hroute) (.cons (.server hrefuse) (.one (.failure ?_))), rfl, rfl, ?_⟩
  · exact List.mem_cons_self
  · intro j hj
    rw [State.respond_task, State.become_task, Function.update_of_ne hj, Function.update_of_ne hj]

def probeError : String := "bad uri: https://api.telegram.org/bot123456:SECRET-TOKEN/sendMessage"

/-- Three refusals, and the alert about them, which does not get through. -/
def alertedEvents : List (AlertEvent ℕ) :=
  probeEvents probeNotifier 0 0 ++ (probeEvents (probeNotifier.record 0).1 1 1 ++
    (probeEvents ((probeNotifier.record 0).1.record 1).1 2 2 ++
      [.alert 3 (probeNotifier.alertPost 3) (.error probeError)
        (probeNotifier.warning (.error probeError))]))

lemma run_alertedEvents : ∃ a, probe.Run (.start probeNotifier) alertedEvents a := by
  obtain ⟨a, hrun, hnotifier, hthreads, hrest⟩ :=
    probe_run (a := .start probeNotifier) (i := 0) rfl 0
  obtain ⟨b, hrun', hnotifier', hthreads', hrest'⟩ :=
    probe_run (a := a) (i := 1) (hrest 1 (by decide)) 1
  obtain ⟨c, hrun'', hnotifier'', hthreads'', -⟩ :=
    probe_run (a := b) (i := 2) ((hrest' 2 (by decide)).trans (hrest 2 (by decide))) 2
  have hsame : c.notifier.Same probeNotifier := by
    rw [hnotifier'', hnotifier', hnotifier]
    exact ⟨rfl, rfl⟩
  have hdue : 3 ∈ c.threads := by
    rw [hthreads'', hthreads', hthreads, hnotifier', hnotifier]
    decide
  rw [hnotifier] at hrun'
  rw [hnotifier', hnotifier] at hrun''
  have halert : probe.step c (.alert 3 (c.notifier.alertPost 3) (.error probeError)
      (c.notifier.warning (.error probeError))) _ := .alert hdue
  rw [hsame.post, hsame.warning] at halert
  exact ⟨_, hrun.append (hrun'.append (hrun''.append (.one halert)))⟩

lemma fromConfig_probeConfig : AlertNotifier.fromConfig probeConfig = some probeNotifier := by
  simp only [AlertNotifier.fromConfig, probeConfig]
  exact dif_neg probeNotifier.configured

theorem alerts_tell_refusals_three : ∃ a, probe.Run (.start probeNotifier) alertedEvents a ∧
    (serverEvents alertedEvents).countP refuses = (told alertedEvents).sum + a.threads.sum +
      a.notifier.throttle.failures + a.failing.length := by
  obtain ⟨a, hrun⟩ := run_alertedEvents
  exact ⟨a, hrun, (alerts_tell_refusals fromConfig_probeConfig hrun
    (fits_of_short (by decide) (by decide))).1⟩

/-- The address with the token is in the error, and the line says what went wrong without it. -/
theorem warnings_redacted_uri : ∃ text pieces,
    probeNotifier.warning (.error probeError) = some text ∧
    probeNotifier.botToken.toList.intercalate pieces = probeError.toList ∧
    text.toList = sendFailedText.toList ++ redacted.toList.intercalate pieces ∧
    ¬ probeNotifier.botToken.toList <:+: text.toList := by
  obtain ⟨a, hrun⟩ := run_alertedEvents
  have he : .alert 3 (probeNotifier.alertPost 3) (.error probeError)
      (probeNotifier.warning (.error probeError)) ∈ alertedEvents := by
    simp [alertedEvents, probeEvents]
  obtain ⟨text, pieces, hwarning, hpieces, htext, -, hredacted⟩ :=
    (warnings_redacted hrun _ _ _ _ he).2 probeError rfl
  exact ⟨text, pieces, hwarning, hpieces, htext, hredacted (by decide)⟩

end Probe

end PcRemote.BridgeAlerts
