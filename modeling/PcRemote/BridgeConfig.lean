import PcRemote.BridgeAuthorisation
import PcRemote.SocketText

/-! The configuration of the bridge, from the text of its file. It names secrets, so what is wrong
with it is told without quoting it; and a configuration that loads keeps the server on the safe
side: a dry run unless the file says otherwise, and a clock window of an hour at most. -/
namespace PcRemote.BridgeConfig
open Text Signing BridgeAuth BridgeServer SocketText Transition

structure AgentConfig where
  bind : String
  sharedSecret : String
  allowedSkewSeconds : ℤ
  dryRun : Bool
  telegramBotToken : Option String
  telegramChatId : Option ℤ
  deriving DecidableEq

def placeholderSharedSecret : String := "replace-with-a-long-random-shared-secret"
def placeholderTelegramToken : String := "replace-with-your-telegram-bot-token"
def minSharedSecretLen : ℕ := 32
def maxSkewSeconds : ℤ := 3600

def defaultAllowedSkewSeconds : ℤ := 60
def defaultDryRun : Bool := true

/-- What a document states; the first two fields must be there. -/
structure Document where
  bind : String
  sharedSecret : String
  allowedSkewSeconds : Option ℤ
  dryRun : Option Bool
  telegramBotToken : Option String
  telegramChatId : Option ℤ
  deriving DecidableEq

def Document.config (document : Document) : AgentConfig where
  bind := document.bind
  sharedSecret := document.sharedSecret
  allowedSkewSeconds := document.allowedSkewSeconds.getD defaultAllowedSkewSeconds
  dryRun := document.dryRun.getD defaultDryRun
  telegramBotToken := document.telegramBotToken
  telegramChatId := document.telegramChatId

def validate (config : AgentConfig) : Except String Unit :=
  if config.sharedSecret = placeholderSharedSecret then
    .error "shared_secret must not be the placeholder value"
  else if (utf8 config.sharedSecret).length < minSharedSecretLen then
    .error "shared_secret must be at least 32 characters"
  else if config.allowedSkewSeconds ≤ 0 then .error "allowed_skew_seconds must be positive"
  else if maxSkewSeconds < config.allowedSkewSeconds then
    .error s!"allowed_skew_seconds must be at most {maxSkewSeconds} seconds"
  else if (parseSocketAddr config.bind).isNone then
    .error "bind is not a valid socket address: invalid socket address syntax"
  else if config.telegramBotToken = some placeholderTelegramToken then
    .error "telegram_bot_token must not be the placeholder value"
  else .ok ()

/-- The texts of a failed check; none of them quotes a value. -/
def validationTexts : List String :=
  ["shared_secret must not be the placeholder value",
    "shared_secret must be at least 32 characters", "allowed_skew_seconds must be positive",
    s!"allowed_skew_seconds must be at most {maxSkewSeconds} seconds",
    "bind is not a valid socket address: invalid socket address syntax",
    "telegram_bot_token must not be the placeholder value"]

structure Sound (config : AgentConfig) : Prop where
  secretChosen : config.sharedSecret ≠ placeholderSharedSecret
  secretLong : minSharedSecretLen ≤ (utf8 config.sharedSecret).length
  skewPositive : 0 < config.allowedSkewSeconds
  skewBounded : config.allowedSkewSeconds ≤ maxSkewSeconds
  bindParses : (parseSocketAddr config.bind).isSome
  tokenChosen : config.telegramBotToken ≠ some placeholderTelegramToken

lemma validate_cases (config : AgentConfig) :
    (validate config = .ok () ∧ Sound config) ∨
      (¬ Sound config ∧ ∃ text ∈ validationTexts, validate config = .error text) := by
  unfold validate
  split_ifs with hplaceholder hshort hnegative hlarge hbind htoken
  · exact .inr ⟨fun h => h.secretChosen hplaceholder, _, by simp [validationTexts], rfl⟩
  · exact .inr ⟨fun h => absurd hshort (Nat.not_lt.mpr h.secretLong), _,
      by simp [validationTexts], rfl⟩
  · exact .inr ⟨fun h => absurd h.skewPositive (Int.not_lt.mpr hnegative), _,
      by simp [validationTexts], rfl⟩
  · exact .inr ⟨fun h => absurd h.skewBounded (Int.not_le.mpr hlarge), _,
      by simp [validationTexts], rfl⟩
  · exact .inr ⟨fun h => absurd h.bindParses (by simpa using hbind), _,
      by simp [validationTexts], rfl⟩
  · exact .inr ⟨fun h => h.tokenChosen htoken, _, by simp [validationTexts], rfl⟩
  · exact .inl ⟨rfl,
      { secretChosen := hplaceholder
        secretLong := Nat.le_of_not_lt hshort
        skewPositive := Int.not_le.mp hnegative
        skewBounded := Int.not_lt.mp hlarge
        bindParses := by simpa [Option.isSome_iff_ne_none] using hbind
        tokenChosen := htoken }⟩

/-- The defaults pass the checks on their own fields. -/
lemma sound_defaults {bind sharedSecret : String} (hsecret : sharedSecret ≠ placeholderSharedSecret)
    (hlong : minSharedSecretLen ≤ (utf8 sharedSecret).length)
    (hbind : (parseSocketAddr bind).isSome) :
    Sound (Document.config ⟨bind, sharedSecret, none, none, none, none⟩) where
  secretChosen := hsecret
  secretLong := hlong
  skewPositive := (by decide : 0 < defaultAllowedSkewSeconds)
  skewBounded := (by decide : defaultAllowedSkewSeconds ≤ maxSkewSeconds)
  bindParses := hbind
  tokenChosen := nofun

/-- The text before an offset in bytes, which must not lie within a character. -/
def headTo : ℕ → List Char → Option (List Char)
  | 0, _ => some []
  | _ + 1, [] => none
  | n + 1, c :: cs => if c.utf8Size ≤ n + 1 then (headTo (n + 1 - c.utf8Size) cs).map (c :: ·)
      else none

/-- The line in which an error starts. -/
def lineAt (input : String) (start : ℕ) : ℕ :=
  ((headTo start input.toList).map fun head => head.count '\n' + 1).getD 1

def lineText (line : ℕ) : String := s!"config.tomlを解析できません({line}行目付近)"

def parseErrorText (input : String) : Option ℕ → String
  | some start => lineText (lineAt input start)
  | none => "config.tomlを解析できません"

lemma headTo_starts {n : ℕ} {cs head : List Char} (h : headTo n cs = some head) : head <+: cs := by
  induction cs generalizing n head with
  | nil =>
    cases n with
    | zero => exact (Option.some.inj h) ▸ List.nil_prefix
    | succ n => simp [headTo] at h
  | cons c cs ih =>
    cases n with
    | zero => exact (Option.some.inj h) ▸ List.nil_prefix
    | succ n =>
      rw [headTo] at h
      split_ifs at h
      obtain ⟨rest, hrest, rfl⟩ := Option.map_eq_some_iff.mp h
      exact (List.prefix_cons_inj c).mpr (ih hrest)

lemma lineAt_bounds (input : String) (start : ℕ) :
    1 ≤ lineAt input start ∧ lineAt input start ≤ input.toList.count '\n' + 1 := by
  unfold lineAt
  cases hhead : headTo start input.toList with
  | none => simp
  | some head =>
    have hcount : head.count '\n' ≤ input.toList.count '\n' :=
      (headTo_starts hhead).sublist.count_le '\n'
    simp only [Option.map_some, Option.getD_some]
    omega

section Loading
variable (parse : String → Except (Option ℕ) Document)

def fromTomlStr (input : String) : Except String AgentConfig := do
  let document ← (parse input).mapError (parseErrorText input)
  validate document.config
  return document.config

def fromPath (file : Except String String) : Except String AgentConfig := do
  let input ← file
  fromTomlStr parse input

def loadConfig (path : String) (file : Except String String) : Except String AgentConfig :=
  (fromPath parse file).mapError fun e => s!"failed to load {path}: {e}"

lemma fromTomlStr_cases (input : String) :
    (∃ document, parse input = .ok document ∧ Sound document.config ∧
      fromTomlStr parse input = .ok document.config) ∨
    (∃ document, parse input = .ok document ∧ ¬ Sound document.config ∧
      ∃ text ∈ validationTexts, fromTomlStr parse input = .error text) ∨
    ∃ span, parse input = .error span ∧
      fromTomlStr parse input = .error (parseErrorText input span) := by
  cases hparse : parse input with
  | error span => exact .inr (.inr ⟨span, rfl, by simp [fromTomlStr, hparse, bind, Except.bind,
      Except.mapError]⟩)
  | ok document =>
    rcases validate_cases document.config with ⟨hvalid, hsound⟩ | ⟨hnot, text, htext, hvalid⟩
    · exact .inl ⟨document, rfl, hsound, by simp [fromTomlStr, hparse, hvalid, bind, Except.bind,
        Except.mapError, pure, Except.pure]⟩
    · exact .inr (.inl ⟨document, rfl, hnot, text, htext, by simp [fromTomlStr, hparse, hvalid,
        bind, Except.bind, Except.mapError]⟩)

/-- What a failed load tells: what is wrong, or where, but none of the file's values. -/
def Unrevealing (file : Except String String) (reason : String) : Prop :=
  file = .error reason ∨ ∃ input, file = .ok input ∧ (reason ∈ validationTexts ∨
    reason = parseErrorText input none ∨
    ∃ line, 1 ≤ line ∧ line ≤ input.toList.count '\n' + 1 ∧ reason = lineText line)

lemma unrevealing_parseErrorText (input : String) (span : Option ℕ) :
    Unrevealing (.ok input) (parseErrorText input span) := by
  refine .inr ⟨input, rfl, ?_⟩
  cases span with
  | none => exact .inr (.inl rfl)
  | some start =>
    obtain ⟨hfirst, hlast⟩ := lineAt_bounds input start
    exact .inr (.inr ⟨lineAt input start, hfirst, hlast, rfl⟩)

/-- The file states a configuration that passes the checks. -/
def StatesSound (parse : String → Except (Option ℕ) Document) (file : Except String String)
    (config : AgentConfig) : Prop :=
  ∃ input document, file = .ok input ∧ parse input = .ok document ∧ document.config = config ∧
    Sound config

lemma loadConfig_cases (path : String) (file : Except String String) :
    (∃ config, StatesSound parse file config ∧ loadConfig parse path file = .ok config) ∨
      (¬ ∃ config, StatesSound parse file config) ∧ ∃ reason, Unrevealing file reason ∧
        loadConfig parse path file = .error s!"failed to load {path}: {reason}" := by
  cases file with
  | error reason =>
    refine .inr ⟨?_, reason, .inl rfl, rfl⟩
    rintro ⟨config, input, document, hfile, -⟩
    cases hfile
  | ok input =>
    have hload : loadConfig parse path (.ok input) =
      (fromTomlStr parse input).mapError fun e => s!"failed to load {path}: {e}" := rfl
    rcases fromTomlStr_cases parse input with ⟨document, hparse, hsound, hresult⟩ |
      ⟨document, hparse, hnot, reason, hreason, hresult⟩ | ⟨span, hparse, hresult⟩
    · refine .inl ⟨document.config, ⟨input, document, rfl, hparse, rfl, hsound⟩, ?_⟩
      rw [hload, hresult]
      rfl
    · refine .inr ⟨?_, reason, .inr ⟨input, rfl, .inl hreason⟩, ?_⟩
      · rintro ⟨config, input', document', hfile, hparse', rfl, hsound⟩
        obtain rfl := Except.ok.inj hfile
        obtain rfl := Except.ok.inj (hparse.symm.trans hparse')
        exact hnot hsound
      · rw [hload, hresult]
        rfl
    · refine .inr ⟨?_, _, unrevealing_parseErrorText input span, ?_⟩
      · rintro ⟨config, input', document', hfile, hparse', -⟩
        obtain rfl := Except.ok.inj hfile
        rw [hparse] at hparse'
        cases hparse'
      · rw [hload, hresult]
        rfl

end Loading

section Debug
variable (quote : String → String)

def redacted : String := "[REDACTED]"

/-- How an optional field is printed, given how its value is. -/
def debugOption : Option String → String
  | none => "None"
  | some text => s!"Some({text})"

def debugStruct (name : String) (fields : List (String × String)) : String :=
  name ++ " \x7b " ++ ", ".intercalate (fields.map fun f => f.1 ++ ": " ++ f.2) ++ " \x7d"

def AgentConfig.debugFields (config : AgentConfig) : List (String × String) :=
  [("bind", quote config.bind), ("shared_secret", quote redacted),
    ("allowed_skew_seconds", toString config.allowedSkewSeconds),
    ("dry_run", toString config.dryRun),
    ("telegram_bot_token", debugOption (config.telegramBotToken.map fun _ => quote redacted)),
    ("telegram_chat_id", debugOption (config.telegramChatId.map toString))]

def AgentConfig.debugText (config : AgentConfig) : String :=
  debugStruct "AgentConfig" (config.debugFields quote)

/-- The configuration with its secrets replaced; that there is a token is no secret. -/
def AgentConfig.withSecrets (config : AgentConfig) (sharedSecret botToken : String) : AgentConfig :=
  { config with
    sharedSecret := sharedSecret
    telegramBotToken := config.telegramBotToken.map fun _ => botToken }

lemma debugText_withSecrets (config : AgentConfig) (sharedSecret botToken : String) :
    (config.withSecrets sharedSecret botToken).debugText quote = config.debugText quote := by
  have hfields : (config.withSecrets sharedSecret botToken).debugFields quote =
      config.debugFields quote := by
    simp only [AgentConfig.debugFields, AgentConfig.withSecrets, Option.map_map,
      Function.comp_def]
  exact congrArg (debugStruct "AgentConfig") hfields

end Debug

/-- What the router takes over from the configuration. -/
def serverConfig (config : AgentConfig) : ServerConfig :=
  ⟨⟨utf8 config.sharedSecret, config.allowedSkewSeconds⟩, config.dryRun⟩

variable {ι : Type*} [DecidableEq ι] {C : Crypto} {commandRequest : List UInt8 → Option Bool}
  {config : ServerConfig} {req : ι → HttpRequest}

lemma reachesStore_of_ok {auth : AuthConfig} {nonces : NonceStore} {r : Request} {now : ℤ}
    (h : (verifyRequest C auth nonces r now).2 = .ok ()) : reachesStore C auth r now = true := by
  rcases verifyRequest_cases C auth nonces r now with ⟨-, -, hnot⟩ | ⟨hreaches, -⟩ | ⟨hreaches, -⟩
  · rw [h] at hnot
    exact absurd hnot (by decide)
  · exact hreaches
  · exact hreaches

/-- Every result, on its way or sent, says whether the bridge runs dry. -/
structure ReportsDryRun (dryRun : Bool) (s : State ι) : Prop where
  ran : ∀ i action result, s.task i = .ran action (.ok result) → result.dryRun = dryRun
  told : ∀ i status result, s.response i = some ⟨status, .power result⟩ → result.dryRun = dryRun

lemma ReportsDryRun.become {dryRun : Bool} {s : State ι} (h : ReportsDryRun dryRun s) {i : ι}
    {task : Task} (htask : ∀ action result, task = .ran action (.ok result) →
      result.dryRun = dryRun) : ReportsDryRun dryRun (s.become i task) where
  ran := by
    intro j action result hj
    rw [State.become_task] at hj
    by_cases hij : j = i
    · rw [hij, Function.update_self] at hj
      exact htask action result hj
    · rw [Function.update_of_ne hij] at hj
      exact h.ran j action result hj
  told := h.told

lemma ReportsDryRun.respond {dryRun : Bool} {s : State ι} (h : ReportsDryRun dryRun s) {i : ι}
    {response : Response} (hresponse : ∀ status result, response = ⟨status, .power result⟩ →
      result.dryRun = dryRun) : ReportsDryRun dryRun (s.respond i response) where
  ran := by
    intro j action result hj
    rw [State.respond_task] at hj
    by_cases hij : j = i
    · rw [hij, Function.update_self] at hj
      cases hj
    · rw [Function.update_of_ne hij] at hj
      exact h.ran j action result hj
  told := by
    intro j status result hj
    have hupdate : (s.respond i response).response =
      Function.update s.response i (some ((s.response i).getD response)) := rfl
    rw [hupdate] at hj
    by_cases hij : j = i
    · subst hij
      rw [Function.update_self] at hj
      cases hsent : s.response j with
      | none =>
        rw [hsent, Option.getD_none] at hj
        exact hresponse status result (Option.some.inj hj)
      | some sent =>
        rw [hsent, Option.getD_some] at hj
        exact h.told j status result (hsent.trans hj)
    · rw [Function.update_of_ne hij] at hj
      exact h.told j status result hj

lemma runPowerAction_dryRun {action : PowerAction} {dryRun : Bool} {executor : Except String Unit}
    {result : PowerResult} (h : (runPowerAction action dryRun executor).2 = .ok result) :
    result.dryRun = dryRun := by
  cases action <;> cases dryRun <;> cases executor <;>
    simp [runPowerAction, acceptedSleepResult, Except.map] at h <;> simp [← h]

lemma ReportsDryRun.afterVerify {dryRun : Bool} {s : State ι} (h : ReportsDryRun dryRun s) (i : ι)
    (r : HttpRequest) (route : Route) (result : Except AuthError Unit) :
    ReportsDryRun dryRun (afterVerify commandRequest s i r route result) := by
  cases result with
  | error e => exact h.respond (by simp [unauthorized])
  | ok =>
    cases route with
    | command action =>
      simp only [BridgeServer.afterVerify]
      split
      · exact h.respond (by simp)
      · exact h.respond (by simp)
      · exact h.become (by simp)
    | status => exact h.become (by simp)
    | firmwareManifest => exact h.become (by simp)
    | firmware => exact h.become (by simp)

lemma ReportsDryRun.afterAudit {dryRun : Bool} {s : State ι} (h : ReportsDryRun dryRun s) (i : ι)
    (action : PowerAction) (written : Bool) :
    ReportsDryRun dryRun (afterAudit dryRun s i action written) := by
  have haccepted : ∀ status result, (⟨200, .power (acceptedSleepResult dryRun)⟩ : Response) =
      ⟨status, .power result⟩ → result.dryRun = dryRun := by
    rintro status result ⟨⟩
    rfl
  cases written with
  | false => exact h.respond (by simp)
  | true =>
    simp only [BridgeServer.afterAudit, not_true_eq_false, if_false]
    by_cases hsleep : action = .sleep
    · simp only [hsleep, if_true]
      split
      · exact h.respond haccepted
      · exact (h.respond haccepted).become (by simp)
    · simp only [hsleep, if_false]
      exact h.become (by simp)

/-- The framework's answers and the status are no power results. -/
lemma dispatch_ne_power {r : HttpRequest} {status : ℕ} {result : PowerResult} :
    dispatch r ≠ .inl ⟨status, .power result⟩ := by
  intro h
  unfold dispatch at h
  cases hroute : routeOf r.path with
  | none => simp [hroute] at h
  | some route =>
    by_cases hallows : route.allows r.method = true
    · simp only [hroute, hallows, not_true_eq_false, if_false] at h
      cases route with
      | command action =>
        dsimp only at h
        split_ifs at h
        simp at h
      | _ => simp at h
    · simp [hroute, hallows] at h

lemma ReportsDryRun.step {s t : State ι} {e : Event ι} (h : ReportsDryRun config.dryRun s)
    (hs : Step C commandRequest config req s e t) : ReportsDryRun config.dryRun t := by
  cases hs with
  | @respond i response hp hd =>
    refine h.respond fun status result hresponse => ?_
    rw [hresponse] at hd
    exact absurd hd dispatch_ne_power
  | route => exact h.become (by simp)
  | missingHeader => exact h.respond (by simp [unauthorized])
  | @verify i route request now nonces result hp hh hv =>
    have hkept : ReportsDryRun config.dryRun { s with nonces := nonces } := ⟨h.ran, h.told⟩
    exact hkept.afterVerify i (req i) route result
  | @serve i outcome =>
    refine h.respond fun status result hresponse => ?_
    cases outcome <;> simp [firmwareResponse] at hresponse
  | audit => exact h.afterAudit _ _ _
  | @run i action executor hp =>
    refine h.become fun action' result hran => ?_
    exact runPowerAction_dryRun (Task.ran.inj hran).2
  | @auditResult i action result written hp =>
    refine h.respond fun status result' hresponse => ?_
    cases result with
    | error e => simp [resultResponse] at hresponse
    | ok result =>
      simp only [resultResponse, Response.mk.injEq, Body.power.injEq] at hresponse
      rw [← hresponse.2]
      exact h.ran i action result hp
  | crash => exact h.respond (by simp)

lemma reportsDryRun_run {s : State ι} {es : List (Event ι)}
    (h : (server C commandRequest config req).Run .start es s) : ReportsDryRun config.dryRun s :=
  h.invariant (fun _ _ _ hs hreports => hreports.step hs)
    ⟨by simp [State.start], by simp [State.start]⟩

/-- The file states that commands are to be carried out. -/
def StatesLive (parse : String → Except (Option ℕ) Document) (file : Except String String) : Prop :=
  ∃ input document, file = .ok input ∧ parse input = .ok document ∧ document.dryRun = some false

/-- What a run of the server that is configured so keeps to. -/
structure Guarded (C : Crypto) (config : AgentConfig) (live : Prop) (es : List (Event ι))
    (s : State ι) : Prop where
  /-- Requests are let through within the configured window of the clock, an hour at most, and under
  the configured secret, which is long. -/
  verified : ∀ i request now, .verify i request now (.ok ()) ∈ es →
    absDiff now request.timestamp ≤ config.allowedSkewSeconds ∧
      absDiff now request.timestamp ≤ 3600 ∧ 32 ≤ (utf8 config.sharedSecret).length ∧
      verifySignature C (utf8 config.sharedSecret) request.method request.path request.timestamp
        request.nonce request.body request.signatureHex = true
  /-- Unless the file asks for it, no executor runs, and every record and answer says so. -/
  dry : ¬ live → (∀ i calls, .run i calls ∈ es → calls = []) ∧
    (∀ i action dryRun result written, .audit i action dryRun result written ∈ es →
      dryRun = true) ∧
    ∀ i status result, s.response i = some ⟨status, .power result⟩ → result.dryRun = true

lemma absDiff_of_withinSkew {allowedSkewSeconds now timestamp : ℤ}
    (hpositive : 0 < allowedSkewSeconds)
    (hskew : withinSkew allowedSkewSeconds now timestamp = true) :
    absDiff now timestamp ≤ allowedSkewSeconds := by
  rw [withinSkew, decide_eq_true_iff] at hskew
  omega

lemma guarded_run {document : Document} (h : Sound document.config) {live : Prop}
    (hlive : document.dryRun = some false → live) {es : List (Event ι)} {s : State ι}
    (hrun : (server C commandRequest (serverConfig document.config) req).Run .start es s) :
    Guarded C document.config live es s where
  verified := by
    intro i request now he
    obtain ⟨before, after, rfl⟩ := List.append_of_mem he
    obtain ⟨u, u', -, hstep, -⟩ := hrun.split
    have haccepted : (verifyRequest C (serverConfig document.config).auth u.nonces request
        now).2 = .ok () := by
      cases hstep with
      | verify hp hh hv => rw [hv]
    obtain ⟨hskew, hsignature⟩ := (Bool.and_eq_true _ _).mp (reachesStore_of_ok haccepted)
    have hwindow : absDiff now request.timestamp ≤ document.config.allowedSkewSeconds :=
      absDiff_of_withinSkew h.skewPositive hskew
    have hhour : document.config.allowedSkewSeconds ≤ 3600 := h.skewBounded
    exact ⟨hwindow, by omega, h.secretLong, hsignature⟩
  dry := by
    intro hnot
    have hdry : (serverConfig document.config).dryRun = true := by
      change document.dryRun.getD defaultDryRun = true
      cases hstated : document.dryRun with
      | none => rfl
      | some dryRun =>
        cases dryRun with
        | true => rfl
        | false => exact absurd (hlive hstated) hnot
    refine ⟨fun i calls he => ?_, fun i action dryRun result written he => ?_,
      fun i status result hresponse => ?_⟩
    · obtain ⟨before, after, rfl⟩ := List.append_of_mem he
      obtain ⟨u, u', -, hstep, -⟩ := hrun.split
      by_contra hne
      obtain ⟨-, -, hfalse, -⟩ := run_event hstep hne
      rw [hdry] at hfalse
      cases hfalse
    · obtain ⟨before, after, rfl⟩ := List.append_of_mem he
      obtain ⟨u, u', -, hstep, -⟩ := hrun.split
      cases hstep with
      | audit => exact hdry
      | auditResult => exact hdry
    · exact ((reportsDryRun_run hrun).told i status result hresponse).trans hdry

/-- A file loads exactly if it states a sound configuration; the server then runs guarded by it, and
what is printed of it is the same whatever its secrets are. What is told of a file that does not
load reveals none of its values. -/
theorem load_guards (C : Crypto) (commandRequest : List UInt8 → Option Bool)
    (req : ι → HttpRequest) (parse : String → Except (Option ℕ) Document) (path : String)
    (file : Except String String) :
    (∃ config, StatesSound parse file config ∧ loadConfig parse path file = .ok config ∧
      (∃ addr, parseSocketAddr config.bind = some addr) ∧
      (∀ quote sharedSecret botToken,
        (config.withSecrets sharedSecret botToken).debugText quote = config.debugText quote) ∧
      ∀ es s, (server C commandRequest (serverConfig config) req).Run .start es s →
        Guarded C config (StatesLive parse file) es s) ∨
    (¬ ∃ config, StatesSound parse file config) ∧ ∃ reason, Unrevealing file reason ∧
      loadConfig parse path file = .error s!"failed to load {path}: {reason}" := by
  rcases loadConfig_cases parse path file with ⟨config, hstates, hload⟩ | hrefused
  · have hloaded := hstates
    obtain ⟨input, document, hfile, hparse, rfl, hsound⟩ := hstates
    refine .inl ⟨document.config, hloaded, hload, Option.isSome_iff_exists.mp hsound.bindParses,
      fun quote _ _ => debugText_withSecrets quote _ _ _,
      fun es s hrun => guarded_run hsound (fun hlive => ?_) hrun⟩
    exact ⟨input, document, hfile, hparse, hlive⟩
  · exact .inr hrefused

end PcRemote.BridgeConfig
