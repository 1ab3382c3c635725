import PcRemote.ConfigKeys
import PcRemote.FirmwareVersion
import PcRemote.Retry
import PcRemote.Transition

/-! The services that need the network: the time synchronisation, the notifier and the Telegram
polling. They are started at boot or at a Wi-Fi check that finds the link up, and what fails to
start is tried again at the next. A lost link stops nothing. -/
namespace PcRemote.OnlineServices
open Config ConfigValidation FirmwareVersion Retry Transition

structure Services where
  sntpStarted : Bool
  notifierStarted : Bool
  telegramStarted : Bool
  deriving DecidableEq, Repr

def Services.none : Services := ⟨false, false, false⟩

inductive OnlineState
  | offline (services : Services)
  | online (services : Services)
  deriving DecidableEq, Repr

inductive OnlineEvent
  | wifiConnected
  | wifiDisconnected
  deriving DecidableEq, Repr

structure OnlineActions where
  startSntp : Bool
  startNotifier : Bool
  startTelegram : Bool
  deriving DecidableEq, Repr

def OnlineActions.none : OnlineActions := ⟨false, false, false⟩

namespace OnlineState

def fromParts (wifiConnected sntpStarted notifierStarted telegramStarted : Bool) : OnlineState :=
  let services : Services := ⟨sntpStarted, notifierStarted, telegramStarted⟩
  if wifiConnected then .online services else .offline services

def isOnline : OnlineState → Bool
  | .online _ => true
  | .offline _ => false

def services : OnlineState → Services
  | .online services | .offline services => services

def transition (s : OnlineState) (event : OnlineEvent) (telegramConfigured : Bool) :
    OnlineState × OnlineActions :=
  match event with
  | .wifiConnected =>
      (.online s.services,
        ⟨!s.services.sntpStarted, !s.services.notifierStarted,
          !s.services.telegramStarted && telegramConfigured⟩)
  | .wifiDisconnected => (.offline s.services, .none)

end OnlineState

def placeholderToken : String := "replace-with-your-telegram-bot-token"
def placeholderUserId : String := "replace-with-your-telegram-user-id"

def isConfigured (config : AppConfig) : Bool :=
  let token := Text.trim (config.text .telegramBotToken)
  let userId := normalizeTelegramUserId (config.text .telegramAllowedUserId)
  !token.isEmpty && token != placeholderToken && !userId.isEmpty && userId != placeholderUserId

def allowedChatId (config : AppConfig) : Option ℤ :=
  parseTelegramUserId (config.text .telegramAllowedUserId)

/-- What the system says where a service is to be started: whether the time synchronisation is
set up, and whether the two threads are spawned. -/
structure Starts where
  sntp : Bool
  notifier : Bool
  telegram : Bool
  deriving DecidableEq, Repr

/-- Without a chat to write to there is no notifier, and its thread is not even spawned. -/
def startNotifier (config : AppConfig) (starts : Starts) : Bool :=
  isConfigured config && (allowedChatId config).isSome && starts.notifier

inductive Effect
  | startSntp (started : Bool)
  | startNotifier (started : Bool)
  | startTelegram (started : Bool)
  | notify (text : String)
  deriving DecidableEq, Repr

namespace Effect

def sntp? : Effect → Option Bool
  | startSntp started => some started
  | _ => none

def notifier? : Effect → Option Bool
  | startNotifier started => some started
  | _ => none

def telegram? : Effect → Option Bool
  | startTelegram started => some started
  | _ => none

def text? : Effect → Option String
  | notify text => some text
  | _ => none

end Effect

def bootNotificationText : String := "M5Stackが起動しました (" ++ firmwareVersion ++ ")"

section Model
variable (config : AppConfig)

/-- The boot notification follows the start of the polling, through the notifier there is then. -/
def applyOnlineActions (actions : OnlineActions) (s : Services) (starts : Starts) :
    Services × List Effect :=
  let (sntpStarted, sntpEffects) :=
    if actions.startSntp then (s.sntpStarted || starts.sntp, [Effect.startSntp starts.sntp])
    else (s.sntpStarted, [])
  let (notifierStarted, notifierEffects) :=
    if actions.startNotifier then
      (startNotifier config starts, [Effect.startNotifier (startNotifier config starts)])
    else (s.notifierStarted, [])
  let (telegramStarted, telegramEffects) :=
    if actions.startTelegram then
      if starts.telegram then
        (true, .startTelegram true ::
          if notifierStarted then [Effect.notify bootNotificationText] else [])
      else (s.telegramStarted, [.startTelegram false])
    else (s.telegramStarted, [])
  (⟨sntpStarted, notifierStarted, telegramStarted⟩,
    sntpEffects ++ notifierEffects ++ telegramEffects)

def startOnlineServices (s : Services) (starts : Starts) : Services × List Effect :=
  let (_, actions) :=
    (OnlineState.fromParts true s.sntpStarted s.notifierStarted s.telegramStarted).transition
      .wifiConnected (isConfigured config)
  applyOnlineActions config actions s starts

/-- A look at the link, and how starts turn out that follow it. -/
structure Check where
  up : Bool
  starts : Starts
  deriving DecidableEq, Repr

structure State where
  wifiConnected : Bool
  services : Services
  deriving DecidableEq, Repr

def offline : State := ⟨false, .none⟩

/-- A link that is up at boot starts the services at once. -/
def boot (c : Check) : State × List Effect :=
  if c.up then
    let (services, effects) := startOnlineServices config .none c.starts
    (⟨true, services⟩, effects)
  else (offline, [])

def checkWifi (s : State) (c : Check) : State × List Effect :=
  let event := if c.up then OnlineEvent.wifiConnected else .wifiDisconnected
  let (next, actions) :=
    (OnlineState.fromParts s.wifiConnected s.services.sntpStarted s.services.notifierStarted
      s.services.telegramStarted).transition event (isConfigured config)
  let nowConnected := next.isOnline
  if nowConnected then
    let (services, effects) := applyOnlineActions config actions s.services c.starts
    (⟨nowConnected, services⟩, effects)
  else (⟨nowConnected, s.services⟩, [])

/-- Everything that is started from boot on, over the checks of the main loop. -/
def run (first : Check) (later : List Check) : List (Check × List Effect) × State :=
  let (s, effects) := boot config first
  let rest := feed (checkWifi config) s later
  ((first, effects) :: rest.1, rest.2)

/-- Boot does what a check would do. -/
lemma boot_eq (c : Check) : boot config c = checkWifi config offline c := by
  unfold boot checkWifi offline startOnlineServices
  generalize isConfigured config = configured
  cases c.up <;> cases configured <;> rfl

lemma run_eq (first : Check) (later : List Check) :
    run config first later = feed (checkWifi config) offline (first :: later) := by
  simp only [run, boot_eq, feed]

lemma checkWifi_down (s : State) {c : Check} (h : c.up = false) :
    checkWifi config s c = (⟨false, s.services⟩, []) := by
  simp [checkWifi, h, OnlineState.transition, OnlineState.isOnline, OnlineState.fromParts,
    OnlineState.services]

/-- Where the link is up, what has not started is tried. -/
lemma checkWifi_up (s : State) {c : Check} (h : c.up = true) :
    checkWifi config s c =
      let r := startOnlineServices config s.services c.starts
      (⟨true, r.1⟩, r.2) := by
  obtain ⟨wifiConnected, services⟩ := s
  cases wifiConnected <;>
    simp [checkWifi, startOnlineServices, h, OnlineState.transition, OnlineState.isOnline,
      OnlineState.fromParts, OnlineState.services]

lemma checkWifi_wifiConnected (s : State) (c : Check) :
    (checkWifi config s c).1.wifiConnected = c.up := by
  cases h : c.up
  · rw [checkWifi_down config s h]
  · rw [checkWifi_up config s h]

/-- What one round of starts does: each service that has not started is tried once. -/
structure Tried (s : Services) (starts : Starts) (r : Services × List Effect) : Prop where
  services : r.1 = ⟨s.sntpStarted || starts.sntp,
    s.notifierStarted || startNotifier config starts,
    s.telegramStarted || (isConfigured config && starts.telegram)⟩
  sntp : r.2.filterMap Effect.sntp? = if s.sntpStarted then [] else [starts.sntp]
  notifier : r.2.filterMap Effect.notifier? =
    if s.notifierStarted then [] else [startNotifier config starts]
  telegram : r.2.filterMap Effect.telegram? =
    if isConfigured config && !s.telegramStarted then [starts.telegram] else []
  text : r.2.filterMap Effect.text? =
    if isConfigured config && !s.telegramStarted && starts.telegram &&
        (s.notifierStarted || startNotifier config starts) then [bootNotificationText] else []

lemma tried_startOnlineServices (s : Services) (starts : Starts) :
    Tried config s starts (startOnlineServices config s starts) := by
  obtain ⟨sntpStarted, notifierStarted, telegramStarted⟩ := s
  generalize hn : startNotifier config starts = n
  constructor <;>
    cases sntpStarted <;> cases notifierStarted <;> cases telegramStarted <;>
    cases hc : isConfigured config <;> cases ht : starts.telegram <;> cases n <;>
    simp [startOnlineServices, applyOnlineActions, OnlineState.transition, OnlineState.fromParts,
      OnlineState.services, List.filterMap_cons, Effect.sntp?, Effect.notifier?, Effect.telegram?,
      Effect.text?, hn, hc, ht]

/-- The rounds of starts there is occasion for: one for each check that finds the link up. -/
def rounds (cs : List Check) : List Starts := (cs.filter Check.up).map Check.starts

lemma rounds_snoc (cs : List Check) (c : Check) :
    rounds (cs ++ [c]) = rounds cs ++ if c.up then [c.starts] else [] := by
  cases h : c.up <;> simp [rounds, h]

/-- The events of a run so far, and the state they lead to. -/
structure History (es : List (Check × List Effect)) (s : State) : Prop where
  services : s.services = ⟨(rounds (es.map Prod.fst)).any Starts.sntp,
    (rounds (es.map Prod.fst)).any (startNotifier config),
    isConfigured config && (rounds (es.map Prod.fst)).any Starts.telegram⟩
  sntp : (es.flatMap Prod.snd).filterMap Effect.sntp? =
    (tries Starts.sntp (rounds (es.map Prod.fst))).map Starts.sntp
  notifier : (es.flatMap Prod.snd).filterMap Effect.notifier? =
    (tries (startNotifier config) (rounds (es.map Prod.fst))).map (startNotifier config)
  telegram : (es.flatMap Prod.snd).filterMap Effect.telegram? =
    if isConfigured config then
      (tries Starts.telegram (rounds (es.map Prod.fst))).map Starts.telegram else []
  text : (es.flatMap Prod.snd).filterMap Effect.text? =
    if isConfigured config && (rounds (es.map Prod.fst)).any Starts.telegram &&
      (tries Starts.telegram (rounds (es.map Prod.fst))).any (startNotifier config) then
        [bootNotificationText] else []

lemma history_offline : History config [] offline where
  services := by simp [offline, Services.none, rounds]
  sntp := rfl
  notifier := rfl
  telegram := by simp [rounds]
  text := by simp [rounds]

lemma History.check {es : List (Check × List Effect)} {s : State} (h : History config es s)
    (c : Check) :
    History config (es ++ [(c, (checkWifi config s c).2)]) (checkWifi config s c).1 := by
  cases hup : c.up with
  | false =>
    have hrounds : rounds ((es ++ [(c, [])]).map Prod.fst) = rounds (es.map Prod.fst) := by
      simp [rounds_snoc, hup]
    rw [checkWifi_down config s hup]
    constructor <;> rewrite [hrounds]
    · exact h.services
    · simpa using h.sntp
    · simpa using h.notifier
    · simpa using h.telegram
    · simpa using h.text
  | true =>
    rw [checkWifi_up config s hup]
    have ht := tried_startOnlineServices config s.services c.starts
    set r := startOnlineServices config s.services c.starts
    have hrounds : rounds ((es ++ [(c, r.2)]).map Prod.fst) =
        rounds (es.map Prod.fst) ++ [c.starts] := by
      simp [rounds_snoc, hup]
    have heffects : (es ++ [(c, r.2)]).flatMap Prod.snd = es.flatMap Prod.snd ++ r.2 := by simp
    constructor <;> simp only [hrounds, heffects, List.filterMap_append, tries_snoc, h.services,
      h.sntp, h.notifier, h.telegram, h.text, ht.services, ht.sntp, ht.notifier, ht.telegram,
      ht.text, List.any_append, List.any_cons, List.any_nil, Bool.or_false]
    · cases isConfigured config <;> simp
    · split <;> simp
    · split <;> simp
    · cases isConfigured config <;> cases (rounds (es.map Prod.fst)).any Starts.telegram <;> simp
    · cases isConfigured config with
      | false => simp
      | true =>
        cases htel : (rounds (es.map Prod.fst)).any Starts.telegram with
        | true => simp
        | false =>
          -- up to now every round tried the polling, so every round is one that counts
          rw [tries_eq_self Starts.telegram htel]
          cases c.starts.telegram <;> simp

lemma run_history (first : Check) (later : List Check) :
    History config (run config first later).1 (run config first later).2 := by
  rw [run_eq]
  exact component_history (fun _ _ c h => h.check config c) (feed_run _ _ _)
    (history_offline config)

/-- Whatever links are lost in between: each service is tried in the rounds up to the one in which
it starts, the polling only if it is configured, and never again; and the boot notification is
sent, once, if the notifier has started by the round in which the polling does. -/
theorem services_started_once (first : Check) (later : List Check) :
    let r := run config first later
    let effects := r.1.flatMap Prod.snd
    let rs := rounds (first :: later)
    (effects.filterMap Effect.sntp? = (tries Starts.sntp rs).map Starts.sntp ∧
      effects.filterMap Effect.notifier? =
        (tries (startNotifier config) rs).map (startNotifier config) ∧
      effects.filterMap Effect.telegram? =
        if isConfigured config then (tries Starts.telegram rs).map Starts.telegram else []) ∧
    ((effects.filterMap Effect.sntp?).count true ≤ 1 ∧
      (effects.filterMap Effect.notifier?).count true ≤ 1 ∧
      (effects.filterMap Effect.telegram?).count true ≤ 1) ∧
    effects.filterMap Effect.text? =
      (if isConfigured config && rs.any Starts.telegram &&
        (tries Starts.telegram rs).any (startNotifier config) then [bootNotificationText] else []) ∧
    (∀ e ∈ r.1, e.1.up = false → e.2 = []) ∧
    r.2.services = ⟨rs.any Starts.sntp, rs.any (startNotifier config),
      isConfigured config && rs.any Starts.telegram⟩ := by
  intro r effects rs
  obtain ⟨hservices, hsntp, hnotifier, htelegram, htext⟩ := run_history config first later
  have hinputs : r.1.map Prod.fst = first :: later := by
    rw [show r = run config first later from rfl, run_eq, feed_inputs]
  rw [hinputs] at hservices hsntp hnotifier htelegram htext
  refine ⟨⟨hsntp, hnotifier, htelegram⟩, ⟨?_, ?_, ?_⟩, htext, ?_, hservices⟩
  · rewrite [hsntp]
    exact count_map_tries_le Starts.sntp rs
  · rewrite [hnotifier]
    exact count_map_tries_le (startNotifier config) rs
  · rewrite [htelegram]
    split
    · exact count_map_tries_le Starts.telegram rs
    · exact Nat.zero_le 1
  · intro e he hdown
    rw [show r = run config first later from rfl, run_eq] at he
    obtain ⟨s, -, heq⟩ := exists_of_mem_feed (I := fun _ => True) (fun _ _ _ => trivial)
      trivial he
    rw [heq, checkWifi_down config s hdown]

end Model

end PcRemote.OnlineServices
