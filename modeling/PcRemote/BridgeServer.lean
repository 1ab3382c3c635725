import Mathlib.Logic.Function.Basic
import PcRemote.BridgeAuth
import PcRemote.PowerAction
import PcRemote.Transition

/-! The HTTP router of the bridge. Each request is a task of its own: routing, authentication,
the body, the audit record, the power executor, the second audit record. The sleep action
answers before it executes, from a thread of its own. Tasks interleave freely. -/
namespace PcRemote.BridgeServer
open Text Signing BridgeAuth Transition

structure HttpRequest where
  method : String
  path : String
  headers : List (String × List UInt8)
  body : List UInt8
  deriving DecidableEq

/-- The text of a header value, which must be visible ASCII, blanks or tabs. -/
def headerText (value : List UInt8) : Option String :=
  if value.all fun b => (32 ≤ b && b < 127) || b == 9 then
    some (String.ofList (value.map fun b => Char.ofNat b.toNat))
  else none

def headerStr (headers : List (String × List UInt8)) (name : String) : Except AuthError String :=
  match headers.find? (fun h => h.1 == name) with
  | none => .error .missingHeader
  | some (_, value) =>
      match headerText value with
      | none => .error .missingHeader
      | some text => if trim text = "" then .error .missingHeader else .ok (trim text)

lemma headerText_utf8 {text : String} (h : ∀ c ∈ text.toList, isGraphic c = true) :
    headerText (utf8 text) = some text := by
  have hrange : ∀ c ∈ text.toList, 33 ≤ c.toNat ∧ c.toNat < 127 := by
    simpa [isGraphic] using h
  have hbytes : utf8 text = text.toList.map fun c => UInt8.ofNat c.toNat := by
    rw [← utf8_ofList_of_ascii fun c hc => (hrange c hc).2.trans (by omega), String.ofList_toList]
  have hbyte : ∀ c ∈ text.toList, (UInt8.ofNat c.toNat).toNat = c.toNat := by
    intro c hc
    have := hrange c hc
    rw [UInt8.toNat_ofNat', Nat.mod_eq_of_lt (by omega)]
  have hvisible : (utf8 text).all (fun b => (32 ≤ b && b < 127) || b == 9) = true := by
    simp only [hbytes, List.all_map, List.all_eq_true, Function.comp_apply, Bool.or_eq_true,
      Bool.and_eq_true, decide_eq_true_eq, UInt8.le_iff_toNat_le, UInt8.lt_iff_toNat_lt]
    intro c hc
    have := hrange c hc
    rw [hbyte c hc]
    left
    exact ⟨this.1.trans' (by decide), this.2⟩
  have hback : (utf8 text).map (fun b => Char.ofNat b.toNat) = text.toList := by
    rw [hbytes, List.map_map]
    apply (List.map_congr_left fun c hc => ?_).trans (List.map_id _)
    simp [hbyte c hc]
  rw [headerText, if_pos hvisible, hback, String.ofList_toList]

lemma headerStr_cons_self {rest : List (String × List UInt8)} {name text : String}
    (h : ∀ c ∈ text.toList, isGraphic c = true) (hne : text ≠ "") :
    headerStr ((name, utf8 text) :: rest) name = .ok text := by
  have htrim : trim text = text := by
    simpa using trim_ofList_of_isGraphic h
  simp [headerStr, headerText_utf8 h, htrim, hne]

lemma headerStr_cons_of_ne {rest : List (String × List UInt8)} {key name : String}
    {value : List UInt8} (h : key ≠ name) :
    headerStr ((key, value) :: rest) name = headerStr rest name := by
  simp [headerStr, h]

/-- What is verified of a request: its own method and path, the three headers, and a body. -/
def authRequest (r : HttpRequest) (body : List UInt8) : Except AuthError Request := do
  let timestampText ← headerStr r.headers "x-timestamp"
  let timestamp ← match parseI64 timestampText with
    | some t => Except.ok t
    | none => .error AuthError.missingHeader
  let nonce ← headerStr r.headers "x-nonce"
  let signature ← headerStr r.headers "x-signature"
  return ⟨r.method, r.path, timestamp, nonce, body, signature⟩

inductive ExecutorCall
  | shutdown (args : List String)
  | suspend
  deriving DecidableEq, Repr

structure PowerResult where
  action : String
  dryRun : Bool
  command : List String
  result : String
  deriving DecidableEq, Repr

def acceptedSleepResult (dryRun : Bool) : PowerResult :=
  ⟨PowerAction.sleep.slug, dryRun, ["SetSuspendState", "false", "false", "false"], "accepted"⟩

/-- The executor calls made, and the result, given how an executor call would turn out. -/
def runPowerAction (action : PowerAction) (dryRun : Bool) (executor : Except String Unit) :
    List ExecutorCall × Except String PowerResult :=
  let shutdownWith (flag : String) :=
    let args := [flag, "/t", "0"]
    let result : PowerResult := ⟨action.slug, dryRun, "shutdown.exe" :: args, "ok"⟩
    if dryRun then ([], Except.ok result) else ([.shutdown args], executor.map fun _ => result)
  match action with
  | .reboot => shutdownWith "/r"
  | .shutdown => shutdownWith "/s"
  | .sleep =>
      if dryRun then ([], .ok (acceptedSleepResult dryRun))
      else ([.suspend], executor.map fun _ => acceptedSleepResult dryRun)

inductive Body
  | text (text : String)
  | power (result : PowerResult)
  | status
  | firmware
  | framework
  deriving DecidableEq, Repr

structure Response where
  status : ℕ
  body : Body
  deriving DecidableEq, Repr

def unauthorized : Response := ⟨401, .text "unauthorized"⟩

inductive Route
  | status
  | firmwareManifest
  | firmware
  | command (action : PowerAction)
  deriving DecidableEq, Repr

def routeOf (path : String) : Option Route :=
  if path = "/status" then some .status
  else if path = "/firmware/manifest" then some .firmwareManifest
  else if path = "/firmware" then some .firmware
  else (PowerAction.fromPath path).map .command

/-- A GET route also answers HEAD. -/
def Route.allows (route : Route) (method : String) : Bool :=
  match route with
  | .command _ => method == "POST"
  | .status | .firmwareManifest | .firmware => method == "GET" || method == "HEAD"

def bodyLimit : ℕ := 128

/-- The framework's own answer, or the handler to run. -/
def dispatch (r : HttpRequest) : Response ⊕ Route :=
  match routeOf r.path with
  | none => .inl ⟨404, .framework⟩
  | some route =>
      if ¬ route.allows r.method then .inl ⟨405, .framework⟩
      else
        match route with
        | .status => .inl ⟨200, .status⟩
        | .firmwareManifest | .firmware => .inr route
        | .command _ => if bodyLimit < r.body.length then .inl ⟨413, .framework⟩ else .inr route

/-- Only a command has its body signed; the firmware routes verify an empty one. -/
def Route.signedBody (route : Route) (r : HttpRequest) : List UInt8 :=
  match route with
  | .command _ => r.body
  | .status | .firmwareManifest | .firmware => []

/-- How a firmware file turns out to be served. -/
inductive FirmwareOutcome
  | served
  | notFound
  | failed (text : String)
  deriving DecidableEq, Repr

def firmwareResponse : FirmwareOutcome → Response
  | .served => ⟨200, .firmware⟩
  | .notFound => ⟨404, .text "firmware not found"⟩
  | .failed text => ⟨500, .text text⟩

structure ServerConfig where
  auth : AuthConfig
  dryRun : Bool

/-- How far the handling of a request has come. -/
inductive Task
  | received
  | routed (route : Route)
  | serving
  | accepted (action : PowerAction)
  | logged (action : PowerAction)
  | ran (action : PowerAction) (result : Except String PowerResult)
  | finished

structure State (ι : Type*) where
  nonces : NonceStore
  task : ι → Task
  response : ι → Option Response

inductive Event (ι : Type*)
  | route (i : ι)
  | missingHeader (i : ι)
  | verify (i : ι) (request : Request) (now : ℤ) (result : Except AuthError Unit)
  | serve (i : ι) (outcome : FirmwareOutcome)
  | audit (i : ι) (action : String) (dryRun : Bool) (result : String) (written : Bool)
  | run (i : ι) (calls : List ExecutorCall)
  | crash (i : ι)

variable {ι : Type*}

def State.start : State ι := ⟨∅, fun _ => .received, fun _ => none⟩

variable [DecidableEq ι]

def State.become (s : State ι) (i : ι) (task : Task) : State ι :=
  { s with task := Function.update s.task i task }

/-- The response of a request, unless it has been sent already, and the end of its task. -/
def State.respond (s : State ι) (i : ι) (response : Response) : State ι :=
  { s with
    task := Function.update s.task i .finished
    response := Function.update s.response i (some ((s.response i).getD response)) }

def afterVerify (commandRequest : List UInt8 → Option Bool) (s : State ι) (i : ι)
    (r : HttpRequest) (route : Route) (result : Except AuthError Unit) : State ι :=
  match result with
  | .error _ => s.respond i unauthorized
  | .ok () =>
      match route with
      | .command action =>
          match commandRequest r.body with
          | none => s.respond i ⟨400, .text "request body must be valid JSON"⟩
          | some false => s.respond i ⟨400, .text "confirm must be true"⟩
          | some true => s.become i (.accepted action)
      | .status | .firmwareManifest | .firmware => s.become i .serving

/-- Once the acceptance is on record, sleep answers at once and leaves the rest to a thread;
in a dry run there is no thread. -/
def afterAudit (dryRun : Bool) (s : State ι) (i : ι) (action : PowerAction) (written : Bool) :
    State ι :=
  if ¬ written then s.respond i ⟨500, .text "failed to write audit log"⟩
  else if action = .sleep then
    let s := s.respond i ⟨200, .power (acceptedSleepResult dryRun)⟩
    if dryRun then s else s.become i (.logged .sleep)
  else s.become i (.logged action)

def resultResponse : Except String PowerResult → Response
  | .ok result => ⟨200, .power result⟩
  | .error err => ⟨500, .text ("power command failed: " ++ err)⟩

def resultLabel : Except String PowerResult → String
  | .ok _ => "ok"
  | .error _ => "failed"

/-- A power action under way, which can end in the middle: its thread panics, or the
connection goes away. -/
def Task.running : Task → Bool
  | .accepted _ | .logged _ | .ran .. => true
  | .received | .routed _ | .serving | .finished => false

section Model
variable (C : Crypto) (commandRequest : List UInt8 → Option Bool) (config : ServerConfig)
  (req : ι → HttpRequest)

inductive Step : State ι → Event ι → State ι → Prop
  | respond {s : State ι} {i : ι} {response : Response} (hp : s.task i = .received)
      (hd : dispatch (req i) = .inl response) : Step s (.route i) (s.respond i response)
  | route {s : State ι} {i : ι} {route : Route} (hp : s.task i = .received)
      (hd : dispatch (req i) = .inr route) : Step s (.route i) (s.become i (.routed route))
  | missingHeader {s : State ι} {i : ι} {route : Route} {e : AuthError}
      (hp : s.task i = .routed route)
      (hh : authRequest (req i) (route.signedBody (req i)) = .error e) :
      Step s (.missingHeader i) (s.respond i unauthorized)
  | verify {s : State ι} {i : ι} {route : Route} {request : Request} {now : ℤ}
      {nonces : NonceStore} {result : Except AuthError Unit} (hp : s.task i = .routed route)
      (hh : authRequest (req i) (route.signedBody (req i)) = .ok request)
      (hv : verifyRequest C config.auth s.nonces request now = (nonces, result)) :
      Step s (.verify i request now result)
        (afterVerify commandRequest { s with nonces := nonces } i (req i) route result)
  | serve {s : State ι} {i : ι} {outcome : FirmwareOutcome} (hp : s.task i = .serving) :
      Step s (.serve i outcome) (s.respond i (firmwareResponse outcome))
  | audit {s : State ι} {i : ι} {action : PowerAction} {written : Bool}
      (hp : s.task i = .accepted action) :
      Step s (.audit i action.slug config.dryRun "accepted" written)
        (afterAudit config.dryRun s i action written)
  | run {s : State ι} {i : ι} {action : PowerAction} {executor : Except String Unit}
      (hp : s.task i = .logged action) :
      Step s (.run i (runPowerAction action config.dryRun executor).1)
        (s.become i (.ran action (runPowerAction action config.dryRun executor).2))
  | auditResult {s : State ι} {i : ι} {action : PowerAction}
      {result : Except String PowerResult} {written : Bool} (hp : s.task i = .ran action result) :
      Step s (.audit i action.slug config.dryRun (resultLabel result) written)
        (s.respond i (resultResponse result))
  | crash {s : State ι} {i : ι} (hp : (s.task i).running) :
      Step s (.crash i) (s.respond i ⟨500, .text "power command task failed"⟩)

def server : System (State ι) (Event ι) := ⟨Step C commandRequest config req⟩

end Model

end PcRemote.BridgeServer
