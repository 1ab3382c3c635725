import PcRemote.BridgeAlerts
import PcRemote.ConfirmationProtocol
import PcRemote.PollOnce
import PcRemote.StatusCache

/-! The status message, with the network that it asks: whether somebody is there at the address of
the PC, and whether the bridge answers. What it offers is what they answered. -/
namespace PcRemote.StatusProbe
open Text Transition ConfigValidation SocketText OtaUpdate Telegram StatusMessage FirmwareVersion
open UpdateDelivery (Answer)

/-- How an attempt to connect turns out. -/
inductive Connection
  | established
  | refused
  | failed (reason : String)
  deriving DecidableEq, Repr

/-- Who refuses a connection is there. -/
def probe : Connection → Bool
  | .established | .refused => true
  | .failed _ => false

/-- The network as it is while a status message is made. -/
structure Network where
  toSocketAddrs : String → Except String (List SocketAddr)
  connect : SocketAddr → Connection
  get : String → Answer

/-- What goes out to the network. -/
inductive Contact
  | lookup (name : String)
  | connect (addr : SocketAddr)
  | get (url : String)
  deriving DecidableEq

structure Ports where
  pcStatus : UInt16
  bridge : UInt16

def bridgeStatusPath : String := "/status"
def bridgeStatusMaxBytes : ℕ := 1024

/-- The body of an answer, or nothing where it is too large to be read. -/
def readStatus : List Read → List UInt8 → Except String (Option (List UInt8))
  | [], body => .ok (some body)
  | .error reason :: _, _ => .error reason
  | .bytes chunk :: rest, body =>
      if chunk = [] then .ok (some body)
      else if bridgeStatusMaxBytes < body.length + chunk.length then .ok none
      else readStatus rest (body ++ chunk)

section Checks
variable (net : Network)

/-- The addresses are tried in their order, up to the first where somebody is. -/
def tryEach : List SocketAddr → Bool × List Contact
  | [] => (false, [])
  | addr :: rest =>
      if probe (net.connect addr) then (true, [.connect addr])
      else
        let r := tryEach rest
        (r.1, .connect addr :: r.2)

def checkPcOnline (addrText : String) : Bool × List Contact :=
  match parseSocketAddr addrText with
  | some addr => (probe (net.connect addr), [.connect addr])
  | none =>
      match net.toSocketAddrs addrText with
      | .error _ => (false, [.lookup addrText])
      | .ok addrs =>
          let r := tryEach net addrs
          (r.1, .lookup addrText :: r.2)

variable (parse : List UInt8 → Except String Json)

def bridgeStatusOnline (body : List UInt8) : Bool :=
  match parse body with
  | .error _ => false
  | .ok value => ((value.get "agent_online").bind Json.asBool).getD false

def bridgeUrl (ports : Ports) (pcIpAddress : String) : String :=
  "http://" ++ pcIpAddress ++ ":" ++ toString ports.bridge.toNat ++ bridgeStatusPath

def bridgeOnline (answer : Answer) : Except String Bool :=
  match answer with
  | .failed reason => .error reason
  | .response status reads =>
      if ¬ BridgeClient.isAccepted status then .ok false
      else
        match readStatus reads [] with
        | .error e => .error e
        | .ok none => .ok false
        | .ok (some body) => .ok (bridgeStatusOnline parse body)

def checkBridgeOnline (ports : Ports) (pcIpAddress : String) : Bool × List Contact :=
  let url := bridgeUrl ports pcIpAddress
  let online := match bridgeOnline parse (net.get url) with
    | .ok online => online
    | .error _ => false
  (online, [.get url])

/-- The status message, and what it took. While the lock is on, and while the PC is off, the bridge
is not asked. -/
def askStatus (ports : Ports) (env : Env) (c : Client) :
    (String × List (List Button)) × List Contact :=
  let pc := checkPcOnline net
    (composeStatusAddr c.settings.pcIpAddress ports.pcStatus.toNat)
  let bridge := if !c.locked && pc.1 then checkBridgeOnline net parse ports c.settings.pcIpAddress
    else (false, [])
  (statusMessage { env with pcOnline := pc.1, bridgeOnline := bridge.1 } c, pc.2 ++ bridge.2)

end Checks

section Pc
variable (net : Network)

/-- The addresses that a text stands for. -/
def targets (addrText : String) : List SocketAddr :=
  match parseSocketAddr addrText with
  | some addr => [addr]
  | none =>
      match net.toSocketAddrs addrText with
      | .ok addrs => addrs
      | .error _ => []

/-- Somebody is there at one of the addresses. -/
def Reached (addrText : String) : Prop :=
  ∃ addr ∈ targets net addrText, probe (net.connect addr) = true

/-- The addresses that are tried: all up to the first where somebody is, and that one. -/
def tried (addrs : List SocketAddr) : List SocketAddr :=
  addrs.takeWhile (fun addr => !probe (net.connect addr)) ++
    (addrs.find? fun addr => probe (net.connect addr)).toList

def lookups (addrText : String) : List Contact :=
  if (parseSocketAddr addrText).isSome then [] else [.lookup addrText]

variable {net}

lemma tryEach_eq (addrs : List SocketAddr) :
    tryEach net addrs =
      (addrs.any fun addr => probe (net.connect addr), (tried net addrs).map .connect) := by
  induction addrs with
  | nil => rfl
  | cons addr rest ih =>
    unfold tryEach tried
    cases hprobe : probe (net.connect addr) with
    | true => simp [hprobe]
    | false => simp [hprobe, ih, tried]

lemma tried_singleton (addr : SocketAddr) : tried net [addr] = [addr] := by
  unfold tried
  cases hprobe : probe (net.connect addr) <;> simp [hprobe]

lemma checkPcOnline_eq (addrText : String) :
    checkPcOnline net addrText =
      ((targets net addrText).any fun addr => probe (net.connect addr),
        lookups addrText ++ (tried net (targets net addrText)).map .connect) := by
  unfold checkPcOnline targets lookups
  cases hparse : parseSocketAddr addrText with
  | some addr => simp [tried_singleton]
  | none =>
    cases hresolve : net.toSocketAddrs addrText with
    | error e => simp [tried]
    | ok addrs => simp [tryEach_eq]

lemma reached_iff (addrText : String) :
    (checkPcOnline net addrText).1 = true ↔ Reached net addrText := by
  rw [checkPcOnline_eq, List.any_eq_true]
  rfl

end Pc

section Bridge
variable {parse : List UInt8 → Except String Json}

/-- The bridge answers that it is there, in a body that comes to its end and is not too large. -/
structure AgentOnline (parse : List UInt8 → Except String Json) (status : ℕ) (reads : List Read) :
    Prop where
  accepted : BridgeClient.isAccepted status = true
  ends : streamEnds reads = true
  small : (streamBytes reads).length ≤ bridgeStatusMaxBytes
  online : ∃ value, parse (streamBytes reads) = .ok value ∧
    value.get "agent_online" = some (.bool true)

def Answers (parse : List UInt8 → Except String Json) (answer : Answer) : Prop :=
  ∃ status reads, answer = .response status reads ∧ AgentOnline parse status reads

lemma readStatus_eq_some {reads : List Read} {body whole : List UInt8}
    (hbody : body.length ≤ bridgeStatusMaxBytes) :
    readStatus reads body = .ok (some whole) ↔
      streamEnds reads = true ∧ whole = body ++ streamBytes reads ∧
        whole.length ≤ bridgeStatusMaxBytes := by
  induction reads generalizing body with
  | nil =>
    simp only [readStatus, Except.ok.injEq, Option.some.injEq, streamEnds, streamBytes,
      List.append_nil, true_and]
    constructor
    · rintro rfl
      exact ⟨rfl, hbody⟩
    · exact fun h => h.1.symm
  | cons read rest ih =>
    cases read with
    | error reason => simp [readStatus, streamEnds]
    | bytes chunk =>
      by_cases hchunk : chunk = []
      · simp only [readStatus, Except.ok.injEq, Option.some.injEq, streamEnds,
          streamBytes, hchunk, decide_true, Bool.true_or, if_true, List.append_nil, true_and]
        constructor
        · rintro rfl
          exact ⟨rfl, hbody⟩
        · exact fun h => h.1.symm
      · have hends : streamEnds (.bytes chunk :: rest) = streamEnds rest := by
          simp [streamEnds, hchunk]
        have hbytes : streamBytes (.bytes chunk :: rest) = chunk ++ streamBytes rest := by
          simp [streamBytes, hchunk]
        rw [hends, hbytes, ← List.append_assoc, readStatus, if_neg hchunk]
        split_ifs with hlarge
        · refine iff_of_false (by simp) ?_
          rintro ⟨-, rfl, hsmall⟩
          rw [List.length_append, List.length_append] at hsmall
          omega
        · refine ih ?_
          rw [List.length_append]
          omega

lemma bridgeStatusOnline_iff (body : List UInt8) :
    bridgeStatusOnline parse body = true ↔
      ∃ value, parse body = .ok value ∧ value.get "agent_online" = some (.bool true) := by
  unfold bridgeStatusOnline
  cases hparse : parse body with
  | error e => simp
  | ok value =>
    cases hget : value.get "agent_online" with
    | none => simp [hget]
    | some v => cases v <;> simp [hget, Json.asBool]

lemma bridgeOnline_iff (answer : Answer) :
    bridgeOnline parse answer = .ok true ↔ Answers parse answer := by
  cases answer with
  | failed reason => simp [bridgeOnline, Answers]
  | response status reads =>
    have hread : ∀ whole, readStatus reads [] = .ok (some whole) ↔ streamEnds reads = true ∧
        whole = streamBytes reads ∧ whole.length ≤ bridgeStatusMaxBytes :=
      fun whole => readStatus_eq_some (Nat.zero_le _)
    constructor
    · intro h
      by_cases hstatus : BridgeClient.isAccepted status = true
      · rw [bridgeOnline, if_neg (not_not.mpr hstatus)] at h
        cases hbody : readStatus reads [] with
        | error e => simp [hbody] at h
        | ok body =>
          cases body with
          | none => simp [hbody] at h
          | some whole =>
            obtain ⟨hends, rfl, hsmall⟩ := (hread whole).mp hbody
            rw [hbody] at h
            exact ⟨status, reads, rfl, hstatus, hends, hsmall,
              (bridgeStatusOnline_iff _).mp (Except.ok.inj h)⟩
      · rw [bridgeOnline, if_pos hstatus] at h
        cases h
    · rintro ⟨status', reads', hresponse, haccepted, hends, hsmall, honline⟩
      obtain ⟨rfl, rfl⟩ := Answer.response.inj hresponse
      have hbody := (hread _).mpr ⟨hends, rfl, hsmall⟩
      rw [bridgeOnline, if_neg (not_not.mpr haccepted), hbody]
      exact congrArg Except.ok ((bridgeStatusOnline_iff _).mpr honline)

lemma checkBridgeOnline_eq (net : Network) (ports : Ports) (pcIpAddress : String) :
    (checkBridgeOnline net parse ports pcIpAddress).2 = [.get (bridgeUrl ports pcIpAddress)] ∧
      ((checkBridgeOnline net parse ports pcIpAddress).1 = true ↔
        Answers parse (net.get (bridgeUrl ports pcIpAddress))) := by
  refine ⟨rfl, ?_⟩
  rw [← bridgeOnline_iff]
  unfold checkBridgeOnline
  cases honline : bridgeOnline parse (net.get (bridgeUrl ports pcIpAddress)) with
  | error e => simp [honline]
  | ok online => simp [honline]

end Bridge

/-! ### What the bridge says of itself -/

section Served
open BridgeServer BridgeAlerts
variable {ι : Type*} [DecidableEq ι] {C : Signing.Crypto}
  {commandRequest : List UInt8 → Option Bool} {config : ServerConfig} {req : ι → HttpRequest}

/-- The fields of the bridge's status, as they are written out. -/
def statusResponse : Json :=
  .obj [("agent_online", .bool true), ("agent", .str "m5stack-pc-bridge"), ("status", .str "ok")]

def statusBody : String :=
  "\x7b\"agent_online\":true,\"agent\":\"m5stack-pc-bridge\",\"status\":\"ok\"\x7d"

/-- A request for the status: whatever its headers, it is not signed. -/
def IsStatusRequest (r : HttpRequest) : Prop := r.method = "GET" ∧ r.path = bridgeStatusPath

/-- A request for the status waits, or has been answered. -/
def Told (s : State ι) (i : ι) : Prop :=
  (s.task i = .received ∧ s.response i = none) ∨
    (s.task i = .finished ∧ s.response i = some ⟨200, .status⟩)

lemma dispatch_status {r : HttpRequest} (h : IsStatusRequest r) :
    dispatch r = .inl ⟨200, .status⟩ := by
  obtain ⟨hmethod, hpath⟩ := h
  have hroute : routeOf r.path = some .status := if_pos hpath
  have hallows : Route.allows .status r.method = true := by
    rw [hmethod]
    rfl
  simp only [dispatch, hroute, hallows, not_true_eq_false, if_false]

lemma afterVerify_response (s : State ι) (i : ι) (r : HttpRequest) (route : Route)
    (result : Except BridgeAuth.AuthError Unit) {j : ι} (hj : j ≠ i) :
    (afterVerify commandRequest s i r route result).response j = s.response j := by
  have hrespond : ∀ response, (s.respond i response).response j = s.response j :=
    fun response => Function.update_of_ne hj _ _
  cases result with
  | error e => exact hrespond _
  | ok =>
    cases route with
    | command action =>
      simp only [afterVerify]
      split <;> first | exact hrespond _ | rfl
    | status | firmwareManifest | firmware => rfl

lemma afterAudit_response (dryRun : Bool) (s : State ι) (i : ι) (action : PowerAction)
    (written : Bool) {j : ι} (hj : j ≠ i) :
    (afterAudit dryRun s i action written).response j = s.response j := by
  have hrespond : ∀ response, (s.respond i response).response j = s.response j :=
    fun response => Function.update_of_ne hj _ _
  cases written with
  | false => exact hrespond _
  | true =>
    simp only [afterAudit, not_true_eq_false, if_false]
    split
    · split <;> exact hrespond _
    · rfl

/-- A response is about the owner of the event. -/
lemma response_step {s t : State ι} {e : Event ι} (hs : Step C commandRequest config req s e t)
    {j : ι} (hj : j ≠ e.owner) : t.response j = s.response j := by
  cases hs with
  | respond | missingHeader | serve | auditResult | crash => exact Function.update_of_ne hj _ _
  | verify => exact afterVerify_response _ _ _ _ _ hj
  | audit => exact afterAudit_response _ _ _ _ _ hj
  | route | run => rfl

lemma Told.step {s t : State ι} {e : Event ι} {i : ι} (h : Told s i)
    (hreq : IsStatusRequest (req i)) (hs : Step C commandRequest config req s e t) :
    Told t i ∧ (e.owner = i → e = .route i) := by
  by_cases howner : e.owner = i
  · subst howner
    rcases h with ⟨hwaits, hnone⟩ | ⟨hfinished, -⟩
    · cases hs with
      | @respond i response hp hd =>
        obtain rfl := Sum.inl.inj ((dispatch_status hreq).symm.trans hd)
        have hnone : s.response i = none := hnone
        have hsent : (s.respond i ⟨200, .status⟩).response i = some ⟨200, .status⟩ := by
          simp [State.respond, hnone]
        exact ⟨.inr ⟨Function.update_self _ _ _, hsent⟩, fun _ => rfl⟩
      | route hp hd => cases (dispatch_status hreq).symm.trans hd
      | missingHeader hp => cases hp.symm.trans hwaits
      | verify hp => cases hp.symm.trans hwaits
      | serve hp => cases hp.symm.trans hwaits
      | audit hp => cases hp.symm.trans hwaits
      | run hp => cases hp.symm.trans hwaits
      | auditResult hp => cases hp.symm.trans hwaits
      | crash hp =>
        rw [Event.owner] at hwaits
        rw [hwaits] at hp
        cases hp
    · exact absurd rfl (finished_stays hs hfinished).1
  · obtain ⟨-, task, htask⟩ := step_owner hs
    have hkept : t.task i = s.task i := by rw [htask, Function.update_of_ne (Ne.symm howner)]
    refine ⟨?_, fun h => absurd h howner⟩
    rw [Told, hkept, response_step hs (Ne.symm howner)]
    exact h

lemma told_run {es : List (Event ι)} {s : State ι} {i : ι} (hreq : IsStatusRequest (req i))
    (h : (server C commandRequest config req).Run .start es s) : Told s i :=
  h.invariant (I := fun s => Told s i) (fun _ _ _ hs htold => (htold.step hreq hs).1)
    (.inl ⟨rfl, rfl⟩)

/-- The bytes of a body, as far as they are fixed. -/
def written : Body → Option (List UInt8)
  | .status => some (utf8 statusBody)
  | .text text => some (utf8 text)
  | .power _ | .firmware | .framework => none

/-- The response arrives with its status and its whole body, in whatever pieces. -/
def Arrives (response : Response) (answer : Answer) : Prop :=
  ∃ reads, answer = .response response.status reads ∧ streamEnds reads = true ∧
    written response.body = some (streamBytes reads)

lemma length_statusBody : (utf8 statusBody).length ≤ bridgeStatusMaxBytes := by
  decide +kernel

omit [DecidableEq ι] in
lemma Told.answers {parse : List UInt8 → Except String Json} {s : State ι} {i : ι}
    {response : Response} {answer : Answer} (h : Told s i)
    (hparse : parse (utf8 statusBody) = .ok statusResponse)
    (hresponse : s.response i = some response) (harrives : Arrives response answer) :
    Answers parse answer := by
  rcases h with ⟨-, hnone⟩ | ⟨-, htold⟩
  · cases hnone.symm.trans hresponse
  · obtain rfl := Option.some.inj (htold.symm.trans hresponse)
    obtain ⟨reads, hanswer, hends, hbody⟩ := harrives
    have hbytes : utf8 statusBody = streamBytes reads := Option.some.inj hbody
    refine ⟨200, reads, hanswer, rfl, hends, hbytes ▸ length_statusBody, statusResponse, ?_, rfl⟩
    rw [← hbytes, hparse]

end Served

/-- The text and the buttons of a status. -/
def Says (message : String × List (List Button)) (status : PcControlStatus) (online : Bool) :
    Prop :=
  ∃ battery, message = (statusMessageHtml status (pcOnlineLabelJa online) battery firmwareVersion,
    statusButtons status)

section Message
variable {parse : List UInt8 → Except String Json}

lemma says_statusMessage (env : Env) (c : Client) :
    Says (statusMessage env c)
      (PcStatusSnapshot.status ⟨env.pcOnline, !c.locked && env.pcOnline && env.bridgeOnline,
        c.locked⟩) env.pcOnline := by
  unfold statusMessage
  exact ⟨_, rfl⟩

variable (parse) in
/-- A message made from what the network is like: `toPc` is what goes out to reach the PC. -/
structure MadeFrom (net : Network) (addrText url : String) (locked : Bool)
    (made : (String × List (List Button)) × List Contact) (toPc : List Contact) : Prop where
  whenLocked : locked = true → made.2 = toPc ∧ ∃ online, (online = true ↔ Reached net addrText) ∧
    Says made.1 .locked online
  off : locked = false → ¬ Reached net addrText → made.2 = toPc ∧ Says made.1 .off false
  asked : locked = false → Reached net addrText → made.2 = toPc ++ [.get url]
  ready : locked = false → Reached net addrText → Answers parse (net.get url) →
    Says made.1 .ready true
  bridgeUnavailable : locked = false → Reached net addrText → ¬ Answers parse (net.get url) →
    Says made.1 .bridgeUnavailable true

lemma madeFrom_askStatus (net : Network) (ports : Ports) (env : Env) (c : Client) :
    MadeFrom parse net (composeStatusAddr c.settings.pcIpAddress ports.pcStatus.toNat)
      (bridgeUrl ports c.settings.pcIpAddress) c.locked (askStatus net parse ports env c)
      (checkPcOnline net
        (composeStatusAddr c.settings.pcIpAddress ports.pcStatus.toNat)).2 := by
  unfold askStatus
  dsimp only
  generalize composeStatusAddr c.settings.pcIpAddress ports.pcStatus.toNat = addrText
  have hreached : (checkPcOnline net addrText).1 = true ↔ Reached net addrText :=
    reached_iff addrText
  have hbridge : (checkBridgeOnline net parse ports c.settings.pcIpAddress).2 = _ ∧
      ((checkBridgeOnline net parse ports c.settings.pcIpAddress).1 = true ↔ _) :=
    checkBridgeOnline_eq net ports c.settings.pcIpAddress
  obtain ⟨hget, hanswers⟩ := hbridge
  generalize checkBridgeOnline net parse ports c.settings.pcIpAddress = bridge at hget hanswers ⊢
  generalize checkPcOnline net addrText = pc at hreached ⊢
  obtain ⟨online, toPc⟩ := pc
  obtain ⟨answered, get⟩ := bridge
  obtain rfl : get = _ := hget
  dsimp only at hreached hanswers ⊢
  have htells := fun answered => says_statusMessage
    { env with pcOnline := online, bridgeOnline := answered } c
  cases hlocked : c.locked with
  | true =>
    simp only [hlocked] at htells
    refine ⟨fun _ => ⟨List.append_nil _, online, hreached, htells false⟩, ?_, ?_, ?_, ?_⟩ <;>
      exact nofun
  | false =>
    simp only [hlocked] at htells
    cases online with
    | false =>
      have hnot : ¬ Reached net addrText := fun h => absurd (hreached.mpr h) Bool.false_ne_true
      exact ⟨nofun, fun _ _ => ⟨List.append_nil _, htells false⟩, fun _ h => absurd h hnot,
        fun _ h => absurd h hnot, fun _ h => absurd h hnot⟩
    | true =>
      refine ⟨nofun, fun _ hnot => absurd (hreached.mp rfl) hnot, fun _ _ => rfl,
        fun _ _ hanswer => ?_, fun _ _ hsilent => ?_⟩
      · obtain rfl : answered = true := hanswers.mpr hanswer
        exact htells true
      · obtain rfl : answered = false := Bool.eq_false_iff.mpr fun h => hsilent (hanswers.mp h)
        exact htells false

/-- The data of the buttons of a message. -/
def buttonData (message : String × List (List Button)) : List String :=
  message.2.flatten.map Button.data

variable (parse) in
/-- Which buttons there are. -/
structure Offered (net : Network) (addrText url : String) (locked : Bool)
    (message : String × List (List Button)) : Prop where
  reboot : "status:reboot" ∈ buttonData message ↔
    locked = false ∧ Reached net addrText ∧ Answers parse (net.get url)
  shutdown : "status:shutdown" ∈ buttonData message ↔
    locked = false ∧ Reached net addrText ∧ Answers parse (net.get url)
  wake : "status:wake" ∈ buttonData message ↔ locked = false ∧ ¬ Reached net addrText
  unlock : "lock:off" ∈ buttonData message ↔ locked = true
  refresh : "status:refresh" ∈ buttonData message
  nothing_else : ∀ data ∈ buttonData message,
    data ∈ ["status:reboot", "status:shutdown", "status:wake", "lock:off", "status:refresh"]

lemma Says.buttonData {message : String × List (List Button)} {status : PcControlStatus}
    {online : Bool} (h : Says message status online) :
    buttonData message = (statusButtons status).flatten.map Button.data := by
  obtain ⟨battery, rfl⟩ := h
  rfl

lemma MadeFrom.offered {net : Network} {addrText url : String} {locked : Bool}
    {made : (String × List (List Button)) × List Contact} {toPc : List Contact}
    (h : MadeFrom parse net addrText url locked made toPc) :
    Offered parse net addrText url locked made.1 := by
  cases locked with
  | true =>
    obtain ⟨-, online, -, htells⟩ := h.whenLocked rfl
    constructor <;> simp [htells.buttonData, statusButtons, refreshRow]
  | false =>
    by_cases hreached : Reached net addrText
    · by_cases hanswers : Answers parse (net.get url)
      · have htells := h.ready rfl hreached hanswers
        constructor <;> simp [htells.buttonData, statusButtons, refreshRow, hreached, hanswers]
      · have htells := h.bridgeUnavailable rfl hreached hanswers
        constructor <;> simp [htells.buttonData, statusButtons, refreshRow, hreached, hanswers]
    · have htells := (h.off rfl hreached).2
      constructor <;> simp [htells.buttonData, statusButtons, refreshRow, hreached]

lemma toPc_of_validated {net : Network} {input ip : String} (h : validateIpv4 input = .ok ip)
    (port : UInt16) : ∃ addr, parseIpv4Addr (trim input) = some addr ∧
      (checkPcOnline net (composeStatusAddr ip port.toNat)).2 = [.connect (.v4 addr port)] := by
  obtain ⟨hip, rfl⟩ := validateIpv4_eq_ok.mp h
  obtain ⟨addr, haddr⟩ := (isIpv4_iff _).mp hip
  have hread := parseSocketAddr_v4 haddr port
  refine ⟨addr, haddr, ?_⟩
  have htext : composeStatusAddr (trim input) port.toNat = trim input ++ ":" ++
      toString port.toNat := by
    rw [composeStatusAddr, trim_of_isIpv4 hip]
  rw [checkPcOnline, htext, hread]

/-- The status message is made from what the network is like at the time. The restart and the
shutdown are offered exactly if the lock is off, somebody is at an address of the PC, and the bridge
answers with a whole body that says that it is there; the start exactly if nobody is there. The
addresses are tried in their order up to the first where somebody is, and only then the bridge is
asked; a validated address is the only one that is tried, and nothing is looked up for it. Whatever
else it has been asked, and however it is configured, the bridge answers so, without a signature. -/
theorem status_offers_what_answers (net : Network) (ports : Ports) (env : Env) (c : Client) :
    let ip := c.settings.pcIpAddress
    let addrText := composeStatusAddr ip ports.pcStatus.toNat
    let url := bridgeUrl ports ip
    let toPc := lookups addrText ++ (tried net (targets net addrText)).map .connect
    MadeFrom parse net addrText url c.locked (askStatus net parse ports env c) toPc ∧
    Offered parse net addrText url c.locked (askStatus net parse ports env c).1 ∧
    (∀ input, validateIpv4 input = .ok ip → ∃ addr, parseIpv4Addr (trim input) = some addr ∧
      toPc = [.connect (.v4 addr ports.pcStatus)]) ∧
    ∀ (C : Signing.Crypto) (commandRequest : List UInt8 → Option Bool)
      (config : BridgeServer.ServerConfig) (req : ℕ → BridgeServer.HttpRequest) es s i response,
      (BridgeServer.server C commandRequest config req).Run .start es s →
      IsStatusRequest (req i) → s.response i = some response → Arrives response (net.get url) →
      parse (utf8 statusBody) = .ok statusResponse → Answers parse (net.get url) := by
  intro ip addrText url toPc
  have htoPc : (checkPcOnline net addrText).2 = toPc := by rw [checkPcOnline_eq]
  have hmade : MadeFrom parse net addrText url c.locked (askStatus net parse ports env c) toPc :=
    htoPc ▸ madeFrom_askStatus net ports env c
  refine ⟨hmade, hmade.offered, fun input hinput => ?_, ?_⟩
  · rw [← htoPc]
    exact toPc_of_validated hinput ports.pcStatus
  · intro C commandRequest config req es s i response hrun hreq hresponse harrives hparse
    exact (told_run hreq hrun).answers hparse hresponse harrives

end Message

section Pieces
open BridgeServer

/-- The PC refuses to connect, and the bridge on it answers in two pieces. -/
def twoPieces : Network where
  toSocketAddrs _ := .error "no such host"
  connect _ := .refused
  get _ := .response 200
    [.bytes ((utf8 statusBody).take 20), .bytes ((utf8 statusBody).drop 20)]

def decodeStatus (body : List UInt8) : Except String Json :=
  if body = utf8 statusBody then .ok statusResponse else .error "expected value"

def statusRequest (_ : ℕ) : HttpRequest := ⟨"GET", "/status", [], []⟩

lemma arrives_twoPieces (url : String) : Arrives ⟨200, .status⟩ (twoPieces.get url) := by
  have hnonempty : (utf8 statusBody).take 20 ≠ [] ∧ (utf8 statusBody).drop 20 ≠ [] := by
    decide +kernel
  refine ⟨_, rfl, ?_, ?_⟩
  · simp [streamEnds]
  · simp [streamBytes, hnonempty, written]

/-- The restart is offered while the bridge that was asked answers so. -/
theorem status_offers_what_answers_twoPieces :
    "status:reboot" ∈ buttonData (askStatus twoPieces decodeStatus ⟨445, 8765⟩ (envAt 7)
      (.new initialSettings)).1 := by
  obtain ⟨-, hoffered, -, hanswers⟩ := @status_offers_what_answers decodeStatus twoPieces
    ⟨445, 8765⟩ (envAt 7) (.new initialSettings)
  have hrun : (server .standard (fun _ => none) ⟨⟨[], 60⟩, false⟩ statusRequest).Run .start
      [.route 0] (State.start.respond 0 ⟨200, .status⟩) :=
    .one (.respond rfl (dispatch_status ⟨rfl, rfl⟩))
  refine hoffered.reboot.mpr ⟨rfl, ?_, ?_⟩
  · have haddr : (parseSocketAddr (composeStatusAddr initialSettings.pcIpAddress 445)).isSome =
        true := by
      decide
    obtain ⟨addr, haddr⟩ := Option.isSome_iff_exists.mp haddr
    exact ⟨addr, by simp [targets, haddr, Client.new], rfl⟩
  · exact hanswers _ _ _ statusRequest _ _ 0 _ hrun ⟨rfl, rfl⟩ rfl (arrives_twoPieces _)
      (if_pos rfl)

end Pieces

end PcRemote.StatusProbe
