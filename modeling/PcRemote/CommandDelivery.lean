import PcRemote.BridgeAuthorisation
import PcRemote.BridgeConcurrency
import PcRemote.ClientBridge
import PcRemote.SignatureBinding

/-! A power command on its way from the firmware to the executor of the bridge. The firmware signs
commands and requests for its update, the bridge signs manifests with the same secret, and between
them anything may happen: requests are lost, made up, repeated and reordered. Nobody else can sign,
so every executor run goes back to a command of its own. The bridge verifies its requests side by
side, one atomic step of one of them at a time, and it can restart with an empty store: a command
is executed once as long as no nonce is forgotten inside its window. -/
namespace PcRemote.CommandDelivery
open Text Signing BridgeAuth BridgeServer Transition

inductive FirmwareFile
  | manifest
  | image
  deriving DecidableEq, Repr

def FirmwareFile.path : FirmwareFile → String
  | .manifest => OtaUpdate.manifestPath
  | .image => OtaUpdate.firmwarePath

/-- What is signed with the shared secret, what the bridge does, and what happens to it. -/
inductive Event (ι : Type*)
  | command (action : PowerAction) (secs : UInt64) (random : UInt32) (uptime : Int64)
  | signedGet (file : FirmwareFile) (secs : UInt64) (random : UInt32) (uptime : Int64)
  | signManifest (version : String) (size : UInt64) (sha256Hex createdAt : String)
  | verifying (e : BridgeConcurrency.Event ι)
  | verified (i : ι) (result : Except AuthError Unit)
  | bridge (e : BridgeServer.Event ι)
  | restart (now : ℤ)
  | setBack (clock : ℤ)

/-- The texts signed so far, the last clock reading of the bridge, its store and tasks, and how far
the verification of each request has come. -/
structure World (ι : Type*) where
  signed : List String
  clock : ℤ
  bridge : BridgeServer.State ι
  phase : ι → BridgeConcurrency.Phase

variable {ι : Type*}

namespace World

def start (c₀ : ℤ) : World ι := ⟨[], c₀, .start, fun _ => .waiting⟩

def sign (w : World ι) (text : String) : World ι := { w with signed := w.signed ++ [text] }

/-- The part of the world that verification reads and writes. -/
def verification (w : World ι) : BridgeConcurrency.State ι := ⟨w.bridge.nonces, w.clock, w.phase⟩

def verifyTo (w : World ι) (v : BridgeConcurrency.State ι) : World ι :=
  { w with clock := v.clock, bridge := { w.bridge with nonces := v.seen }, phase := v.phase }

end World

/-- What a restart leaves of the task of a request: one that has not come in yet still can. -/
def stopped : Task → Task
  | .received => .received
  | .routed _ | .serving | .accepted _ | .logged _ | .ran .. | .finished => .finished

def dropped : BridgeConcurrency.Phase → BridgeConcurrency.Phase
  | .done result => .done result
  | .waiting | .clocked _ | .verified _ | .swept _ | .admitted _ => .waiting

/-- The nonces on record are in memory only. -/
def World.restart (w : World ι) (now : ℤ) : World ι :=
  { w with
    clock := now
    bridge := ⟨∅, fun i => stopped (w.bridge.task i), w.bridge.response⟩
    phase := fun i => dropped (w.phase i) }

@[simp] lemma World.restart_task (w : World ι) (now : ℤ) (i : ι) :
    (w.restart now).bridge.task i = stopped (w.bridge.task i) := rfl

@[simp] lemma World.restart_phase (w : World ι) (now : ℤ) (i : ι) :
    (w.restart now).phase i = dropped (w.phase i) := rfl

def blank : Request := ⟨"", "", 0, "", [], ""⟩

/-- What the handler of a request hands to the verification. -/
def carried (r : HttpRequest) : Request :=
  match dispatch r with
  | .inl _ => blank
  | .inr route =>
      match authRequest r (route.signedBody r) with
      | .ok request => request
      | .error _ => blank

def requestText (C : Crypto) (r : Request) : String :=
  canonicalString C r.method r.path r.timestamp r.nonce r.body

/-- The server's own event for a verification in one piece. -/
def verifies : BridgeServer.Event ι → Bool
  | .verify .. => true
  | .route _ | .missingHeader _ | .serve .. | .audit .. | .run .. | .crash _ => false

namespace Event

def text (C : Crypto) : Event ι → Option String
  | .command action secs random uptime =>
      some (canonicalString C "POST" action.path secs.toInt64.toInt
        (BridgeClient.nonce random uptime) (utf8 BridgeClient.body))
  | .signedGet file secs random uptime =>
      some (canonicalString C "GET" file.path secs.toInt64.toInt
        (BridgeClient.nonce random uptime) [])
  | .signManifest version size sha256Hex createdAt =>
      some (OtaManifest.canonicalString version size sha256Hex createdAt)
  | .verifying _ | .verified .. | .bridge _ | .restart _ | .setBack _ => none

/-- The nonce and the timestamp of a request of the firmware. -/
def stamped : Event ι → Option (String × ℤ)
  | .command _ secs random uptime | .signedGet _ secs random uptime =>
      some (BridgeClient.nonce random uptime, secs.toInt64.toInt)
  | .signManifest .. | .verifying _ | .verified .. | .bridge _ | .restart _ | .setBack _ => none

def commands (action : PowerAction) : Event ι → Bool
  | .command a _ _ _ => a = action
  | _ => false

def executes (action : PowerAction) : Event ι → Bool
  | .bridge (.run _ calls) => calls = [executorCall action]
  | _ => false

end Event

section Model
variable [DecidableEq ι] (C : Crypto) (commandRequest : List UInt8 → Option Bool)
  (config : ServerConfig) (secret : String) (req : ι → HttpRequest)

/-- If the signature of a request verifies, its text has been signed. -/
def Genuine (w : World ι) (i : ι) : Prop :=
  ∀ route request, dispatch (req i) = .inr route →
    authRequest (req i) (route.signedBody (req i)) = .ok request →
    signatureValid C config.auth request = true → requestText C request ∈ w.signed

/-- Nothing comes in with a valid signature that nobody has made. -/
def Unforged (w : World ι) : BridgeServer.Event ι → Prop
  | .route i => Genuine C config req w i
  | _ => True

inductive Step : World ι → Event ι → World ι → Prop
  | command {w : World ι} {action : PowerAction} {secs : UInt64} {random : UInt32}
      {uptime : Int64} {r : ClientRequest}
      (h : BridgeClient.sendCommand C action secret secs random uptime = .ok r) :
      Step w (.command action secs random uptime)
        (w.sign (canonicalString C "POST" action.path secs.toInt64.toInt
          (BridgeClient.nonce random uptime) (utf8 BridgeClient.body)))
  | signedGet {w : World ι} {file : FirmwareFile} {secs : UInt64} {random : UInt32}
      {uptime : Int64} {r : ClientRequest}
      (h : OtaUpdate.withSignedGet C secret file.path secs random uptime = .ok r) :
      Step w (.signedGet file secs random uptime)
        (w.sign (canonicalString C "GET" file.path secs.toInt64.toInt
          (BridgeClient.nonce random uptime) []))
  | signManifest (w : World ι) (version : String) (size : UInt64) (sha256Hex createdAt : String) :
      Step w (.signManifest version size sha256Hex createdAt)
        (w.sign (OtaManifest.canonicalString version size sha256Hex createdAt))
  | verifying {w : World ι} {e : BridgeConcurrency.Event ι} {route : Route} {request : Request}
      {v : BridgeConcurrency.State ι} (hp : w.bridge.task e.owner = .routed route)
      (hh : authRequest (req e.owner) (route.signedBody (req e.owner)) = .ok request)
      (h : BridgeConcurrency.Step C config.auth (carried ∘ req) w.verification e v) :
      Step w (.verifying e) (w.verifyTo v)
  | verified {w : World ι} {i : ι} {route : Route} {request : Request}
      {result : Except AuthError Unit} (hp : w.bridge.task i = .routed route)
      (hh : authRequest (req i) (route.signedBody (req i)) = .ok request)
      (hd : w.phase i = .done result) :
      Step w (.verified i result)
        { w with bridge := afterVerify commandRequest w.bridge i (req i) route result }
  | bridge {w : World ι} {e : BridgeServer.Event ι} {s : BridgeServer.State ι}
      (h : BridgeServer.Step C commandRequest config req w.bridge e s) (hv : verifies e = false)
      (hunforged : Unforged C config req w e) : Step w (.bridge e) { w with bridge := s }
  | restart {w : World ι} {now : ℤ} (hc : w.clock ≤ now) : Step w (.restart now) (w.restart now)
  | setBack {w : World ι} {clock : ℤ} (hc : clock < w.clock) :
      Step w (.setBack clock) { w with clock := clock }

def world : System (World ι) (Event ι) := ⟨Step C commandRequest config secret req⟩

/-- What lets a nonce be accepted again inside its window: a size check that drops it, a restart,
or a clock set back. -/
def Forgets (w : World ι) : Event ι → Prop
  | .verifying e => BridgeConcurrency.EvictsLive C config.auth (carried ∘ req) w.verification e
  | .restart now => ∃ n t, w.bridge.nonces.lookup n = some t ∧
      withinSkew config.auth.allowedSkewSeconds now t = true
  | .setBack _ => True
  | _ => False

end Model

namespace Event

/-- What an event is to the server as a whole. -/
def observed (req : ι → HttpRequest) : Event ι → List (BridgeServer.Event ι)
  | .verified i result => [.verify i (carried (req i)) 0 result]
  | .bridge e => [e]
  | .command .. | .signedGet .. | .signManifest .. | .verifying _ | .restart _ | .setBack _ => []

lemma mem_observed_verified {req : ι → HttpRequest} {es : List (Event ι)} {i : ι}
    {request : Request} {now : ℤ} {result : Except AuthError Unit}
    (h : .verify i request now result ∈ es.flatMap (observed req))
    (hbridge : ∀ e, .bridge e ∈ es → verifies e = false) :
    .verified i result ∈ es ∧ request = carried (req i) := by
  obtain ⟨e, hmem, he⟩ := List.mem_flatMap.mp h
  cases e with
  | verified j result' =>
    rw [observed, List.mem_singleton] at he
    obtain ⟨rfl, hrequest, -, rfl⟩ := BridgeServer.Event.verify.inj he
    exact ⟨hmem, hrequest⟩
  | bridge e =>
    rw [observed, List.mem_singleton] at he
    subst he
    exact absurd (hbridge _ hmem) (by simp [verifies])
  | _ => cases he

end Event

lemma carried_eq {r : HttpRequest} {route : Route} {request : Request}
    (hd : dispatch r = .inr route) (hh : authRequest r (route.signedBody r) = .ok request) :
    carried r = request := by
  simp only [carried, hd, hh]

section Invariants
variable [DecidableEq ι] (C : Crypto) (commandRequest : List UInt8 → Option Bool)
  (config : ServerConfig) (req : ι → HttpRequest)

/-- The request has a handler, and the headers that the verification needs. -/
def Handled (i : ι) : Prop :=
  ∃ route request, dispatch (req i) = .inr route ∧
    authRequest (req i) (route.signedBody (req i)) = .ok request

/-- The request read the clock when it was inside its window, with a signature that is valid. -/
def Clocked (es : List (Event ι)) (i : ι) (now : ℤ) : Prop :=
  .verifying (.readClock i now) ∈ es ∧
    reachesStore C config.auth (carried (req i)) now = true

/-- What must have happened for the verification of a request to be where it is. -/
def Traced (es : List (Event ι)) (i : ι) : BridgeConcurrency.Phase → Prop
  | .waiting => True
  | .clocked now => .verifying (.readClock i now) ∈ es
  | .verified now | .swept now | .admitted now => Clocked C config req es i now
  | .done result => result = .ok () → ∃ now, Clocked C config req es i now

structure Accounted (es : List (Event ι)) (w : World ι) : Prop where
  signed : w.signed = es.filterMap (Event.text C)
  reached : ∀ i, Reached commandRequest config req (es.flatMap (Event.observed req)) i
    (w.bridge.task i)
  genuine : ∀ i, w.bridge.task i ≠ .received → Genuine C config req w i
  begun : ∀ i, w.phase i ≠ .waiting → w.bridge.task i ≠ .received ∧ Handled req i
  traced : ∀ i, Traced C config req es i (w.phase i)
  accepted : ∀ i, .verified i (.ok ()) ∈ es → w.phase i = .done (.ok ())
  pieces : ∀ e, .bridge e ∈ es → verifies e = false

variable {C commandRequest config req} {es : List (Event ι)} {w : World ι}

lemma accounted_start (c₀ : ℤ) : Accounted C commandRequest config req [] (.start c₀) where
  signed := rfl
  reached _ := List.countP_nil
  genuine _ h := absurd rfl h
  begun _ h := absurd rfl h
  traced _ := trivial
  accepted _ h := by cases h
  pieces _ h := by cases h

omit [DecidableEq ι] in
lemma Genuine.mono {w' : World ι} {i : ι} (h : Genuine C config req w i)
    (hsigned : ∀ text ∈ w.signed, text ∈ w'.signed) : Genuine C config req w' i :=
  fun route request hd hh hvalid => hsigned _ (h route request hd hh hvalid)

omit [DecidableEq ι] in
lemma Clocked.snoc {i : ι} {now : ℤ} (h : Clocked C config req es i now) (e : Event ι) :
    Clocked C config req (es ++ [e]) i now :=
  ⟨List.mem_append_left _ h.1, h.2⟩

omit [DecidableEq ι] in
lemma Traced.snoc {i : ι} {p : BridgeConcurrency.Phase} (h : Traced C config req es i p)
    (e : Event ι) : Traced C config req (es ++ [e]) i p := by
  cases p with
  | waiting => trivial
  | clocked now => exact List.mem_append_left _ h
  | done result =>
    intro hok
    obtain ⟨now, hnow⟩ := h hok
    exact ⟨now, hnow.snoc e⟩
  | verified | swept | admitted => exact Clocked.snoc h e

omit [DecidableEq ι] in
lemma Traced.dropped {i : ι} {p : BridgeConcurrency.Phase} (h : Traced C config req es i p) :
    Traced C config req es i (dropped p) := by
  cases p with
  | done => exact h
  | _ => trivial

/-- A signature adds a text and leaves the bridge alone. -/
lemma Accounted.sign (h : Accounted C commandRequest config req es w) {e : Event ι} {text : String}
    (htext : e.text C = some text) (hobserved : e.observed req = [])
    (hother : ∀ i, e ≠ .verified i (.ok ())) (hbridge : ∀ e', e ≠ .bridge e') :
    Accounted C commandRequest config req (es ++ [e]) (w.sign text) where
  signed := by
    rw [List.filterMap_append, ← h.signed]
    simp [World.sign, htext]
  reached i := by
    rw [List.flatMap_append, List.flatMap_singleton, hobserved, List.append_nil]
    exact h.reached i
  genuine i hi := (h.genuine i hi).mono fun _ ht => List.mem_append_left _ ht
  begun := h.begun
  traced i := (h.traced i).snoc e
  accepted i hmem := h.accepted i (by simpa [Ne.symm (hother i)] using hmem)
  pieces e' hmem := h.pieces e' (by simpa [Ne.symm (hbridge e')] using hmem)

/-- One atomic step is about one request, whose verification is not over. -/
lemma verification_phase {s t : BridgeConcurrency.State ι} {request : ι → Request}
    {e : BridgeConcurrency.Event ι} (h : BridgeConcurrency.Step C config.auth request s e t) :
    (∀ j, j ≠ e.owner → t.phase j = s.phase j) ∧ ∀ result, s.phase e.owner ≠ .done result := by
  cases h with
  | readClock hp | check hp | sweep hp | validate hp | insert hp =>
    refine ⟨fun j hj => Function.update_of_ne hj _ _, fun result hdone => ?_⟩
    rw [BridgeConcurrency.Event.owner, hp] at hdone
    cases hdone

lemma traced_verifying {v : BridgeConcurrency.State ι} {e : BridgeConcurrency.Event ι}
    (h : BridgeConcurrency.Step C config.auth (carried ∘ req) w.verification e v)
    (htraced : ∀ i, Traced C config req es i (w.phase i)) (i : ι) :
    Traced C config req (es ++ [.verifying e]) i (v.phase i) := by
  by_cases hi : i = e.owner
  · subst hi
    have howner := (htraced e.owner).snoc (.verifying e)
    cases h with
    | @readClock i now hp hc =>
      change Traced C config req _ i (Function.update w.phase i (.clocked now) i)
      rw [Function.update_self]
      exact List.mem_append_right _ (List.mem_singleton_self _)
    | @check i now hp =>
      change Traced C config req _ i (w.phase i) at howner
      change Traced C config req _ i (Function.update w.phase i
        (BridgeConcurrency.checked C config.auth (carried (req i)) now) i)
      rw [show w.phase i = .clocked now from hp] at howner
      rw [Function.update_self, BridgeConcurrency.checked]
      split_ifs with hskew hsignature
      · refine ⟨howner, ?_⟩
        simp only [reachesStore, Bool.and_eq_true]
        exact ⟨hskew, hsignature⟩
      · rintro ⟨⟩
      · rintro ⟨⟩
    | @sweep i now hp =>
      change Traced C config req _ i (w.phase i) at howner
      change Traced C config req _ i (Function.update w.phase i (.swept now) i)
      rw [show w.phase i = .verified now from hp] at howner
      rwa [Function.update_self]
    | @validate i now hp =>
      change Traced C config req _ i (w.phase i) at howner
      change Traced C config req _ i (Function.update w.phase i
        (BridgeConcurrency.admission w.bridge.nonces (carried (req i)) now) i)
      rw [show w.phase i = .swept now from hp] at howner
      rw [Function.update_self, BridgeConcurrency.admission]
      split_ifs
      · rintro ⟨⟩
      · exact howner
    | @insert i now hp =>
      change Traced C config req _ i (w.phase i) at howner
      change Traced C config req _ i (Function.update w.phase i
        (BridgeConcurrency.insertion w.bridge.nonces (carried (req i))) i)
      rw [show w.phase i = .admitted now from hp] at howner
      rw [Function.update_self]
      exact fun _ => ⟨now, howner⟩
  · rw [(verification_phase h).1 i hi]
    exact (htraced i).snoc _

lemma Accounted.verifying {v : BridgeConcurrency.State ι} {e : BridgeConcurrency.Event ι}
    {route : Route} {request : Request} (h : Accounted C commandRequest config req es w)
    (hp : w.bridge.task e.owner = .routed route)
    (hh : authRequest (req e.owner) (route.signedBody (req e.owner)) = .ok request)
    (hv : BridgeConcurrency.Step C config.auth (carried ∘ req) w.verification e v) :
    Accounted C commandRequest config req (es ++ [.verifying e]) (w.verifyTo v) where
  signed := by
    rw [List.filterMap_append, ← h.signed]
    exact (List.append_nil _).symm
  reached i := by
    rw [List.flatMap_append, List.flatMap_singleton, Event.observed, List.append_nil]
    exact h.reached i
  genuine := h.genuine
  begun i hi := by
    by_cases howner : i = e.owner
    · subst howner
      have hrouted := h.reached e.owner
      rw [hp] at hrouted
      rw [World.verifyTo, hp]
      exact ⟨nofun, route, request, hrouted.2, hh⟩
    · exact h.begun i fun hwaiting => hi (((verification_phase hv).1 i howner).trans hwaiting)
  traced := traced_verifying hv h.traced
  accepted i hmem := by
    have hdone := h.accepted i (by simpa using hmem)
    have howner : i ≠ e.owner := by
      rintro rfl
      exact (verification_phase hv).2 _ hdone
    exact ((verification_phase hv).1 i howner).trans hdone
  pieces e' hmem := h.pieces e' (by simpa using hmem)

variable (commandRequest) in
/-- The handler of a request never makes it one that has not come in. -/
lemma afterVerify_task (s : BridgeServer.State ι) (i : ι) (r : HttpRequest) (route : Route)
    (result : Except AuthError Unit) : ∃ next, next ≠ .received ∧
      (afterVerify commandRequest s i r route result).task = Function.update s.task i next := by
  cases result with
  | error => exact ⟨.finished, by simp, rfl⟩
  | ok =>
    cases route with
    | command action =>
      simp only [afterVerify]
      split
      · exact ⟨.finished, by simp, rfl⟩
      · exact ⟨.finished, by simp, rfl⟩
      · exact ⟨.accepted action, by simp, rfl⟩
    | _ => exact ⟨.serving, by simp, rfl⟩

lemma server_step_task {s t : BridgeServer.State ι} {e : BridgeServer.Event ι}
    (h : BridgeServer.Step C commandRequest config req s e t) :
    (∃ next, next ≠ .received ∧ t.task = Function.update s.task e.owner next) ∧
      (s.task e.owner = .received → e = .route e.owner) := by
  cases h with
  | respond => exact ⟨⟨.finished, by simp, rfl⟩, fun _ => rfl⟩
  | @route _ route => exact ⟨⟨.routed route, by simp, rfl⟩, fun _ => rfl⟩
  | verify hp => exact ⟨afterVerify_task _ _ _ _ _ _, fun hr => by cases hp.symm.trans hr⟩
  | @audit i action written hp =>
    refine ⟨?_, fun hr => by cases hp.symm.trans hr⟩
    cases written with
    | false => exact ⟨.finished, by simp, rfl⟩
    | true =>
      simp only [afterAudit, not_true_eq_false, if_false]
      split_ifs
      · exact ⟨.finished, by simp, rfl⟩
      · exact ⟨.logged .sleep, by simp, Function.update_idem ..⟩
      · exact ⟨.logged action, by simp, rfl⟩
  | run hp => exact ⟨⟨.ran .., by simp, rfl⟩, fun hr => by cases hp.symm.trans hr⟩
  | missingHeader hp => exact ⟨⟨.finished, by simp, rfl⟩, fun hr => by cases hp.symm.trans hr⟩
  | serve hp => exact ⟨⟨.finished, by simp, rfl⟩, fun hr => by cases hp.symm.trans hr⟩
  | auditResult hp => exact ⟨⟨.finished, by simp, rfl⟩, fun hr => by cases hp.symm.trans hr⟩
  | @crash i hp =>
    refine ⟨⟨.finished, by simp, rfl⟩, fun hr => ?_⟩
    rw [show s.task i = .received from hr] at hp
    cases hp

/-- A step of the task of one request, which was either in before or comes in genuine. -/
lemma Accounted.become {s : BridgeServer.State ι} {e : Event ι} {i : ι} {next : Task}
    (h : Accounted C commandRequest config req es w) (htext : e.text C = none)
    (hreached : ∀ j, Reached commandRequest config req
      ((es ++ [e]).flatMap (Event.observed req)) j (s.task j))
    (htask : s.task = Function.update w.bridge.task i next) (hnext : next ≠ .received)
    (hgenuine : Genuine C config req w i)
    (hverified : ∀ j, e = .verified j (.ok ()) → w.phase j = .done (.ok ()))
    (hbridge : ∀ e', e = .bridge e' → verifies e' = false) :
    Accounted C commandRequest config req (es ++ [e]) { w with bridge := s } where
  signed := by
    rw [List.filterMap_append, ← h.signed]
    simp [htext]
  reached := hreached
  genuine j hj := by
    by_cases hji : j = i
    · exact hji ▸ hgenuine
    · rw [htask, Function.update_of_ne hji] at hj
      exact h.genuine j hj
  begun j hj := by
    refine ⟨?_, (h.begun j hj).2⟩
    rw [htask]
    by_cases hji : j = i
    · rwa [hji, Function.update_self]
    · rw [Function.update_of_ne hji]
      exact (h.begun j hj).1
  traced j := (h.traced j).snoc e
  accepted j hmem := by
    rcases List.mem_append.mp hmem with hmem | hmem
    · exact h.accepted j hmem
    · exact hverified j (List.mem_singleton.mp hmem).symm
  pieces e' hmem := by
    rcases List.mem_append.mp hmem with hmem | hmem
    · exact h.pieces e' hmem
    · exact hbridge e' (List.mem_singleton.mp hmem).symm

lemma Accounted.verified {i : ι} {route : Route} {request : Request}
    {result : Except AuthError Unit} (h : Accounted C commandRequest config req es w)
    (hp : w.bridge.task i = .routed route)
    (hh : authRequest (req i) (route.signedBody (req i)) = .ok request)
    (hd : w.phase i = .done result) :
    Accounted C commandRequest config req (es ++ [.verified i result])
      { w with bridge := afterVerify commandRequest w.bridge i (req i) route result } := by
  have hrouted := h.reached i
  rw [hp] at hrouted
  obtain ⟨next, hnext, htask⟩ := afterVerify_task commandRequest w.bridge i (req i) route result
  refine h.become rfl ?_ htask hnext (h.genuine i (by rw [hp]; exact nofun)) ?_ nofun
  · intro j
    rw [List.flatMap_append, List.flatMap_singleton, Event.observed, carried_eq hrouted.2 hh]
    exact reached_afterVerify h.reached hp hh j
  · intro j hj
    obtain ⟨rfl, rfl⟩ := Event.verified.inj hj
    exact hd

lemma Accounted.bridge {s : BridgeServer.State ι} {e : BridgeServer.Event ι}
    (h : Accounted C commandRequest config req es w)
    (hs : BridgeServer.Step C commandRequest config req w.bridge e s) (hv : verifies e = false)
    (hunforged : Unforged C config req w e) :
    Accounted C commandRequest config req (es ++ [.bridge e]) { w with bridge := s } := by
  obtain ⟨⟨next, hnext, htask⟩, hreceived⟩ := server_step_task hs
  refine h.become rfl ?_ htask hnext ?_ nofun ?_
  · intro j
    rw [List.flatMap_append, List.flatMap_singleton, Event.observed]
    exact reached_step hs h.reached j
  · by_cases hr : w.bridge.task e.owner = .received
    · rw [hreceived hr] at hunforged
      exact hunforged
    · exact h.genuine _ hr
  · intro e' he'
    rwa [← Event.bridge.inj he']

/-- A restart ends what is under way, and runs nothing. -/
lemma Accounted.restart (h : Accounted C commandRequest config req es w) (now : ℤ) :
    Accounted C commandRequest config req (es ++ [.restart now]) (w.restart now) where
  signed := by
    rw [List.filterMap_append, ← h.signed]
    exact (List.append_nil _).symm
  reached i := by
    rw [List.flatMap_append, List.flatMap_singleton, Event.observed, List.append_nil,
      World.restart_task]
    have hi := h.reached i
    cases htask : w.bridge.task i with
    | received => rwa [htask] at hi
    | _ => exact hi.count_le
  genuine i hi := h.genuine i fun hr => hi (by rw [World.restart_task, hr, stopped])
  begun i hi := by
    obtain ⟨htask, hhandled⟩ :=
      h.begun i fun hwaiting => hi (by rw [World.restart_phase, hwaiting, dropped])
    refine ⟨?_, hhandled⟩
    rw [World.restart_task]
    cases hr : w.bridge.task i with
    | received => exact absurd hr htask
    | _ => exact nofun
  traced i := (h.traced i).dropped.snoc _
  accepted i hmem := by
    rw [World.restart_phase, h.accepted i (by simpa using hmem), dropped]
  pieces e' hmem := h.pieces e' (by simpa using hmem)

lemma Accounted.setBack (h : Accounted C commandRequest config req es w) (clock : ℤ) :
    Accounted C commandRequest config req (es ++ [.setBack clock]) { w with clock := clock } where
  signed := by
    rw [List.filterMap_append, ← h.signed]
    exact (List.append_nil _).symm
  reached i := by
    rw [List.flatMap_append, List.flatMap_singleton, Event.observed, List.append_nil]
    exact h.reached i
  genuine := h.genuine
  begun := h.begun
  traced i := (h.traced i).snoc _
  accepted i hmem := h.accepted i (by simpa using hmem)
  pieces e' hmem := h.pieces e' (by simpa using hmem)

variable {secret : String}

lemma accounted_step {e : Event ι} {v : World ι}
    (hs : Step C commandRequest config secret req w e v)
    (h : Accounted C commandRequest config req es w) :
    Accounted C commandRequest config req (es ++ [e]) v := by
  cases hs with
  | command => exact h.sign rfl rfl nofun nofun
  | signedGet => exact h.sign rfl rfl nofun nofun
  | signManifest => exact h.sign rfl rfl nofun nofun
  | verifying hp hh hv => exact h.verifying hp hh hv
  | verified hp hh hd => exact h.verified hp hh hd
  | bridge hserver hv hunforged => exact h.bridge hserver hv hunforged
  | restart => exact h.restart _
  | setBack => exact h.setBack _

theorem accounted_run {c₀ : ℤ}
    (h : (world C commandRequest config secret req).Run (.start c₀) es w) :
    Accounted C commandRequest config req es w :=
  h.history (fun _ _ _ _ hst hJ => accounted_step hst hJ) (accounted_start c₀)

end Invariants

/-! ### Back to the command that was signed -/

section Source
variable {C : Crypto} {req : ι → HttpRequest}

lemma newline_notMem_path (action : PowerAction) : '\n' ∉ action.path.toList := by
  cases action <;> decide

lemma newline_notMem_filePath (file : FirmwareFile) : '\n' ∉ file.path.toList := by
  cases file <;> decide

/-- The only texts that are signed for a power action are those of its commands. -/
lemma command_of_text {e : Event ι} {action : PowerAction} {request : Request}
    (h : e.text C = some (requestText C request)) (hmethod : request.method = "POST")
    (hpath : request.path = action.path) :
    ∃ secs random uptime, e = .command action secs random uptime ∧
      request.nonce = BridgeClient.nonce random uptime ∧
      request.timestamp = secs.toInt64.toInt := by
  simp only [requestText, hmethod, hpath] at h
  cases e with
  | command a secs random uptime =>
    obtain ⟨-, ha, ht, hn, -⟩ := covered_of_canonicalString_eq (by decide) (by decide)
      (newline_notMem_path a) (newline_notMem_path action) (Option.some.inj h)
    rw [PowerAction.path_injective ha]
    exact ⟨secs, random, uptime, rfl, hn.symm, ht.symm⟩
  | signedGet file secs random uptime =>
    obtain ⟨hm, -⟩ := covered_of_canonicalString_eq (by decide) (by decide)
      (newline_notMem_filePath file) (newline_notMem_path action) (Option.some.inj h)
    exact absurd hm (by decide)
  | signManifest =>
    exact (OtaManifest.canonicalString_ne_request _ _ _ _ _ _ _ _ _
      (Option.some.inj h).symm).elim
  | _ => cases h

/-- A text that reads as a request carries the stamp of a request of the firmware. -/
lemma stamped_of_text {e : Event ι} {request : Request}
    (h : e.text C = some (requestText C request)) (hmethod : '\n' ∉ request.method.toList)
    (hpath : '\n' ∉ request.path.toList) :
    e.stamped = some (request.nonce, request.timestamp) := by
  cases e with
  | command a secs random uptime =>
    obtain ⟨-, -, ht, hn, -⟩ := covered_of_canonicalString_eq (by decide) hmethod
      (newline_notMem_path a) hpath (Option.some.inj h)
    rw [Event.stamped, ht, hn]
  | signedGet file secs random uptime =>
    obtain ⟨-, -, ht, hn, -⟩ := covered_of_canonicalString_eq (by decide) hmethod
      (newline_notMem_filePath file) hpath (Option.some.inj h)
    rw [Event.stamped, ht, hn]
  | signManifest =>
    exact (OtaManifest.canonicalString_ne_request _ _ _ _ _ _ _ _ _
      (Option.some.inj h).symm).elim
  | _ => cases h

lemma newline_notMem_of_routeOf {path : String} {route : Route} (h : routeOf path = some route) :
    '\n' ∉ path.toList := by
  cases route with
  | command action =>
    rw [routeOf_command h]
    exact newline_notMem_path action
  | _ =>
    unfold routeOf at h
    split_ifs at h with hstatus hmanifest hfirmware
    · rw [hstatus]
      decide
    · rw [hmanifest]
      decide
    · rw [hfirmware]
      decide
    · simp at h

/-- A request that has a handler is one line of text in its method and its path. -/
lemma newline_notMem_of_dispatch {r : HttpRequest} {route : Route} (h : dispatch r = .inr route) :
    '\n' ∉ r.method.toList ∧ '\n' ∉ r.path.toList := by
  unfold dispatch at h
  cases hroute : routeOf r.path with
  | none => simp [hroute] at h
  | some route' =>
    refine ⟨?_, newline_notMem_of_routeOf hroute⟩
    by_cases hallows : route'.allows r.method = true
    · cases route' with
      | command =>
        rw [Route.allows, beq_iff_eq] at hallows
        rw [hallows]
        decide
      | _ =>
        simp only [Route.allows, Bool.or_eq_true, beq_iff_eq] at hallows
        rcases hallows with hget | hhead
        · rw [hget]
          decide
        · rw [hhead]
          decide
    · simp [hroute, hallows] at h

end Source

section Delivery
variable [DecidableEq ι] {C : Crypto} {commandRequest : List UInt8 → Option Bool}
  {config : ServerConfig} {secret : String} {req : ι → HttpRequest} {c₀ : ℤ}
  {pre post es : List (Event ι)} {w : World ι}

lemma executorCall_injective : Function.Injective executorCall := by
  intro a b h
  cases a <;> cases b <;> first | rfl | exact absurd h (by decide)

/-- A request with a valid signature that is in has been signed, with its own stamp. -/
lemma Accounted.stamped (h : Accounted C commandRequest config req es w) {i : ι}
    (hi : w.bridge.task i ≠ .received) (hhandled : Handled req i)
    (hvalid : signatureValid C config.auth (carried (req i)) = true) :
    ((carried (req i)).nonce, (carried (req i)).timestamp) ∈ es.filterMap Event.stamped := by
  obtain ⟨route, request, hd, hh⟩ := hhandled
  rw [carried_eq hd hh] at hvalid ⊢
  have hsigned := h.genuine i hi route request hd hh hvalid
  rw [h.signed, List.mem_filterMap] at hsigned
  obtain ⟨source, hsource, htext⟩ := hsigned
  have hline := newline_notMem_of_dispatch hd
  have hrequest := authRequest_eq hh
  exact List.mem_filterMap.mpr ⟨source, hsource,
    stamped_of_text htext (hrequest.1 ▸ hline.1) (hrequest.2.1 ▸ hline.2)⟩

/-- An executor runs for a request that was verified, and whose method and path are those of its
action. -/
lemma verified_before {i : ι} {calls : List ExecutorCall} {t : World ι}
    (h : (world C commandRequest config secret req).Run (.start c₀) pre w)
    (hrun : Step C commandRequest config secret req w (.bridge (.run i calls)) t)
    (hne : calls ≠ []) : ∃ action, calls = [executorCall action] ∧ .verified i (.ok ()) ∈ pre ∧
      (carried (req i)).method = "POST" ∧ (carried (req i)).path = action.path := by
  have hacc := accounted_run h
  cases hrun with
  | bridge hserver =>
    obtain ⟨action, htask, -, hcalls⟩ := run_event hserver hne
    have hreached := hacc.reached i
    rw [htask] at hreached
    obtain ⟨-, -, first, request, now, middle, last, hes, hcovers⟩ := hreached
    obtain ⟨hmem, rfl⟩ := Event.mem_observed_verified
      (show .verify i request now (.ok ()) ∈ pre.flatMap (Event.observed req) by
        rw [hes]
        simp) hacc.pieces
    exact ⟨action, hcalls, hmem, hcovers.1, hcovers.2.1⟩

/-- A verification that ends well has the nonce from its header, and has read the clock. -/
lemma clocked_before {i : ι} {t : World ι}
    (h : (world C commandRequest config secret req).Run (.start c₀) pre w)
    (hend : Step C commandRequest config secret req w (.verified i (.ok ())) t) :
    headerStr (req i).headers "x-nonce" = .ok (carried (req i)).nonce ∧
      ∃ now, Clocked C config req pre i now := by
  have hacc := accounted_run h
  cases hend with
  | verified hp hh hd =>
    have hrouted := hacc.reached i
    rw [hp] at hrouted
    have htraced := hacc.traced i
    rw [hd] at htraced
    refine ⟨?_, htraced rfl⟩
    rw [carried_eq hrouted.2 hh]
    exact (authRequest_eq hh).2.2.2

/-- A request whose signature verifies was signed before its verification read the clock. -/
lemma signed_before {e : BridgeConcurrency.Event ι} {t : World ι}
    (h : (world C commandRequest config secret req).Run (.start c₀) pre w)
    (hread : Step C commandRequest config secret req w (.verifying e) t)
    (hvalid : signatureValid C config.auth (carried (req e.owner)) = true) :
    ∃ source ∈ pre, source.text C = some (requestText C (carried (req e.owner))) := by
  have hacc := accounted_run h
  cases hread with
  | @verifying _ route request _ hp hh =>
    have hrouted := hacc.reached e.owner
    rw [hp] at hrouted
    have hcarried := carried_eq hrouted.2 hh
    have hsigned := hacc.genuine e.owner (by simp [hp]) route request hrouted.2 hh
      (hcarried ▸ hvalid)
    rw [hacc.signed, List.mem_filterMap] at hsigned
    rwa [hcarried]

/-- What an executor run goes back to: a command of its action with the nonce of its request, and
then a clock reading near its timestamp and a verification that succeeds. -/
lemma command_before {i : ι} {calls : List ExecutorCall}
    (h : (world C commandRequest config secret req).Run (.start c₀)
      (pre ++ .bridge (.run i calls) :: post) w) (hne : calls ≠ []) :
    ∃ action before secs random uptime after now, calls = [executorCall action] ∧
      pre = before ++ .command action secs random uptime :: after ∧
      .verifying (.readClock i now) ∈ after ∧ .verified i (.ok ()) ∈ after ∧
      headerStr (req i).headers "x-nonce" = .ok (carried (req i)).nonce ∧
      (carried (req i)).nonce = BridgeClient.nonce random uptime ∧
      withinSkew config.auth.allowedSkewSeconds now secs.toInt64.toInt = true := by
  obtain ⟨v, _, hpre, hrun, -⟩ := h.split
  obtain ⟨action, hcalls, hverified, hmethod, hpath⟩ := verified_before hpre hrun hne
  -- back from the end of the verification to its clock reading
  obtain ⟨upto, rest, rfl⟩ := List.append_of_mem hverified
  obtain ⟨u, _, hupto, hend, -⟩ := hpre.split
  obtain ⟨hheader, now, hclock, hreach⟩ := clocked_before hupto hend
  simp only [reachesStore, Bool.and_eq_true] at hreach
  -- and from there to the text that was signed before the request came in
  obtain ⟨front, mid, rfl⟩ := List.append_of_mem hclock
  obtain ⟨s, _, hfront, hread, -⟩ := hupto.split
  obtain ⟨e, hmem, htext⟩ := signed_before hfront hread hreach.2
  obtain ⟨secs, random, uptime, rfl, hnonce, htimestamp⟩ := command_of_text htext hmethod hpath
  obtain ⟨before, between, rfl⟩ := List.append_of_mem hmem
  refine ⟨action, before, secs, random, uptime,
    between ++ .verifying (.readClock i now) :: mid ++ .verified i (.ok ()) :: rest, now, hcalls,
    by simp, by simp, by simp, hheader, hnonce, ?_⟩
  rw [← htimestamp]
  exact hreach.1

/-! ### One executor run for a command -/

/-- Requests with one nonce have one timestamp, as the firmware does not repeat its nonces. -/
lemma Accounted.sameStamp (h : Accounted C commandRequest config req es w)
    (hnonces : ((es.filterMap Event.stamped).map Prod.fst).Nodup) {i : ι}
    (hi : w.bridge.task i ≠ .received) (hhandled : Handled req i) :
    BridgeConcurrency.SameStamp C config.auth (carried ∘ req) w.verification i := by
  intro j hj hvalid hvalid' hnonce
  obtain ⟨hj', hhandled'⟩ := h.begun j fun hwaiting => by cases hwaiting.symm.trans hj
  have hstamp := h.stamped hi hhandled hvalid
  have hstamp' := h.stamped hj' hhandled' hvalid'
  exact congrArg Prod.snd (List.inj_on_of_nodup_map hnonces hstamp hstamp' hnonce)

lemma server_step_nonces {s t : BridgeServer.State ι} {e : BridgeServer.Event ι}
    (h : BridgeServer.Step C commandRequest config req s e t) (he : verifies e = false) :
    t.nonces = s.nonces := by
  cases h with
  | verify => cases he
  | @audit i action written hp =>
    simp only [afterAudit]
    split_ifs <;> rfl
  | _ => rfl

lemma afterVerify_nonces (s : BridgeServer.State ι) (i : ι) (r : HttpRequest) (route : Route)
    (result : Except AuthError Unit) :
    (afterVerify commandRequest s i r route result).nonces = s.nonces := by
  cases result with
  | error => rfl
  | ok =>
    cases route with
    | command action =>
      simp only [afterVerify]
      split <;> rfl
    | _ => rfl

lemma dropped_eq_done {p : BridgeConcurrency.Phase} {result : Except AuthError Unit} :
    dropped p = .done result ↔ p = .done result := by
  cases p <;> simp [dropped]

lemma dropped_reading (p : BridgeConcurrency.Phase) : (dropped p).reading = none := by
  cases p <;> rfl

lemma dropped_checkedReading (p : BridgeConcurrency.Phase) :
    (dropped p).checkedReading = none := by
  cases p <;> rfl

omit [DecidableEq ι] in
/-- After a restart nothing is in flight, and what was on record is past its window. -/
lemma sound_restart {now : ℤ} (hc : w.clock ≤ now)
    (hforgets : ¬ Forgets C config req w (.restart now))
    (h : BridgeConcurrency.Sound C config.auth (carried ∘ req) w.verification) :
    BridgeConcurrency.Sound C config.auth (carried ∘ req) (w.restart now).verification := by
  have haccepted : ∀ i, (w.restart now).verification.accepted i → w.verification.accepted i :=
    fun i hi => dropped_eq_done.mp hi
  constructor
  · exact fun n t hlook => by cases hlook
  · exact fun i m hm => by cases (dropped_reading (w.phase i)).symm.trans hm
  · exact fun i m hm => by cases (dropped_checkedReading (w.phase i)).symm.trans hm
  · exact fun i hi => h.signed i (haccepted i hi)
  · intro i hi
    refine .inr ⟨?_, ?_⟩
    · change _ < now
      have hclock : w.verification.clock ≤ now := hc
      rcases h.guarded i (haccepted i hi) with hlook | ⟨hover, -⟩
      · have hfuture := h.future _ _ hlook
        have hout : ¬ withinSkew config.auth.allowedSkewSeconds now
            (carried (req i)).timestamp = true := fun hin => hforgets ⟨_, _, hlook, hin⟩
        rw [withinSkew_iff] at hout
        simp only [Function.comp_apply] at hfuture ⊢
        omega
      · omega
    · rintro j - ⟨m, hm, -⟩
      cases (dropped_reading (w.phase j)).symm.trans hm
  · exact fun i j hi hj => h.unique i j (haccepted i hi) (haccepted j hj)

lemma sound_step {e : Event ι} {v : World ι} (h : Accounted C commandRequest config req es w)
    (hnonces : ((es.filterMap Event.stamped).map Prod.fst).Nodup)
    (hst : Step C commandRequest config secret req w e v) (hforgets : ¬ Forgets C config req w e)
    (hsound : BridgeConcurrency.Sound C config.auth (carried ∘ req) w.verification) :
    BridgeConcurrency.Sound C config.auth (carried ∘ req) v.verification := by
  cases hst with
  | command => exact hsound
  | signedGet => exact hsound
  | signManifest => exact hsound
  | @verifying e route request _ hp hh hv =>
    have hrouted := h.reached e.owner
    rw [hp] at hrouted
    have hstamp := h.sameStamp hnonces (by rw [hp]; exact nofun) ⟨route, request, hrouted.2, hh⟩
    exact BridgeConcurrency.sound_step hv hstamp hforgets hsound
  | verified =>
    rw [World.verification, afterVerify_nonces]
    exact hsound
  | bridge hserver hv =>
    rw [World.verification, server_step_nonces hserver hv]
    exact hsound
  | restart hc => exact sound_restart hc hforgets hsound
  | setBack => exact absurd trivial hforgets

theorem sound_run (h : ((world C commandRequest config secret req).restrict fun w e =>
      ¬ Forgets C config req w e).Run (.start c₀) es w)
    (hnonces : ((es.filterMap Event.stamped).map Prod.fst).Nodup) :
    BridgeConcurrency.Sound C config.auth (carried ∘ req) w.verification := by
  refine (h.history (J := fun es w => Accounted C commandRequest config req es w ∧
    (((es.filterMap Event.stamped).map Prod.fst).Nodup →
      BridgeConcurrency.Sound C config.auth (carried ∘ req) w.verification)) ?_
    ⟨accounted_start c₀, fun _ => BridgeConcurrency.sound_start _ _ _ c₀⟩).2 hnonces
  rintro es v e v' ⟨hst, hforgets⟩ ⟨hacc, hsound⟩
  refine ⟨accounted_step hst hacc, fun hnonces' => ?_⟩
  rw [List.filterMap_append, List.map_append] at hnonces'
  exact sound_step hacc hnonces'.of_append_left hst hforgets (hsound hnonces'.of_append_left)

end Delivery

section Counting
variable [DecidableEq ι] {C : Crypto} {commandRequest : List UInt8 → Option Bool}
  {config : ServerConfig} {secret : String} {req : ι → HttpRequest} {c₀ : ℤ}
  {es : List (Event ι)} {w : World ι} {action : PowerAction}

/-- The request for which an event runs the executor of an action. -/
def executed (action : PowerAction) : Event ι → Option ι
  | .bridge (.run i calls) => if calls = [executorCall action] then some i else none
  | _ => none

def commandNonce (action : PowerAction) : Event ι → Option String
  | .command a _ random uptime =>
      if a = action then some (BridgeClient.nonce random uptime) else none
  | _ => none

omit [DecidableEq ι] in
lemma length_executed (es : List (Event ι)) :
    (es.filterMap (executed action)).length = es.countP (Event.executes action) := by
  rw [List.length_filterMap_eq_countP]
  apply List.countP_congr
  intro e _
  cases e with
  | bridge e =>
    cases e with
    | run i calls => by_cases hcalls : calls = [executorCall action] <;>
        simp [executed, Event.executes, hcalls]
    | _ => exact Iff.rfl
  | _ => exact Iff.rfl

omit [DecidableEq ι] in
lemma length_commandNonce (es : List (Event ι)) :
    (es.filterMap (commandNonce action)).length = es.countP (Event.commands action) := by
  rw [List.length_filterMap_eq_countP]
  apply List.countP_congr
  intro e _
  cases e with
  | command a => by_cases ha : a = action <;> simp [commandNonce, Event.commands, ha]
  | _ => exact Iff.rfl

omit [DecidableEq ι] in
lemma mem_executed {i : ι} :
    i ∈ es.filterMap (executed action) ↔ .bridge (.run i [executorCall action]) ∈ es := by
  rw [List.mem_filterMap]
  constructor
  · rintro ⟨e, hmem, he⟩
    cases e with
    | bridge e =>
      cases e with
      | run j calls =>
        rw [executed] at he
        split_ifs at he with hcalls
        rwa [← Option.some.inj he, ← hcalls]
      | _ => cases he
    | _ => cases he
  · intro hmem
    exact ⟨_, hmem, if_pos rfl⟩

/-- A request is counted at most as often as its executor runs. -/
lemma count_executed_le (req : ι → HttpRequest) (es : List (Event ι)) (i : ι) :
    (es.filterMap (executed action)).count i ≤
      (es.flatMap (Event.observed req)).countP (BridgeServer.Event.executes i) := by
  induction es with
  | nil => exact Nat.le_refl 0
  | cons e es ih =>
    rw [List.flatMap_cons, List.countP_append]
    cases he : executed action e with
    | none =>
      rw [List.filterMap_cons_none he]
      exact ih.trans (Nat.le_add_left _ _)
    | some j =>
      rw [List.filterMap_cons_some he, List.count_cons, Nat.add_comm]
      refine Nat.add_le_add ?_ ih
      by_cases hji : j = i
      · subst hji
        have hrun : e = .bridge (.run j [executorCall action]) := by
          have hmem : j ∈ [e].filterMap (executed action) := by simp [he]
          exact (List.mem_singleton.mp (mem_executed.mp hmem)).symm
        simp [hrun, Event.observed, BridgeServer.Event.executes]
      · simp [hji]

lemma nodup_executed (h : Accounted C commandRequest config req es w) :
    (es.filterMap (executed action)).Nodup :=
  List.nodup_iff_count_le_one.mpr fun i =>
    (count_executed_le req es i).trans (h.reached i).count_le

/-- The requests whose executor ran were accepted, each with the nonce of a command. -/
lemma accepted_of_executed (h : (world C commandRequest config secret req).Run (.start c₀) es w)
    {i : ι} (hi : i ∈ es.filterMap (executed action)) :
    w.verification.accepted i ∧ (carried (req i)).nonce ∈ es.filterMap (commandNonce action) := by
  obtain ⟨pre, post, rfl⟩ := List.append_of_mem (mem_executed.mp hi)
  obtain ⟨a, before, secs, random, uptime, after, now, hcalls, rfl, -, hverified, -, hnonce, -⟩ :=
    command_before h (List.cons_ne_nil _ _)
  obtain rfl := executorCall_injective (List.cons.inj hcalls).1
  refine ⟨(accounted_run h).accepted i (by simp [hverified]), ?_⟩
  rw [List.mem_filterMap]
  exact ⟨.command action secs random uptime, by simp, by simp [commandNonce, hnonce]⟩

variable (C commandRequest config secret req c₀)

/-- Whatever reaches the bridge, every executor run is for a command of its own action that was
sent before, and read the clock in its window. As long as no nonce is forgotten in its window, an
action is executed at most as often as the firmware has asked for it. -/
theorem executed_at_most_as_commanded :
    (∀ es w, (world C commandRequest config secret req).Run (.start c₀) es w →
      ∀ pre i calls post, es = pre ++ .bridge (.run i calls) :: post → calls ≠ [] →
        ∃ action before secs random uptime after now, calls = [executorCall action] ∧
          pre = before ++ .command action secs random uptime :: after ∧
          .verifying (.readClock i now) ∈ after ∧ .verified i (.ok ()) ∈ after ∧
          headerStr (req i).headers "x-nonce" = .ok (BridgeClient.nonce random uptime) ∧
          withinSkew config.auth.allowedSkewSeconds now secs.toInt64.toInt = true) ∧
    ∀ es w, ((world C commandRequest config secret req).restrict fun w e =>
        ¬ Forgets C config req w e).Run (.start c₀) es w →
      ((es.filterMap Event.stamped).map Prod.fst).Nodup →
      ∀ action, es.countP (Event.executes action) ≤ es.countP (Event.commands action) := by
  constructor
  · rintro es w h pre i calls post rfl hne
    obtain ⟨action, before, secs, random, uptime, after, now, hcalls, hpre, hclock, hverified,
      hheader, hnonce, hskew⟩ := command_before h hne
    exact ⟨action, before, secs, random, uptime, after, now, hcalls, hpre, hclock, hverified,
      hnonce ▸ hheader, hskew⟩
  · intro es w h hnonces action
    have hrun := h.of_restrict
    have hsound := sound_run h hnonces
    rw [← length_executed, ← length_commandNonce,
      ← List.length_map (fun i => (carried (req i)).nonce)]
    have hnodup : ((es.filterMap (executed action)).map
        fun i => (carried (req i)).nonce).Nodup := by
      refine (nodup_executed (accounted_run hrun)).map_on fun i hi j hj heq => ?_
      exact hsound.unique i j (accepted_of_executed hrun hi).1 (accepted_of_executed hrun hj).1 heq
    refine (List.subperm_of_subset hnodup fun nonce hmem => ?_).length_le
    obtain ⟨i, hi, rfl⟩ := List.mem_map.mp hmem
    exact (accepted_of_executed hrun hi).2

end Counting

section Reboot

def rebootConfig : ServerConfig := ⟨⟨utf8 "key", 60⟩, false⟩

def rebootSigned : Request :=
  signedRequest .standard "key" "POST" "/reboot" 1700000000 255 16 (utf8 BridgeClient.body)

/-- The request as it arrives, and its copy. -/
def rebootArrives (_ : Bool) : HttpRequest where
  method := "POST"
  path := "/reboot"
  headers := [] ++ signedHeaders .standard "key" "POST" "/reboot" 1700000000 255 16
    (utf8 BridgeClient.body)
  body := utf8 BridgeClient.body

def rebootStore : NonceStore := AList.insert rebootSigned.nonce 1700000000 ∅

/-- The copy is verified side by side with the request. -/
def rebootTwice : List (Event Bool) :=
  [.command .reboot 1700000000 255 16, .bridge (.route true), .bridge (.route false)] ++
    [.readClock true 1700000001, .check true, .readClock false 1700000002, .check false,
      .sweep true, .sweep false, .validate true, .insert true, .validate false,
      .insert false].map .verifying ++
    [.verified true (.ok ()), .bridge (.audit true "reboot" false "accepted" true),
      .bridge (.run true [.shutdown ["/r", "/t", "0"]]), .verified false (.error .replay)]

lemma authRequest_rebootArrives (i : Bool) :
    authRequest (rebootArrives i) (utf8 BridgeClient.body) = .ok rebootSigned :=
  authRequest_signed (fun _ _ => Sha256.length_digest _) (by simp [Unsigned]) (by decide)

lemma carried_rebootArrives (i : Bool) : carried (rebootArrives i) = rebootSigned := by
  have hd : dispatch (rebootArrives i) = .inr (.command .reboot) := rfl
  have hh : authRequest (rebootArrives i) (Route.signedBody (.command .reboot) (rebootArrives i)) =
      .ok rebootSigned := authRequest_rebootArrives i
  rw [carried_eq hd hh]

lemma reachesStore_rebootArrives (i : Bool) {now : ℤ} (h : withinSkew 60 now 1700000000 = true) :
    reachesStore .standard rebootConfig.auth ((carried ∘ rebootArrives) i) now = true := by
  have hs : signatureValid .standard rebootConfig.auth rebootSigned = true :=
    signatureValid_signed rfl (by decide)
  have hw : withinSkew rebootConfig.auth.allowedSkewSeconds now rebootSigned.timestamp = true := h
  rw [Function.comp_apply, carried_rebootArrives, reachesStore, hs, hw]
  rfl

lemma insertRefused_rebootStore : insertRefused rebootStore rebootSigned.nonce = false := by
  have hwell : wellFormedNonce rebootSigned.nonce = true := wellFormedNonce_nonce 255 16
  have hsize : rebootStore.size = 1 := Table.size_insert_of_none 1700000000 rfl
  simp [insertRefused, hwell, hsize, maxEntries]

lemma insertRefused_rebootFirst : insertRefused ∅ rebootSigned.nonce = false := by
  have hwell : wellFormedNonce rebootSigned.nonce = true := wellFormedNonce_nonce 255 16
  have hsize : (∅ : NonceStore).size = 0 := rfl
  simp [insertRefused, hwell, hsize, maxEntries]

def rebootText : String :=
  canonicalString .standard "POST" "/reboot" (1700000000 : UInt64).toInt64.toInt
    (BridgeClient.nonce 255 16) (utf8 BridgeClient.body)

/-- The copies in a world in which nothing is forgotten. -/
def rebootWorld : System (World Bool) (Event Bool) :=
  (world .standard (commandRequest decodeConfirmed) rebootConfig "key" rebootArrives).restrict
    fun w e => ¬ Forgets .standard rebootConfig rebootArrives w e

def rebootVerification : System (BridgeConcurrency.State Bool) (BridgeConcurrency.Event Bool) :=
  (BridgeConcurrency.bridge .standard rebootConfig.auth (carried ∘ rebootArrives)).restrict
    fun s e => ¬ BridgeConcurrency.EvictsLive .standard rebootConfig.auth
      (carried ∘ rebootArrives) s e

lemma run_verifying {v v' : BridgeConcurrency.State Bool}
    {es : List (BridgeConcurrency.Event Bool)} (h : rebootVerification.Run v es v')
    {w : World Bool} (hw : w.verification = v)
    (hp : ∀ i, w.bridge.task i = .routed (.command .reboot)) :
    rebootWorld.Run w (es.map .verifying) (w.verifyTo v') := by
  induction h generalizing w with
  | nil v =>
    subst hw
    exact .nil _
  | cons hst hrest ih =>
    subst hw
    refine .cons ⟨.verifying (hp _) (authRequest_rebootArrives _) hst.1, hst.2⟩ ?_
    exact ih (w := w.verifyTo _) rfl hp

lemma run_rebootVerification : ∃ phase : Bool → BridgeConcurrency.Phase,
    phase true = .done (.ok ()) ∧ phase false = .done (.error .replay) ∧
    rebootVerification.Run (.start 1700000000) [.readClock true 1700000001, .check true,
      .readClock false 1700000002, .check false, .sweep true, .sweep false, .validate true,
      .insert true, .validate false, .insert false] ⟨rebootStore, 1700000002, phase⟩ := by
  let P := BridgeConcurrency.bridge .standard rebootConfig.auth (carried ∘ rebootArrives)
  let start : BridgeConcurrency.State Bool := .start 1700000000
  let s₁ : BridgeConcurrency.State Bool :=
    ⟨∅, 1700000001, Function.update start.phase true (.verified 1700000001)⟩
  let s₂ : BridgeConcurrency.State Bool :=
    ⟨∅, 1700000002, Function.update s₁.phase false (.verified 1700000002)⟩
  let s₃ : BridgeConcurrency.State Bool :=
    ⟨∅, 1700000002, Function.update s₂.phase true (.swept 1700000001)⟩
  let s₄ : BridgeConcurrency.State Bool :=
    ⟨∅, 1700000002, Function.update s₃.phase false (.swept 1700000002)⟩
  let s₅ : BridgeConcurrency.State Bool :=
    ⟨rebootStore, 1700000002, Function.update s₄.phase true (.done (.ok ()))⟩
  let s₆ : BridgeConcurrency.State Bool :=
    ⟨rebootStore, 1700000002, Function.update s₅.phase false (.done (.error .replay))⟩
  have hfirst : P.Run start [.readClock true 1700000001, .check true] s₁ :=
    BridgeConcurrency.run_verified _ _ _ rfl (by decide)
      (reachesStore_rebootArrives true (by decide))
  have hsecond : P.Run s₁ [.readClock false 1700000002, .check false] s₂ :=
    BridgeConcurrency.run_verified _ _ _ rfl (by decide)
      (reachesStore_rebootArrives false (by decide))
  have hsweep₁ : P.step s₂ (.sweep true) s₃ :=
    BridgeConcurrency.Step.sweep (show s₂.phase true = .verified 1700000001 by rfl)
  have hsweep₂ : P.step s₃ (.sweep false) s₄ :=
    BridgeConcurrency.Step.sweep (show s₃.phase false = .verified 1700000002 by rfl)
  have hinsert₁ : P.Run s₄ [.validate true, .insert true] s₅ := by
    have h := BridgeConcurrency.run_insertion .standard rebootConfig.auth (carried ∘ rebootArrives)
      (show s₄.phase true = .swept 1700000001 by rfl)
    rw [Function.comp_apply, carried_rebootArrives] at h
    exact h insertRefused_rebootFirst
  have hinsert₂ : P.Run s₅ [.validate false, .insert false] s₆ := by
    have h := BridgeConcurrency.run_insertion .standard rebootConfig.auth (carried ∘ rebootArrives)
      (show s₅.phase false = .swept 1700000002 by rfl)
    rw [Function.comp_apply, carried_rebootArrives] at h
    have hlook : rebootStore.lookup rebootSigned.nonce = some 1700000000 := AList.lookup_insert _
    have hstore : rebootStore.insert rebootSigned.nonce rebootSigned.timestamp = rebootStore :=
      AList.insert_insert _
    have hsame := h insertRefused_rebootStore
    rw [BridgeConcurrency.insertion, hlook, hstore] at hsame
    exact hsame
  -- a sweep of an empty store forgets nothing
  have hempty (i : Bool) {s : BridgeConcurrency.State Bool} (hs : s.seen = ∅) :
      ¬ BridgeConcurrency.EvictsLive .standard rebootConfig.auth (carried ∘ rebootArrives) s
        (.sweep i) := by
    rintro ⟨now, n, t, -, hlook, -⟩
    simp [hs] at hlook
  have hquiet {s t : BridgeConcurrency.State Bool} {es : List (BridgeConcurrency.Event Bool)}
      (h : P.Run s es t) (hes : ∀ i, .sweep i ∉ es) : rebootVerification.Run s es t :=
    h.to_restrict fun s e he hlive => by
      cases e with
      | sweep i => exact hes i he
      | _ => exact hlive
  exact ⟨s₆.phase, rfl, rfl, (hquiet (hfirst.append hsecond) (by simp)).append
    (.cons ⟨hsweep₁, hempty true rfl⟩ (.cons ⟨hsweep₂, hempty false rfl⟩
      (hquiet (hinsert₁.append hinsert₂) (by simp))))⟩

lemma run_rebootTwice : ∃ w, rebootWorld.Run (.start 1700000000) rebootTwice w := by
  obtain ⟨phase, hfirst, hcopy, hverification⟩ := run_rebootVerification
  let sent : World Bool := (World.start 1700000000).sign rebootText
  let routed (w : World Bool) (i : Bool) : World Bool :=
    { w with bridge := w.bridge.become i (.routed (.command .reboot)) }
  let arrived : World Bool := routed (routed sent true) false
  let checked : World Bool := arrived.verifyTo ⟨rebootStore, 1700000002, phase⟩
  have hsynced : minValidUnixTime ≤ (1700000000 : UInt64).toNat := by decide
  obtain ⟨r, hr, -⟩ := transmit_sendCommand .standard "key" 255 16 hsynced (by decide) .reboot []
  have hsend : rebootWorld.step (.start 1700000000) (.command .reboot 1700000000 255 16) sent :=
    ⟨.command hr, not_false⟩
  have hgenuine (w : World Bool) (i : Bool) (hw : w.signed = [rebootText]) :
      Unforged .standard rebootConfig rebootArrives w (.route i) := by
    rintro route request hd hh -
    have hrequest : request = rebootSigned :=
      (carried_eq hd hh).symm.trans (carried_rebootArrives i)
    rw [hrequest, hw, rebootText, toInt_toInt64 (by decide)]
    exact List.mem_singleton_self _
  have hroute (w : World Bool) (i : Bool) (hw : w.signed = [rebootText])
      (hi : w.bridge.task i = .received) : rebootWorld.step w (.bridge (.route i)) (routed w i) :=
    ⟨.bridge (.route hi rfl) rfl (hgenuine w i hw), not_false⟩
  have hverify : rebootWorld.Run arrived _ checked :=
    run_verifying (v := ⟨∅, 1700000000, fun _ => .waiting⟩) hverification rfl
      fun i => by cases i <;> rfl
  have hconfirm : commandRequest decodeConfirmed (utf8 BridgeClient.body) = some true := by
    simp [commandRequest, decodeConfirmed, CommandRequest.ofJson]
  let accepted : World Bool :=
    { checked with bridge := checked.bridge.become true (.accepted .reboot) }
  let logged : World Bool :=
    { accepted with bridge := accepted.bridge.become true (.logged .reboot) }
  let ran : World Bool := { logged with
    bridge := logged.bridge.become true (.ran .reboot (runPowerAction .reboot false (.ok ())).2) }
  have haccept : rebootWorld.step checked (.verified true (.ok ())) accepted := by
    have hstep := @Step.verified _ _ .standard (commandRequest decodeConfirmed) rebootConfig "key"
      rebootArrives checked true (.command .reboot) _ _ rfl (authRequest_rebootArrives true) hfirst
    simp only [afterVerify, rebootArrives, hconfirm] at hstep
    exact ⟨hstep, not_false⟩
  have haudit : rebootWorld.step accepted
      (.bridge (.audit true "reboot" false "accepted" true)) logged :=
    ⟨.bridge (@BridgeServer.Step.audit _ _ _ _ rebootConfig _ _ true .reboot true rfl) rfl trivial,
      not_false⟩
  have hrun : rebootWorld.step logged (.bridge (.run true [.shutdown ["/r", "/t", "0"]])) ran :=
    ⟨.bridge (@BridgeServer.Step.run _ _ _ _ rebootConfig _ _ true .reboot (.ok ()) rfl) rfl
      trivial, not_false⟩
  have hrouted : ran.bridge.task false = .routed (.command .reboot) := rfl
  have hrefuse : rebootWorld.step ran (.verified false (.error .replay)) _ :=
    ⟨.verified hrouted (authRequest_rebootArrives false) hcopy, not_false⟩
  exact ⟨_, ((System.Run.cons hsend (.cons (hroute sent true rfl rfl)
    (.one (hroute _ false rfl rfl)))).append hverify).append
    (.cons haccept (.cons haudit (.cons hrun (.one hrefuse))))⟩

/-- The copy is refused, and the one executor run is for the one command. -/
theorem executed_at_most_as_commanded_replay :
    rebootTwice.countP (Event.executes .reboot) ≤ rebootTwice.countP (Event.commands .reboot) ∧
      ∃ before secs random uptime after now,
        rebootTwice.take 15 = before ++ .command .reboot secs random uptime :: after ∧
        .verifying (.readClock true now) ∈ after ∧ .verified true (.ok ()) ∈ after ∧
        headerStr (rebootArrives true).headers "x-nonce" = .ok (BridgeClient.nonce random uptime) ∧
        withinSkew 60 now secs.toInt64.toInt = true := by
  obtain ⟨w, hrun⟩ := run_rebootTwice
  have hdelivered := executed_at_most_as_commanded .standard (commandRequest decodeConfirmed)
    rebootConfig "key" rebootArrives 1700000000
  refine ⟨hdelivered.2 rebootTwice w hrun (List.nodup_singleton _) .reboot, ?_⟩
  obtain ⟨action, before, secs, random, uptime, after, now, hcalls, hpre, hclock, hverified,
    hheader, hskew⟩ := hdelivered.1 rebootTwice w hrun.of_restrict (rebootTwice.take 15) true
      [.shutdown ["/r", "/t", "0"]] (rebootTwice.drop 16) rfl (List.cons_ne_nil _ _)
  obtain rfl : PowerAction.reboot = action :=
    executorCall_injective (show executorCall .reboot = _ from (List.cons.inj hcalls).1)
  exact ⟨before, secs, random, uptime, after, now, hpre, hclock, hverified, hheader, hskew⟩

end Reboot

end PcRemote.CommandDelivery
