import PcRemote.BridgeConfig

/-! The bridge as a Windows service. The main thread loads the configuration, serves and tells the
service manager where it stands; a thread of its own waits for the stop control, tells that the
service is stopping and starts the graceful shutdown. The two interleave with the controls. -/
namespace PcRemote.WindowsService
open Transition BridgeConfig

inductive ServiceState
  | startPending
  | running
  | stopPending
  | stopped
  deriving DecidableEq, Repr

/-- A status told to the service manager, and whether it got there. -/
structure Report where
  state : ServiceState
  acceptsStop : Bool
  exitCode : ℕ
  delivered : Bool
  deriving DecidableEq, Repr

inductive Control
  | stop
  | shutdown
  | interrogate
  | other
  deriving DecidableEq, Repr

inductive HandlerResult
  | noError
  | notImplemented
  deriving DecidableEq, Repr

/-- Whether the stop thread is sent a message, and what the service manager is answered. -/
def eventHandler : Control → Bool × HandlerResult
  | .stop | .shutdown => (true, .noError)
  | .interrogate => (false, .noError)
  | .other => (false, .notImplemented)

/-- How far the main thread has come. -/
inductive Main
  | registering
  | starting
  | loading
  | building (config : AgentConfig)
  | announcing (config : AgentConfig)
  | announced (config : AgentConfig)
  | serving (config : AgentConfig)
  | ending (result : Except String Unit)
  | returned (result : Except String Unit)

/-- The stop thread: it waits for a message, has one, has told of it, has started the shutdown. -/
inductive Stopper
  | absent
  | waiting
  | stopping
  | told
  | signalled
  deriving DecidableEq, Repr

/-- The messages of the handler that have not been received, and whether the service manager takes
the service to accept the stop controls. -/
structure State where
  main : Main
  stopper : Stopper
  stops : ℕ
  accepts : Bool

def State.start : State := ⟨.registering, .absent, 0, false⟩

inductive Event
  | register (result : Except String Unit)
  | load (file : Except String String)
  | runtime (result : Except String Unit)
  | report (r : Report)
  | control (c : Control)
  | receive
  | signal
  | serve (config : AgentConfig)
  | served (result : Except String Unit)

def State.tell (s : State) (r : Report) : State :=
  { s with accepts := if r.delivered then r.acceptsStop else s.accepts }

def exitCode : Except String Unit → ℕ
  | .ok () => 0
  | .error _ => 1

section Model
variable (parse : String → Except (Option ℕ) Document) (path : String)

/-- A stop control comes only while the service is known to accept it. -/
inductive Step : State → Event → State → Prop
  | register {s : State} {result : Except String Unit} (hm : s.main = .registering) :
      Step s (.register result) { s with
        main := match result with
          | .ok () => .starting
          | .error e => .returned (.error e) }
  | startPending {s : State} {result : Except String Unit} (hm : s.main = .starting) :
      Step s (.report ⟨.startPending, false, 0, result.isOk⟩)
        { s.tell ⟨.startPending, false, 0, result.isOk⟩ with
          main := match result with
            | .ok () => .loading
            | .error e => .ending (.error e) }
  | load {s : State} {file : Except String String} (hm : s.main = .loading) :
      Step s (.load file) { s with
        main := match loadConfig parse path file with
          | .ok config => .building config
          | .error e => .ending (.error e) }
  | runtime {s : State} {config : AgentConfig} {result : Except String Unit}
      (hm : s.main = .building config) :
      Step s (.runtime result) { s with
        main := match result with
          | .ok () => .announcing config
          | .error e => .ending (.error e)
        stopper := match result with
          | .ok () => .waiting
          | .error _ => s.stopper }
  | running {s : State} {config : AgentConfig} {result : Except String Unit}
      (hm : s.main = .announcing config) :
      Step s (.report ⟨.running, true, 0, result.isOk⟩)
        { s.tell ⟨.running, true, 0, result.isOk⟩ with
          main := match result with
            | .ok () => .announced config
            | .error e => .ending (.error e) }
  | serve {s : State} {config : AgentConfig} (hm : s.main = .announced config) :
      Step s (.serve config) { s with main := .serving config }
  | failed {s : State} {config : AgentConfig} {e : String} (hm : s.main = .serving config) :
      Step s (.served (.error e)) { s with main := .ending (.error e) }
  | graceful {s : State} {config : AgentConfig} (hm : s.main = .serving config)
      (hs : s.stopper = .signalled) :
      Step s (.served (.ok ())) { s with main := .ending (.ok ()) }
  | stopped {s : State} {result : Except String Unit} {delivered : Bool}
      (hm : s.main = .ending result) :
      Step s (.report ⟨.stopped, false, exitCode result, delivered⟩)
        { s.tell ⟨.stopped, false, exitCode result, delivered⟩ with main := .returned result }
  | control {s : State} {c : Control} (hm : s.main ≠ .registering)
      (hc : (eventHandler c).1 = true → s.accepts = true) :
      Step s (.control c) { s with stops := s.stops + if (eventHandler c).1 then 1 else 0 }
  | receive {s : State} (hs : s.stopper = .waiting) (hn : 0 < s.stops) :
      Step s .receive { s with stopper := .stopping, stops := s.stops - 1 }
  | stopPending {s : State} {delivered : Bool} (hs : s.stopper = .stopping) :
      Step s (.report ⟨.stopPending, false, 0, delivered⟩)
        { s.tell ⟨.stopPending, false, 0, delivered⟩ with stopper := .told }
  | signal {s : State} (hs : s.stopper = .told) :
      Step s .signal { s with stopper := .signalled }

def service : System State Event := ⟨Step parse path⟩

end Model

/-! ### What the service manager is told -/

def reports (es : List Event) : List Report :=
  es.filterMap fun
    | .report r => some r
    | _ => none

def reported (es : List Event) : List ServiceState := (reports es).map Report.state

/-- What the stop thread has told. -/
def Stopper.reported : Stopper → List ServiceState
  | .absent | .waiting | .stopping => []
  | .told | .signalled => [.stopPending]

/-- What has been told, by where the two threads are. -/
inductive Told : Main → Stopper → List ServiceState → Prop
  | registering : Told .registering .absent []
  | unregistered (e : String) : Told (.returned (.error e)) .absent []
  | starting : Told .starting .absent []
  | loading : Told .loading .absent [.startPending]
  | building (config : AgentConfig) : Told (.building config) .absent [.startPending]
  | announcing (config : AgentConfig) : Told (.announcing config) .waiting [.startPending]
  | announced (config : AgentConfig) {stopper : Stopper} (h : stopper ≠ .absent) :
      Told (.announced config) stopper ([.startPending, .running] ++ stopper.reported)
  | serving (config : AgentConfig) {stopper : Stopper} (h : stopper ≠ .absent) :
      Told (.serving config) stopper ([.startPending, .running] ++ stopper.reported)
  | early (e : String) : Told (.ending (.error e)) .absent [.startPending]
  | late (e : String) {stopper : Stopper} (h : stopper ≠ .absent) :
      Told (.ending (.error e)) stopper ([.startPending, .running] ++ stopper.reported)
  | graceful : Told (.ending (.ok ())) .signalled [.startPending, .running, .stopPending]
  | earlyStopped (e : String) :
      Told (.returned (.error e)) .absent [.startPending, .stopped]
  | lateStopped (e : String) {stopper : Stopper} (h : stopper ≠ .absent) :
      Told (.returned (.error e)) stopper
        ([.startPending, .running] ++ stopper.reported ++ [.stopped])
  | stoppedFirst (e : String) {stopper : Stopper} (h : stopper = .told ∨ stopper = .signalled) :
      Told (.returned (.error e)) stopper [.startPending, .running, .stopped, .stopPending]
  | gracefulStopped :
      Told (.returned (.ok ())) .signalled [.startPending, .running, .stopPending, .stopped]

section Runs
variable {parse : String → Except (Option ℕ) Document} {path : String}

/-- What an event adds to what has been told. -/
def Event.reported : Event → List ServiceState
  | .report r => [r.state]
  | _ => []

lemma reported_snoc (es : List Event) (e : Event) :
    reported (es ++ [e]) = reported es ++ e.reported := by
  cases e <;> simp [WindowsService.reported, reports, Event.reported]

/-- Before the service has said that it runs. -/
def Main.early : Main → Bool
  | .registering | .starting | .loading | .building _ | .announcing _ => true
  | .announced _ | .serving _ | .ending _ | .returned _ => false

/-- Until the service has said that it runs it is sent no stop control. -/
def Quiet (s : State) : Prop := s.main.early = true → s.accepts = false ∧ s.stops = 0

lemma Quiet.step {s t : State} {e : Event} (h : Quiet s) (hs : Step parse path s e t) :
    Quiet t := by
  intro hearly
  cases hs with
  | register hm => exact h (by rw [hm]; rfl)
  | @startPending result hm =>
    obtain ⟨haccepts, hstops⟩ := h (by rw [hm]; rfl)
    refine ⟨?_, hstops⟩
    simp only [State.tell, haccepts]
    split <;> rfl
  | load hm => exact h (by rw [hm]; rfl)
  | runtime hm => exact h (by rw [hm]; rfl)
  | @running config result hm =>
    cases result <;> cases hearly
  | serve => cases hearly
  | failed => cases hearly
  | graceful => cases hearly
  | stopped => cases hearly
  | @control c hm hc =>
    obtain ⟨haccepts, hstops⟩ := h hearly
    refine ⟨haccepts, ?_⟩
    have hnot : ¬ (eventHandler c).1 = true := fun hsent => by
      rw [hc hsent] at haccepts
      cases haccepts
    simp only [hstops, if_neg hnot]
  | @receive hs hn =>
    obtain ⟨-, hstops⟩ := h hearly
    omega
  | @stopPending delivered hs =>
    obtain ⟨haccepts, hstops⟩ := h hearly
    refine ⟨?_, hstops⟩
    simp only [State.tell, haccepts]
    split <;> rfl
  | signal => exact h hearly

/-- A thread that has told of the stop is past its start, and so is one that waits. -/
lemma Told.receive {main : Main} {rs : List ServiceState} (h : Told main .waiting rs)
    (hearly : main.early = false) : Told main .stopping rs := by
  cases h with
  | announcing => cases hearly
  | announced config => exact .announced config (by decide : Stopper.stopping ≠ .absent)
  | serving config => exact .serving config (by decide : Stopper.stopping ≠ .absent)
  | late e => exact .late e (by decide : Stopper.stopping ≠ .absent)
  | lateStopped e => exact .lateStopped e (by decide : Stopper.stopping ≠ .absent)
  | stoppedFirst e h => simp at h

lemma Told.stopPending {main : Main} {rs : List ServiceState} (h : Told main .stopping rs) :
    Told main .told (rs ++ [.stopPending]) := by
  cases h with
  | announced config => exact .announced config (by decide : Stopper.told ≠ .absent)
  | serving config => exact .serving config (by decide : Stopper.told ≠ .absent)
  | late e => exact .late e (by decide : Stopper.told ≠ .absent)
  | lateStopped e => exact .stoppedFirst e (.inl rfl)
  | stoppedFirst e h => simp at h

lemma Told.signal {main : Main} {rs : List ServiceState} (h : Told main .told rs) :
    Told main .signalled rs := by
  cases h with
  | announced config => exact .announced config (by decide : Stopper.signalled ≠ .absent)
  | serving config => exact .serving config (by decide : Stopper.signalled ≠ .absent)
  | late e => exact .late e (by decide : Stopper.signalled ≠ .absent)
  | lateStopped e => exact .lateStopped e (by decide : Stopper.signalled ≠ .absent)
  | stoppedFirst e => exact .stoppedFirst e (.inr rfl)

lemma Told.stopped {result : Except String Unit} {stopper : Stopper} {rs : List ServiceState}
    (h : Told (.ending result) stopper rs) :
    Told (.returned result) stopper (rs ++ [.stopped]) := by
  cases h with
  | early e => exact .earlyStopped e
  | late e h => exact .lateStopped e h
  | graceful => exact .gracefulStopped

lemma Told.step {s t : State} {e : Event} {rs : List ServiceState} (h : Told s.main s.stopper rs)
    (hquiet : Quiet s) (hs : Step parse path s e t) : Told t.main t.stopper (rs ++ e.reported) := by
  obtain ⟨main, stopper, stops, accepts⟩ := s
  cases hs with
  | @register result hm =>
    obtain rfl : main = .registering := hm
    cases h
    cases result with
    | ok => exact .starting
    | error e => exact .unregistered e
  | @startPending result hm =>
    obtain rfl : main = .starting := hm
    cases h
    cases result with
    | ok => exact .loading
    | error e => exact .early e
  | @load file hm =>
    obtain rfl : main = .loading := hm
    cases h
    dsimp only
    cases loadConfig parse path file with
    | ok config => exact .building config
    | error e => exact .early e
  | @runtime config result hm =>
    obtain rfl : main = .building config := hm
    cases h
    cases result with
    | ok => exact .announcing config
    | error e => exact .early e
  | @running config result hm =>
    obtain rfl : main = .announcing config := hm
    cases h
    cases result with
    | ok => exact .announced config (by decide : Stopper.waiting ≠ .absent)
    | error e => exact .late e (by decide : Stopper.waiting ≠ .absent)
  | @serve config hm =>
    obtain rfl : main = .announced config := hm
    cases h with
    | announced config h =>
      change Told _ _ (_ ++ [])
      rw [List.append_nil]
      exact .serving config h
  | @failed config e hm =>
    obtain rfl : main = .serving config := hm
    cases h with
    | serving config h =>
      change Told _ _ (_ ++ [])
      rw [List.append_nil]
      exact .late e h
  | @graceful config hm hs =>
    obtain rfl : main = .serving config := hm
    obtain rfl : stopper = .signalled := hs
    cases h
    exact .graceful
  | @stopped result delivered hm =>
    obtain rfl : main = .ending result := hm
    exact h.stopped
  | control =>
    change Told _ _ (rs ++ [])
    rw [List.append_nil]
    exact h
  | receive hs hn =>
    obtain rfl : stopper = .waiting := hs
    change Told _ _ (rs ++ [])
    rw [List.append_nil]
    refine h.receive (Bool.eq_false_iff.mpr fun hearly => ?_)
    have hstops : stops = 0 := (hquiet hearly).2
    exact absurd hn (Nat.not_lt.mpr hstops.le)
  | stopPending hs =>
    obtain rfl : stopper = .stopping := hs
    exact h.stopPending
  | signal hs =>
    obtain rfl : stopper = .told := hs
    change Told _ _ (rs ++ [])
    rw [List.append_nil]
    exact h.signal

/-- What the service manager can be told, from first to last. -/
def lifecycles : List (List ServiceState) :=
  [[.startPending, .stopped], [.startPending, .running, .stopped],
    [.startPending, .running, .stopPending, .stopped],
    [.startPending, .running, .stopped, .stopPending]]

lemma Stopper.reported_cases (stopper : Stopper) :
    stopper.reported = [] ∨ stopper.reported = [.stopPending] := by
  cases stopper <;> simp [Stopper.reported]

lemma Told.lifecycle {main : Main} {stopper : Stopper} {rs : List ServiceState}
    (h : Told main stopper rs) : ∃ full ∈ lifecycles, rs <+: full := by
  cases h with
  | announced config | serving config | late e =>
    rcases stopper.reported_cases with hs | hs <;> rw [hs] <;>
      exact ⟨[.startPending, .running, .stopPending, .stopped], by decide, by decide⟩
  | lateStopped e =>
    rcases stopper.reported_cases with hs | hs <;> rw [hs]
    · exact ⟨[.startPending, .running, .stopped], by decide, by decide⟩
    · exact ⟨[.startPending, .running, .stopPending, .stopped], by decide, by decide⟩
  | stoppedFirst e =>
    exact ⟨[.startPending, .running, .stopped, .stopPending], by decide, by decide⟩
  | earlyStopped e => exact ⟨[.startPending, .stopped], by decide, by decide⟩
  | _ => exact ⟨[.startPending, .running, .stopPending, .stopped], by decide, by decide⟩

/-- The controls that ask for a stop. -/
def asks : Event → Bool
  | .control c => (eventHandler c).1
  | _ => false

/-- The messages the stop thread has taken. -/
def Stopper.taken : Stopper → ℕ
  | .absent | .waiting => 0
  | .stopping | .told | .signalled => 1

/-- The configuration that is to be served. -/
def Main.config : Main → Option AgentConfig
  | .building config | .announcing config | .announced config | .serving config => some config
  | .registering | .starting | .loading | .ending _ | .returned _ => none

/-- The service never got to be one, and nothing was told, or its end has been told. -/
def Over (es : List Event) (result : Except String Unit) : Prop :=
  (∃ e, result = .error e ∧ .register (.error e) ∈ es ∧ reports es = []) ∨
    ∃ r ∈ reports es, r.state = .stopped ∧ r.exitCode = exitCode result

/-- What the events so far say of the two threads. -/
structure Keeps (parse : String → Except (Option ℕ) Document) (path : String) (es : List Event)
    (s : State) : Prop where
  quiet : Quiet s
  told : Told s.main s.stopper (reported es)
  asked : es.countP asks = s.stops + s.stopper.taken
  loaded : ∀ config, s.main.config = some config →
    ∃ file, .load file ∈ es ∧ loadConfig parse path file = .ok config
  stopped : ∀ r ∈ reports es, r.state = .stopped →
    ∃ result, s.main = .returned result ∧ r.exitCode = exitCode result
  returned : ∀ result, s.main = .returned result → Over es result

lemma Keeps.start : Keeps parse path [] .start where
  quiet := fun _ => ⟨rfl, rfl⟩
  told := .registering
  asked := rfl
  loaded := nofun
  stopped := nofun
  returned := nofun

lemma Told.absent {config : AgentConfig} {stopper : Stopper} {rs : List ServiceState}
    (h : Told (.building config) stopper rs) : stopper = .absent := by
  cases h
  rfl

/-- Each message taken or left has been asked for. -/
lemma asked_step {es : List Event} {s t : State} {e : Event}
    (h : es.countP asks = s.stops + s.stopper.taken) (ht : Told s.main s.stopper (reported es))
    (hs : Step parse path s e t) : (es ++ [e]).countP asks = t.stops + t.stopper.taken := by
  rw [List.countP_append, h, List.countP_singleton]
  cases hs with
  | control => exact Nat.add_right_comm _ _ _
  | receive hs hn =>
    simp only [hs, asks, Stopper.taken, Bool.false_eq_true, if_false]
    omega
  | stopPending hs => simp [hs, asks, Stopper.taken, State.tell]
  | signal hs => simp [hs, asks, Stopper.taken]
  | @runtime config result hm =>
    rw [hm] at ht
    cases result <;> simp [ht.absent, asks, Stopper.taken]
  | _ => simp [asks, State.tell]

lemma statesSound_of_loadConfig {file : Except String String} {config : AgentConfig}
    (h : loadConfig parse path file = .ok config) : StatesSound parse file config := by
  rcases loadConfig_cases parse path file with ⟨config', hstates, hload⟩ | ⟨-, reason, -, hload⟩
  · obtain rfl := Except.ok.inj (hload.symm.trans h)
    exact hstates
  · rw [hload] at h
    cases h

/-- The configuration that is served has been loaded. -/
lemma loaded_step {es : List Event} {s t : State} {e : Event}
    (h : ∀ config, s.main.config = some config →
      ∃ file, .load file ∈ es ∧ loadConfig parse path file = .ok config)
    (hs : Step parse path s e t) (config : AgentConfig) (hconfig : t.main.config = some config) :
    ∃ file, .load file ∈ es ++ [e] ∧ loadConfig parse path file = .ok config := by
  have hkeep : s.main.config = some config →
      ∃ file, .load file ∈ es ++ [e] ∧ loadConfig parse path file = .ok config := by
    intro hconfig
    obtain ⟨file, hfile, hload⟩ := h config hconfig
    exact ⟨file, List.mem_append_left _ hfile, hload⟩
  cases hs with
  | @register result hm => cases result <;> cases hconfig
  | @startPending result hm => cases result <;> cases hconfig
  | @load file hm =>
    dsimp only at hconfig
    cases hload : loadConfig parse path file with
    | ok config' =>
      rw [hload] at hconfig
      obtain rfl := Option.some.inj hconfig
      exact ⟨file, List.mem_append_right _ (List.mem_singleton_self _), hload⟩
    | error e =>
      rw [hload] at hconfig
      cases hconfig
  | @runtime config' result hm =>
    cases result with
    | ok => exact hkeep (by rw [hm]; exact hconfig)
    | error e => cases hconfig
  | @running config' result hm =>
    cases result with
    | ok => exact hkeep (by rw [hm]; exact hconfig)
    | error e => cases hconfig
  | @serve config' hm => exact hkeep (by rw [hm]; exact hconfig)
  | failed => cases hconfig
  | graceful => cases hconfig
  | stopped => cases hconfig
  | control => exact hkeep hconfig
  | receive => exact hkeep hconfig
  | stopPending => exact hkeep hconfig
  | signal => exact hkeep hconfig

lemma mem_reports_snoc {es : List Event} {e : Event} {r : Report} :
    r ∈ reports (es ++ [e]) ↔ r ∈ reports es ∨ e = .report r := by
  rw [reports, List.filterMap_append, List.mem_append, ← reports]
  cases e <;> simp [eq_comm]

/-- Once the main thread has returned it stays so, and only the stop thread has anything to tell. -/
lemma returned_stays {s t : State} {e : Event} {result : Except String Unit}
    (hs : Step parse path s e t) (h : s.main = .returned result) :
    t.main = .returned result ∧ ∀ r, e = .report r → s.stopper = .stopping ∧
      r.state = .stopPending := by
  cases hs with
  | control => exact ⟨h, nofun⟩
  | receive => exact ⟨h, nofun⟩
  | signal => exact ⟨h, nofun⟩
  | stopPending hs =>
    refine ⟨h, fun r hr => ⟨hs, ?_⟩⟩
    rw [← Event.report.inj hr]
  | register hm => cases hm.symm.trans h
  | startPending hm => cases hm.symm.trans h
  | load hm => cases hm.symm.trans h
  | runtime hm => cases hm.symm.trans h
  | running hm => cases hm.symm.trans h
  | serve hm => cases hm.symm.trans h
  | failed hm => cases hm.symm.trans h
  | graceful hm => cases hm.symm.trans h
  | stopped hm => cases hm.symm.trans h

/-- The thread that tells the end has come to it. -/
lemma stopped_step {s t : State} {r : Report} (hs : Step parse path s (.report r) t)
    (hr : r.state = .stopped) :
    ∃ result, t.main = .returned result ∧ r.exitCode = exitCode result := by
  cases hs with
  | stopped hm => exact ⟨_, rfl, rfl⟩
  | _ => cases hr

/-- What leads to the end. -/
lemma returned_step {s t : State} {e : Event} {result : Except String Unit}
    (hs : Step parse path s e t) (h : t.main = .returned result) :
    s.main = .returned result ∨
      (s.main = .registering ∧ ∃ reason, result = .error reason ∧ e = .register (.error reason)) ∨
      ∃ r, e = .report r ∧ r.state = .stopped ∧ r.exitCode = exitCode result := by
  cases hs with
  | @register r hm =>
    cases r with
    | ok => cases h
    | error reason =>
      obtain rfl := Main.returned.inj h
      exact .inr (.inl ⟨hm, reason, rfl, rfl⟩)
  | stopped hm =>
    obtain rfl := Main.returned.inj h
    exact .inr (.inr ⟨_, rfl, rfl, rfl⟩)
  | control => exact .inl h
  | receive => exact .inl h
  | signal => exact .inl h
  | stopPending => exact .inl h
  | @startPending r hm => cases r <;> cases h
  | @load file hm =>
    dsimp only at h
    split at h <;> cases h
  | @runtime config r hm => cases r <;> cases h
  | @running config r hm => cases r <;> cases h
  | serve => cases h
  | failed => cases h
  | graceful => cases h

lemma Told.nil {main : Main} {stopper : Stopper} (h : Told main stopper []) :
    stopper = .absent := by
  cases h <;> rfl

lemma Told.of_registering {stopper : Stopper} {rs : List ServiceState}
    (h : Told .registering stopper rs) : rs = [] := by
  cases h
  rfl

lemma reports_eq_nil {es : List Event} : reports es = [] ↔ reported es = [] :=
  List.map_eq_nil_iff.symm

lemma Keeps.step {es : List Event} {s t : State} {e : Event} (h : Keeps parse path es s)
    (hs : Step parse path s e t) : Keeps parse path (es ++ [e]) t where
  quiet := h.quiet.step hs
  told := by
    rw [reported_snoc]
    exact h.told.step h.quiet hs
  asked := asked_step h.asked h.told hs
  loaded := loaded_step h.loaded hs
  stopped := by
    intro r hr hstopped
    rcases mem_reports_snoc.mp hr with hr | rfl
    · obtain ⟨result, hmain, hcode⟩ := h.stopped r hr hstopped
      exact ⟨result, (returned_stays hs hmain).1, hcode⟩
    · exact stopped_step hs hstopped
  returned := by
    intro result hmain
    rcases returned_step hs hmain with hreturned | ⟨hregistering, reason, rfl, rfl⟩ |
      ⟨r, rfl, hstopped, hcode⟩
    · rcases h.returned result hreturned with ⟨reason, rfl, hregister, hnil⟩ | ⟨r, hr, hstopped⟩
      · -- nobody is left to tell anything, since the stop thread was never started
        refine .inl ⟨reason, rfl, List.mem_append_left _ hregister, ?_⟩
        have htold := h.told
        rw [reports_eq_nil.mp hnil] at htold
        refine List.eq_nil_iff_forall_not_mem.mpr fun r hr => ?_
        rcases mem_reports_snoc.mp hr with hr | rfl
        · rw [hnil] at hr
          cases hr
        · obtain ⟨hstopping, -⟩ := (returned_stays hs hreturned).2 r rfl
          rw [hstopping] at htold
          cases htold.nil
      · exact .inr ⟨r, mem_reports_snoc.mpr (.inl hr), hstopped⟩
    · have htold := h.told
      rw [hregistering] at htold
      have hnil := reports_eq_nil.mpr htold.of_registering
      refine .inl ⟨reason, rfl, List.mem_append_right _ (List.mem_singleton_self _), ?_⟩
      refine List.eq_nil_iff_forall_not_mem.mpr fun r hr => ?_
      rcases mem_reports_snoc.mp hr with hr | hr
      · rw [hnil] at hr
        cases hr
      · cases hr
    · exact .inr ⟨r, mem_reports_snoc.mpr (.inr rfl), hstopped, hcode⟩

lemma keeps_run {es : List Event} {s : State} (h : (service parse path).Run .start es s) :
    Keeps parse path es s :=
  h.history (fun _ _ _ _ hs hkeeps => hkeeps.step hs) .start

/-- Who runs is to serve a configuration; who tells of a stop has been sent a message. -/
lemma report_step {s t : State} {r : Report} (hs : Step parse path s (.report r) t) :
    (r.acceptsStop = true ↔ r.state = .running) ∧
    (r.state = .running → ∃ config, s.main = .announcing config) ∧
    (r.state = .stopPending → s.stopper = .stopping) := by
  cases hs with
  | startPending => exact ⟨by simp, nofun, nofun⟩
  | @running config result hm => exact ⟨by simp, fun _ => ⟨config, hm⟩, nofun⟩
  | stopped => exact ⟨by simp, nofun, nofun⟩
  | stopPending hs => exact ⟨by simp, nofun, fun _ => hs⟩

/-- The main thread is past loading, and has no other configuration than this. -/
def Main.Only (config : AgentConfig) : Main → Prop
  | .announcing config' | .announced config' | .serving config' => config' = config
  | .ending _ | .returned _ => True
  | .registering | .starting | .loading | .building _ => False

lemma only_step {config : AgentConfig} {s t : State} {e : Event} (hs : Step parse path s e t)
    (h : s.main.Only config) :
    t.main.Only config ∧ ∀ config', e = .serve config' → config' = config := by
  cases hs with
  | register hm => rw [hm] at h; cases h
  | startPending hm => rw [hm] at h; cases h
  | load hm => rw [hm] at h; cases h
  | runtime hm => rw [hm] at h; cases h
  | @running config' result hm =>
    rw [hm] at h
    refine ⟨?_, nofun⟩
    cases result with
    | ok => exact h
    | error e => trivial
  | serve hm =>
    rw [hm] at h
    refine ⟨h, fun config' hserve => ?_⟩
    obtain rfl := Event.serve.inj hserve
    exact h
  | failed => exact ⟨trivial, nofun⟩
  | graceful => exact ⟨trivial, nofun⟩
  | stopped => exact ⟨trivial, nofun⟩
  | control => exact ⟨h, nofun⟩
  | receive => exact ⟨h, nofun⟩
  | stopPending => exact ⟨h, nofun⟩
  | signal => exact ⟨h, nofun⟩

/-- What is served from there on is this configuration. -/
lemma only_run {config : AgentConfig} {s t : State} {es : List Event}
    (h : (service parse path).Run s es t) (honly : s.main.Only config) :
    ∀ config', .serve config' ∈ es → config' = config := by
  intro config' hserve
  obtain ⟨before, after, rfl⟩ := List.append_of_mem hserve
  obtain ⟨u, u', hbefore, hstep, -⟩ := h.split
  have hu : u.main.Only config :=
    hbefore.invariant (I := fun s => s.main.Only config) (fun _ _ _ hs hI => (only_step hs hI).1)
      honly
  exact (only_step hstep hu).2 config' rfl

lemma asks_iff {e : Event} : asks e = true ↔ e = .control .stop ∨ e = .control .shutdown := by
  cases e with
  | control c => cases c <;> simp [asks, eventHandler]
  | _ => simp [asks]

end Runs

def plainDocument : Document :=
  ⟨"127.0.0.1:18080", "0123456789abcdef0123456789abcdef", none, none, none, none⟩

def stopEvents : List Event :=
  [.register (.ok ()), .report ⟨.startPending, false, 0, true⟩, .load (.ok ""), .runtime (.ok ()),
    .report ⟨.running, true, 0, true⟩, .serve plainDocument.config, .control .stop, .receive,
    .report ⟨.stopPending, false, 0, true⟩, .signal, .served (.ok ()),
    .report ⟨.stopped, false, 0, true⟩]

lemma loadConfig_plainDocument (path : String) :
    loadConfig (fun _ => .ok plainDocument) path (.ok "") = .ok plainDocument.config := by
  have hsound : Sound plainDocument.config :=
    sound_defaults (by decide) (by decide) (by decide +kernel)
  rcases loadConfig_cases (fun _ => .ok plainDocument) path (.ok "") with
    ⟨config, ⟨input, document, -, hparse, rfl, -⟩, hload⟩ | ⟨hnot, -⟩
  · rw [hload, Except.ok.inj hparse]
  · exact absurd ⟨_, "", plainDocument, rfl, rfl, rfl, hsound⟩ hnot

lemma run_stopEvents : (service (fun _ => .ok plainDocument) "config.toml").Run .start stopEvents
    ⟨.returned (.ok ()), .signalled, 0, false⟩ := by
  let step := Step (fun _ => .ok plainDocument) "config.toml"
  let config := plainDocument.config
  have hstart : step ⟨.starting, .absent, 0, false⟩ (.report ⟨.startPending, false, 0, true⟩)
    ⟨.loading, .absent, 0, false⟩ := @Step.startPending _ _ _ (.ok ()) rfl
  have hload : step ⟨.loading, .absent, 0, false⟩ (.load (.ok ""))
      ⟨.building config, .absent, 0, false⟩ := by
    have hstep : step ⟨.loading, .absent, 0, false⟩ (.load (.ok "")) _ := .load rfl
    rwa [loadConfig_plainDocument] at hstep
  have hruntime : step ⟨.building config, .absent, 0, false⟩ (.runtime (.ok ()))
    ⟨.announcing config, .waiting, 0, false⟩ := .runtime rfl
  have hrun : step ⟨.announcing config, .waiting, 0, false⟩ (.report ⟨.running, true, 0, true⟩)
    ⟨.announced config, .waiting, 0, true⟩ := @Step.running _ _ _ _ (.ok ()) rfl
  have hcontrol : step ⟨.serving config, .waiting, 0, true⟩ (.control .stop)
    ⟨.serving config, .waiting, 1, true⟩ := .control nofun fun _ => rfl
  have hreceive : step ⟨.serving config, .waiting, 1, true⟩ .receive
    ⟨.serving config, .stopping, 0, true⟩ := .receive rfl Nat.one_pos
  have htell : step ⟨.serving config, .stopping, 0, true⟩
    (.report ⟨.stopPending, false, 0, true⟩) ⟨.serving config, .told, 0, false⟩ := .stopPending rfl
  have hserved : step ⟨.serving config, .signalled, 0, false⟩ (.served (.ok ()))
    ⟨.ending (.ok ()), .signalled, 0, false⟩ := .graceful rfl rfl
  have hstopped : step ⟨.ending (.ok ()), .signalled, 0, false⟩
    (.report ⟨.stopped, false, 0, true⟩) ⟨.returned (.ok ()), .signalled, 0, false⟩ :=
    @Step.stopped _ _ _ (.ok ()) true rfl
  exact .cons (.register rfl) (.cons hstart (.cons hload (.cons hruntime (.cons hrun (.cons
    (.serve rfl) (.cons hcontrol (.cons hreceive (.cons htell (.cons (.signal rfl) (.cons hserved
      (.one hstopped)))))))))))

end PcRemote.WindowsService
