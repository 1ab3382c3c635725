import PcRemote.WakeCheck

/-! The notifications of the PC's state. Three machines look at the same STATUS observations: the
wait after a wake instruction, the suppression after a sleep instruction, and the debounced
notification. The UI loop runs them one after the other; the Telegram thread may begin a wait
or a suppression at any point in between. -/
namespace PcRemote.StateNotify
open Transition WakeCheck

def stablePolls : ℕ := 2

structure StableNotify where
  notifiedOnline : Option Bool
  notifyStreak : ℕ
  deriving DecidableEq, Repr

def StableNotify.new : StableNotify := ⟨none, 0⟩

/-- The streak is a byte that saturates. -/
def StableNotify.poll (n : StableNotify) (nowOnline wakeSucceeded suppressOff : Bool) :
    StableNotify × Bool :=
  if wakeSucceeded then (n, false)
  else if suppressOff then (⟨some false, 0⟩, false)
  else
    match n.notifiedOnline with
    | none => (⟨some nowOnline, n.notifyStreak⟩, false)
    | some prev =>
        if prev = nowOnline then (⟨some prev, 0⟩, false)
        else
          let notifyStreak := min (n.notifyStreak + 1) 255
          if stablePolls ≤ notifyStreak then (⟨some nowOnline, 0⟩, true)
          else (⟨some prev, notifyStreak⟩, false)

def sleepArmMaxPolls : ℕ := 6

inductive SleepPhase
  | idle
  | armed (polls : ℕ)
  | suppressing
  deriving DecidableEq, Repr

structure SleepWatch where
  phase : SleepPhase
  deriving DecidableEq, Repr

def SleepWatch.idle : SleepWatch := ⟨.idle⟩

def SleepWatch.begin (_ : SleepWatch) : SleepWatch := ⟨.armed 0⟩

def SleepWatch.poll (w : SleepWatch) (pcOnline : Bool) : SleepWatch × Bool :=
  match w.phase with
  | .idle => (w, false)
  | .armed polls =>
      if ¬ pcOnline then (⟨.suppressing⟩, true)
      else if sleepArmMaxPolls ≤ polls + 1 then (.idle, false)
      else (⟨.armed (polls + 1)⟩, false)
  | .suppressing => if pcOnline then (.idle, false) else (w, true)

/-- How far the UI loop is with a poll: it has read the wait, then decided on it. -/
inductive StatusPhase
  | idle
  | observed (nowOnline : Bool) (started : Option Instant)
  | noticed (nowOnline : Bool) (notice : Option WakeNotice)
  deriving DecidableEq, Repr

structure State where
  slot : Option Instant
  sleep : SleepWatch
  stable : StableNotify
  ui : StatusPhase
  deriving DecidableEq, Repr

def State.start : State := ⟨none, .idle, .new, .idle⟩

/-- What a poll observed and what it sent. -/
structure StatusPoll where
  nowOnline : Bool
  notice : Option WakeNotice
  suppressed : Bool
  notify : Bool
  deriving DecidableEq, Repr

namespace StatusPoll

def stopped (p : StatusPoll) : Bool := p.notify && !p.nowOnline

def started (p : StatusPoll) : Bool := p.notify && p.nowOnline

def wakeSucceeded (p : StatusPoll) : Bool := p.notice == some .succeeded

end StatusPoll

def wakeNotice (started : Option Instant) (nowOnline : Bool) (now : Instant) : Option WakeNotice :=
  match started with
  | none => none
  | some startedAt => (WakeWatch.poll ⟨true⟩ nowOnline (elapsedSecs startedAt now)).2

/-- The end of a poll: the baseline follows a wake success, then the two other machines. -/
def State.settle (s : State) (nowOnline : Bool) (notice : Option WakeNotice) :
    State × StatusPoll :=
  let wakeSucceeded := notice == some .succeeded
  let stable := if wakeSucceeded then ⟨some true, 0⟩ else s.stable
  let polled := s.sleep.poll nowOnline
  let next := stable.poll nowOnline wakeSucceeded polled.2
  ({ s with ui := .idle, sleep := polled.1, stable := next.1 },
    ⟨nowOnline, notice, polled.2, next.2⟩)

inductive Event
  | beginWake (pcOnline : Bool) (now : Instant)
  | beginSleep
  | read (nowOnline : Bool)
  | pollWake (now : Instant)
  | settle (poll : StatusPoll)
  deriving DecidableEq, Repr

/-- A wait that ends is cleared along with the decision; what is begun in between is lost with
it. -/
inductive Step : State → Event → State → Prop
  | beginWake (s : State) (pcOnline : Bool) (now : Instant) :
      Step s (.beginWake pcOnline now) { s with slot := beginWakeWatch pcOnline now }
  | beginSleep (s : State) : Step s .beginSleep { s with sleep := s.sleep.begin }
  | read {s : State} {nowOnline : Bool} (hp : s.ui = .idle) :
      Step s (.read nowOnline) { s with ui := .observed nowOnline s.slot }
  | pollWake {s : State} {nowOnline : Bool} {started : Option Instant} {now : Instant}
      (hp : s.ui = .observed nowOnline started) :
      Step s (.pollWake now)
        { s with
          slot := if (wakeNotice started nowOnline now).isSome then none else s.slot
          ui := .noticed nowOnline (wakeNotice started nowOnline now) }
  | settle {s : State} {nowOnline : Bool} {notice : Option WakeNotice}
      (hp : s.ui = .noticed nowOnline notice) :
      Step s (.settle (s.settle nowOnline notice).2) (s.settle nowOnline notice).1

def loop : System State Event := ⟨Step⟩

/-- The polls of a run, in order. -/
def Event.poll? : Event → Option StatusPoll
  | .settle p => some p
  | .beginWake .. | .beginSleep | .read _ | .pollWake _ => none

def polls (es : List Event) : List StatusPoll := es.filterMap Event.poll?

end PcRemote.StateNotify
