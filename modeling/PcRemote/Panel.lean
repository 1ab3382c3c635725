import Mathlib.Data.Int.Notation
import PcRemote.BridgeClient
import PcRemote.Transition
import PcRemote.WakeCheck

/-! The touch panel: one iteration of the main loop, from the touch reading to the end of tap
handling. A tap is the rising edge of the touch; the touch that wakes the backlight is
consumed; REBOOT and SHUTDOWN lead to a screen whose OK button sends the command. -/
namespace PcRemote.Panel
open Transition WakeCheck

structure Button where
  x : ℤ
  y : ℤ
  w : ℤ
  h : ℤ

/-- The right and the lower edge are outside. -/
def Button.contains (b : Button) (x y : ℤ) : Bool :=
  b.x ≤ x && x < b.x + b.w && b.y ≤ y && y < b.y + b.h

def wakeButton : Button := ⟨10, 180, 95, 48⟩
def rebootButton : Button := ⟨112, 180, 95, 48⟩
def shutdownButton : Button := ⟨214, 180, 95, 48⟩
def clockTapZone : Button := ⟨24, 138, 272, 32⟩
def calendarBackButton : Button := ⟨20, 150, 130, 26⟩
def cancelButton : Button := ⟨20, 150, 130, 60⟩
def okButton : Button := ⟨170, 150, 130, 60⟩

/-- One minute, in nanoseconds. -/
def sleepTimeout : ℕ := 60 * 1000000000

def toastTtl : ℕ := 3 * 1000000000

inductive BacklightAction
  | none
  | resetIdle
  | turnOff
  | wake
  deriving DecidableEq, Repr

def backlightDecide (backlightOn touchRisingEdge : Bool) (idleElapsed : ℕ) : BacklightAction :=
  if backlightOn then
    if touchRisingEdge then .resetIdle
    else if sleepTimeout ≤ idleElapsed then .turnOff
    else .none
  else if touchRisingEdge then .wake
  else .none

inductive Screen
  | main
  | calendar
  | confirm (action : PowerAction)
  deriving DecidableEq, Repr

/-- A touch reading: a contact, a successful reading without one, or an I2C error. -/
inductive Touch
  | point (x y : ℤ)
  | none
  | error
  deriving DecidableEq, Repr

/-- The loop takes an error for no touch. -/
def Touch.touchPoint : Touch → Option (ℤ × ℤ)
  | .point x y => some (x, y)
  | .none | .error => Option.none

structure LoopState where
  screen : Screen
  touchWasDown : Bool
  backlightOn : Bool
  lastTouchActivityAt : Instant
  toastText : Option String
  toastAt : Instant
  deriving DecidableEq, Repr

def LoopState.start (now : Instant) : LoopState := ⟨.main, false, true, now, none, now⟩

/-- What one iteration reads: the touch, the PC state, the lock before and under PowerLock,
the clock at each place, and how the writes and the sends turn out. -/
structure Readings where
  touch : Touch
  pcOnline : Bool
  locked : Bool
  lockedAgain : Bool
  idleAt : Instant
  activityAt : Instant
  toastAt : Instant
  expiryAt : Instant
  backlightWritten : Bool
  wolSent : Bool
  commandStatus : Option ℕ
  notifier : Bool
  deriving DecidableEq, Repr

/-- The branch of the tap handling that ran. -/
inductive Handler
  | rejectLocked
  | wake
  | confirm (action : PowerAction)
  | calendar
  | back
  | cancel
  | ok (action : PowerAction)
  deriving DecidableEq, Repr

inductive Effect
  | sendWakeOnLan
  | beginWakeWatch (pcOnline : Bool)
  | sendCommand (action : PowerAction)
  | notify (text : String)
  deriving DecidableEq, Repr

structure Output where
  handler : Option Handler
  effects : List Effect
  deriving DecidableEq, Repr

def Output.nothing : Output := ⟨none, []⟩

def lockedToast : String := "Locked (/unlock in Telegram)"

def rejectLocked (s : LoopState) (r : Readings) : LoopState :=
  { s with toastText := some lockedToast, toastAt := r.toastAt, screen := .main }

def notifyPanelAction (r : Readings) (text : String) : List Effect :=
  if r.notifier then [.notify ("[本体パネル操作] " ++ text)] else []

def powerButtonTapped (screen : Screen) (x y : ℤ) : Bool :=
  match screen with
  | .main | .calendar =>
      wakeButton.contains x y || rebootButton.contains x y || shutdownButton.contains x y
  | .confirm _ => okButton.contains x y

/-- What a tap does to the panel, and whether it skips the rest of the iteration. -/
structure TapResult where
  panel : LoopState
  output : Output
  skip : Bool

def tapWake (s : LoopState) (r : Readings) : TapResult :=
  if r.lockedAgain then ⟨rejectLocked s r, ⟨some .wake, []⟩, true⟩
  else if r.wolSent then
    ⟨{ s with toastText := some "Magic packet sent", toastAt := r.toastAt },
      ⟨some .wake, [.sendWakeOnLan, .beginWakeWatch r.pcOnline] ++
        notifyPanelAction r wakeRequestText⟩, false⟩
  else
    ⟨{ s with toastText := some "WOL failed", toastAt := r.toastAt },
      ⟨some .wake, .sendWakeOnLan :: notifyPanelAction r wakeRequestFailedText⟩, false⟩

def commandToast : Option ℕ → String
  | some code =>
      if BridgeClient.isAccepted code then "Command accepted"
      else "Command rejected (" ++ toString code ++ ")"
  | none => "Command failed"

def tapOk (s : LoopState) (r : Readings) (action : PowerAction) : TapResult :=
  if r.lockedAgain then ⟨rejectLocked s r, ⟨some (.ok action), []⟩, true⟩
  else
    ⟨{ s with
        toastText := some (commandToast r.commandStatus)
        toastAt := r.toastAt
        screen := .main },
      ⟨some (.ok action), .sendCommand action ::
        notifyPanelAction r (BridgeClient.resultText action r.commandStatus)⟩, false⟩

/-- Main and calendar share the row of power buttons. -/
def tapMain (s : LoopState) (r : Readings) (x y : ℤ) : TapResult :=
  if wakeButton.contains x y then tapWake s r
  else if r.pcOnline && rebootButton.contains x y then
    ⟨{ s with screen := .confirm .reboot }, ⟨some (.confirm .reboot), []⟩, false⟩
  else if r.pcOnline && shutdownButton.contains x y then
    ⟨{ s with screen := .confirm .shutdown }, ⟨some (.confirm .shutdown), []⟩, false⟩
  else if s.screen = .main ∧ clockTapZone.contains x y then
    ⟨{ s with screen := .calendar }, ⟨some .calendar, []⟩, false⟩
  else if s.screen = .calendar ∧ calendarBackButton.contains x y then
    ⟨{ s with screen := .main }, ⟨some .back, []⟩, false⟩
  else ⟨s, .nothing, false⟩

def tapConfirm (s : LoopState) (r : Readings) (action : PowerAction) (x y : ℤ) : TapResult :=
  if cancelButton.contains x y then
    ⟨{ s with screen := .main, toastText := none }, ⟨some .cancel, []⟩, false⟩
  else if okButton.contains x y then tapOk s r action
  else ⟨s, .nothing, false⟩

def tap (s : LoopState) (r : Readings) (x y : ℤ) : TapResult :=
  if powerButtonTapped s.screen x y && r.locked then
    ⟨rejectLocked s r, ⟨some .rejectLocked, []⟩, true⟩
  else
    match s.screen with
    | .main | .calendar => tapMain s r x y
    | .confirm action => tapConfirm s r action x y

/-- The backlight part of an iteration that goes on to the tap handling. -/
def applyBacklight (s : LoopState) (r : Readings) : BacklightAction → LoopState
  | .resetIdle => { s with lastTouchActivityAt := r.activityAt }
  | .turnOff => if r.backlightWritten then { s with backlightOn := false } else s
  | .none | .wake => s

/-- The end of an iteration, where an old toast goes away. -/
def expireToast (s : LoopState) (r : Readings) : LoopState :=
  if s.toastText.isSome ∧ toastTtl ≤ r.expiryAt - s.toastAt then { s with toastText := none } else s

/-- The part of an iteration after the backlight: a tap is handled, unless the touch was
already down. -/
def handleTouch (s : LoopState) (r : Readings) : LoopState × Output :=
  let touchDown := r.touch.touchPoint.isSome
  match r.touch.touchPoint with
  | some (x, y) =>
      if ¬ s.touchWasDown then
        let result := tap s r x y
        let s := { result.panel with touchWasDown := touchDown }
        (if result.skip then s else expireToast s r, result.output)
      else (expireToast { s with touchWasDown := touchDown } r, .nothing)
  | none => (expireToast { s with touchWasDown := touchDown } r, .nothing)

def iterate (s : LoopState) (r : Readings) : LoopState × Output :=
  let touchDown := r.touch.touchPoint.isSome
  let touchRisingEdge := touchDown && !s.touchWasDown
  match backlightDecide s.backlightOn touchRisingEdge (r.idleAt - s.lastTouchActivityAt) with
  | .wake =>
      let s := if r.backlightWritten then
        { s with backlightOn := true, lastTouchActivityAt := r.activityAt } else s
      ({ s with touchWasDown := touchDown }, .nothing)
  | action => handleTouch (applyBacklight s r action) r

abbrev Event := Readings × Output

def loop : System LoopState Event := component iterate

end PcRemote.Panel
