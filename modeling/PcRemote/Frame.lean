import PcRemote.MonthView
import PcRemote.Panel
import PcRemote.StatusMessage

/-! What is on the display, part by part. A screen is drawn as a whole, over a cleared display;
the header and the band of the clock can also be drawn again on their own. -/
namespace PcRemote

namespace Battery

structure DisplayState where
  percent : ℕ
  powered : Bool
  charging : Bool
  deriving DecidableEq, Repr

def displayState (b : Battery) : DisplayState := ⟨b.percent, b.powered, b.charging⟩

def needsRedraw (prev next : Option DisplayState) : Bool := prev != next

def lampLabel (percent : ℕ) : PowerState → String
  | .charging => "CHG " ++ toString percent ++ "%"
  | .powered => "PWR " ++ toString percent ++ "%"
  | .onBattery => toString percent ++ "%"

/-- All of a reading is on display. -/
lemma displayState_injective : Function.Injective displayState := by
  rintro ⟨p, c, w⟩ ⟨p', c', w'⟩ h
  simp only [displayState, DisplayState.mk.injEq] at h
  obtain ⟨rfl, rfl, rfl⟩ := h
  rfl

lemma needsRedraw_eq_false {prev next : Option Battery} :
    needsRedraw (prev.map displayState) (next.map displayState) = false ↔ prev = next := by
  rw [needsRedraw, bne_eq_false_iff_eq]
  exact (Option.map_injective displayState_injective).eq_iff

end Battery

namespace Ui
open Panel

inductive Color
  | textDim
  | ok
  | ng
  | warn
  | accent
  | danger
  | neutral
  deriving DecidableEq, Repr

inductive TelegramState
  | disabled
  | polling
  | error
  deriving DecidableEq, Repr

def TelegramState.color : TelegramState → Color
  | .disabled => .textDim
  | .polling => .ok
  | .error => .ng

structure Status where
  wifiConnected : Bool
  pcOnline : Bool
  telegram : TelegramState
  locked : Bool
  battery : Option Battery
  deriving DecidableEq, Repr

/-- A text in a color: a lamp of the header, the card or the banner. -/
structure Label where
  text : String
  color : Color
  deriving DecidableEq, Repr

/-- A button on the display; one that is not enabled looks the same whatever its color. -/
structure DrawnButton where
  area : Panel.Button
  label : String
  fill : Color
  enabled : Bool

def drawButton (area : Panel.Button) (label : String) (fill : Color) (enabled : Bool) :
    DrawnButton :=
  ⟨area, label, if enabled then fill else .neutral, enabled⟩

def batteryColor (b : Battery) : Color :=
  match Battery.classify b.charging b.powered with
  | .charging => .accent
  | .powered => .ok
  | .onBattery => if 40 ≤ b.percent then .ok else if 15 ≤ b.percent then .warn else .ng

/-- The lamps from right to left. -/
def lamps (status : Status) : List Label :=
  [⟨"TG", status.telegram.color⟩, ⟨"WIFI", if status.wifiConnected then .ok else .ng⟩] ++
    match status.battery with
    | some b => [⟨Battery.lampLabel b.percent (Battery.classify b.charging b.powered),
        batteryColor b⟩]
    | none => []

def pcOnlineLabelAscii (online : Bool) : String := if online then "ONLINE" else "OFFLINE"

def statusCard (status : Status) : Label :=
  ⟨pcOnlineLabelAscii status.pcOnline, if status.pcOnline then .ok else .ng⟩

/-- REBOOT and SHUTDOWN are there only while the PC is on. -/
def powerButtons (status : Status) : List DrawnButton :=
  let enabled := !status.locked
  drawButton wakeButton "WAKE" .accent enabled ::
    if status.pcOnline then
      [drawButton rebootButton "REBOOT" .warn enabled,
        drawButton shutdownButton "SHUTDOWN" .danger enabled]
    else []

/-- A toast covers the note that the panel is locked. -/
def statusBanner (status : Status) (toast : Option String) : Option Label :=
  match toast with
  | some text => some ⟨text, .accent⟩
  | none => if status.locked then some ⟨"LOCKED - send /unlock in Telegram", .warn⟩ else none

def confirmTitle : PowerAction → String
  | .reboot => "REBOOT?"
  | .shutdown => "SHUTDOWN?"
  | .sleep => "SLEEP?"

inductive Header
  | lamps (lamps : List Label)
  | confirm

inductive Body
  | card (card : Label)
  | month (view : CalendarView)
  | question (title : String)

structure Frame where
  header : Header
  clock : Option ClockStrings
  body : Body
  buttons : List DrawnButton
  banner : Option Label

def drawMain (status : Status) (toast : Option String) (clock : ClockStrings) : Frame :=
  ⟨.lamps (lamps status), some clock, .card (statusCard status), powerButtons status,
    statusBanner status toast⟩

def drawCalendar (status : Status) (toast : Option String) (view : CalendarView) : Frame :=
  ⟨.lamps (lamps status), none, .month view,
    drawButton calendarBackButton "BACK" .neutral true :: powerButtons status,
    statusBanner status toast⟩

def drawConfirm (action : PowerAction) : Frame :=
  ⟨.confirm, none, .question (confirmTitle action),
    [drawButton cancelButton "CANCEL" .neutral true,
      drawButton okButton "OK" .danger true], none⟩

def redrawHeader (frame : Frame) (status : Status) : Frame :=
  { frame with header := .lamps (lamps status) }

def redrawClock (frame : Frame) (clock : ClockStrings) : Frame :=
  { frame with clock := some clock }

/-- With nothing but the battery changed, the header is all there is to draw again. -/
lemma redrawHeader_drawMain (status : Status) (b : Option Battery) (toast : Option String)
    (clock : ClockStrings) :
    redrawHeader (drawMain status toast clock) { status with battery := b } =
      drawMain { status with battery := b } toast clock := rfl

lemma redrawHeader_drawCalendar (status : Status) (b : Option Battery) (toast : Option String)
    (view : CalendarView) :
    redrawHeader (drawCalendar status toast view) { status with battery := b } =
      drawCalendar { status with battery := b } toast view := rfl

lemma redrawClock_drawMain (status : Status) (toast : Option String)
    (clock clock' : ClockStrings) :
    redrawClock (drawMain status toast clock) clock' = drawMain status toast clock' := rfl

end Ui

end PcRemote
