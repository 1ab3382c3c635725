import PcRemote.Frame
import PcRemote.OnlineServices

/-! The main loop and the display. Each part of an iteration that changes what is on the screen
draws the screen again; the battery and the minute have a part of the screen of their own. -/
namespace PcRemote.MainLoop
open Config Panel Transition Ui

/-- The readings of the wall clock at one place in an iteration, in their order. -/
structure Times where
  first : ℤ
  second : ℤ

structure World where
  status : Status
  services : OnlineServices.Services
  batteryShared : Option Battery
  panel : LoopState
  clockMinute : ℤ
  calendarDay : Option CalendarDay
  frame : Frame

/-- What one iteration reads. A check of the link, of the battery and of the PC is made only
where its interval has passed. -/
structure Readings where
  wifi : Option OnlineServices.Check
  wifiTimes : Times
  telegram : TelegramState
  telegramTimes : Times
  battery : Option (Option Battery)
  probe : Option Bool
  probeTimes : Times
  locked : Bool
  lockTimes : Times
  panel : Panel.Readings
  touchTimes : Times
  toastTimes : Times
  minuteTimes : Times
  dayTimes : Times

section Model
variable (config : AppConfig)

/-- The local minute, or the least number while the clock is not synchronised. -/
def currentClockMinute (unix : ℤ) : Option ℤ := do
  if isNtpSynced unix = false then
    return Text.i64Min
  let seconds ← localSeconds unix (config.int .timezoneOffsetHours)
  return seconds / 60

def currentClock (unix : ℤ) : Option ClockStrings :=
  clockStrings unix (config.int .timezoneOffsetHours)

def refreshMain (w : World) (toast : Option String) (t : Times) : Option World := do
  let minute ← currentClockMinute config t.first
  let clock ← currentClock config t.second
  return { w with clockMinute := minute, frame := drawMain w.status toast clock }

def refreshCalendar (w : World) (toast : Option String) (unix : ℤ) : Option World := do
  let day ← calendarDate unix (config.int .timezoneOffsetHours)
  let view ← calendarView unix (config.int .timezoneOffsetHours)
  return { w with calendarDay := day, frame := drawCalendar w.status toast view }

/-- The confirmation screen is left as it is. -/
def refreshCurrentScreen (w : World) (toast : Option String) (t : Times) : Option World :=
  match w.panel.screen with
  | .main => refreshMain config w toast t
  | .calendar => refreshCalendar config w toast t.first
  | .confirm _ => some w

def drawConfirmScreen (w : World) (action : PowerAction) : World :=
  { w with frame := drawConfirm action }

def wifiPart (w : World) (r : Readings) : Option World :=
  match r.wifi with
  | none => some w
  | some check =>
      let (online, _) :=
        OnlineServices.checkWifi config ⟨w.status.wifiConnected, w.services⟩ check
      let w := { w with services := online.services }
      if online.wifiConnected ≠ w.status.wifiConnected then
        let status :=
          { w.status with
            wifiConnected := online.wifiConnected
            pcOnline := online.wifiConnected && w.status.pcOnline }
        refreshCurrentScreen config { w with status := status } w.panel.toastText r.wifiTimes
      else some w

def telegramPart (w : World) (r : Readings) : Option World :=
  if r.telegram ≠ w.status.telegram then
    refreshCurrentScreen config { w with status := { w.status with telegram := r.telegram } }
      w.panel.toastText r.telegramTimes
  else some w

/-- Only the header shows the battery, and the confirmation screen does not show it. -/
def batteryPart (w : World) (r : Readings) : World :=
  match r.battery with
  | none => w
  | some nowBattery =>
      let w := { w with batteryShared := nowBattery }
      if Battery.needsRedraw (w.status.battery.map Battery.displayState)
          (nowBattery.map Battery.displayState) then
        let w := { w with status := { w.status with battery := nowBattery } }
        if w.panel.screen = .main ∨ w.panel.screen = .calendar then
          { w with frame := redrawHeader w.frame w.status }
        else w
      else w

def probePart (w : World) (r : Readings) : Option World :=
  match r.probe with
  | some nowOnline =>
      if w.status.wifiConnected = true ∧ nowOnline ≠ w.status.pcOnline then
        refreshCurrentScreen config { w with status := { w.status with pcOnline := nowOnline } }
          w.panel.toastText r.probeTimes
      else some w
  | none => some w

def lockPart (w : World) (r : Readings) : Option World :=
  if r.locked ≠ w.status.locked then
    refreshCurrentScreen config { w with status := { w.status with locked := r.locked } }
      w.panel.toastText r.lockTimes
  else some w

/-- What a branch of the tap handling draws, once it has done its work. -/
def drawTap (w : World) (handler : Option Handler) (skip : Bool) (t : Times) : Option World :=
  match handler with
  | none => some w
  | some (.confirm action) => some (drawConfirmScreen w action)
  | some .calendar => refreshCalendar config w w.panel.toastText t.first
  | some .wake =>
      if skip then refreshMain config w w.panel.toastText t
      else refreshCurrentScreen config w w.panel.toastText t
  | some .rejectLocked | some .back | some .cancel | some (.ok _) =>
      refreshMain config w w.panel.toastText t

/-- The touch that lights the display only draws the screen again. -/
def wakePart (w : World) (r : Readings) : Option World :=
  let touchDown := r.panel.touch.touchPoint.isSome
  let s := if r.panel.backlightWritten then
    { w.panel with backlightOn := true, lastTouchActivityAt := r.panel.activityAt } else w.panel
  let w := { w with panel := { s with touchWasDown := touchDown } }
  match s.screen with
  | .confirm action => some (drawConfirmScreen w action)
  | _ => refreshCurrentScreen config w w.panel.toastText r.touchTimes

def tapPart (w : World) (r : Readings) : Option (World × Output × Bool) := do
  let touchDown := r.panel.touch.touchPoint.isSome
  match r.panel.touch.touchPoint with
  | some (x, y) =>
      if ¬ w.panel.touchWasDown then
        let result := tap w.panel { r.panel with pcOnline := w.status.pcOnline } x y
        let w := { w with panel := { result.panel with touchWasDown := touchDown } }
        let w ← drawTap config w result.output.handler result.skip r.touchTimes
        return (w, result.output, result.skip)
      else
        return ({ w with panel := { w.panel with touchWasDown := touchDown } }, .nothing, false)
  | none => return ({ w with panel := { w.panel with touchWasDown := touchDown } }, .nothing, false)

/-- The state, the outcome of a tap, and whether the rest of the iteration is skipped. -/
def touchPart (w : World) (r : Readings) : Option (World × Output × Bool) :=
  let touchRisingEdge := r.panel.touch.touchPoint.isSome && !w.panel.touchWasDown
  match backlightDecide w.panel.backlightOn touchRisingEdge
      (r.panel.idleAt - w.panel.lastTouchActivityAt) with
  | .wake => (wakePart config w r).map fun w => (w, .nothing, true)
  | action => tapPart config { w with panel := applyBacklight w.panel r.panel action } r

def toastPart (w : World) (r : Readings) : Option World :=
  if w.panel.toastText.isSome ∧ toastTtl ≤ r.panel.expiryAt - w.panel.toastAt then
    refreshCurrentScreen config { w with panel := { w.panel with toastText := none } } none
      r.toastTimes
  else some w

/-- The minute is looked at only where it is on a lit display. -/
def minutePart (w : World) (r : Readings) : Option World :=
  if w.panel.backlightOn = true ∧ w.panel.screen = .main then do
    let nowMinute ← currentClockMinute config r.minuteTimes.first
    if nowMinute ≠ w.clockMinute then
      let clock ← currentClock config r.minuteTimes.second
      return { w with clockMinute := nowMinute, frame := redrawClock w.frame clock }
    else return w
  else some w

def dayPart (w : World) (r : Readings) : Option World :=
  if w.panel.backlightOn = true ∧ w.panel.screen = .calendar then do
    let nowDay ← calendarDate r.dayTimes.first (config.int .timezoneOffsetHours)
    if nowDay ≠ w.calendarDay then
      refreshCalendar config w w.panel.toastText r.dayTimes.second
    else return w
  else some w

def beforeTouch (w : World) (r : Readings) : Option World := do
  let w ← wifiPart config w r
  let w ← telegramPart config w r
  let w ← probePart config (batteryPart w r) r
  lockPart config w r

/-- There is no result where the clock computations overflow, which ends the loop. -/
def iterate (w : World) (r : Readings) : Option (World × Output) := do
  let w ← beforeTouch config w r
  let (w, output, skip) ← touchPart config w r
  if skip then return (w, output)
  let w ← toastPart config w r
  let w ← minutePart config w r
  let w ← dayPart config w r
  return (w, output)

abbrev Event := Readings × Output

def loop : System World Event where
  step w e w' := iterate config w e.1 = some (w', e.2)

/-- The display from boot to the first iteration, around the first look at the link. -/
def start (check : OnlineServices.Check) (now : WakeCheck.Instant) (connecting connected : Times) :
    Option World := do
  let status : Status := ⟨false, false, .disabled, false, none⟩
  let w : World :=
    ⟨status, .none, none, .start now, ← currentClockMinute config connecting.first, none,
      drawMain status (some "connecting Wi-Fi...") (← currentClock config connecting.second)⟩
  let (online, _) := OnlineServices.boot config check
  refreshMain config
    { w with
      status := { w.status with wifiConnected := online.wifiConnected }
      services := online.services }
    w.panel.toastText connected

/-! ### What the display shows -/

/-- The status that the readings of an iteration lead to: the latest of each kind, with the PC
off while there is no link to it. -/
def observe (s : Status) (r : Readings) : Status :=
  let wifi := (r.wifi.map OnlineServices.Check.up).getD s.wifiConnected
  { wifiConnected := wifi
    pcOnline := wifi && r.probe.getD s.pcOnline
    telegram := r.telegram
    locked := r.locked
    battery := r.battery.getD s.battery }

/-- The screen of the panel, drawn from the state there is and the toast there is. A relation P
holds between the reading that the recorded minute is from and the one on display. -/
def Shows (P : ℤ → ℤ → Prop) (w : World) : Prop :=
  match w.panel.screen with
  | .main => ∃ u v clock, P u v ∧ currentClockMinute config u = some w.clockMinute ∧
      currentClock config v = some clock ∧ w.frame = drawMain w.status w.panel.toastText clock
  | .calendar => ∃ u view, calendarDate u (config.int .timezoneOffsetHours) = some w.calendarDay ∧
      calendarView u (config.int .timezoneOffsetHours) = some view ∧
      w.frame = drawCalendar w.status w.panel.toastText view
  | .confirm action => w.frame = drawConfirm action

structure Fresh (P : ℤ → ℤ → Prop) (w : World) : Prop where
  shows : Shows config P w
  battery : w.status.battery = w.batteryShared
  online : w.status.pcOnline = true → w.status.wifiConnected = true

variable {config : AppConfig} {P : ℤ → ℤ → Prop} {w w' : World} {r : Readings}

lemma Shows.confirm (h : Shows config P w) {action : PowerAction}
    (hs : w.panel.screen = .confirm action) : w.frame = drawConfirm action := by
  unfold Shows at h
  rwa [hs] at h

lemma refreshMain_eq_some {toast : Option String} {t : Times}
    (h : refreshMain config w toast t = some w') :
    ∃ minute clock, currentClockMinute config t.first = some minute ∧
      currentClock config t.second = some clock ∧
      w' = { w with clockMinute := minute, frame := drawMain w.status toast clock } := by
  simp only [refreshMain, Option.bind_eq_bind, Option.bind_eq_some_iff] at h
  obtain ⟨minute, hminute, clock, hclock, hw⟩ := h
  exact ⟨minute, clock, hminute, hclock, (Option.some.inj hw).symm⟩

lemma refreshCalendar_eq_some {toast : Option String} {unix : ℤ}
    (h : refreshCalendar config w toast unix = some w') :
    ∃ day view, calendarDate unix (config.int .timezoneOffsetHours) = some day ∧
      calendarView unix (config.int .timezoneOffsetHours) = some view ∧
      w' = { w with calendarDay := day, frame := drawCalendar w.status toast view } := by
  simp only [refreshCalendar, Option.bind_eq_bind, Option.bind_eq_some_iff] at h
  obtain ⟨day, hday, view, hview, hw⟩ := h
  exact ⟨day, view, hday, hview, (Option.some.inj hw).symm⟩

lemma Fresh.mono {Q : ℤ → ℤ → Prop} (h : Fresh config P w) (hPQ : ∀ u v, P u v → Q u v) :
    Fresh config Q w := by
  refine ⟨?_, h.battery, h.online⟩
  have hshows := h.shows
  unfold Shows at hshows ⊢
  cases hs : w.panel.screen <;> rw [hs] at hshows
  · obtain ⟨u, v, clock, huv, hshows⟩ := hshows
    exact ⟨u, v, clock, hPQ u v huv, hshows⟩
  · exact hshows
  · exact hshows

/-- Apart from the display and what is remembered about it, nothing has changed. -/
def Redrawn (w w' : World) : Prop :=
  ∃ minute day frame, w' = { w with clockMinute := minute, calendarDay := day, frame := frame }

lemma Redrawn.panel (h : Redrawn w w') : w'.panel = w.panel := by
  obtain ⟨minute, day, frame, rfl⟩ := h
  rfl

lemma refreshMain_redrawn {toast : Option String} {t : Times}
    (h : refreshMain config w toast t = some w') : Redrawn w w' := by
  obtain ⟨minute, clock, -, -, rfl⟩ := refreshMain_eq_some h
  exact ⟨minute, w.calendarDay, _, rfl⟩

lemma refreshCalendar_redrawn {toast : Option String} {unix : ℤ}
    (h : refreshCalendar config w toast unix = some w') : Redrawn w w' := by
  obtain ⟨day, view, -, -, rfl⟩ := refreshCalendar_eq_some h
  exact ⟨w.clockMinute, day, _, rfl⟩

lemma refreshCurrentScreen_redrawn {toast : Option String} {t : Times}
    (h : refreshCurrentScreen config w toast t = some w') : Redrawn w w' := by
  unfold refreshCurrentScreen at h
  split at h
  · exact refreshMain_redrawn h
  · exact refreshCalendar_redrawn h
  · exact ⟨w.clockMinute, w.calendarDay, w.frame, (Option.some.inj h).symm⟩

lemma refreshMain_shows {t : Times} (hP : P t.first t.second) (hs : w.panel.screen = .main)
    (h : refreshMain config w w.panel.toastText t = some w') : Shows config P w' := by
  obtain ⟨minute, clock, hminute, hclock, rfl⟩ := refreshMain_eq_some h
  unfold Shows
  rw [show World.panel _ = w.panel from rfl, hs]
  exact ⟨t.first, t.second, clock, hP, hminute, hclock, rfl⟩

lemma refreshCalendar_shows {unix : ℤ} (hs : w.panel.screen = .calendar)
    (h : refreshCalendar config w w.panel.toastText unix = some w') : Shows config P w' := by
  obtain ⟨day, view, hday, hview, rfl⟩ := refreshCalendar_eq_some h
  unfold Shows
  rw [show World.panel _ = w.panel from rfl, hs]
  exact ⟨unix, view, hday, hview, rfl⟩

/-- A refresh draws the screen there is, with one exception: it relies on the confirmation screen
being on display when that is the screen there is. -/
lemma refreshCurrentScreen_shows {t : Times} (hP : P t.first t.second)
    (hconfirm : ∀ action, w.panel.screen = .confirm action → w.frame = drawConfirm action)
    (h : refreshCurrentScreen config w w.panel.toastText t = some w') : Shows config P w' := by
  unfold refreshCurrentScreen at h
  split at h
  · exact refreshMain_shows hP ‹_› h
  · exact refreshCalendar_shows ‹_› h
  · rename_i action hs
    obtain rfl := Option.some.inj h
    unfold Shows
    rw [hs]
    exact hconfirm action hs

/-- The status is a given one, the display is fresh again, and the panel was not touched. -/
structure Kept (config : AppConfig) (P : ℤ → ℤ → Prop) (w w' : World) (status : Status) : Prop where
  fresh : Fresh config P w'
  panel : w'.panel = w.panel
  status : w'.status = status

lemma Fresh.kept (h : Fresh config P w) : Kept config P w w w.status := ⟨h, rfl, rfl⟩

/-- A change of the status, followed by a refresh. -/
lemma Fresh.refresh (h : Fresh config P w) {status : Status} {services : OnlineServices.Services}
    {t : Times} (href : refreshCurrentScreen config
      { w with status := status, services := services } w.panel.toastText t = some w')
    (hP : P t.first t.second) (hbattery : status.battery = w.status.battery)
    (honline : status.pcOnline = true → status.wifiConnected = true) :
    Kept config P w w' status := by
  have hshows := refreshCurrentScreen_shows
    (w := { w with status := status, services := services }) hP
    (fun action hs => h.shows.confirm hs) href
  obtain ⟨minute, day, frame, rfl⟩ := refreshCurrentScreen_redrawn href
  exact ⟨⟨hshows, hbattery.trans h.battery, honline⟩, rfl, rfl⟩

/-- Without a link the PC counts as off, so that a check that finds things as they were changes
nothing. -/
lemma status_eq {s : Status} (h : s.pcOnline = true → s.wifiConnected = true) {wifi pc : Bool}
    (hwifi : wifi = s.wifiConnected) (hpc : wifi = true → pc = s.pcOnline) :
    { s with wifiConnected := wifi, pcOnline := wifi && pc } = s := by
  obtain ⟨wifiConnected, pcOnline, telegram, locked, battery⟩ := s
  subst hwifi
  cases wifi <;> simp_all

lemma wifiPart_kept (h : Fresh config P w) (hP : P r.wifiTimes.first r.wifiTimes.second)
    (hw : wifiPart config w r = some w') :
    let wifi := (r.wifi.map OnlineServices.Check.up).getD w.status.wifiConnected
    Kept config P w w'
      { w.status with wifiConnected := wifi, pcOnline := wifi && w.status.pcOnline } := by
  intro wifi
  unfold wifiPart at hw
  split at hw
  · rename_i hnone
    obtain rfl := Option.some.inj hw
    rw [status_eq h.online (by simp [wifi, hnone]) fun _ => rfl]
    exact h.kept
  · rename_i check hcheck
    have hup : wifi = check.up := by simp [wifi, hcheck]
    simp only [OnlineServices.checkWifi_wifiConnected, ← hup] at hw
    split_ifs at hw with hchanged
    · exact h.refresh hw hP rfl fun honline => (Bool.and_eq_true _ _ ▸ honline).1
    · rw [not_not] at hchanged
      obtain rfl := Option.some.inj hw
      rw [status_eq h.online hchanged fun _ => rfl]
      exact ⟨⟨h.shows, h.battery, h.online⟩, rfl, rfl⟩

lemma telegramPart_kept (h : Fresh config P w)
    (hP : P r.telegramTimes.first r.telegramTimes.second)
    (hw : telegramPart config w r = some w') :
    Kept config P w w' { w.status with telegram := r.telegram } := by
  unfold telegramPart at hw
  split_ifs at hw with hchanged
  · exact h.refresh hw hP rfl h.online
  · rw [not_not] at hchanged
    obtain rfl := Option.some.inj hw
    rw [hchanged]
    exact h.kept

lemma probePart_kept (h : Fresh config P w) (hP : P r.probeTimes.first r.probeTimes.second)
    (hw : probePart config w r = some w') :
    Kept config P w w'
      { w.status with pcOnline := w.status.wifiConnected && r.probe.getD w.status.pcOnline } := by
  unfold probePart at hw
  split at hw
  · rename_i nowOnline hprobe
    rw [hprobe, Option.getD_some]
    split_ifs at hw with hchanged
    · rw [hchanged.1, Bool.true_and]
      exact h.refresh hw hP rfl fun _ => hchanged.1
    · obtain rfl := Option.some.inj hw
      rw [status_eq h.online rfl fun hwifi => not_not.mp fun hne => hchanged ⟨hwifi, hne⟩]
      exact h.kept
  · rename_i hprobe
    obtain rfl := Option.some.inj hw
    rw [hprobe, Option.getD_none, status_eq h.online rfl fun _ => rfl]
    exact h.kept

lemma lockPart_kept (h : Fresh config P w) (hP : P r.lockTimes.first r.lockTimes.second)
    (hw : lockPart config w r = some w') :
    Kept config P w w' { w.status with locked := r.locked } := by
  unfold lockPart at hw
  split_ifs at hw with hchanged
  · exact h.refresh hw hP rfl h.online
  · rw [not_not] at hchanged
    obtain rfl := Option.some.inj hw
    rw [hchanged]
    exact h.kept

/-- Drawing the header again is enough for a change of the battery. -/
lemma batteryPart_kept (h : Fresh config P w) :
    Kept config P w (batteryPart w r)
      { w.status with battery := r.battery.getD w.status.battery } := by
  unfold batteryPart
  split
  · rename_i hnone
    rw [hnone]
    exact h.kept
  · rename_i b hb
    rw [hb, Option.getD_some]
    simp only
    split_ifs with hredraw hscreen
    · refine ⟨⟨?_, rfl, h.online⟩, rfl, rfl⟩
      have hshows := h.shows
      unfold Shows at hshows ⊢
      rcases hscreen with hs | hs <;> rw [show World.panel _ = w.panel from rfl, hs] <;>
        rw [hs] at hshows
      · obtain ⟨u, v, clock, huv, hminute, hclock, hframe⟩ := hshows
        exact ⟨u, v, clock, huv, hminute, hclock, by rw [hframe]; exact redrawHeader_drawMain ..⟩
      · obtain ⟨u, view, hday, hview, hframe⟩ := hshows
        exact ⟨u, view, hday, hview, by rw [hframe]; exact redrawHeader_drawCalendar ..⟩
    · refine ⟨⟨?_, rfl, h.online⟩, rfl, rfl⟩
      have hshows := h.shows
      unfold Shows at hshows ⊢
      cases hs : w.panel.screen with
      | main => exact absurd (.inl hs) hscreen
      | calendar => exact absurd (.inr hs) hscreen
      | confirm action =>
        rw [hs] at hshows
        exact hshows
    · rw [Bool.not_eq_true, Battery.needsRedraw_eq_false] at hredraw
      rw [← hredraw]
      exact ⟨⟨h.shows, rfl, h.online⟩, rfl, rfl⟩

/-- What a tap draws is the screen it leaves, and where it draws nothing it changes nothing. -/
def LeavesScreen (s : LoopState) (t : TapResult) : Prop :=
  match t.output.handler with
  | none => t.panel = s
  | some (.confirm action) => t.panel.screen = .confirm action
  | some .calendar => t.panel.screen = .calendar
  | some .wake => if t.skip then t.panel.screen = .main else ∀ a, t.panel.screen ≠ .confirm a
  | some .rejectLocked | some .back | some .cancel | some (.ok _) => t.panel.screen = .main

lemma tapWake_leavesScreen {s : LoopState} (p : Panel.Readings)
    (hs : ∀ a, s.screen ≠ .confirm a) : LeavesScreen s (tapWake s p) := by
  unfold tapWake
  split_ifs
  · rfl
  · exact hs
  · exact hs

lemma tapMain_leavesScreen {s : LoopState} (p : Panel.Readings) (x y : ℤ)
    (hs : ∀ a, s.screen ≠ .confirm a) : LeavesScreen s (tapMain s p x y) := by
  unfold tapMain
  split_ifs
  · exact tapWake_leavesScreen p hs
  all_goals rfl

lemma tapConfirm_leavesScreen (s : LoopState) (p : Panel.Readings) (action : PowerAction)
    (x y : ℤ) : LeavesScreen s (tapConfirm s p action x y) := by
  unfold tapConfirm tapOk
  split_ifs <;> rfl

lemma tap_leavesScreen (s : LoopState) (p : Panel.Readings) (x y : ℤ) :
    LeavesScreen s (tap s p x y) := by
  unfold tap
  split_ifs
  · rfl
  · split
    · exact tapMain_leavesScreen p x y (by simp [*])
    · exact tapMain_leavesScreen p x y (by simp [*])
    · exact tapConfirm_leavesScreen s p _ x y

/-- Only what was drawn, and what the panel remembers, has changed. -/
structure Drawn (config : AppConfig) (P : ℤ → ℤ → Prop) (w w' : World) (s : LoopState) : Prop where
  shows : Shows config P w'
  redrawn : Redrawn { w with panel := s } w'

lemma Fresh.drawn (h : Fresh config P w) {s : LoopState} (hd : Drawn config P w w' s) :
    Fresh config P w' := by
  obtain ⟨hshows, minute, day, frame, rfl⟩ := hd
  exact ⟨hshows, h.battery, h.online⟩

lemma Drawn.status {s : LoopState} (hd : Drawn config P w w' s) : w'.status = w.status := by
  obtain ⟨-, minute, day, frame, rfl⟩ := hd
  rfl

lemma Drawn.panel {s : LoopState} (hd : Drawn config P w w' s) : w'.panel = s :=
  hd.redrawn.panel

lemma Drawn.trans {v : World} {s s' : LoopState} (hd : Drawn config P w v s)
    (hd' : Drawn config P v w' s') : Drawn config P w w' s' := by
  obtain ⟨-, minute, day, frame, rfl⟩ := hd
  obtain ⟨hshows, minute', day', frame', rfl⟩ := hd'
  exact ⟨hshows, minute', day', frame', rfl⟩

lemma Fresh.unchanged (h : Fresh config P w) : Drawn config P w w w.panel :=
  ⟨h.shows, w.clockMinute, w.calendarDay, w.frame, rfl⟩

/-- A panel with the same screen and toast is shown by the same display. -/
lemma Shows.panel (h : Shows config P w) {s : LoopState} (hscreen : s.screen = w.panel.screen)
    (htoast : s.toastText = w.panel.toastText) :
    Drawn config P w { w with panel := s } s := by
  refine ⟨?_, w.clockMinute, w.calendarDay, w.frame, rfl⟩
  unfold Shows at h ⊢
  rwa [show World.panel _ = s from rfl, hscreen, htoast]

lemma drawConfirmScreen_drawn {s : LoopState} {action : PowerAction}
    (hs : s.screen = .confirm action) :
    Drawn config P w (drawConfirmScreen { w with panel := s } action) s := by
  refine ⟨?_, w.clockMinute, w.calendarDay, drawConfirm action, rfl⟩
  unfold Shows
  rw [show World.panel _ = s from rfl, hs]
  rfl

lemma drawTap_redrawn {handler : Option Handler} {skip : Bool} {t : Times}
    (h : drawTap config w handler skip t = some w') : Redrawn w w' := by
  unfold drawTap at h
  split at h
  · exact ⟨w.clockMinute, w.calendarDay, w.frame, (Option.some.inj h).symm⟩
  · exact ⟨w.clockMinute, w.calendarDay, _, (Option.some.inj h).symm⟩
  · exact refreshCalendar_redrawn h
  · split_ifs at h
    · exact refreshMain_redrawn h
    · exact refreshCurrentScreen_redrawn h
  all_goals exact refreshMain_redrawn h

lemma drawTap_drawn {t : TapResult} {s s' : LoopState} {times : Times}
    (hw : drawTap config { w with panel := s' } t.output.handler t.skip times = some w')
    (h : Shows config P { w with panel := s }) (hP : P times.first times.second)
    (ht : LeavesScreen s t) (hscreen : s'.screen = t.panel.screen)
    (htoast : s'.toastText = t.panel.toastText) :
    Drawn config P w w' s' := by
  refine ⟨?_, drawTap_redrawn hw⟩
  unfold drawTap at hw
  unfold LeavesScreen at ht
  split at hw <;> simp only [*] at ht
  · obtain rfl := Option.some.inj hw
    rw [ht] at hscreen htoast
    exact (h.panel hscreen htoast).shows
  · exact Option.some.inj hw ▸ (drawConfirmScreen_drawn (hscreen.trans ht)).shows
  · exact refreshCalendar_shows (w := { w with panel := s' }) (hscreen.trans ht) hw
  · split_ifs at hw ht
    · exact refreshMain_shows (w := { w with panel := s' }) hP (hscreen.trans ht) hw
    · exact refreshCurrentScreen_shows (w := { w with panel := s' }) hP
        (fun action hs => absurd (hscreen.symm.trans hs) (ht action)) hw
  all_goals exact refreshMain_shows (w := { w with panel := s' }) hP (hscreen.trans ht) hw

lemma applyBacklight_shown (s : LoopState) (p : Panel.Readings) (action : BacklightAction) :
    (applyBacklight s p action).screen = s.screen ∧
      (applyBacklight s p action).toastText = s.toastText := by
  cases action with
  | turnOff =>
    unfold applyBacklight
    split_ifs <;> exact ⟨rfl, rfl⟩
  | _ => exact ⟨rfl, rfl⟩

/-- The touch handling and what follows it change the panel and the display, and no more. -/
lemma wakePart_drawn (hP : P r.touchTimes.first r.touchTimes.second)
    (hw : wakePart config w r = some w') : ∃ s, Drawn config P w w' s := by
  simp only [wakePart] at hw
  generalize hs : (if r.panel.backlightWritten = true then
    { w.panel with backlightOn := true, lastTouchActivityAt := r.panel.activityAt }
    else w.panel) = s at hw
  have hscreen : s.screen = w.panel.screen := by subst hs; split_ifs <;> rfl
  split at hw
  · exact ⟨_, Option.some.inj hw ▸ drawConfirmScreen_drawn ‹_›⟩
  · rename_i hne
    exact ⟨_, refreshCurrentScreen_shows
      (w := { w with panel := { s with touchWasDown := r.panel.touch.touchPoint.isSome } }) hP
      (fun action hs => absurd hs (hne action)) hw, refreshCurrentScreen_redrawn hw⟩

lemma tapPart_drawn {out : Output} {skip : Bool} (h : Fresh config P w)
    (hP : P r.touchTimes.first r.touchTimes.second)
    (hw : tapPart config w r = some (w', out, skip)) : ∃ s, Drawn config P w w' s := by
  simp only [tapPart] at hw
  split at hw
  · split_ifs at hw
    · obtain ⟨rfl, -⟩ := Prod.mk.inj (Option.some.inj hw)
      exact ⟨_, h.shows.panel rfl rfl⟩
    · rw [Option.bind_eq_bind, Option.bind_eq_some_iff] at hw
      obtain ⟨v, hv, heq⟩ := hw
      obtain ⟨rfl, -⟩ := Prod.mk.inj (Option.some.inj heq)
      exact ⟨_, drawTap_drawn hv h.shows hP (tap_leavesScreen _ _ _ _) rfl rfl⟩
  · obtain ⟨rfl, -⟩ := Prod.mk.inj (Option.some.inj hw)
    exact ⟨_, h.shows.panel rfl rfl⟩

lemma touchPart_drawn {out : Output} {skip : Bool} (h : Fresh config P w)
    (hP : P r.touchTimes.first r.touchTimes.second)
    (hw : touchPart config w r = some (w', out, skip)) : ∃ s, Drawn config P w w' s := by
  simp only [touchPart] at hw
  split at hw
  · obtain ⟨v, hv, heq⟩ := Option.map_eq_some_iff.mp hw
    obtain ⟨rfl, -⟩ := Prod.mk.inj heq
    exact wakePart_drawn hP hv
  · obtain ⟨hscreen, htoast⟩ := applyBacklight_shown w.panel r.panel _
    have hd := h.shows.panel hscreen htoast
    obtain ⟨s, hd'⟩ := tapPart_drawn (h.drawn hd) hP hw
    exact ⟨s, hd.trans hd'⟩

lemma toastPart_drawn (h : Fresh config P w) (hP : P r.toastTimes.first r.toastTimes.second)
    (hw : toastPart config w r = some w') :
    Drawn config P w w' (expireToast w.panel r.panel) := by
  unfold toastPart at hw
  unfold expireToast
  split_ifs at hw ⊢
  · exact ⟨refreshCurrentScreen_shows
      (w := { w with panel := { w.panel with toastText := none } }) hP
      (fun action hs => h.shows.confirm hs) hw, refreshCurrentScreen_redrawn hw⟩
  · obtain rfl := Option.some.inj hw
    exact h.unchanged

lemma minutePart_drawn (h : Fresh config P w) (hP : P r.minuteTimes.first r.minuteTimes.second)
    (hw : minutePart config w r = some w') : Drawn config P w w' w.panel := by
  unfold minutePart at hw
  split_ifs at hw with hlit
  · rw [Option.bind_eq_bind, Option.bind_eq_some_iff] at hw
    obtain ⟨minute, hminute, hw⟩ := hw
    split_ifs at hw
    · rw [Option.bind_eq_bind, Option.bind_eq_some_iff] at hw
      obtain ⟨clock, hclock, hw⟩ := hw
      obtain rfl := Option.some.inj hw
      have hshows := h.shows
      unfold Shows at hshows
      rw [hlit.2] at hshows
      obtain ⟨_, _, _, _, _, _, hframe⟩ := hshows
      refine ⟨?_, minute, w.calendarDay, _, rfl⟩
      unfold Shows
      rw [show World.panel _ = w.panel from rfl, hlit.2]
      exact ⟨_, _, clock, hP, hminute, hclock, by rw [hframe]; exact redrawClock_drawMain ..⟩
    · exact Option.some.inj hw ▸ h.unchanged
  · exact Option.some.inj hw ▸ h.unchanged

lemma dayPart_drawn (h : Fresh config P w) (hw : dayPart config w r = some w') :
    Drawn config P w w' w.panel := by
  unfold dayPart at hw
  split_ifs at hw with hlit
  · rw [Option.bind_eq_bind, Option.bind_eq_some_iff] at hw
    obtain ⟨day, hday, hw⟩ := hw
    split_ifs at hw
    · exact ⟨refreshCalendar_shows hlit.2 hw, refreshCalendar_redrawn hw⟩
    · exact Option.some.inj hw ▸ h.unchanged
  · exact Option.some.inj hw ▸ h.unchanged

/-- The places at which the clock may come to be drawn, in their order. -/
def Readings.clockTimes (r : Readings) : List Times :=
  [r.wifiTimes, r.telegramTimes, r.probeTimes, r.lockTimes, r.touchTimes, r.toastTimes,
    r.minuteTimes]

lemma beforeTouch_kept (h : Fresh config P w) (hP : ∀ t ∈ r.clockTimes, P t.first t.second)
    (hw : beforeTouch config w r = some w') : Kept config P w w' (observe w.status r) := by
  simp only [Readings.clockTimes, List.forall_mem_cons] at hP
  simp only [beforeTouch, Option.bind_eq_bind, Option.bind_eq_some_iff] at hw
  obtain ⟨a, ha, b, hb, c, hc, hw⟩ := hw
  have hwifi := wifiPart_kept h hP.1 ha
  have htelegram := telegramPart_kept hwifi.fresh hP.2.1 hb
  have hbattery := batteryPart_kept (r := r) htelegram.fresh
  have hprobe := probePart_kept hbattery.fresh hP.2.2.1 hc
  have hlock := lockPart_kept hprobe.fresh hP.2.2.2.1 hw
  refine ⟨hlock.fresh, ?_, ?_⟩
  · rw [hlock.panel, hprobe.panel, hbattery.panel, htelegram.panel, hwifi.panel]
  · rw [hlock.status, hprobe.status, hbattery.status, htelegram.status, hwifi.status]
    unfold observe
    cases (r.wifi.map OnlineServices.Check.up).getD w.status.wifiConnected <;> simp

/-- The touch is handled after the parts that follow the world outside, and a tap may be the end
of the iteration. -/
lemma iterate_cases {out : Output} (h : iterate config w r = some (w', out)) :
    ∃ v u skip, beforeTouch config w r = some v ∧ touchPart config v r = some (u, out, skip) ∧
      if skip = true then w' = u
      else ∃ t m, toastPart config u r = some t ∧ minutePart config t r = some m ∧
        dayPart config m r = some w' := by
  simp only [iterate, Option.bind_eq_bind, Option.bind_eq_some_iff, Prod.exists] at h
  obtain ⟨v, hv, u, out', skip, hu, h⟩ := h
  cases skip with
  | true =>
    obtain ⟨rfl, rfl⟩ := Prod.mk.inj (Option.some.inj h)
    exact ⟨v, u, true, hv, hu, rfl⟩
  | false =>
    simp only [Bool.false_eq_true, if_false, Option.bind_eq_some_iff] at h
    obtain ⟨t, ht, m, hm, w'', hday, h⟩ := h
    obtain ⟨rfl, rfl⟩ := Prod.mk.inj (Option.some.inj h)
    exact ⟨v, u, false, hv, hu, t, m, ht, hm, hday⟩

lemma iterate_fresh {out : Output} (h : Fresh config P w)
    (hP : ∀ t ∈ r.clockTimes, P t.first t.second) (hw : iterate config w r = some (w', out)) :
    Fresh config P w' ∧ w'.status = observe w.status r := by
  obtain ⟨v, u, skip, hv, hu, hrest⟩ := iterate_cases hw
  have hkept := beforeTouch_kept h hP hv
  simp only [Readings.clockTimes, List.forall_mem_cons] at hP
  obtain ⟨-, -, -, -, htouch, htoast, hminute, -⟩ := hP
  obtain ⟨s, hdu⟩ := touchPart_drawn hkept.fresh htouch hu
  suffices ∃ s', Drawn config P v w' s' by
    obtain ⟨s', hd⟩ := this
    exact ⟨hkept.fresh.drawn hd, hd.status.trans hkept.status⟩
  split_ifs at hrest
  · exact ⟨s, hrest ▸ hdu⟩
  · obtain ⟨t, m, ht, hm, hday⟩ := hrest
    have hfu := hkept.fresh.drawn hdu
    have hdt := toastPart_drawn hfu htoast ht
    have hft := hfu.drawn hdt
    have hdm := minutePart_drawn hft hminute hm
    exact ⟨_, ((hdu.trans hdt).trans hdm).trans (dayPart_drawn (hft.drawn hdm) hday)⟩

lemma start_fresh {check : OnlineServices.Check} {now : WakeCheck.Instant}
    {connecting connected : Times} (hP : P connected.first connected.second)
    (h : start config check now connecting connected = some w) :
    Fresh config P w ∧ w.status = ⟨check.up, false, .disabled, false, none⟩ ∧
      w.panel = .start now := by
  simp only [start, Option.bind_eq_bind, Option.bind_eq_some_iff] at h
  obtain ⟨minute, hminute, clock, hclock, href⟩ := h
  have hshows := refreshMain_shows hP rfl href
  obtain ⟨minute', day', frame', rfl⟩ := refreshMain_redrawn href
  refine ⟨⟨hshows, rfl, fun h => absurd h (by simp)⟩, ?_, rfl⟩
  rw [← OnlineServices.checkWifi_wifiConnected config OnlineServices.offline check,
    ← OnlineServices.boot_eq]

lemma wakePart_panel (hw : wakePart config w r = some w') :
    w'.panel = { (if r.panel.backlightWritten then
        { w.panel with backlightOn := true, lastTouchActivityAt := r.panel.activityAt }
      else w.panel) with touchWasDown := r.panel.touch.touchPoint.isSome } := by
  simp only [wakePart] at hw
  split at hw
  · exact Option.some.inj hw ▸ rfl
  · exact (refreshCurrentScreen_redrawn hw).panel

lemma tapPart_panel {out : Output} {skip : Bool}
    (hw : tapPart config w r = some (w', out, skip)) :
    handleTouch w.panel { r.panel with pcOnline := w.status.pcOnline } =
      (if skip then w'.panel else expireToast w'.panel r.panel, out) := by
  simp only [tapPart] at hw
  simp only [handleTouch]
  cases htouch : r.panel.touch.touchPoint with
  | none =>
    simp only [htouch] at hw
    cases Option.some.inj hw
    rfl
  | some point =>
    simp only [htouch] at hw
    split_ifs at hw with hdown
    · cases Option.some.inj hw
      simp only [hdown, not_true_eq_false, if_false, Bool.false_eq_true]
      rfl
    · rw [Option.bind_eq_bind, Option.bind_eq_some_iff] at hw
      obtain ⟨v, hv, heq⟩ := hw
      cases Option.some.inj heq
      rw [(drawTap_redrawn hv).panel]
      simp only [hdown]
      rfl

/-- The touch part, and the end of the toast with it, is the iteration of the panel. -/
lemma touchPart_panel {out : Output} {skip : Bool}
    (hw : touchPart config w r = some (w', out, skip)) :
    Panel.iterate w.panel { r.panel with pcOnline := w.status.pcOnline } =
      (if skip then w'.panel else expireToast w'.panel r.panel, out) := by
  cases hdecide : backlightDecide w.panel.backlightOn
      (r.panel.touch.touchPoint.isSome && !w.panel.touchWasDown)
      (r.panel.idleAt - w.panel.lastTouchActivityAt) with
  | wake =>
    simp only [touchPart, hdecide] at hw
    obtain ⟨v, hv, heq⟩ := Option.map_eq_some_iff.mp hw
    cases heq
    simp only [Panel.iterate, hdecide, if_true, wakePart_panel hv]
  | none | resetIdle | turnOff =>
    simp only [touchPart, hdecide] at hw
    simp only [Panel.iterate, hdecide]
    exact tapPart_panel hw

lemma iterate_panel {out : Output} (h : Fresh config P w)
    (hP : ∀ t ∈ r.clockTimes, P t.first t.second) (hw : iterate config w r = some (w', out)) :
    Panel.iterate w.panel { r.panel with pcOnline := (observe w.status r).pcOnline } =
      (w'.panel, out) := by
  obtain ⟨v, u, skip, hv, hu, hrest⟩ := iterate_cases hw
  have hkept := beforeTouch_kept h hP hv
  have hpanel := touchPart_panel hu
  rw [hkept.panel, hkept.status] at hpanel
  rw [hpanel]
  simp only [Readings.clockTimes, List.forall_mem_cons] at hP
  obtain ⟨-, -, -, -, htouch, htoast, hminute, -⟩ := hP
  split_ifs at hrest ⊢
  · rw [hrest]
  · obtain ⟨t, m, ht, hm, hday⟩ := hrest
    obtain ⟨s, hdu⟩ := touchPart_drawn hkept.fresh htouch hu
    have hfu := hkept.fresh.drawn hdu
    have hdt := toastPart_drawn hfu htoast ht
    have hft := hfu.drawn hdt
    have hdm := minutePart_drawn hft hminute hm
    rw [(dayPart_drawn (hft.drawn hdm) hday).panel, hdm.panel, hdt.panel]

section Run
variable {check : OnlineServices.Check} {now : WakeCheck.Instant} {connecting connected : Times}
  {w₀ : World} {es : List Event}

/-- What the panel is given in an iteration that starts with some status. -/
def panelReadings (s : Status) : List Event → List Panel.Readings
  | [] => []
  | e :: es =>
      let s' := observe s e.1
      { e.1.panel with pcOnline := s'.pcOnline } :: panelReadings s' es

lemma run_panel (h : Fresh config (fun _ _ => True) w) (hrun : (loop config).Run w es w') :
    Panel.loop.Run w.panel ((panelReadings w.status es).zip (es.map Prod.snd)) w'.panel := by
  induction hrun with
  | nil => exact .nil _
  | cons hs _ ih =>
    obtain ⟨hfresh, hstatus⟩ := iterate_fresh h (fun _ _ => trivial) hs
    rw [hstatus] at ih
    exact .cons (iterate_panel h (fun _ _ => trivial) hs) (ih hfresh)

/-- In every run, the status is what the readings lead to, the panel goes through its own
iterations, and the display shows the screen of the panel as it has to look now. -/
theorem display_shows_state (hstart : start config check now connecting connected = some w₀)
    (hrun : (loop config).Run w₀ es w) :
    w.status = es.foldl (fun s e => observe s e.1) ⟨check.up, false, .disabled, false, none⟩ ∧
    Panel.loop.Run (.start now) ((panelReadings w₀.status es).zip (es.map Prod.snd)) w.panel ∧
    match w.panel.screen with
    | .main => ∃ clock, w.frame = drawMain w.status w.panel.toastText clock
    | .calendar => ∃ view, w.frame = drawCalendar w.status w.panel.toastText view
    | .confirm action => w.frame = drawConfirm action := by
  obtain ⟨hfresh, hstatus, hpanel⟩ := start_fresh (P := fun _ _ => True) trivial hstart
  have hhistory : Fresh config (fun _ _ => True) w ∧
      w.status = es.foldl (fun s e => observe s e.1) w₀.status := by
    refine hrun.history (J := fun es w => Fresh config (fun _ _ => True) w ∧
      w.status = es.foldl (fun s e => observe s e.1) w₀.status) ?_ ⟨hfresh, rfl⟩
    rintro es s e t hs ⟨hf, hst⟩
    obtain ⟨hf', hst'⟩ := iterate_fresh hf (fun _ _ => trivial) hs
    exact ⟨hf', by rw [hst', hst, List.foldl_append]; rfl⟩
  refine ⟨hstatus ▸ hhistory.2, hpanel ▸ run_panel hfresh hrun, ?_⟩
  have hshows := hhistory.1.shows
  unfold Shows at hshows
  cases hs : w.panel.screen <;> rw [hs] at hshows
  · obtain ⟨_, _, clock, -, -, -, hframe⟩ := hshows
    exact ⟨clock, hframe⟩
  · obtain ⟨_, view, -, -, hframe⟩ := hshows
    exact ⟨view, hframe⟩
  · exact hshows

end Run

end Model

def eveningConfig : AppConfig := ⟨fun _ => "", fun _ => 9⟩

def evening : Times := ⟨1700000000, 1700000000⟩

/-- A first iteration, without a touch. -/
def pcFound : Readings :=
  ⟨none, evening, .polling, evening, some (some ⟨80, false, true⟩), some true, evening, false,
    evening, ⟨.none, false, false, false, 0, 0, 0, 0, true, true, none, true⟩, evening, evening,
    evening, evening⟩

def eveningStart : Option World :=
  start eveningConfig ⟨true, ⟨true, true, true⟩⟩ 0 evening evening

lemma exists_evening :
    ∃ w₀ w out, eveningStart = some w₀ ∧ iterate eveningConfig w₀ pcFound = some (w, out) ∧
      w.panel = ⟨.main, false, true, 0, none, 0⟩ := by
  have h : (eveningStart.bind fun w₀ => (iterate eveningConfig w₀ pcFound).bind fun r =>
      some r.1.panel) = some ⟨.main, false, true, 0, none, 0⟩ := by decide
  simp only [Option.bind_eq_some_iff, Option.some.injEq, Prod.exists] at h
  obtain ⟨w₀, hstart, w, out, hfound, hpanel⟩ := h
  exact ⟨w₀, w, out, hstart, hfound, hpanel⟩

theorem display_shows_state_evening :
    ∃ w₀ w out clock, (loop eveningConfig).Run w₀ [(pcFound, out)] w ∧
      w.frame = drawMain ⟨true, true, .polling, false, some ⟨80, false, true⟩⟩ none clock := by
  obtain ⟨w₀, w, out, hstart, hfound, hpanel⟩ := exists_evening
  have hrun : (loop eveningConfig).Run w₀ [(pcFound, out)] w := System.Run.one hfound
  obtain ⟨hstatus, -, hshown⟩ := display_shows_state hstart hrun
  rw [hpanel] at hshown
  obtain ⟨clock, hclock⟩ := hshown
  rw [hstatus] at hclock
  exact ⟨w₀, w, out, clock, hrun, hclock⟩

end PcRemote.MainLoop
