import PcRemote.MainLoop
import PcRemote.PanelPresses

/-! What a tap does is what the display offers at the place of the tap. Only where the banner
covers the lower edge of the power buttons does a button act that is not to be seen. -/
namespace PcRemote.MainLoop
open Config Panel Transition Ui

def askedAction (title : String) : Option PowerAction :=
  [PowerAction.reboot, .shutdown, .sleep].find? fun action => confirmTitle action == title

/-- What a button promises, read from its label and, for OK, from the question above it. -/
def promise (f : Frame) (label : String) : Option Handler :=
  if label = "WAKE" then some .wake
  else if label = "REBOOT" then some (.confirm .reboot)
  else if label = "SHUTDOWN" then some (.confirm .shutdown)
  else if label = "BACK" then some .back
  else if label = "CANCEL" then some .cancel
  else if label = "OK" then
    match f.body with
    | .question title => (askedAction title).map Handler.ok
    | .card _ | .month _ => none
  else none

/-- Where the banner is painted, after everything else. -/
def bannerArea : Panel.Button := ⟨0, 220, 320, 20⟩

def Covered (f : Frame) (x y : ℤ) : Prop :=
  f.banner.isSome = true ∧ bannerArea.contains x y = true

instance (f : Frame) (x y : ℤ) : Decidable (Covered f x y) := inferInstanceAs (Decidable (_ ∧ _))

/-- What there is but for the banner: the button painted last, or the clock. -/
def beneath (f : Frame) (x y : ℤ) : Option Handler :=
  match f.buttons.reverse.find? fun b => b.area.contains x y with
  | some b => promise f b.label
  | none => if f.clock.isSome && clockTapZone.contains x y then some .calendar else none

/-- What a tap on the display is for, as far as it is to be seen. -/
def offers (f : Frame) (x y : ℤ) : Option Handler :=
  if Covered f x y then none else beneath f x y

lemma contains_iff (b : Panel.Button) (x y : ℤ) :
    b.contains x y = true ↔ (b.x ≤ x ∧ x < b.x + b.w) ∧ b.y ≤ y ∧ y < b.y + b.h := by
  simp [Panel.Button.contains, and_assoc]

/-- The power buttons do not overlap. -/
lemma power_apart (x y : ℤ) :
    (wakeButton.contains x y = true → rebootButton.contains x y = false ∧
      shutdownButton.contains x y = false) ∧
    (rebootButton.contains x y = true → shutdownButton.contains x y = false) := by
  simp only [← Bool.not_eq_true, contains_iff, wakeButton, rebootButton, shutdownButton]
  omega

lemma beneath_drawMain (status : Status) (toast : Option String) (clock : ClockStrings)
    (x y : ℤ) :
    beneath (drawMain status toast clock) x y =
      if wakeButton.contains x y then some .wake
      else if status.pcOnline && rebootButton.contains x y then some (.confirm .reboot)
      else if status.pcOnline && shutdownButton.contains x y then some (.confirm .shutdown)
      else if clockTapZone.contains x y then some .calendar
      else none := by
  have hapart := power_apart x y
  unfold beneath drawMain powerButtons drawButton
  cases hw : wakeButton.contains x y <;> cases hr : rebootButton.contains x y <;>
    cases hs : shutdownButton.contains x y <;> cases status.pcOnline <;>
    simp_all [promise]

/-- The BACK button lies above the row of power buttons. -/
lemma back_above {x y : ℤ} (h : calendarBackButton.contains x y = true) :
    wakeButton.contains x y = false ∧ rebootButton.contains x y = false ∧
      shutdownButton.contains x y = false := by
  simp only [← Bool.not_eq_true, contains_iff, calendarBackButton, wakeButton, rebootButton,
    shutdownButton] at h ⊢
  omega

lemma beneath_drawCalendar (status : Status) (toast : Option String) (view : CalendarView)
    (x y : ℤ) :
    beneath (drawCalendar status toast view) x y =
      if wakeButton.contains x y then some .wake
      else if status.pcOnline && rebootButton.contains x y then some (.confirm .reboot)
      else if status.pcOnline && shutdownButton.contains x y then some (.confirm .shutdown)
      else if calendarBackButton.contains x y then some .back
      else none := by
  have hapart := power_apart x y
  unfold beneath drawCalendar powerButtons drawButton
  cases hb : calendarBackButton.contains x y with
  | true =>
    obtain ⟨hw, hr, hs⟩ := back_above hb
    cases status.pcOnline <;> simp [hb, hw, hr, hs, promise]
  | false =>
    cases hw : wakeButton.contains x y <;> cases hr : rebootButton.contains x y <;>
      cases hs : shutdownButton.contains x y <;> cases status.pcOnline <;>
      simp_all [promise]

lemma askedAction_confirmTitle (action : PowerAction) :
    askedAction (confirmTitle action) = some action := by
  cases action <;> decide

lemma cancel_apart {x y : ℤ} (h : cancelButton.contains x y = true) :
    okButton.contains x y = false := by
  simp only [← Bool.not_eq_true, contains_iff, cancelButton, okButton] at h ⊢
  omega

lemma beneath_drawConfirm (action : PowerAction) (x y : ℤ) :
    beneath (drawConfirm action) x y =
      if cancelButton.contains x y then some .cancel
      else if okButton.contains x y then some (.ok action)
      else none := by
  have hapart := @cancel_apart x y
  unfold beneath drawConfirm drawButton
  cases hc : cancelButton.contains x y <;> cases ho : okButton.contains x y <;>
    simp_all [promise, askedAction_confirmTitle]

/-- Where the banner covers a power button, with what the button does. -/
inductive Hides (f : Frame) (x y : ℤ) : Prop
  | wake (h : wakeButton.contains x y = true) (hb : beneath f x y = some .wake)
  | reboot (h : rebootButton.contains x y = true) (hb : beneath f x y = some (.confirm .reboot))
  | shutdown (h : shutdownButton.contains x y = true)
      (hb : beneath f x y = some (.confirm .shutdown))

/-- The clock and the BACK button lie above the banner. -/
lemma above_banner {x y : ℤ} (h : bannerArea.contains x y = true) :
    clockTapZone.contains x y = false ∧ calendarBackButton.contains x y = false := by
  simp only [← Bool.not_eq_true, contains_iff, bannerArea, clockTapZone,
    calendarBackButton] at h ⊢
  omega

lemma tapMain_handler (s : LoopState) (p : Panel.Readings) (x y : ℤ) :
    (tapMain s p x y).output.handler =
      if wakeButton.contains x y then some .wake
      else if p.pcOnline && rebootButton.contains x y then some (.confirm .reboot)
      else if p.pcOnline && shutdownButton.contains x y then some (.confirm .shutdown)
      else if s.screen = .main ∧ clockTapZone.contains x y then some .calendar
      else if s.screen = .calendar ∧ calendarBackButton.contains x y then some .back
      else none := by
  unfold tapMain tapWake
  split_ifs <;> rfl

lemma tapConfirm_handler (s : LoopState) (p : Panel.Readings) (action : PowerAction) (x y : ℤ) :
    (tapConfirm s p action x y).output.handler =
      if cancelButton.contains x y then some .cancel
      else if okButton.contains x y then some (.ok action)
      else none := by
  unfold tapConfirm tapOk
  split_ifs <;> rfl

variable {config : AppConfig} {P : ℤ → ℤ → Prop} {w w' : World} {r : Readings}

/-- A tap that the lock does not turn away does what there is at its place. -/
lemma tap_handler (h : Shows config P w) {s : LoopState} {p : Panel.Readings}
    (hs : s.screen = w.panel.screen) (hp : p.pcOnline = w.status.pcOnline) (x y : ℤ) :
    (tap s p x y).output.handler =
      if powerButtonTapped w.panel.screen x y && p.locked then some .rejectLocked
      else beneath w.frame x y := by
  unfold tap
  rw [hs]
  split_ifs with hlocked
  · rfl
  · unfold Shows at h
    cases hscreen : w.panel.screen <;> rw [hscreen] at h hs
    · obtain ⟨_, _, clock, -, -, -, hframe⟩ := h
      simp only [tapMain_handler, hframe, beneath_drawMain, hs, hp]
      simp
    · obtain ⟨_, view, -, -, hframe⟩ := h
      simp only [tapMain_handler, hframe, beneath_drawCalendar, hs, hp]
      simp
    · simp only [tapConfirm_handler, h, beneath_drawConfirm]

/-- The display shows what is there, unless the banner covers a power button. -/
lemma hides_of_ne (h : Shows config P w) {x y : ℤ}
    (hne : offers w.frame x y ≠ beneath w.frame x y) :
    Covered w.frame x y ∧ Hides w.frame x y := by
  unfold offers at hne
  split_ifs at hne with hcovered
  · obtain ⟨hclock, hback⟩ := above_banner hcovered.2
    refine ⟨hcovered, ?_⟩
    suffices ∃ status : Status, beneath w.frame x y =
        if wakeButton.contains x y then some .wake
        else if status.pcOnline && rebootButton.contains x y then some (.confirm .reboot)
        else if status.pcOnline && shutdownButton.contains x y then some (.confirm .shutdown)
        else none by
      obtain ⟨status, hbeneath⟩ := this
      rw [hbeneath] at hne
      split_ifs at hne hbeneath with hwake hreboot hshutdown
      · exact .wake hwake hbeneath
      · exact .reboot (Bool.and_eq_true _ _ ▸ hreboot).2 hbeneath
      · exact .shutdown (Bool.and_eq_true _ _ ▸ hshutdown).2 hbeneath
      · exact absurd rfl hne
    unfold Shows at h
    cases hscreen : w.panel.screen <;> rw [hscreen] at h
    · obtain ⟨_, _, clock, -, -, -, hframe⟩ := h
      exact ⟨w.status, by rw [hframe, beneath_drawMain, hclock]; rfl⟩
    · obtain ⟨_, view, -, -, hframe⟩ := h
      exact ⟨w.status, by rw [hframe, beneath_drawCalendar, hback]; rfl⟩
    · have hnone := hcovered.1
      rw [h] at hnone
      cases hnone
  · exact absurd rfl hne

lemma handleTouch_output (s : LoopState) (p : Panel.Readings) :
    (handleTouch s p).2 =
      match p.touch with
      | .point x y => if s.touchWasDown = false then (tap s p x y).output else .nothing
      | .none | .error => .nothing := by
  unfold handleTouch
  cases p.touch <;> cases hdown : s.touchWasDown <;> simp [Touch.touchPoint]

/-- Without a rising edge of the touch nothing happens, and a dark panel takes it for itself. -/
lemma output_nothing {s : LoopState} {p : Panel.Readings}
    (h : s.backlightOn = true → ∀ x y, p.touch = .point x y → s.touchWasDown = true) :
    (Panel.iterate s p).2 = .nothing := by
  have hquiet : ∀ action, (∀ x y, p.touch = .point x y → s.touchWasDown = true) →
      (handleTouch (applyBacklight s p action) p).2 = .nothing := by
    intro action hdown
    rw [handleTouch_output, (applyBacklight_screen s p action).2]
    cases htouch : p.touch with
    | point x y => simp [hdown x y htouch]
    | none => rfl
    | error => rfl
  simp only [Panel.iterate]
  split
  · rfl
  · rename_i hwake
    refine hquiet _ fun x y htouch => ?_
    cases hlit : s.backlightOn with
    | true => exact h hlit x y htouch
    | false =>
      -- a first contact would have been the one that lights the display
      by_contra hdown
      rw [Bool.not_eq_true] at hdown
      exact hwake (by simp [backlightDecide, hlit, htouch, hdown, Touch.touchPoint])

lemma output_tap {s : LoopState} {p : Panel.Readings} {x y : ℤ} (hlit : s.backlightOn = true)
    (hdown : s.touchWasDown = false) (htouch : p.touch = .point x y) :
    (Panel.iterate s p).2 = (tap { s with lastTouchActivityAt := p.activityAt } p x y).output := by
  simp only [Panel.iterate, backlightDecide, htouch, hdown, hlit, Touch.touchPoint,
    Option.isSome_some, Bool.not_false, Bool.and_self, if_true, applyBacklight, handleTouch_output]

section Run
variable {check : OnlineServices.Check} {now : WakeCheck.Instant} {connecting connected : Times}
  {w₀ : World} {es : List Event} {out : Output}

end Run

def touched (touch : Touch) : Readings :=
  { pcFound with battery := none, probe := none, panel := { pcFound.panel with touch := touch } }

/-- WAKE is tapped, and the toast that comes covers its lower edge. -/
lemma exists_wakeTapped : ∃ w₀ w es v w' out, eveningStart = some w₀ ∧
    (loop eveningConfig).Run w₀ es w ∧
    iterate eveningConfig w (touched (.point 50 224)) = some (w', out) ∧
    beforeTouch eveningConfig w (touched (.point 50 224)) = some v ∧
    w.panel.screen = .main ∧ w.panel.backlightOn = true ∧ w.panel.touchWasDown = false ∧
    Covered v.frame 50 224 ∧ beneath v.frame 50 224 ≠ none := by
  have h : (eveningStart.bind fun w₀ => (iterate eveningConfig w₀ pcFound).bind fun a =>
      (iterate eveningConfig a.1 (touched (.point 50 200))).bind fun b =>
        (iterate eveningConfig b.1 (touched .none)).bind fun c =>
          (iterate eveningConfig c.1 (touched (.point 50 224))).bind fun _ =>
            (beforeTouch eveningConfig c.1 (touched (.point 50 224))).bind fun v =>
              some (c.1.panel.screen, c.1.panel.backlightOn, c.1.panel.touchWasDown,
                decide (Covered v.frame 50 224), (beneath v.frame 50 224).isSome)) =
      some (.main, true, false, true, true) := by decide
  simp only [Option.bind_eq_some_iff, Option.some.injEq, Prod.exists, Prod.mk.injEq,
    decide_eq_true_eq] at h
  obtain ⟨w₀, hstart, a, ea, ha, b, eb, hb, c, ec, hc, w', out, hstep, v, hv, hscreen, hlit, hdown,
    hcovered, hbeneath⟩ := h
  exact ⟨w₀, c, [(pcFound, ea), (touched (.point 50 200), eb), (touched .none, ec)], v, w', out,
    hstart, .cons ha (.cons hb (.one hc)), hstep, hv, hscreen, hlit, hdown, hcovered,
    Option.isSome_iff_ne_none.mp hbeneath⟩

end PcRemote.MainLoop
