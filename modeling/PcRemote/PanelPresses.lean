import PcRemote.Panel

/-! Presses on the panel. Between two successful readings without a touch lies one press. As
long as no I2C error splits a press in two, only its first contact can trigger a button, and
a command needs two of them. -/
namespace PcRemote.Panel
open Transition

def Touch.isPoint : Touch → Bool
  | .point .. => true
  | .none | .error => false

/-- Whether a press is under way after a reading: an error neither starts nor ends one. -/
def contact (pressed : Bool) : Touch → Bool
  | .point .. => true
  | .none => false
  | .error => pressed

def pressed (es : List Event) : Bool := es.foldl (fun b e => contact b e.1.touch) false

/-- The event is a tap on the button of the action while the PC is on, and opens the
confirmation screen. -/
def Opens (action : PowerAction) (e : Event) : Prop :=
  e.2.handler = some (.confirm action) ∧ e.1.pcOnline = true ∧ ∃ x y, e.1.touch = .point x y ∧
    ((action = .reboot ∧ rebootButton.contains x y) ∨
      (action = .shutdown ∧ shutdownButton.contains x y))

/-- A command is sent by a tap on OK, on a screen opened by an earlier tap; in between the
finger was lifted, and no other button was triggered. -/
def CommandsConfirmed (t₀ : WakeCheck.Instant) (es : List Event) : Prop :=
  ∀ pre e post action, es = pre ++ e :: post → .sendCommand action ∈ e.2.effects →
    (∃ s, loop.Run (.start t₀) pre s ∧ s.screen = .confirm action) ∧
    (∃ x y, e.1.touch = .point x y ∧ okButton.contains x y) ∧
    ∃ before opening between, pre = before ++ opening :: between ∧ Opens action opening ∧
      (∀ n ∈ between, n.2.handler = none) ∧ ∃ n ∈ between, n.1.touch = .none

/-- A press that first touches the panel while the backlight is off triggers nothing. -/
def DarkPressesInert (t₀ : WakeCheck.Instant) (es : List Event) : Prop :=
  ∀ pre first rest post s, es = pre ++ (first :: rest) ++ post → pressed pre = false →
    first.1.touch.isPoint → (∀ n ∈ rest, n.1.touch ≠ .none) → loop.Run (.start t₀) pre s →
    s.backlightOn = false → ∀ n ∈ first :: rest, n.2.handler = none

def OneHandlerPerPress (es : List Event) : Prop :=
  ∀ pre press post, es = pre ++ press ++ post → (∀ n ∈ press, n.1.touch ≠ .none) →
    press.countP (fun n => n.2.handler.isSome) ≤ 1

def TwoPresses (t₀ : WakeCheck.Instant) (es : List Event) : Prop :=
  CommandsConfirmed t₀ es ∧ DarkPressesInert t₀ es ∧ OneHandlerPerPress es

/-- A tap triggers nothing, opens a confirmation, is the OK of one, or triggers something else
and leaves no confirmation open. -/
inductive TapSpec (screen : Screen) (r : Readings) (x y : ℤ) (t : TapResult) : Prop
  | nothing (ho : t.output = .nothing) (hs : t.panel.screen = screen)
  | opens (action : PowerAction) (ho : t.output = ⟨some (.confirm action), []⟩)
      (hs : t.panel.screen = .confirm action) (hpc : r.pcOnline = true)
      (hb : (action = .reboot ∧ rebootButton.contains x y) ∨
        (action = .shutdown ∧ shutdownButton.contains x y))
  | ok (action : PowerAction) (hs : screen = .confirm action) (hb : okButton.contains x y)
      (ho : t.output.handler = some (.ok action))
      (hsend : ∀ b, .sendCommand b ∈ t.output.effects → b = action)
      (hmain : t.panel.screen = .main)
  | other (handler : Handler) (ho : t.output.handler = some handler)
      (hsend : ∀ b, .sendCommand b ∉ t.output.effects) (hs : ∀ a, t.panel.screen ≠ .confirm a)

lemma sendCommand_not_mem_notify (r : Readings) (text : String) (b : PowerAction) :
    .sendCommand b ∉ notifyPanelAction r text := by
  unfold notifyPanelAction
  split_ifs <;> simp

lemma tapWake_spec {s : LoopState} (r : Readings) (x y : ℤ) (hs : ∀ a, s.screen ≠ .confirm a) :
    TapSpec s.screen r x y (tapWake s r) := by
  unfold tapWake
  split_ifs
  · exact .other .wake rfl (by simp) (by simp [rejectLocked])
  · exact .other .wake rfl (by simp [sendCommand_not_mem_notify]) hs
  · exact .other .wake rfl (by simp [sendCommand_not_mem_notify]) hs

lemma tapMain_spec {s : LoopState} (r : Readings) (x y : ℤ) (hs : ∀ a, s.screen ≠ .confirm a) :
    TapSpec s.screen r x y (tapMain s r x y) := by
  unfold tapMain
  split_ifs with hwake hreboot hshutdown hclock hback
  · exact tapWake_spec r x y hs
  · rw [Bool.and_eq_true] at hreboot
    exact .opens .reboot rfl rfl hreboot.1 (.inl ⟨rfl, hreboot.2⟩)
  · rw [Bool.and_eq_true] at hshutdown
    exact .opens .shutdown rfl rfl hshutdown.1 (.inr ⟨rfl, hshutdown.2⟩)
  · exact .other .calendar rfl (by simp) (by simp)
  · exact .other .back rfl (by simp) (by simp)
  · exact .nothing rfl rfl

lemma tapConfirm_spec {s : LoopState} {action : PowerAction} (r : Readings) (x y : ℤ)
    (hs : s.screen = .confirm action) : TapSpec s.screen r x y (tapConfirm s r action x y) := by
  unfold tapConfirm tapOk
  split_ifs with hcancel hok hlocked
  · exact .other .cancel rfl (by simp) (by simp)
  · exact .ok action hs hok rfl (by simp) rfl
  · refine .ok action hs hok rfl ?_ rfl
    intro b hb
    simpa [sendCommand_not_mem_notify] using hb
  · exact .nothing rfl rfl

lemma tap_spec (s : LoopState) (r : Readings) (x y : ℤ) : TapSpec s.screen r x y (tap s r x y) := by
  unfold tap
  split_ifs
  · exact .other .rejectLocked rfl (by simp) (by simp [rejectLocked])
  · split
    · exact tapMain_spec r x y (by simp [*])
    · exact tapMain_spec r x y (by simp [*])
    · exact tapConfirm_spec r x y ‹_›

lemma expireToast_screen (s : LoopState) (r : Readings) :
    (expireToast s r).screen = s.screen ∧ (expireToast s r).touchWasDown = s.touchWasDown := by
  unfold expireToast
  split_ifs <;> exact ⟨rfl, rfl⟩

lemma applyBacklight_screen (s : LoopState) (r : Readings) (action : BacklightAction) :
    (applyBacklight s r action).screen = s.screen ∧
      (applyBacklight s r action).touchWasDown = s.touchWasDown := by
  cases action with
  | turnOff =>
    unfold applyBacklight
    split_ifs <;> exact ⟨rfl, rfl⟩
  | _ => exact ⟨rfl, rfl⟩

lemma handleTouch_cases (s : LoopState) (r : Readings) :
    ((handleTouch s r).2 = .nothing ∧ (handleTouch s r).1.screen = s.screen) ∨
      (s.touchWasDown = false ∧ ∃ x y, r.touch = .point x y ∧ ∃ t, TapSpec s.screen r x y t ∧
        (handleTouch s r).2 = t.output ∧ (handleTouch s r).1.screen = t.panel.screen) := by
  cases ht : r.touch with
  | point x y =>
    cases hd : s.touchWasDown with
    | true => exact .inl (by simp [handleTouch, ht, hd, Touch.touchPoint, expireToast_screen])
    | false =>
      refine .inr ⟨rfl, x, y, rfl, tap s r x y, tap_spec s r x y, ?_, ?_⟩
      · simp [handleTouch, ht, hd, Touch.touchPoint]
      · simp only [handleTouch, ht, hd, Touch.touchPoint]
        split_ifs <;> simp_all [expireToast_screen]
  | none => exact .inl (by simp [handleTouch, ht, Touch.touchPoint, expireToast_screen])
  | error => exact .inl (by simp [handleTouch, ht, Touch.touchPoint, expireToast_screen])

/-- An iteration triggers nothing, or it is a rising edge under a lit backlight. -/
lemma iterate_cases (s : LoopState) (r : Readings) :
    ((iterate s r).2 = .nothing ∧ (iterate s r).1.screen = s.screen) ∨
      (s.touchWasDown = false ∧ s.backlightOn = true ∧ ∃ x y, r.touch = .point x y ∧
        ∃ t, TapSpec s.screen r x y t ∧ (iterate s r).2 = t.output ∧
          (iterate s r).1.screen = t.panel.screen) := by
  unfold iterate
  dsimp only
  split
  · split_ifs <;> exact .inl ⟨rfl, rfl⟩
  · rename_i action hnowake
    obtain ⟨hscreen, hdown⟩ := applyBacklight_screen s r
      (backlightDecide s.backlightOn (r.touch.touchPoint.isSome && !s.touchWasDown)
        (r.idleAt - s.lastTouchActivityAt))
    rcases handleTouch_cases (applyBacklight s r (backlightDecide s.backlightOn
      (r.touch.touchPoint.isSome && !s.touchWasDown) (r.idleAt - s.lastTouchActivityAt))) r with
      ⟨ho, hs⟩ | ⟨hd, x, y, ht, t, hspec, ho, hs⟩
    · exact .inl ⟨ho, hs.trans hscreen⟩
    · rw [hdown] at hd
      rw [hscreen] at hspec
      refine .inr ⟨hd, ?_, x, y, ht, t, hspec, ho, hs⟩
      -- a rising edge in the dark would have woken the backlight instead
      by_contra hdark
      apply hnowake
      simp [backlightDecide, hdark, hd, ht, Touch.touchPoint]

/-! ### Presses -/

/-- The loop, with a note of whether a press is under way. -/
def watched : System (LoopState × Bool) Event where
  step s e t := loop.step s.1 e t.1 ∧ t.2 = contact s.2 e.1.touch

/-- An I2C error has hidden the press under way, and its next contact looks like a new one. -/
def SplitsPress (s : LoopState × Bool) (e : Event) : Prop :=
  e.1.touch.isPoint ∧ s.2 = true ∧ s.1.touchWasDown = false

/-- The loop, as long as no error splits a press. -/
def unsplit : System (LoopState × Bool) Event := watched.restrict fun s e => ¬ SplitsPress s e

lemma unsplit_loop {s t : LoopState × Bool} {es : List Event} (h : unsplit.Run s es t) :
    loop.Run s.1 es t.1 := by
  induction h with
  | nil => exact .nil _
  | cons hst _ ih => exact .cons hst.1.1 ih

/-- Only the first contact of a press triggers a button, and only under a lit backlight. -/
lemma first_contact_of_handler {s t : LoopState × Bool} {e : Event} (h : unsplit.step s e t)
    (hh : e.2.handler ≠ none) : s.2 = false ∧ s.1.backlightOn = true ∧ t.2 = true := by
  obtain ⟨⟨hstep, ht⟩, hsplit⟩ := h
  have hout : (iterate s.1 e.1).2 = e.2 := by
    have hit : iterate s.1 e.1 = (t.1, e.2) := hstep
    rw [hit]
  rcases iterate_cases s.1 e.1 with ⟨ho, -⟩ | ⟨hd, hlight, x, y, htouch, -⟩
  · rw [hout] at ho
    simp [ho, Output.nothing] at hh
  · refine ⟨?_, hlight, by rw [ht, htouch]; rfl⟩
    by_contra hb
    exact hsplit ⟨by rw [htouch]; rfl, by simpa using hb, hd⟩

lemma contact_of_not_lifted {t : Touch} (h : t ≠ .none) (b : Bool) (hb : b = true) :
    contact b t = true := by
  cases t <;> simp_all [contact]

/-- Once a press is under way, the rest of it triggers nothing. -/
lemma rest_of_press {s t : LoopState × Bool} {es : List Event} (h : unsplit.Run s es t)
    (hs : s.2 = true) (hpress : ∀ n ∈ es, n.1.touch ≠ .none) : ∀ n ∈ es, n.2.handler = none := by
  induction h with
  | nil => simp
  | cons hst _ ih =>
    simp only [List.mem_cons, forall_eq_or_imp] at hpress ⊢
    refine ⟨?_, ih ?_ hpress.2⟩
    · by_contra hh
      have hfirst := (first_contact_of_handler hst hh).1
      rw [hs] at hfirst
      simp at hfirst
    · rw [hst.1.2]
      exact contact_of_not_lifted hpress.1 _ hs

lemma press_count {s t : LoopState × Bool} {es : List Event} (h : unsplit.Run s es t)
    (hpress : ∀ n ∈ es, n.1.touch ≠ .none) :
    es.countP (fun n => n.2.handler.isSome) ≤ 1 := by
  induction h with
  | nil => simp
  | @cons s t u e es hst hr ih =>
    simp only [List.mem_cons, forall_eq_or_imp] at hpress
    by_cases hh : e.2.handler = none
    · have hcount := ih hpress.2
      rw [List.countP_cons_of_neg (by simp [hh])]
      exact hcount
    · have hrest := rest_of_press hr (first_contact_of_handler hst hh).2.2 hpress.2
      have hzero : es.countP (fun n => n.2.handler.isSome) = 0 := by
        rw [List.countP_eq_zero]
        intro n hn
        simp [hrest n hn]
      rw [List.countP_cons, hzero]
      split_ifs <;> omega

/-- The confirmation on the screen was opened by a tap, nothing else was triggered since, and
once the press of that tap is over the finger has been lifted. -/
def Opened (action : PowerAction) (es : List Event) (b : Bool) : Prop :=
  ∃ before opening between, es = before ++ opening :: between ∧ Opens action opening ∧
    (∀ n ∈ between, n.2.handler = none) ∧ (b = false → ∃ n ∈ between, n.1.touch = .none)

lemma Opened.snoc {action : PowerAction} {es : List Event} {b : Bool}
    (h : Opened action es b) {e : Event} (he : e.2.handler = none) :
    Opened action (es ++ [e]) (contact b e.1.touch) := by
  obtain ⟨before, opening, between, rfl, hopens, hquiet, hlift⟩ := h
  refine ⟨before, opening, between ++ [e], by simp, hopens, ?_, ?_⟩
  · intro n hn
    rcases List.mem_append.mp hn with hn | hn
    · exact hquiet n hn
    · rw [List.mem_singleton.mp hn]
      exact he
  · intro hb
    cases htouch : e.1.touch with
    | point x y => simp [htouch, contact] at hb
    | none => exact ⟨e, by simp, htouch⟩
    | error =>
      obtain ⟨n, hn, hnone⟩ := hlift (by simpa [htouch, contact] using hb)
      exact ⟨n, List.mem_append_left _ hn, hnone⟩

lemma opened_step {es : List Event} {s t : LoopState × Bool} {e : Event} (h : unsplit.step s e t)
    (hs : ∀ action, s.1.screen = .confirm action → Opened action es s.2) :
    ∀ action, t.1.screen = .confirm action → Opened action (es ++ [e]) t.2 := by
  obtain ⟨⟨hstep, ht⟩, -⟩ := h
  have hit : iterate s.1 e.1 = (t.1, e.2) := hstep
  have hcases := iterate_cases s.1 e.1
  rw [hit] at hcases
  simp only at hcases
  intro action haction
  rw [ht]
  rcases hcases with ⟨ho, hscreen⟩ | ⟨-, -, x, y, htouch, tapped, hspec, ho, hscreen⟩
  · exact (hs action (hscreen ▸ haction)).snoc (by rw [ho]; rfl)
  · rw [hscreen] at haction
    cases hspec with
    | nothing hnothing hsame =>
      exact (hs action (hsame ▸ haction)).snoc (by rw [ho, hnothing]; rfl)
    | opens opened hopens hconfirm hpc hbutton =>
      have heq : opened = action := by simpa [hconfirm] using haction
      subst heq
      refine ⟨es, e, [], by simp, ⟨?_, hpc, x, y, htouch, hbutton⟩, by simp, ?_⟩
      · rw [ho, hopens]
      · simp [htouch, contact]
    | ok _ _ _ _ _ hmain => simp [hmain] at haction
    | other _ _ _ hnone => exact absurd haction (hnone action)

lemma opened_run {t₀ : WakeCheck.Instant} {es : List Event} {s : LoopState × Bool}
    (h : unsplit.Run (.start t₀, false) es s) :
    ∀ action, s.1.screen = .confirm action → Opened action es s.2 := by
  refine h.history
    (J := fun es s => ∀ action, s.1.screen = .confirm action → Opened action es s.2) ?_ ?_
  · intro es s e t hst hs
    exact opened_step hst hs
  · intro action h
    simp [LoopState.start] at h

/-- As long as no I2C error splits a press, power commands take two presses, a press that
wakes the backlight triggers nothing, and no press triggers two buttons. -/
theorem two_presses_unless_split {t₀ : WakeCheck.Instant} {es : List Event} {s : LoopState × Bool}
    (h : unsplit.Run (.start t₀, false) es s) : TwoPresses t₀ es := by
  refine ⟨?_, ?_, ?_⟩
  · rintro pre e post action rfl hsend
    obtain ⟨u, v, hpre, hstep, -⟩ := h.split
    have hit : iterate u.1 e.1 = (v.1, e.2) := hstep.1.1
    have hcases := iterate_cases u.1 e.1
    rw [hit] at hcases
    rcases hcases with ⟨ho, -⟩ | ⟨-, -, x, y, htouch, tapped, hspec, ho, -⟩
    · rw [ho] at hsend
      simp [Output.nothing] at hsend
    · rw [ho] at hsend
      cases hspec with
      | nothing hnothing => simp [hnothing, Output.nothing] at hsend
      | opens _ hopens => simp [hopens] at hsend
      | ok confirmed hscreen hok hhandler honly =>
        obtain rfl := honly action hsend
        have hfirst := (first_contact_of_handler hstep (by rw [ho, hhandler]; simp)).1
        obtain ⟨before, opening, between, hsplit, hopens, hquiet, hlift⟩ :=
          opened_run hpre action hscreen
        exact ⟨⟨u.1, unsplit_loop hpre, hscreen⟩, ⟨x, y, htouch, hok⟩,
          before, opening, between, hsplit, hopens, hquiet, hlift hfirst⟩
      | other _ _ hnone => exact absurd hsend (hnone action)
  · rintro pre first rest post u rfl hpressed hpoint hrest hpre hdark
    obtain ⟨v, hv, -⟩ := h.append_inv
    obtain ⟨w, hw, hpress⟩ := hv.append_inv
    obtain rfl : w.1 = u := component_unique (unsplit_loop hw) hpre
    cases hpress with
    | cons hfirst hr =>
      simp only [List.mem_cons, forall_eq_or_imp]
      refine ⟨?_, rest_of_press hr ?_ hrest⟩
      · by_contra hh
        have hlight := (first_contact_of_handler hfirst hh).2.1
        rw [hdark] at hlight
        simp at hlight
      · rw [hfirst.1.2]
        cases htouch : first.1.touch <;> simp_all [Touch.isPoint, contact]
  · rintro pre press post rfl hpress
    obtain ⟨u, hu, -⟩ := h.append_inv
    obtain ⟨v, -, hv⟩ := hu.append_inv
    exact press_count hv hpress

def reading (touch : Touch) : Readings where
  touch := touch
  pcOnline := true
  locked := false
  lockedAgain := false
  idleAt := 0
  activityAt := 0
  toastAt := 0
  expiryAt := 0
  backlightWritten := true
  wolSent := true
  commandStatus := some 200
  notifier := false

/-- REBOOT, the finger lifted, then OK, at the one place where both buttons are. -/
theorem two_presses_reboot : TwoPresses 0
    (feed iterate (.start 0)
      [reading (.point 180 190), reading .none, reading (.point 180 190)]).1 := by
  let tapped : LoopState := ⟨.confirm .reboot, true, true, 0, none, 0⟩
  let lifted : LoopState := ⟨.confirm .reboot, false, true, 0, none, 0⟩
  let confirmed : LoopState := ⟨.main, true, true, 0, some "Command accepted", 0⟩
  have hreboot : unsplit.step (.start 0, false)
      (reading (.point 180 190), (iterate (.start 0) (reading (.point 180 190))).2)
      (tapped, true) := ⟨⟨rfl, rfl⟩, by simp [SplitsPress]⟩
  have hlift : unsplit.step (tapped, true)
      (reading .none, (iterate tapped (reading .none)).2) (lifted, false) :=
    ⟨⟨rfl, rfl⟩, by simp [SplitsPress, reading, Touch.isPoint]⟩
  have hok : unsplit.step (lifted, false)
      (reading (.point 180 190), (iterate lifted (reading (.point 180 190))).2)
      (confirmed, true) := ⟨⟨rfl, rfl⟩, by simp [SplitsPress]⟩
  exact two_presses_unless_split (.cons hreboot (.cons hlift (.one hok)))

/-- A single press on the place where REBOOT and OK overlap: an I2C error in the middle of it
reboots the PC. -/
theorem not_twoPresses : ¬ ∀ t₀ es s, loop.Run (.start t₀) es s → TwoPresses t₀ es := by
  intro h
  have htwo := h 0 _ _ (feed_run iterate (.start 0)
    [reading (.point 180 190), reading .error, reading (.point 180 190)])
  obtain ⟨-, -, before, opening, between, hpre, -, -, n, hn, hlifted⟩ :=
    htwo.1 [_, _] _ [] .reboot rfl (by decide)
  have hmem : n ∈ before ++ opening :: between := by simp [hn]
  rw [← hpre] at hmem
  simp only [List.mem_cons, List.not_mem_nil, or_false] at hmem
  rcases hmem with rfl | rfl <;> simp [reading] at hlifted

end PcRemote.Panel
