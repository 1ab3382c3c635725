import PcRemote.Board

/-! The main loop as the power chip sees it: it looks at the latches every second, reads the battery
where something is latched or ten seconds have passed, follows the setting of the brightness, and
turns the light off and on again. -/
namespace PcRemote.Board
open Panel Transactions Transition

/-- The variables of the loop that belong to the chip. -/
structure Vars where
  batteryAt : ℕ
  batteryFastAt : ℕ
  battery : Option Battery
  appliedBrightness : ℕ
  backlightOn : Bool
  lastTouchActivityAt : ℕ
  touchWasDown : Bool

def batteryPollInterval : ℕ := 1000000000
def fullReadInterval : ℕ := 10 * 1000000000

def shouldRead (pending : Bool) (elapsedSinceRead : ℕ) : Bool :=
  pending || fullReadInterval ≤ elapsedSinceRead

section Model
variable {Volts : Type} (batteryPercent : Volts → Bool → Bool → ℕ)

/-- A latch that cannot be read counts as pending. What is drawn of the battery is all of it, so
the status holds each reading. -/
def batteryPart (s : Vars) : I2c Volts Vars := do
  if batteryPollInterval ≤ (← now) - s.batteryFastAt then
    let batteryFastAt ← now
    let pending := (← powerEventPending).getD true
    if shouldRead pending ((← now) - s.batteryAt) then
      let batteryAt ← now
      let nowBattery ← readBattery batteryPercent
      let _ ← clearPowerIrqStatus
      return { s with
        batteryAt := batteryAt
        batteryFastAt := batteryFastAt
        battery := nowBattery }
    else return { s with batteryFastAt := batteryFastAt }
  else return s

def brightnessPart (s : Vars) : I2c Volts Vars := do
  let nowBrightness ← brightnessPercent
  if nowBrightness ≠ s.appliedBrightness then
    if ← applyBrightness nowBrightness then return { s with appliedBrightness := nowBrightness }
    else return s
  else return s

def backlightPart (s : Vars) : I2c Volts Vars := do
  let touchDown ← getTouchEvent
  let touchRisingEdge := touchDown && !s.touchWasDown
  match backlightDecide s.backlightOn touchRisingEdge ((← now) - s.lastTouchActivityAt) with
  | .none => return { s with touchWasDown := touchDown }
  | .resetIdle =>
      let lastTouchActivityAt ← now
      return { s with lastTouchActivityAt := lastTouchActivityAt, touchWasDown := touchDown }
  | .turnOff =>
      if ← setBacklightOn false then
        return { s with backlightOn := false, touchWasDown := touchDown }
      else return { s with touchWasDown := touchDown }
  | .wake =>
      if ← applyBrightness s.appliedBrightness then
        let lastTouchActivityAt ← now
        return { s with
          backlightOn := true
          lastTouchActivityAt := lastTouchActivityAt
          touchWasDown := touchDown }
      else return { s with touchWasDown := touchDown }

def iterate (s : Vars) : I2c Volts Vars := do
  backlightPart (← brightnessPart (← batteryPart batteryPercent s))

/-- From power-on to the loop. The setting of the brightness was read once for the chip, and is
read again for the loop. -/
def boot (percent : ℕ) : I2c Volts (Option Vars) := do
  if ← enablePowerIrqs then
    if ← initPower percent then
      let batteryAt ← now
      let batteryFastAt ← now
      let appliedBrightness ← brightnessPercent
      let lastTouchActivityAt ← now
      return some ⟨batteryAt, batteryFastAt, none, appliedBrightness, true, lastTouchActivityAt,
        false⟩
    else return none
  else return none

/-- The main loop, whose every event is an iteration with what it asked and was answered. -/
def mainLoop : System (Vars × Trace Volts) (Trace Volts) :=
  Transactions.loop (iterate batteryPercent)

inductive BatteryStep (s : Vars) : Trace Volts → Vars → Prop
  | early (t : ℕ) (hearly : t - s.batteryFastAt < batteryPollInterval) :
      BatteryStep s [⟨.now, t⟩] s
  | quiet {t : ℕ} (hdue : batteryPollInterval ≤ t - s.batteryFastAt) (fast elapsed : ℕ)
      {look : Trace Volts} {pending : Option Bool} (hlook : Look look pending)
      (hread : shouldRead (pending.getD true) (elapsed - s.batteryAt) = false) :
      BatteryStep s ([⟨.now, t⟩, ⟨.now, fast⟩] ++ look ++ [⟨.now, elapsed⟩])
        { s with batteryFastAt := fast }
  | read {t : ℕ} (hdue : batteryPollInterval ≤ t - s.batteryFastAt) (fast elapsed readAt : ℕ)
      {look sample clear : Trace Volts} {pending : Option Bool} {battery : Option Battery}
      (hlook : Look look pending)
      (hread : shouldRead (pending.getD true) (elapsed - s.batteryAt) = true)
      (hsample : Sample batteryPercent sample battery) (hclear : Clear clear) :
      BatteryStep s ([⟨.now, t⟩, ⟨.now, fast⟩] ++ look ++ [⟨.now, elapsed⟩, ⟨.now, readAt⟩] ++
        sample ++ clear) { s with batteryAt := readAt, batteryFastAt := fast, battery := battery }

lemma batteryPart_runs {s s' : Vars} {trace : Trace Volts}
    (hruns : (batteryPart batteryPercent s).Runs trace s') :
    BatteryStep batteryPercent s trace s' := by
  obtain ⟨t, rest₁, rfl, h₁⟩ := Program.runs_request_bind.mp hruns
  split at h₁
  next hdue =>
    obtain ⟨fast, rest₂, rfl, h₂⟩ := Program.runs_request_bind.mp h₁
    obtain ⟨look, pending, rest₃, rfl, hlook, h₃⟩ := Program.runs_bind.mp h₂
    obtain ⟨elapsed, rest₄, rfl, h₄⟩ := Program.runs_request_bind.mp h₃
    split at h₄
    next hread =>
      obtain ⟨readAt, rest₅, rfl, h₅⟩ := Program.runs_request_bind.mp h₄
      obtain ⟨sample, battery, rest₆, rfl, hsample, h₆⟩ := Program.runs_bind.mp h₅
      obtain ⟨clear, ok, rest₇, rfl, hclear, h₇⟩ := Program.runs_bind.mp h₆
      obtain ⟨rfl, rfl⟩ := Program.runs_pure.mp h₇
      have hstep : BatteryStep batteryPercent s _ _ := .read hdue fast elapsed readAt
        (powerEventPending_runs hlook) hread (readBattery_runs hsample)
        (clearPowerIrqStatus_runs hclear)
      simpa using hstep
    next hread =>
      obtain ⟨rfl, rfl⟩ := Program.runs_pure.mp h₄
      have hstep : BatteryStep batteryPercent s _ _ := .quiet hdue fast elapsed
        (powerEventPending_runs hlook) (Bool.eq_false_iff.mpr hread)
      simpa using hstep
  next hearly =>
    obtain ⟨rfl, rfl⟩ := Program.runs_pure.mp h₁
    exact .early t (not_le.mp hearly)

inductive BrightnessStep (s : Vars) : Trace Volts → Vars → Prop
  | same : BrightnessStep s [⟨.brightnessPercent, s.appliedBrightness⟩] s
  | failed {percent : ℕ} (hne : percent ≠ s.appliedBrightness) {apply : Trace Volts}
      (happly : Apply percent apply false) :
      BrightnessStep s (⟨.brightnessPercent, percent⟩ :: apply) s
  | applied {percent : ℕ} (hne : percent ≠ s.appliedBrightness) {apply : Trace Volts}
      (happly : Apply percent apply true) :
      BrightnessStep s (⟨.brightnessPercent, percent⟩ :: apply)
        { s with appliedBrightness := percent }

lemma brightnessPart_runs {s s' : Vars} {trace : Trace Volts}
    (hruns : (brightnessPart s).Runs trace s') : BrightnessStep s trace s' := by
  obtain ⟨percent, rest₁, rfl, h₁⟩ := Program.runs_request_bind.mp hruns
  split at h₁
  next hne =>
    obtain ⟨apply, ok, rest₂, rfl, happly, h₂⟩ := Program.runs_bind.mp h₁
    cases ok with
    | false =>
      obtain ⟨rfl, rfl⟩ := Program.runs_pure.mp h₂
      rw [List.append_nil]
      exact .failed hne (applyBrightness_runs happly)
    | true =>
      obtain ⟨rfl, rfl⟩ := Program.runs_pure.mp h₂
      rw [List.append_nil]
      exact .applied hne (applyBrightness_runs happly)
  next heq =>
    obtain ⟨rfl, rfl⟩ := Program.runs_pure.mp h₁
    rw [not_not.mp heq]
    exact .same

/-- The touch and the clock are read first, and decide. -/
inductive BacklightStep (s : Vars) (down : Bool) (t : ℕ) : Trace Volts → Vars → Prop
  | none (h : backlightDecide s.backlightOn (down && !s.touchWasDown)
      (t - s.lastTouchActivityAt) = .none) :
      BacklightStep s down t [] { s with touchWasDown := down }
  | resetIdle (h : backlightDecide s.backlightOn (down && !s.touchWasDown)
      (t - s.lastTouchActivityAt) = .resetIdle) (last : ℕ) :
      BacklightStep s down t [⟨.now, last⟩]
        { s with lastTouchActivityAt := last, touchWasDown := down }
  | turnOff (h : backlightDecide s.backlightOn (down && !s.touchWasDown)
      (t - s.lastTouchActivityAt) = .turnOff) (ok : Bool) :
      BacklightStep s down t [⟨.set (.dcdc3On false), ok⟩]
        { s with backlightOn := !ok, touchWasDown := down }
  | wakeFailed (h : backlightDecide s.backlightOn (down && !s.touchWasDown)
      (t - s.lastTouchActivityAt) = .wake) {apply : Trace Volts}
      (happly : Apply s.appliedBrightness apply false) :
      BacklightStep s down t apply { s with touchWasDown := down }
  | woken (h : backlightDecide s.backlightOn (down && !s.touchWasDown)
      (t - s.lastTouchActivityAt) = .wake) {apply : Trace Volts}
      (happly : Apply s.appliedBrightness apply true) (last : ℕ) :
      BacklightStep s down t (apply ++ [⟨.now, last⟩])
        { s with backlightOn := true, lastTouchActivityAt := last, touchWasDown := down }

lemma backlightDecide_turnOff {on edge : Bool} {idle : ℕ}
    (h : backlightDecide on edge idle = .turnOff) :
    on = true ∧ edge = false ∧ sleepTimeout ≤ idle := by
  unfold backlightDecide at h
  split_ifs at h with hon hedge hidle
  exact ⟨hon, Bool.eq_false_iff.mpr hedge, hidle⟩

lemma backlightDecide_resetIdle {on edge : Bool} {idle : ℕ}
    (h : backlightDecide on edge idle = .resetIdle) : on = true ∧ edge = true := by
  unfold backlightDecide at h
  split_ifs at h with hon hedge
  exact ⟨hon, hedge⟩

lemma backlightDecide_wake {on edge : Bool} {idle : ℕ}
    (h : backlightDecide on edge idle = .wake) : on = false ∧ edge = true := by
  unfold backlightDecide at h
  split_ifs at h with hon hedge hidle hedge
  exact ⟨Bool.eq_false_iff.mpr hon, hedge⟩

/-- A touch that has begun is not passed over. -/
lemma backlightDecide_none {on edge : Bool} {idle : ℕ}
    (h : backlightDecide on edge idle = .none) : edge = false := by
  unfold backlightDecide at h
  split_ifs at h with hon hedge hidle hedge
  · exact Bool.eq_false_iff.mpr hedge
  · exact Bool.eq_false_iff.mpr hedge

lemma backlightPart_runs {s s' : Vars} {trace : Trace Volts}
    (hruns : (backlightPart s).Runs trace s') : ∃ down t rest,
      trace = ⟨.touchDown, down⟩ :: ⟨.now, t⟩ :: rest ∧ BacklightStep s down t rest s' := by
  obtain ⟨down, rest₁, rfl, h₁⟩ := Program.runs_request_bind.mp hruns
  obtain ⟨t, rest, rfl, h₂⟩ := Program.runs_request_bind.mp h₁
  refine ⟨down, t, rest, rfl, ?_⟩
  split at h₂
  next h =>
    obtain ⟨rfl, rfl⟩ := Program.runs_pure.mp h₂
    exact .none h
  next h =>
    obtain ⟨last, rest₃, rfl, h₃⟩ := Program.runs_request_bind.mp h₂
    obtain ⟨rfl, rfl⟩ := Program.runs_pure.mp h₃
    exact .resetIdle h last
  next h =>
    obtain ⟨ok, rest₃, rfl, h₃⟩ := Program.runs_request_bind.mp h₂
    have hstep : BacklightStep s down t [⟨.set (.dcdc3On false), ok⟩] _ := .turnOff h ok
    cases ok with
    | false =>
      obtain ⟨rfl, rfl⟩ := Program.runs_pure.mp h₃
      obtain ⟨hon, -⟩ := backlightDecide_turnOff h
      simpa [hon] using hstep
    | true =>
      obtain ⟨rfl, rfl⟩ := Program.runs_pure.mp h₃
      exact hstep
  next h =>
    obtain ⟨apply, ok, rest₃, rfl, happly, h₃⟩ := Program.runs_bind.mp h₂
    cases ok with
    | false =>
      obtain ⟨rfl, rfl⟩ := Program.runs_pure.mp h₃
      rw [List.append_nil]
      exact .wakeFailed h (applyBrightness_runs happly)
    | true =>
      obtain ⟨last, rest₄, rfl, h₄⟩ := Program.runs_request_bind.mp h₃
      obtain ⟨rfl, rfl⟩ := Program.runs_pure.mp h₄
      exact .woken h (applyBrightness_runs happly) last

/-- An iteration is its three parts. -/
lemma iterate_runs {s s' : Vars} {trace : Trace Volts}
    (hruns : (iterate batteryPercent s).Runs trace s') :
    ∃ battery s₁ brightness s₂ down t light,
      trace = battery ++ brightness ++ ⟨.touchDown, down⟩ :: ⟨.now, t⟩ :: light ∧
      BatteryStep batteryPercent s battery s₁ ∧ BrightnessStep s₁ brightness s₂ ∧
      BacklightStep s₂ down t light s' := by
  obtain ⟨battery, s₁, rest, rfl, hbattery, hrest⟩ := Program.runs_bind.mp hruns
  obtain ⟨brightness, s₂, last, rfl, hbrightness, hlast⟩ := Program.runs_bind.mp hrest
  obtain ⟨down, t, light, rfl, hlight⟩ := backlightPart_runs hlast
  exact ⟨battery, s₁, brightness, s₂, down, t, light, (List.append_assoc ..).symm,
    batteryPart_runs batteryPercent hbattery, brightnessPart_runs hbrightness, hlight⟩

end Model

def ofBattery : Request → Prop
  | .now | .batteryVoltage | .charging | .acinPresent | .vbusPresent | .writeRead _ => True
  | .write reg value => (reg, value) ∈ statusClear
  | .brightnessPercent | .touchDown | .set _ => False

/-- The light takes only the voltages that a brightness has. -/
def ofApply : Request → Prop
  | .set (.dcdc3Voltage mv) => ∃ percent, mv = brightnessPercentToDcdc3Mv percent
  | .set (.dcdc3On on) => on = true
  | _ => False

def ofLight (r : Request) : Prop :=
  r = .now ∨ r = .brightnessPercent ∨ r = .touchDown ∨ r = .set (.dcdc3On false) ∨ ofApply r

section Requests
variable {Volts : Type} {batteryPercent : Volts → Bool → Bool → ℕ} {s s' : Vars}
  {trace : Trace Volts}

lemma Look.requests {pending : Option Bool} (h : Look trace pending) :
    ∀ e ∈ trace, ofBattery e.request := by
  cases h <;> simp [ofBattery]

lemma Sample.requests {battery : Option Battery} (h : Sample batteryPercent trace battery) :
    ∀ e ∈ trace, ofBattery e.request := by
  cases h <;> simp [ofBattery]

lemma Clear.requests (h : Clear trace) : ∀ e ∈ trace, ofBattery e.request := by
  cases h <;> simp [ofBattery, statusClear]

lemma Apply.requests {percent : ℕ} {ok : Bool} (h : Apply percent trace ok) :
    ∀ e ∈ trace, ofApply e.request := by
  cases h <;> simp [ofApply]

lemma BatteryStep.requests (h : BatteryStep batteryPercent s trace s') :
    ∀ e ∈ trace, ofBattery e.request := by
  cases h with
  | early => simp [ofBattery]
  | quiet _ _ _ hlook =>
    simp only [List.forall_mem_append, List.forall_mem_cons]
    exact ⟨⟨⟨trivial, trivial, nofun⟩, hlook.requests⟩, trivial, nofun⟩
  | read _ _ _ _ hlook _ hsample hclear =>
    simp only [List.forall_mem_append, List.forall_mem_cons]
    exact ⟨⟨⟨⟨⟨trivial, trivial, nofun⟩, hlook.requests⟩, trivial, trivial, nofun⟩,
      hsample.requests⟩, hclear.requests⟩

lemma BrightnessStep.requests (h : BrightnessStep s trace s') :
    ∀ e ∈ trace, e.request = .brightnessPercent ∨ ofApply e.request := by
  cases h with
  | same => simp
  | failed _ happly | applied _ happly =>
    exact List.forall_mem_cons.mpr ⟨.inl rfl, fun e he => .inr (happly.requests e he)⟩

/-- After the touch and the clock were read, only a light that is on is turned off. -/
lemma BacklightStep.requests {down : Bool} {t : ℕ} (h : BacklightStep s down t trace s') :
    ∀ e ∈ trace, e.request = .now ∨ ofApply e.request ∨
      s.backlightOn = true ∧ e.request = .set (.dcdc3On false) := by
  cases h with
  | none => exact nofun
  | resetIdle => simp
  | turnOff h => simp [(backlightDecide_turnOff h).1]
  | wakeFailed _ happly => exact fun e he => .inr (.inl (happly.requests e he))
  | woken _ happly =>
    simp only [List.forall_mem_append, List.forall_mem_cons]
    exact ⟨fun e he => .inr (.inl (happly.requests e he)), .inl trivial, nofun⟩

end Requests

section Boot
variable {Volts : Type}

def enableTrace (current40 current41 : BitVec 8) : Trace Volts :=
  [⟨.writeRead 0x40, some current40⟩, ⟨.write 0x40 (current40 ||| 0x6C), true⟩,
    ⟨.writeRead 0x41, some current41⟩, ⟨.write 0x41 (current41 ||| 0x0C), true⟩]

def acknowledged (settings : List Setting) : Trace Volts := settings.map fun s => ⟨.set s, true⟩

def powerSettings (percent : ℕ) : List Setting :=
  [.dcdc1Voltage 3350, .ldo2Voltage 3300, .ldo2On true, .ldo3Voltage 2000, .ldo3On false,
    .dcdc3Voltage (brightnessPercentToDcdc3Mv percent), .dcdc3On true, .gpio1Mode,
    .gpio1Output false, .gpio2Mode, .gpio2Output true, .keyMode, .gpio4Mode,
    .batteryVoltageAdcEnable true, .batteryCurrentAdcEnable true, .acinCurrentAdcEnable true,
    .acinVoltageAdcEnable true, .gpio4Output false, .gpio4Output true]

lemma enablePowerIrqs_runs {trace : Trace Volts} (hruns : enablePowerIrqs.Runs trace true) :
    ∃ current40 current41, trace = enableTrace current40 current41 := by
  obtain ⟨read40, rest₁, rfl, h₁⟩ := Program.runs_request_bind.mp hruns
  cases read40 with
  | none => cases (Program.runs_pure.mp h₁).2
  | some current40 =>
    obtain ⟨ok40, rest₂, rfl, h₂⟩ := Program.runs_request_bind.mp h₁
    cases ok40 with
    | false => cases (Program.runs_pure.mp h₂).2
    | true =>
      obtain ⟨read41, rest₃, rfl, h₃⟩ := Program.runs_request_bind.mp h₂
      cases read41 with
      | none => cases (Program.runs_pure.mp h₃).2
      | some current41 =>
        obtain ⟨ok41, rest₄, rfl, h₄⟩ := Program.runs_request_bind.mp h₃
        cases ok41 with
        | false => cases (Program.runs_pure.mp h₄).2
        | true =>
          obtain ⟨rfl, -⟩ := Program.runs_pure.mp h₄
          exact ⟨current40, current41, rfl⟩

lemma setAll_runs {settings : List Setting} {trace : Trace Volts}
    (hruns : (setAll settings).Runs trace true) : trace = acknowledged settings := by
  induction settings generalizing trace with
  | nil => exact (Program.runs_pure.mp hruns).1
  | cons setting settings ih =>
    obtain ⟨ok, rest, rfl, hrest⟩ := Program.runs_request_bind.mp hruns
    cases ok with
    | false => cases (Program.runs_pure.mp hrest).2
    | true =>
      rw [ih hrest]
      rfl

lemma initPower_runs {percent : ℕ} {trace : Trace Volts}
    (hruns : (initPower percent).Runs trace true) :
    trace = acknowledged (powerSettings percent) := by
  obtain ⟨supplies, ok, rest₁, rfl, hsupplies, h₁⟩ := Program.runs_bind.mp hruns
  cases ok with
  | false => cases (Program.runs_pure.mp h₁).2
  | true =>
    obtain ⟨apply, ok, rest₂, rfl, happly, h₂⟩ := Program.runs_bind.mp h₁
    cases ok with
    | false => cases (Program.runs_pure.mp h₂).2
    | true =>
      rw [setAll_runs hsupplies, setAll_runs h₂]
      cases applyBrightness_runs happly with
      | switched => rfl

/-- A boot that comes to the loop has enabled the interrupts and made every setting. -/
lemma boot_runs {percent : ℕ} {trace : Trace Volts} {s : Vars}
    (hruns : (boot percent).Runs trace (some s)) : ∃ current40 current41,
      s.battery = none ∧ s.backlightOn = true ∧ s.touchWasDown = false ∧
      trace = enableTrace current40 current41 ++ acknowledged (powerSettings percent) ++
        [⟨.now, s.batteryAt⟩, ⟨.now, s.batteryFastAt⟩, ⟨.brightnessPercent, s.appliedBrightness⟩,
          ⟨.now, s.lastTouchActivityAt⟩] := by
  obtain ⟨enable, ok, rest₁, rfl, henable, h₁⟩ := Program.runs_bind.mp hruns
  cases ok with
  | false => cases (Program.runs_pure.mp h₁).2
  | true =>
    obtain ⟨init, ok, rest₂, rfl, hinit, h₂⟩ := Program.runs_bind.mp h₁
    cases ok with
    | false => cases (Program.runs_pure.mp h₂).2
    | true =>
      obtain ⟨batteryAt, rest₃, rfl, h₃⟩ := Program.runs_request_bind.mp h₂
      obtain ⟨batteryFastAt, rest₄, rfl, h₄⟩ := Program.runs_request_bind.mp h₃
      obtain ⟨percent', rest₅, rfl, h₅⟩ := Program.runs_request_bind.mp h₄
      obtain ⟨last, rest₆, rfl, h₆⟩ := Program.runs_request_bind.mp h₅
      obtain ⟨rfl, hs⟩ := Program.runs_pure.mp h₆
      obtain rfl := Option.some.inj hs
      obtain ⟨current40, current41, rfl⟩ := enablePowerIrqs_runs henable
      rw [initPower_runs hinit]
      exact ⟨current40, current41, rfl, rfl, rfl, (List.append_assoc ..).symm⟩

end Boot

section Clock
variable {Volts : Type}

/-- The readings of the clock, which is monotonic. -/
def readings (trace : Trace Volts) : List ℕ :=
  trace.filterMap fun e =>
    match e with
    | ⟨.now, t⟩ => some t
    | _ => none

def Clocked (trace : Trace Volts) : Prop := (readings trace).Pairwise (· ≤ ·)

lemma le_of_clocked (trace middle : Trace Volts) {t last : ℕ}
    (h : Clocked (trace ++ ⟨.now, t⟩ :: middle ++ [⟨.now, last⟩])) : t ≤ last := by
  simp only [Clocked, readings, List.filterMap_append, List.filterMap_cons, List.filterMap_nil] at h
  rw [List.pairwise_append] at h
  exact h.2.2 t (by simp) last (by simp)

lemma clocked_of_append {trace rest : Trace Volts} (h : Clocked (trace ++ rest)) :
    Clocked trace := by
  rw [Clocked, readings, List.filterMap_append] at h
  exact (List.pairwise_append.mp h).1

end Clock

/-- A board whose chip does everything, at a time, with a setting of the brightness, with the
display touched or not, with what the latches hold and with the plug in or out. -/
def answer (time brightness : ℕ) (touch : Bool) (latched : BitVec 8) (acin : Bool) :
    (r : Request) → Answer ℕ r
  | .now => time
  | .brightnessPercent => brightness
  | .touchDown => touch
  | .batteryVoltage => some 4000
  | .charging => some false
  | .acinPresent => some acin
  | .vbusPresent => some false
  | .writeRead _ => some latched
  | .write _ _ => true
  | .set _ => true

def booted : Trace ℕ := ((boot 80).play (answer 0 80 false 0 true)).1

def bootVars : Vars := ⟨0, 0, none, 80, true, 0, false⟩

lemma boot_booted : (boot 80).Runs booted (some bootVars) :=
  Program.runs_play (answer 0 80 false 0 true) (boot 80)

end PcRemote.Board
