import PcRemote.BoardLoop

/-! The light of the display. The loop turns it off only where no touch has begun for a minute, and
gives it the brightness of the setting; but a setting that is changed while it is dark turns it on,
and then it stays on until the display is touched. -/
namespace PcRemote.Board
open Panel Transactions Transition Transition.System

variable {Volts : Type}

inductive Register
  | dcdc3Voltage
  | dcdc3Switch
  | ldo2Voltage
  | ldo2Switch
  deriving DecidableEq

def Setting.written : Setting → Option (Register × ℕ)
  | .dcdc3Voltage mv => some (.dcdc3Voltage, mv)
  | .dcdc3On on => some (.dcdc3Switch, on.toNat)
  | .ldo2Voltage mv => some (.ldo2Voltage, mv)
  | .ldo2On on => some (.ldo2Switch, on.toNat)
  | .dcdc1Voltage _ | .ldo3Voltage _ | .ldo3On _ | .gpio1Mode | .gpio1Output _ | .gpio2Mode
  | .gpio2Output _ | .keyMode | .gpio4Mode | .gpio4Output _ | .batteryVoltageAdcEnable _
  | .batteryCurrentAdcEnable _ | .acinCurrentAdcEnable _ | .acinVoltageAdcEnable _ => none

/-- The values that a register takes as they are: a converter has a range and a step. -/
def Register.Takes : Register → ℕ → Prop
  | .dcdc3Voltage, mv => 700 ≤ mv ∧ mv ≤ 3500 ∧ 25 ∣ mv
  | .ldo2Voltage, mv => 1800 ≤ mv ∧ mv ≤ 3300 ∧ 100 ∣ mv
  | .dcdc3Switch, _ | .ldo2Switch, _ => True

/-- The register that a transaction may write. -/
def register (e : Entry (Answer Volts)) : Option Register :=
  match e.request with
  | .set setting => setting.written.map Prod.fst
  | _ => none

/-- What a chip holds in its registers after a trace, if it does what it acknowledges. What it does
not acknowledge it may have done or not, and nothing else changes a register. -/
structure Obeys (value : Trace Volts → Register → ℕ) : Prop where
  set : ∀ trace setting reg v, setting.written = some (reg, v) → reg.Takes v →
    value (trace ++ [⟨.set setting, true⟩]) reg = v
  unsure : ∀ trace setting reg v, setting.written = some (reg, v) → reg.Takes v →
    value (trace ++ [⟨.set setting, false⟩]) reg = v ∨
      value (trace ++ [⟨.set setting, false⟩]) reg = value trace reg
  kept : ∀ trace e reg, register e ≠ some reg → value (trace ++ [e]) reg = value trace reg

/-- The last reading. -/
def reading (trace : Trace Volts) : ℕ := (readings trace).getLastD 0

/-- The brightness that was read last. -/
def asked (trace : Trace Volts) : ℕ :=
  trace.foldl (fun percent e =>
    match e with
    | ⟨.brightnessPercent, x⟩ => x
    | _ => percent) 0

/-- A setting of the chip that was not acknowledged. -/
def failed (e : Entry (Answer Volts)) : Bool :=
  match e with
  | ⟨.set _, ok⟩ => !ok
  | _ => false

def Settled (trace : Trace Volts) : Prop := ∀ e ∈ trace, failed e = false

/-- The finger on the display: whether it was down in the last sample, whether it came down there,
and the clock as it was read next when it last came down. -/
structure Finger where
  down : Bool
  fresh : Bool
  touchedAt : Option ℕ

def Finger.next (f : Finger) (e : Entry (Answer Volts)) : Finger :=
  match e with
  | ⟨.touchDown, down⟩ => ⟨down, down && !f.down, f.touchedAt⟩
  | ⟨.now, t⟩ => ⟨f.down, false, if f.fresh then some t else f.touchedAt⟩
  | _ => f

def finger (trace : Trace Volts) : Finger := trace.foldl Finger.next ⟨false, false, none⟩

/-- Each time the light was told to go off, a minute had passed since the display was last touched,
or since the start if it never was. -/
def Idle (start : ℕ) (trace : Trace Volts) : Prop :=
  ∀ pre ok post, trace = pre ++ ⟨.set (.dcdc3On false), ok⟩ :: post →
    (finger pre).touchedAt.getD start + sleepTimeout ≤ reading pre

section Chip
variable {value : Trace Volts → Register → ℕ} {trace rest : Trace Volts}

lemma register_of_ofBattery {e : Entry (Answer Volts)} (h : ofBattery e.request) :
    register e = none := by
  cases e with
  | mk r x =>
    cases r with
    | set => cases h
    | _ => rfl

lemma register_of_ofApply {e : Entry (Answer Volts)} (h : ofApply e.request) :
    register e = some .dcdc3Voltage ∨ register e = some .dcdc3Switch := by
  cases e with
  | mk r x =>
    cases r with
    | set setting =>
      cases setting with
      | dcdc3Voltage => exact .inl rfl
      | dcdc3On => exact .inr rfl
      | _ => cases h
    | _ => cases h

lemma register_of_ofLight {e : Entry (Answer Volts)} (h : ofLight e.request) :
    register e = none ∨ register e = some .dcdc3Voltage ∨ register e = some .dcdc3Switch := by
  rcases h with h | h | h | h | h
  · simp [register, h]
  · simp [register, h]
  · simp [register, h]
  · simp [register, h, Setting.written]
  · exact .inr (register_of_ofApply h)

lemma value_append (hchip : Obeys value) {reg : Register} (h : ∀ e ∈ rest, register e ≠ some reg) :
    value (trace ++ rest) reg = value trace reg := by
  induction rest generalizing trace with
  | nil => rw [List.append_nil]
  | cons e rest ih =>
    obtain ⟨he, hrest⟩ := List.forall_mem_cons.mp h
    rw [List.append_cons, ih hrest, hchip.kept trace e reg he]

lemma value_snoc (hchip : Obeys value) {e : Entry (Answer Volts)} (h : register e = none)
    (reg : Register) : value (trace ++ [e]) reg = value trace reg :=
  hchip.kept trace e reg (by rw [h]; exact nofun)

lemma takes_brightness (percent : ℕ) :
    Register.Takes .dcdc3Voltage (brightnessPercentToDcdc3Mv percent) := by
  obtain ⟨hmin, hmax, hstep⟩ := brightness_bounds percent
  unfold brightnessDcdc3MinMv at hmin
  unfold brightnessDcdc3MaxMv at hmax
  exact ⟨by omega, by omega, hstep⟩

/-- A voltage that was set is that of a brightness, whether it was acknowledged or not. -/
def Ranged (value : Trace Volts → Register → ℕ) (trace : Trace Volts) : Prop :=
  ∃ percent, value trace .dcdc3Voltage = brightnessPercentToDcdc3Mv percent

lemma ranged_append (hchip : Obeys value) (h : Ranged value trace)
    (hrest : ∀ e ∈ rest, ofBattery e.request ∨ ofLight e.request) :
    Ranged value (trace ++ rest) := by
  induction rest generalizing trace with
  | nil => rwa [List.append_nil]
  | cons e rest ih =>
    obtain ⟨he, hrest⟩ := List.forall_mem_cons.mp hrest
    rw [List.append_cons]
    refine ih ?_ hrest
    by_cases hreg : register e = some .dcdc3Voltage
    · obtain ⟨percent, ok, rfl⟩ : ∃ percent ok, e =
          ⟨.set (.dcdc3Voltage (brightnessPercentToDcdc3Mv percent)), ok⟩ := by
        obtain ⟨r, x⟩ := e
        cases r with
        | set setting =>
          cases setting with
          | dcdc3Voltage mv =>
            rcases he with he | he | he | he | he | ⟨percent, hpercent⟩
            · cases he
            · cases he
            · cases he
            · cases he
            · cases he
            · exact ⟨percent, x, by rw [hpercent]⟩
          | dcdc3On => cases hreg
          | _ => cases hreg
        | _ => cases hreg
      cases ok with
      | true => exact ⟨percent, hchip.set _ _ _ _ rfl (takes_brightness percent)⟩
      | false =>
        rcases hchip.unsure trace (.dcdc3Voltage _) _ _ rfl (takes_brightness percent) with
          hset | hkept
        · exact ⟨percent, hset⟩
        · obtain ⟨before, hbefore⟩ := h
          exact ⟨before, hkept.trans hbefore⟩
    · obtain ⟨percent, hpercent⟩ := h
      exact ⟨percent, (hchip.kept trace e _ hreg).trans hpercent⟩

/-- A brightness that was applied is the voltage, and the light is on. -/
lemma Apply.done (hchip : Obeys value) (trace : Trace Volts) {percent : ℕ}
    (h : Apply percent rest true) :
    value (trace ++ rest) .dcdc3Voltage = brightnessPercentToDcdc3Mv percent ∧
      value (trace ++ rest) .dcdc3Switch = 1 := by
  cases h with
  | switched =>
    rw [List.append_cons]
    refine ⟨?_, hchip.set _ _ _ _ rfl trivial⟩
    rw [hchip.kept _ _ _ (by simp [register, Setting.written])]
    exact hchip.set _ _ _ _ rfl (takes_brightness percent)

/-- To apply a brightness never turns the light off. -/
lemma Apply.lit (hchip : Obeys value) {percent : ℕ} {ok : Bool} (h : Apply percent rest ok)
    (hon : value trace .dcdc3Switch = 1) : value (trace ++ rest) .dcdc3Switch = 1 := by
  have hvoltage : ∀ ok, value (trace ++ [⟨.set (.dcdc3Voltage
      (brightnessPercentToDcdc3Mv percent)), ok⟩]) .dcdc3Switch = 1 := fun ok => by
    rw [hchip.kept _ _ _ (by simp [register, Setting.written]), hon]
  cases h with
  | failed => exact hvoltage false
  | switched =>
    rw [List.append_cons]
    cases ok with
    | true => exact hchip.set _ _ _ _ rfl trivial
    | false =>
      rcases hchip.unsure _ (.dcdc3On true) .dcdc3Switch _ rfl trivial with hset | hkept
      · exact hset
      · exact hkept.trans (hvoltage true)

end Chip

section Follows
variable {value : Trace Volts → Register → ℕ} {applied : Prop} {s s' : Vars}
  {trace rest : Trace Volts}

lemma settled_append : Settled (trace ++ rest) ↔ Settled trace ∧ Settled rest :=
  List.forall_mem_append

lemma Settled.tail {e : Entry (Answer Volts)} (h : Settled (e :: rest)) : Settled rest :=
  (List.forall_mem_cons.mp h).2

lemma Apply.not_settled {percent : ℕ} (h : Apply percent rest false) : ¬ Settled rest := by
  intro hsettled
  cases h with
  | failed => cases hsettled _ (List.mem_singleton_self _)
  | switched => cases hsettled.tail _ (List.mem_singleton_self _)

lemma asked_append (h : ∀ e ∈ rest, e.request ≠ .brightnessPercent) :
    asked (trace ++ rest) = asked trace := by
  induction rest generalizing trace with
  | nil => rw [List.append_nil]
  | cons e rest ih =>
    obtain ⟨he, hrest⟩ := List.forall_mem_cons.mp h
    rw [List.append_cons, ih hrest]
    obtain ⟨r, x⟩ := e
    cases r with
    | brightnessPercent => exact absurd rfl he
    | _ => simp [asked]

lemma asked_snoc (trace : Trace Volts) (percent : ℕ) :
    asked (trace ++ [⟨.brightnessPercent, percent⟩]) = percent := by
  simp [asked]

lemma ne_brightnessPercent_of_ofApply {r : Request} (h : ofApply r) : r ≠ .brightnessPercent := by
  rintro rfl
  cases h

/-- What holds of the light between two iterations while no setting of the chip has failed. The
voltage is that of the brightness last applied if that was so after the boot. -/
structure Follows (value : Trace Volts → Register → ℕ) (applied : Prop) (s : Vars)
    (trace : Trace Volts) : Prop where
  asked : asked trace = s.appliedBrightness
  voltage : applied →
    value trace .dcdc3Voltage = brightnessPercentToDcdc3Mv s.appliedBrightness
  lit : s.backlightOn = true → value trace .dcdc3Switch = 1

/-- Requests that are no setting and do not ask for the brightness change nothing of it. -/
lemma Follows.append (hchip : Obeys value) (h : Follows value applied s trace)
    (hregister : ∀ e ∈ rest, register e = none)
    (hbrightness : ∀ e ∈ rest, e.request ≠ .brightnessPercent) :
    Follows value applied s (trace ++ rest) := by
  have hkept : ∀ reg, value (trace ++ rest) reg = value trace reg := fun reg =>
    value_append hchip fun e he => by
      rw [hregister e he]
      exact nofun
  exact ⟨(asked_append hbrightness).trans h.asked, fun ha => (hkept _).trans (h.voltage ha),
    fun hon => (hkept _).trans (h.lit hon)⟩

lemma BatteryStep.light {batteryPercent : Volts → Bool → Bool → ℕ}
    (h : BatteryStep batteryPercent s rest s') :
    s'.appliedBrightness = s.appliedBrightness ∧ s'.backlightOn = s.backlightOn ∧
      s'.lastTouchActivityAt = s.lastTouchActivityAt ∧ s'.touchWasDown = s.touchWasDown := by
  cases h <;> exact ⟨rfl, rfl, rfl, rfl⟩

lemma BrightnessStep.light (h : BrightnessStep s rest s') : s'.backlightOn = s.backlightOn ∧
    s'.lastTouchActivityAt = s.lastTouchActivityAt ∧ s'.touchWasDown = s.touchWasDown := by
  cases h <;> exact ⟨rfl, rfl, rfl⟩

lemma Follows.battery (hchip : Obeys value) (h : Follows value applied s trace)
    {batteryPercent : Volts → Bool → Bool → ℕ} (hs : BatteryStep batteryPercent s rest s') :
    Follows value applied s' (trace ++ rest) := by
  obtain ⟨happlied, hon, -⟩ := hs.light
  have hnext := h.append hchip (fun e he => register_of_ofBattery (hs.requests e he))
    fun e he heq => by
      have hrequest := hs.requests e he
      rw [heq] at hrequest
      exact hrequest
  exact ⟨happlied ▸ hnext.asked, happlied ▸ hnext.voltage, hon ▸ hnext.lit⟩

lemma Follows.brightness (hchip : Obeys value) (h : Follows value applied s trace)
    (hs : BrightnessStep s rest s') (hsettled : Settled rest) :
    Follows value applied s' (trace ++ rest) := by
  cases hs with
  | same =>
    have hkept : ∀ reg, value (trace ++ [⟨.brightnessPercent, s.appliedBrightness⟩]) reg =
        value trace reg := value_snoc hchip rfl
    exact ⟨asked_snoc _ _, fun ha => (hkept _).trans (h.voltage ha),
      fun hon => (hkept _).trans (h.lit hon)⟩
  | failed _ happly =>
    exact absurd hsettled.tail happly.not_settled
  | @applied percent _ apply happly =>
    rw [List.append_cons]
    obtain ⟨hvoltage, hon⟩ := happly.done hchip (trace ++ [⟨.brightnessPercent, percent⟩])
    refine ⟨?_, fun _ => hvoltage, fun _ => hon⟩
    rw [asked_append fun e he => ne_brightnessPercent_of_ofApply (happly.requests e he)]
    exact asked_snoc _ _

lemma Follows.now (hchip : Obeys value) (h : Follows value applied s trace) (t : ℕ) :
    Follows value applied s (trace ++ [⟨.now, t⟩]) :=
  h.append hchip (by simp [register]) (by simp)

lemma Follows.backlight (hchip : Obeys value) (h : Follows value applied s trace) {down : Bool}
    {t : ℕ} (hs : BacklightStep s down t rest s') (hsettled : Settled rest) :
    Follows value applied s' (trace ++ ⟨.touchDown, down⟩ :: ⟨.now, t⟩ :: rest) := by
  have htouch : Follows value applied s (trace ++ [⟨.touchDown, down⟩]) :=
    h.append hchip (by simp [register]) (by simp)
  have hread := htouch.now hchip t
  rw [List.append_cons, List.append_cons]
  generalize trace ++ [⟨.touchDown, down⟩] ++ [⟨.now, t⟩] = trace at hread ⊢
  cases hs with
  | none =>
    rw [List.append_nil]
    exact ⟨hread.asked, hread.voltage, hread.lit⟩
  | resetIdle _ last =>
    have hnext := hread.now hchip last
    exact ⟨hnext.asked, hnext.voltage, hnext.lit⟩
  | turnOff _ ok =>
    cases ok with
    | false => cases hsettled _ (List.mem_singleton_self _)
    | true =>
      refine ⟨(asked_append (by simp)).trans hread.asked, fun ha => ?_, nofun⟩
      rw [hchip.kept _ _ _ (by simp [register, Setting.written])]
      exact hread.voltage ha
  | wakeFailed _ happly => exact absurd hsettled happly.not_settled
  | @woken _ apply happly last =>
    obtain ⟨hvoltage, hon⟩ := happly.done hchip trace
    have hwoken : Follows value applied { s with backlightOn := true } (trace ++ apply) :=
      ⟨(asked_append fun e he => ne_brightnessPercent_of_ofApply (happly.requests e he)).trans
        hread.asked, fun _ => hvoltage, fun _ => hon⟩
    have hnext := hwoken.now hchip last
    rw [← List.append_assoc]
    exact ⟨hnext.asked, hnext.voltage, hnext.lit⟩

lemma Follows.iterate (hchip : Obeys value) (h : Follows value applied s trace)
    {batteryPercent : Volts → Bool → Bool → ℕ}
    (hruns : (iterate batteryPercent s).Runs rest s') (hsettled : Settled rest) :
    Follows value applied s' (trace ++ rest) := by
  obtain ⟨battery, s₁, brightness, s₂, down, t, light, rfl, hbattery, hbrightness, hlight⟩ :=
    iterate_runs batteryPercent hruns
  rw [settled_append, settled_append] at hsettled
  obtain ⟨⟨-, hsettled₁⟩, hsettled₂⟩ := hsettled
  rw [← List.append_assoc, ← List.append_assoc]
  exact ((h.battery hchip hbattery).brightness hchip hbrightness hsettled₁).backlight hchip hlight
    hsettled₂.tail.tail

end Follows

section Touch
variable {start : ℕ} {s s' : Vars} {trace rest : Trace Volts}

lemma Idle.append (h : Idle start trace)
    (hrest : ∀ e ∈ rest, e.request ≠ .set (.dcdc3On false)) : Idle start (trace ++ rest) := by
  intro pre ok post heq
  rcases List.append_eq_append_iff.mp heq with ⟨middle, rfl, hmiddle⟩ | ⟨middle, rfl, hmiddle⟩
  · refine absurd rfl (hrest ⟨.set (.dcdc3On false), ok⟩ ?_)
    rw [hmiddle]
    simp
  · cases middle with
    | nil =>
      refine absurd rfl (hrest ⟨.set (.dcdc3On false), ok⟩ ?_)
      rw [← List.nil_append rest, ← hmiddle]
      simp
    | cons e middle =>
      obtain ⟨rfl, rfl⟩ := List.cons.inj hmiddle
      exact h pre ok middle rfl

lemma Idle.turnOff (h : Idle start trace)
    (hidle : (finger trace).touchedAt.getD start + sleepTimeout ≤ reading trace) (ok : Bool) :
    Idle start (trace ++ [⟨.set (.dcdc3On false), ok⟩]) := by
  intro pre ok' post heq
  rcases List.append_eq_append_iff.mp heq with ⟨middle, rfl, hmiddle⟩ | ⟨middle, rfl, hmiddle⟩
  · cases middle with
    | nil => rwa [List.append_nil]
    | cons e middle => simp at hmiddle
  · cases middle with
    | nil => simpa using hidle
    | cons e middle =>
      obtain ⟨rfl, rfl⟩ := List.cons.inj hmiddle
      exact h pre ok' middle rfl

lemma finger_append (hfresh : (finger trace).fresh = false)
    (h : ∀ e ∈ rest, e.request ≠ .touchDown) : finger (trace ++ rest) = finger trace := by
  induction rest generalizing trace with
  | nil => rw [List.append_nil]
  | cons e rest ih =>
    obtain ⟨he, hrest⟩ := List.forall_mem_cons.mp h
    have hsame : finger (trace ++ [e]) = finger trace := by
      rw [finger, List.foldl_append, ← finger]
      obtain ⟨r, x⟩ := e
      cases r with
      | touchDown => exact absurd rfl he
      | now =>
        generalize finger trace = f at hfresh ⊢
        obtain ⟨down, fresh, touchedAt⟩ := f
        cases hfresh
        rfl
      | _ => rfl
    rw [List.append_cons, ih (by rw [hsame, hfresh]) hrest, hsame]

lemma reading_snoc (trace : Trace Volts) (t : ℕ) : reading (trace ++ [⟨.now, t⟩]) = t := by
  simp [reading, readings]

/-- What the loop knows of the finger between two iterations. -/
structure Felt (start : ℕ) (s : Vars) (trace : Trace Volts) : Prop where
  down : (finger trace).down = s.touchWasDown
  fresh : (finger trace).fresh = false
  last : s.backlightOn = true → (finger trace).touchedAt.getD start ≤ s.lastTouchActivityAt
  idle : Idle start trace

lemma Felt.append (h : Felt start s trace) (htouch : ∀ e ∈ rest, e.request ≠ .touchDown)
    (hoff : ∀ e ∈ rest, e.request ≠ .set (.dcdc3On false)) : Felt start s (trace ++ rest) := by
  have hsame := finger_append h.fresh htouch
  exact ⟨hsame ▸ h.down, hsame ▸ h.fresh, hsame ▸ h.last, h.idle.append hoff⟩

lemma Felt.same (h : Felt start s trace) (hon : s'.backlightOn = s.backlightOn)
    (hlast : s'.lastTouchActivityAt = s.lastTouchActivityAt)
    (htouch : s'.touchWasDown = s.touchWasDown) : Felt start s' trace :=
  ⟨h.down.trans htouch.symm, h.fresh, hon ▸ hlast ▸ h.last, h.idle⟩

lemma Felt.battery (h : Felt start s trace) {batteryPercent : Volts → Bool → Bool → ℕ}
    (hs : BatteryStep batteryPercent s rest s') : Felt start s' (trace ++ rest) := by
  obtain ⟨-, hon, hlast, htouch⟩ := hs.light
  refine (h.append (fun e he heq => ?_) fun e he heq => ?_).same hon hlast htouch
  · have hrequest := hs.requests e he
    rw [heq] at hrequest
    exact hrequest
  · have hrequest := hs.requests e he
    rw [heq] at hrequest
    exact hrequest

lemma ne_touchDown_of_ofApply {r : Request} (h : ofApply r) :
    r ≠ .touchDown ∧ r ≠ .set (.dcdc3On false) := by
  constructor
  · rintro rfl
    cases h
  · rintro rfl
    cases h

lemma Felt.brightness (h : Felt start s trace) (hs : BrightnessStep s rest s') :
    Felt start s' (trace ++ rest) := by
  obtain ⟨hon, hlast, htouch⟩ := hs.light
  refine (h.append (fun e he heq => ?_) fun e he heq => ?_).same hon hlast htouch
  · rcases hs.requests e he with hrequest | hrequest
    · cases heq.symm.trans hrequest
    · exact (ne_touchDown_of_ofApply hrequest).1 heq
  · rcases hs.requests e he with hrequest | hrequest
    · cases heq.symm.trans hrequest
    · exact (ne_touchDown_of_ofApply hrequest).2 heq

/-- The touch and the reading after it are one event of the finger. -/
lemma finger_touch (trace : Trace Volts) (down : Bool) (t : ℕ) :
    finger (trace ++ [⟨.touchDown, down⟩] ++ [⟨.now, t⟩]) = ⟨down, false,
      if down && !(finger trace).down then some t else (finger trace).touchedAt⟩ := by
  rw [finger, List.foldl_append, List.foldl_append, ← finger]
  rfl

lemma Felt.backlight (h : Felt start s trace) {down : Bool} {t : ℕ}
    (hs : BacklightStep s down t rest s')
    (hclock : Clocked (trace ++ ⟨.touchDown, down⟩ :: ⟨.now, t⟩ :: rest)) :
    Felt start s' (trace ++ ⟨.touchDown, down⟩ :: ⟨.now, t⟩ :: rest) := by
  have hfinger := finger_touch trace down t
  have hidle : Idle start (trace ++ [⟨.touchDown, down⟩] ++ [⟨.now, t⟩]) :=
    (h.idle.append (by simp)).append (by simp)
  have hreading := reading_snoc (trace ++ [⟨.touchDown, down⟩]) t
  rw [h.down] at hfinger
  rw [List.append_cons, List.append_cons]
  -- a touch that has just begun was read at t
  have hedge : (down && !s.touchWasDown) = true → t ≤ s'.lastTouchActivityAt →
      (finger (trace ++ [⟨.touchDown, down⟩] ++ [⟨.now, t⟩])).touchedAt.getD start ≤
        s'.lastTouchActivityAt := by
    intro hedge hle
    rw [hfinger, hedge]
    exact hle
  have hold : (down && !s.touchWasDown) = false →
      (finger (trace ++ [⟨.touchDown, down⟩] ++ [⟨.now, t⟩])).touchedAt =
        (finger trace).touchedAt := by
    intro hedge
    rw [hfinger, hedge]
    rfl
  have hfelt : s'.touchWasDown = down → (s'.backlightOn = true →
      (finger (trace ++ [⟨.touchDown, down⟩] ++ [⟨.now, t⟩])).touchedAt.getD start ≤
        s'.lastTouchActivityAt) →
      Felt start s' (trace ++ [⟨.touchDown, down⟩] ++ [⟨.now, t⟩]) := fun hdown hlast =>
    ⟨by rw [hfinger, hdown], by rw [hfinger], hlast, hidle⟩
  cases hs with
  | none hnone =>
    rw [List.append_nil]
    exact hfelt rfl fun hon => (congrArg (Option.getD · start)
      (hold (backlightDecide_none hnone))).trans_le (h.last hon)
  | resetIdle hreset last =>
    have hle : t ≤ last := le_of_clocked (trace ++ [⟨.touchDown, down⟩]) [] (by simpa using hclock)
    exact (hfelt rfl fun _ => hedge (backlightDecide_resetIdle hreset).2 hle).append (by simp)
      (by simp)
  | turnOff hoff ok =>
    obtain ⟨hon, hnew, hlate⟩ := backlightDecide_turnOff hoff
    have hlast := h.last hon
    rw [← hold hnew] at hlast
    have hfelt := hfelt rfl fun _ => hlast
    have hsame : finger (trace ++ [⟨.touchDown, down⟩] ++ [⟨.now, t⟩] ++
        [⟨.set (.dcdc3On false), ok⟩]) = _ := finger_append hfelt.fresh (by simp)
    refine ⟨hsame ▸ hfelt.down, hsame ▸ hfelt.fresh, hsame ▸ hfelt.last, hidle.turnOff ?_ ok⟩
    rw [hreading]
    unfold sleepTimeout at hlate ⊢
    omega
  | wakeFailed hwake happly =>
    refine (hfelt rfl fun hon => ?_).append
      (fun e he => (ne_touchDown_of_ofApply (happly.requests e he)).1)
      fun e he => (ne_touchDown_of_ofApply (happly.requests e he)).2
    cases (backlightDecide_wake hwake).1.symm.trans hon
  | @woken hwake apply happly last =>
    have hle : t ≤ last :=
      le_of_clocked (trace ++ [⟨.touchDown, down⟩]) apply (by simpa using hclock)
    rw [← List.append_assoc]
    exact ((hfelt rfl fun _ => hedge (backlightDecide_wake hwake).2 hle).append
      (fun e he => (ne_touchDown_of_ofApply (happly.requests e he)).1)
      fun e he => (ne_touchDown_of_ofApply (happly.requests e he)).2).append (by simp) (by simp)

lemma Felt.iterate (h : Felt start s trace) {batteryPercent : Volts → Bool → Bool → ℕ}
    (hruns : (iterate batteryPercent s).Runs rest s') (hclock : Clocked (trace ++ rest)) :
    Felt start s' (trace ++ rest) := by
  obtain ⟨battery, s₁, brightness, s₂, down, t, light, rfl, hbattery, hbrightness, hlight⟩ :=
    iterate_runs batteryPercent hruns
  rw [← List.append_assoc, ← List.append_assoc] at hclock ⊢
  exact ((h.battery hbattery).brightness hbrightness).backlight hlight hclock

end Touch

section Runs
variable {value : Trace Volts → Register → ℕ} {batteryPercent : Volts → Bool → Bool → ℕ}
  {s s' : Vars} {trace rest : Trace Volts}

lemma iterate_requests (hruns : (iterate batteryPercent s).Runs rest s') :
    ∀ e ∈ rest, ofBattery e.request ∨ ofLight e.request := by
  obtain ⟨battery, s₁, brightness, s₂, down, t, light, rfl, hbattery, hbrightness, hlight⟩ :=
    iterate_runs batteryPercent hruns
  simp only [List.forall_mem_append, List.forall_mem_cons]
  refine ⟨⟨fun e he => .inl (hbattery.requests e he), fun e he => .inr ?_⟩,
    .inr (by simp [ofLight]), .inl trivial, fun e he => .inr ?_⟩
  · exact (hbrightness.requests e he).elim (fun h => .inr (.inl h))
      fun h => .inr (.inr (.inr (.inr h)))
  · rcases hlight.requests e he with h | h | ⟨-, h⟩
    · exact .inl h
    · exact .inr (.inr (.inr (.inr h)))
    · exact .inr (.inr (.inr (.inl h)))

/-- A light that was on and is not was told to go off, and not to go on since. -/
lemma exists_turnOff (hchip : Obeys value) (hon : value trace .dcdc3Switch = 1)
    (hoff : value (trace ++ rest) .dcdc3Switch ≠ 1) : ∃ pre ok post,
      rest = pre ++ ⟨.set (.dcdc3On false), ok⟩ :: post ∧
        ⟨.set (.dcdc3On true), true⟩ ∉ post := by
  induction rest using List.reverseRecOn with
  | nil =>
    rw [List.append_nil] at hoff
    exact absurd hon hoff
  | append_singleton rest e ih =>
    rw [← List.append_assoc] at hoff
    -- the last transaction turned it off, or left it off
    have hearlier : value (trace ++ rest ++ [e]) .dcdc3Switch =
        value (trace ++ rest) .dcdc3Switch → e ≠ ⟨.set (.dcdc3On true), true⟩ →
        ∃ pre ok post, rest ++ [e] = pre ++ ⟨.set (.dcdc3On false), ok⟩ :: post ∧
          ⟨.set (.dcdc3On true), true⟩ ∉ post := by
      intro hkept hne
      obtain ⟨pre, ok, post, rfl, hpost⟩ := ih (hkept ▸ hoff)
      refine ⟨pre, ok, post ++ [e], by simp, ?_⟩
      rw [List.mem_append, List.mem_singleton]
      exact not_or.mpr ⟨hpost, Ne.symm hne⟩
    by_cases hreg : register e = some .dcdc3Switch
    · obtain ⟨on, ok, rfl⟩ : ∃ on ok, e = ⟨.set (.dcdc3On on), ok⟩ := by
        obtain ⟨r, x⟩ := e
        cases r with
        | set setting =>
          cases setting with
          | dcdc3On on => exact ⟨on, x, rfl⟩
          | _ => cases hreg
        | _ => cases hreg
      cases on with
      | false => exact ⟨rest, ok, [], rfl, List.not_mem_nil⟩
      | true =>
        cases ok with
        | true =>
          exact absurd (hchip.set (trace ++ rest) (.dcdc3On true) .dcdc3Switch _ rfl trivial) hoff
        | false =>
          rcases hchip.unsure (trace ++ rest) (.dcdc3On true) .dcdc3Switch _ rfl trivial with
            hset | hkept
          · exact absurd hset hoff
          · exact hearlier hkept nofun
    · exact hearlier (hchip.kept _ _ _ hreg) fun heq => hreg (by rw [heq]; rfl)

lemma value_acknowledged (hchip : Obeys value) {before after : List Setting} {setting : Setting}
    {reg : Register} {v : ℕ} (hwritten : setting.written = some (reg, v)) (htakes : reg.Takes v)
    (hafter : ∀ s ∈ after, s.written.map Prod.fst ≠ some reg) :
    value (trace ++ acknowledged (before ++ setting :: after)) reg = v := by
  have heq : trace ++ acknowledged (before ++ setting :: after) =
      trace ++ acknowledged before ++ [⟨.set setting, true⟩] ++ acknowledged after := by
    simp [acknowledged]
  rw [heq, value_append hchip, hchip.set _ _ _ _ hwritten htakes]
  intro e he
  obtain ⟨s, hs, rfl⟩ := List.mem_map.mp he
  exact hafter s hs

/-- The loop begins with everything on, and the voltage that was set. -/
lemma boot_light (hchip : Obeys value) {percent : ℕ} {booted : Trace Volts} {s₁ : Vars}
    (hboot : (boot percent).Runs booted (some s₁)) :
    value booted .ldo2Voltage = 3300 ∧ value booted .ldo2Switch = 1 ∧
      value booted .dcdc3Voltage = brightnessPercentToDcdc3Mv percent ∧
      value booted .dcdc3Switch = 1 ∧ asked booted = s₁.appliedBrightness ∧
      Felt s₁.lastTouchActivityAt s₁ booted := by
  obtain ⟨current40, current41, -, -, htouch, rfl⟩ := boot_runs hboot
  have hlast : ∀ (before : List Setting) {after : List Setting} {setting : Setting}
      {reg : Register} {v : ℕ},
      powerSettings percent = before ++ setting :: after → setting.written = some (reg, v) →
      reg.Takes v → (∀ s ∈ after, s.written.map Prod.fst ≠ some reg) →
      value (enableTrace current40 current41 ++ acknowledged (powerSettings percent) ++
        [⟨.now, s₁.batteryAt⟩, ⟨.now, s₁.batteryFastAt⟩,
          ⟨.brightnessPercent, s₁.appliedBrightness⟩, ⟨.now, s₁.lastTouchActivityAt⟩]) reg = v := by
    intro before after setting reg v hsettings hwritten htakes hafter
    rw [value_append hchip (by simp [register]), hsettings]
    exact value_acknowledged hchip hwritten htakes hafter
  have hstart : Felt s₁.lastTouchActivityAt s₁ ([] : Trace Volts) :=
    ⟨htouch.symm, rfl, fun _ => le_rfl, fun pre ok post heq => by simp at heq⟩
  refine ⟨?_, ?_, ?_, ?_, ?_, ?_⟩
  · exact hlast [.dcdc1Voltage 3350] rfl rfl ⟨by decide, by decide, by decide⟩
      (by simp [Setting.written])
  · exact hlast [.dcdc1Voltage 3350, .ldo2Voltage 3300] rfl rfl trivial
      (by simp [Setting.written])
  · exact hlast [.dcdc1Voltage 3350, .ldo2Voltage 3300, .ldo2On true, .ldo3Voltage 2000,
      .ldo3On false] rfl rfl (takes_brightness percent) (by simp [Setting.written])
  · exact hlast [.dcdc1Voltage 3350, .ldo2Voltage 3300, .ldo2On true, .ldo3Voltage 2000,
      .ldo3On false, .dcdc3Voltage (brightnessPercentToDcdc3Mv percent)] rfl rfl trivial
      (by simp [Setting.written])
  · simp [asked]
  · exact hstart.append (by simp [acknowledged, powerSettings])
      (by simp [acknowledged, powerSettings])

/-- A chip that holds what it has acknowledged last. -/
def told (trace : Trace Volts) (reg : Register) : ℕ :=
  trace.foldl (fun v e =>
    match e with
    | ⟨.set setting, true⟩ =>
        match setting.written with
        | some (reg', v') => if reg' = reg then v' else v
        | none => v
    | _ => v) 0

lemma obeys_told : Obeys (@told Volts) where
  set trace setting reg v hwritten _ := by
    simp [told, hwritten]
  unsure trace setting reg v _ _ := by
    right
    simp [told]
  kept trace e reg h := by
    obtain ⟨r, x⟩ := e
    cases r with
    | set setting =>
      cases x with
      | false => simp [told]
      | true =>
        cases hwritten : setting.written with
        | none => simp [told, hwritten]
        | some w =>
          have hne : w.1 ≠ reg := by simpa [register, hwritten] using h
          simp [told, hwritten, hne]
    | _ => simp [told]

/-- The setting is lowered, and the display is not touched for a minute after the boot. -/
def lowered : Trace ℕ :=
  ((iterate (fun _ _ _ => 80) bootVars).play (answer 61000000000 20 false 0 true)).1

end Runs

/-! ### Asleep -/

section Asleep
variable {value : Trace Volts → Register → ℕ} {batteryPercent : Volts → Bool → Bool → ℕ}
  {s s' : Vars} {trace trace' rest : Trace Volts}

/-- The loop takes the display to be asleep. -/
def Asleep (s : Vars × Trace Volts) (_ : Trace Volts) : Prop := s.1.backlightOn = false

/-- An iteration that begins asleep turns the light on or leaves it as it is. -/
lemma iterate_lit (hchip : Obeys value) (trace : Trace Volts) (hasleep : s.backlightOn = false)
    (hruns : (iterate batteryPercent s).Runs rest s') :
    (∀ e ∈ rest, e.request ≠ .set (.dcdc3On false)) ∧
      (value trace .dcdc3Switch = 1 ∨ s'.appliedBrightness ≠ s.appliedBrightness →
        value (trace ++ rest) .dcdc3Switch = 1) := by
  obtain ⟨battery, s₁, brightness, s₂, down, t, light, rfl, hbattery, hbrightness, hlight⟩ :=
    iterate_runs batteryPercent hruns
  obtain ⟨happlied, hon₁, -⟩ := hbattery.light
  have hasleep₂ : s₂.backlightOn = false := hbrightness.light.1.trans (hon₁.trans hasleep)
  constructor
  · simp only [List.forall_mem_append, List.forall_mem_cons]
    refine ⟨⟨fun e he heq => ?_, fun e he heq => ?_⟩, nofun, nofun, fun e he heq => ?_⟩
    · have hrequest := hbattery.requests e he
      rw [heq] at hrequest
      exact hrequest
    · rcases hbrightness.requests e he with hrequest | hrequest
      · cases heq.symm.trans hrequest
      · exact (ne_touchDown_of_ofApply hrequest).2 heq
    · rcases hlight.requests e he with hrequest | hrequest | ⟨hon, -⟩
      · cases heq.symm.trans hrequest
      · exact (ne_touchDown_of_ofApply hrequest).2 heq
      · cases hasleep₂.symm.trans hon
  · intro hlit
    have hafterBattery : value trace .dcdc3Switch = 1 →
        value (trace ++ battery) .dcdc3Switch = 1 := fun hon => by
      rw [value_append hchip fun e he => ?_, hon]
      rw [register_of_ofBattery (hbattery.requests e he)]
      exact nofun
    have happlied₂ : s'.appliedBrightness = s₂.appliedBrightness := by
      cases hlight <;> rfl
    -- the brightness part keeps the light on, and turns it on where it applies a setting
    have hafterBrightness : value (trace ++ battery ++ brightness) .dcdc3Switch = 1 := by
      cases hbrightness with
      | same =>
        rw [value_snoc hchip rfl]
        exact hafterBattery (hlit.resolve_right (not_not.mpr (happlied₂.trans happlied)))
      | failed _ happly =>
        rw [List.append_cons]
        refine happly.lit hchip ?_
        rw [value_snoc hchip rfl]
        exact hafterBattery (hlit.resolve_right (not_not.mpr (happlied₂.trans happlied)))
      | applied _ happly =>
        rw [List.append_cons]
        exact (happly.done hchip _).2
    rw [← List.append_assoc, ← List.append_assoc, List.append_cons, List.append_cons]
    have hread : value (trace ++ battery ++ brightness ++ [⟨.touchDown, down⟩] ++ [⟨.now, t⟩])
        .dcdc3Switch = 1 := by
      rw [value_snoc hchip rfl, value_snoc hchip rfl, hafterBrightness]
    cases hlight with
    | none => rwa [List.append_nil]
    | resetIdle hreset => cases hasleep₂.symm.trans (backlightDecide_resetIdle hreset).1
    | turnOff hturnOff => cases hasleep₂.symm.trans (backlightDecide_turnOff hturnOff).1
    | wakeFailed _ happly => exact happly.lit hchip hread
    | woken _ happly =>
      rw [← List.append_assoc, value_snoc hchip rfl]
      exact happly.lit hchip hread

/-- Once a setting that was changed while the display is asleep has turned the light on, it stays
on however long that lasts: only the loop turns it off, and only if it takes it to be on. -/
theorem relit_while_asleep (hchip : Obeys value) {es : List (Trace Volts)}
    (hrun : ((mainLoop batteryPercent).restrict Asleep).Run (s, trace) es (s', trace')) :
    (∀ it ∈ es, ∀ e ∈ it, e.request ≠ .set (.dcdc3On false)) ∧
      (value trace .dcdc3Switch = 1 ∨ s'.appliedBrightness ≠ s.appliedBrightness →
        value trace' .dcdc3Switch = 1) := by
  generalize hs : (s, trace) = start at hrun
  generalize ht : (s', trace') = stop at hrun
  induction hrun generalizing s trace with
  | nil =>
    obtain ⟨rfl, rfl⟩ := Prod.mk.inj (hs.trans ht.symm)
    exact ⟨nofun, fun hlit => hlit.resolve_right (not_not.mpr rfl)⟩
  | @cons _ u _ it es hst _ ih =>
    subst hs
    obtain ⟨⟨hruns, htrace⟩, hasleep⟩ := hst
    obtain ⟨hnone, hlit⟩ := iterate_lit hchip trace hasleep hruns
    obtain ⟨hrest, hlast⟩ := @ih u.1 u.2 rfl ht
    refine ⟨List.forall_mem_cons.mpr ⟨hnone, hrest⟩, fun h => hlast ?_⟩
    rw [htrace]
    by_cases heq : u.1.appliedBrightness = s.appliedBrightness
    · refine h.imp (fun hon => hlit (.inl hon)) fun hne => ?_
      rwa [heq]
    · exact .inl (hlit (.inr heq))

/-- An iteration of an untouched display with the plug in. -/
def untouched (time brightness : ℕ) (s : Vars) : Trace ℕ × Vars :=
  (iterate (fun _ _ _ => 80) s).play (answer time brightness false 0 true)

lemma step_untouched (time brightness : ℕ) {s : Vars} (hs : s.backlightOn = false)
    (trace : Trace ℕ) : ((mainLoop fun _ _ _ => 80).restrict Asleep).step (s, trace)
      (untouched time brightness s).1
      ((untouched time brightness s).2, trace ++ (untouched time brightness s).1) :=
  ⟨⟨Program.runs_play _ _, rfl⟩, hs⟩

/-- After a minute the light goes off, the setting is lowered then, and an hour passes. -/
theorem relit_while_asleep_hour :
    let dark := untouched 61000000000 80 bootVars
    let relit := untouched 62000000000 20 dark.2
    let later := untouched 3600000000000 20 relit.2
    told (booted ++ dark.1) .dcdc3Switch = 0 ∧ later.2.backlightOn = false ∧
      told (booted ++ dark.1 ++ relit.1 ++ later.1) .dcdc3Switch = 1 := by
  intro dark relit later
  refine ⟨by decide, by decide, ?_⟩
  have hdark : dark.2.backlightOn = false := by decide
  have hrelit : relit.2.backlightOn = false := by decide
  have hrun := System.Run.cons (step_untouched 62000000000 20 hdark (booted ++ dark.1))
    (.one (step_untouched 3600000000000 20 hrelit (booted ++ dark.1 ++ relit.1)))
  have hbrightness : later.2.appliedBrightness ≠ dark.2.appliedBrightness := by decide
  exact (relit_while_asleep obeys_told hrun).2 (.inr hbrightness)

end Asleep

end PcRemote.Board
