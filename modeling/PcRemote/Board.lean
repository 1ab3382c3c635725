import PcRemote.ConfigValidation
import PcRemote.Panel
import PcRemote.StatusMessage
import PcRemote.Transactions

/-! The programs of the board that work on its power chip over the bus. The chip itself is a device
of others: what is relied on of it is said where it is used. -/
namespace PcRemote.Board
open ConfigValidation Panel Transactions

inductive Setting
  | dcdc1Voltage (mv : ℕ)
  | ldo2Voltage (mv : ℕ)
  | ldo2On (on : Bool)
  | ldo3Voltage (mv : ℕ)
  | ldo3On (on : Bool)
  | dcdc3Voltage (mv : ℕ)
  | dcdc3On (on : Bool)
  | gpio1Mode
  | gpio1Output (high : Bool)
  | gpio2Mode
  | gpio2Output (high : Bool)
  | keyMode
  | gpio4Mode
  | gpio4Output (high : Bool)
  | batteryVoltageAdcEnable (enable : Bool)
  | batteryCurrentAdcEnable (enable : Bool)
  | acinCurrentAdcEnable (enable : Bool)
  | acinVoltageAdcEnable (enable : Bool)

/-- The transactions on the bus, with the clock and the setting of the brightness. -/
inductive Request
  | now
  | brightnessPercent
  | touchDown
  | batteryVoltage
  | charging
  | acinPresent
  | vbusPresent
  | writeRead (reg : BitVec 8)
  | write (reg value : BitVec 8)
  | set (setting : Setting)

/-- A read that fails has no answer, a write that fails is answered with false. -/
def Answer (Volts : Type) : Request → Type
  | .now => ℕ
  | .brightnessPercent => ℕ
  | .touchDown => Bool
  | .batteryVoltage => Option Volts
  | .charging => Option Bool
  | .acinPresent => Option Bool
  | .vbusPresent => Option Bool
  | .writeRead _ => Option (BitVec 8)
  | .write _ _ => Bool
  | .set _ => Bool

abbrev I2c (Volts : Type) := Program Request (Answer Volts)

abbrev Trace (Volts : Type) := List (Entry (Answer Volts))

section Programs
variable {Volts : Type}

def now : I2c Volts ℕ := Program.request Request.now
def brightnessPercent : I2c Volts ℕ := Program.request Request.brightnessPercent
def getTouchEvent : I2c Volts Bool := Program.request Request.touchDown
def getBatteryVoltage : I2c Volts (Option Volts) := Program.request Request.batteryVoltage
def getCharging : I2c Volts (Option Bool) := Program.request Request.charging
def getAcinPresent : I2c Volts (Option Bool) := Program.request Request.acinPresent
def getVbusPresent : I2c Volts (Option Bool) := Program.request Request.vbusPresent
def writeRead (reg : BitVec 8) : I2c Volts (Option (BitVec 8)) :=
  Program.request (Request.writeRead reg)
def write (reg value : BitVec 8) : I2c Volts Bool := Program.request (Request.write reg value)
def set (setting : Setting) : I2c Volts Bool := Program.request (Request.set setting)

def enableUpdates : List (BitVec 8 × BitVec 8) := [(0x40, 0x6C), (0x41, 0x0C)]
def statusClear : List (BitVec 8 × BitVec 8) := [(0x44, 0x6C), (0x45, 0x0C)]

def isPending (status44 status45 : BitVec 8) : Bool :=
  status44 &&& 0x6C != 0 || status45 &&& 0x0C != 0

/-- The bits are added to those that are set. -/
def updateAll : List (BitVec 8 × BitVec 8) → I2c Volts Bool
  | [] => return true
  | (reg, bits) :: updates => do
      match ← writeRead reg with
      | none => return false
      | some current =>
          if ← write reg (current ||| bits) then updateAll updates else return false

def enablePowerIrqs : I2c Volts Bool := updateAll enableUpdates

def writeAll : List (BitVec 8 × BitVec 8) → I2c Volts Bool
  | [] => return true
  | (reg, bits) :: writes => do if ← write reg bits then writeAll writes else return false

def clearPowerIrqStatus : I2c Volts Bool := writeAll statusClear

def powerEventPending : I2c Volts (Option Bool) := do
  let some status44 ← writeRead 0x44 | return none
  let some status45 ← writeRead 0x45 | return none
  return some (isPending status44 status45)

/-- The plug is asked for first, and the bus only if there is none. -/
def getPowered : I2c Volts Bool := do
  if (← getAcinPresent).getD false then return true else return (← getVbusPresent).getD false

/-- The percentage is worked out from the voltage, and from whether the charging has stopped. -/
def readBattery (batteryPercent : Volts → Bool → Bool → ℕ) : I2c Volts (Option Battery) := do
  let some volts ← getBatteryVoltage | return none
  let charging := (← getCharging).getD false
  let powered ← getPowered
  return some ⟨batteryPercent volts powered charging, charging, powered⟩

def brightnessDcdc3MaxMv : ℕ := 2800
def brightnessDcdc3MinMv : ℕ := 2500

def brightnessPercentToDcdc3Mv (percent : ℕ) : ℕ :=
  let clamped := min percent brightnessMaxPercent
  let range := brightnessDcdc3MaxMv - brightnessDcdc3MinMv
  let mv := brightnessDcdc3MinMv + range * clamped / brightnessMaxPercent
  mv - mv % 25

lemma brightness_bounds (percent : ℕ) :
    brightnessDcdc3MinMv ≤ brightnessPercentToDcdc3Mv percent ∧
      brightnessPercentToDcdc3Mv percent ≤ brightnessDcdc3MaxMv ∧
      25 ∣ brightnessPercentToDcdc3Mv percent := by
  simp only [brightnessPercentToDcdc3Mv, brightnessDcdc3MaxMv, brightnessDcdc3MinMv,
    brightnessMaxPercent]
  omega

def applyBrightness (percent : ℕ) : I2c Volts Bool := do
  if ← set (.dcdc3Voltage (brightnessPercentToDcdc3Mv percent)) then set (.dcdc3On true)
  else return false

def setBacklightOn (on : Bool) : I2c Volts Bool := set (.dcdc3On on)

def setAll : List Setting → I2c Volts Bool
  | [] => return true
  | setting :: settings => do if ← set setting then setAll settings else return false

def initPower (brightnessPercent : ℕ) : I2c Volts Bool := do
  if ← setAll [.dcdc1Voltage 3350, .ldo2Voltage 3300, .ldo2On true, .ldo3Voltage 2000,
    .ldo3On false] then
    if ← applyBrightness brightnessPercent then
      setAll [.gpio1Mode, .gpio1Output false, .gpio2Mode, .gpio2Output true, .keyMode, .gpio4Mode,
        .batteryVoltageAdcEnable true, .batteryCurrentAdcEnable true, .acinCurrentAdcEnable true,
        .acinVoltageAdcEnable true, .gpio4Output false, .gpio4Output true]
    else return false
  else return false

/-- The look at the two latches: the second is not read if the first cannot be. -/
inductive Look : Trace Volts → Option Bool → Prop
  | first : Look [⟨.writeRead 0x44, none⟩] none
  | second (status44 : BitVec 8) :
      Look [⟨.writeRead 0x44, some status44⟩, ⟨.writeRead 0x45, none⟩] none
  | both (status44 status45 : BitVec 8) :
      Look [⟨.writeRead 0x44, some status44⟩, ⟨.writeRead 0x45, some status45⟩]
        (some (isPending status44 status45))

lemma powerEventPending_runs {trace : Trace Volts} {pending : Option Bool}
    (hruns : powerEventPending.Runs trace pending) : Look trace pending := by
  obtain ⟨status44, rest, rfl, hrest⟩ := Program.runs_request_bind.mp hruns
  cases status44 with
  | none =>
    obtain ⟨rfl, rfl⟩ := Program.runs_pure.mp hrest
    exact .first
  | some status44 =>
    obtain ⟨status45, last, rfl, hlast⟩ := Program.runs_request_bind.mp hrest
    cases status45 with
    | none =>
      obtain ⟨rfl, rfl⟩ := Program.runs_pure.mp hlast
      exact .second status44
    | some status45 =>
      obtain ⟨rfl, rfl⟩ := Program.runs_pure.mp hlast
      exact .both status44 status45

/-- The battery as it was sampled: the voltage, whether it charges, and the supply. -/
inductive Sample (batteryPercent : Volts → Bool → Bool → ℕ) : Trace Volts → Option Battery → Prop
  | failed : Sample batteryPercent [⟨.batteryVoltage, none⟩] none
  | acin (volts : Volts) (charging : Option Bool) :
      Sample batteryPercent
        [⟨.batteryVoltage, some volts⟩, ⟨.charging, charging⟩, ⟨.acinPresent, some true⟩]
        (some ⟨batteryPercent volts true (charging.getD false), charging.getD false, true⟩)
  | vbus (volts : Volts) (charging acin vbus : Option Bool) (hacin : acin ≠ some true) :
      Sample batteryPercent
        [⟨.batteryVoltage, some volts⟩, ⟨.charging, charging⟩, ⟨.acinPresent, acin⟩,
          ⟨.vbusPresent, vbus⟩]
        (some ⟨batteryPercent volts (vbus.getD false) (charging.getD false), charging.getD false,
          vbus.getD false⟩)

lemma readBattery_runs {batteryPercent : Volts → Bool → Bool → ℕ} {trace : Trace Volts}
    {battery : Option Battery} (hruns : (readBattery batteryPercent).Runs trace battery) :
    Sample batteryPercent trace battery := by
  obtain ⟨volts, rest, rfl, hrest⟩ := Program.runs_request_bind.mp hruns
  cases volts with
  | none =>
    obtain ⟨rfl, rfl⟩ := Program.runs_pure.mp hrest
    exact .failed
  | some volts =>
    obtain ⟨charging, tail, rfl, htail⟩ := Program.runs_request_bind.mp hrest
    obtain ⟨supply, powered, last, rfl, hpowered, hlast⟩ := Program.runs_bind.mp htail
    obtain ⟨rfl, rfl⟩ := Program.runs_pure.mp hlast
    obtain ⟨acin, after, rfl, hafter⟩ := Program.runs_request_bind.mp hpowered
    split at hafter
    next hacin =>
      obtain ⟨rfl, rfl⟩ := Program.runs_pure.mp hafter
      obtain rfl : acin = some true := by
        cases acin with
        | none => cases hacin
        | some acin => exact congrArg some hacin
      exact .acin volts charging
    next hacin =>
      obtain ⟨vbus, closing, rfl, hend⟩ := Program.runs_request_bind.mp hafter
      obtain ⟨rfl, rfl⟩ := Program.runs_pure.mp hend
      refine .vbus volts charging acin vbus ?_
      rintro rfl
      exact hacin rfl

/-- The second latch is not cleared if the first was not. -/
inductive Clear : Trace Volts → Prop
  | first : Clear [⟨.write 0x44 0x6C, false⟩]
  | both (ok : Bool) : Clear [⟨.write 0x44 0x6C, true⟩, ⟨.write 0x45 0x0C, ok⟩]

lemma clearPowerIrqStatus_runs {trace : Trace Volts} {ok : Bool}
    (hruns : clearPowerIrqStatus.Runs trace ok) : Clear trace := by
  obtain ⟨ok44, rest, rfl, hrest⟩ := Program.runs_request_bind.mp hruns
  cases ok44 with
  | false =>
    obtain ⟨rfl, rfl⟩ := Program.runs_pure.mp hrest
    exact .first
  | true =>
    obtain ⟨ok45, last, rfl, hlast⟩ := Program.runs_request_bind.mp hrest
    cases ok45 with
    | false =>
      obtain ⟨rfl, rfl⟩ := Program.runs_pure.mp hlast
      exact .both false
    | true =>
      obtain ⟨rfl, rfl⟩ := Program.runs_pure.mp hlast
      exact .both true

/-- The converter is turned on once it has taken the voltage. -/
inductive Apply (percent : ℕ) : Trace Volts → Bool → Prop
  | failed :
      Apply percent [⟨.set (.dcdc3Voltage (brightnessPercentToDcdc3Mv percent)), false⟩] false
  | switched (ok : Bool) :
      Apply percent [⟨.set (.dcdc3Voltage (brightnessPercentToDcdc3Mv percent)), true⟩,
        ⟨.set (.dcdc3On true), ok⟩] ok

lemma applyBrightness_runs {percent : ℕ} {trace : Trace Volts} {ok : Bool}
    (hruns : (applyBrightness percent).Runs trace ok) : Apply percent trace ok := by
  obtain ⟨voltage, rest, rfl, hrest⟩ := Program.runs_request_bind.mp hruns
  cases voltage with
  | false =>
    obtain ⟨rfl, rfl⟩ := Program.runs_pure.mp hrest
    exact .failed
  | true =>
    obtain rfl := Program.runs_request.mp hrest
    exact .switched ok

end Programs

end PcRemote.Board
