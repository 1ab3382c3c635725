import Mathlib.Logic.Function.Basic
import PcRemote.ConfigValidation

/-! The settings that can be changed at run time. A value is written to flash first, and kept
in memory only when that write succeeded. -/
namespace PcRemote

structure RuntimeSettings where
  pcIpAddress : String
  pcStatusPort : ℕ
  wolPort : ℕ
  brightnessPercent : ℕ
  nvs : String → Option String

namespace RuntimeSettings

def nvsKeyPcIp : String := "pc_ip"
def nvsKeyWolPort : String := "wol_port"
def nvsKeyBrightness : String := "brightness"

def pcStatusAddr (s : RuntimeSettings) : String :=
  ConfigValidation.composeStatusAddr s.pcIpAddress s.pcStatusPort

/-- Write a key, and keep the value when the write succeeds. -/
def store (s : RuntimeSettings) (key value : String) (written : Bool)
    (keep : RuntimeSettings → RuntimeSettings) : RuntimeSettings × Bool :=
  if written then (keep { s with nvs := Function.update s.nvs key (some value) }, true)
  else (s, false)

def setPcIpAddress (s : RuntimeSettings) (value : String) (written : Bool) :
    RuntimeSettings × Bool :=
  s.store nvsKeyPcIp value written fun s => { s with pcIpAddress := value }

def setWolPort (s : RuntimeSettings) (value : ℕ) (written : Bool) : RuntimeSettings × Bool :=
  s.store nvsKeyWolPort (toString value) written fun s => { s with wolPort := value }

def setBrightnessPercent (s : RuntimeSettings) (value : ℕ) (written : Bool) :
    RuntimeSettings × Bool :=
  s.store nvsKeyBrightness (toString value) written fun s => { s with brightnessPercent := value }

end RuntimeSettings

end PcRemote
