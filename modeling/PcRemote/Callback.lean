import PcRemote.BridgeClient
import PcRemote.RuntimeSettings

/-! What a user can decide about from Telegram, and the data of the buttons that name it. -/
namespace PcRemote.Telegram
open Text

inductive SettingKind
  | pcIp
  | wolPort
  | brightness
  deriving DecidableEq, Repr

/-- A change of a setting, with the new value already validated. -/
inductive ConfigChange
  | pcIpAddress (value : String)
  | wolPort (value : ℕ)
  | brightness (value : ℕ)
  deriving DecidableEq, Repr

namespace SettingKind

def all : List SettingKind := [.pcIp, .wolPort, .brightness]

def slug : SettingKind → String
  | .pcIp => "pc_ip"
  | .wolPort => "wol_port"
  | .brightness => "brightness"

def fromSlug (slug : String) : Option SettingKind := all.find? fun k => k.slug == slug

def labelJa : SettingKind → String
  | .pcIp => "PC IPアドレス"
  | .wolPort => "WOLポート"
  | .brightness => "画面の明るさ"

def sample : SettingKind → String
  | .pcIp => "192.168.1.50"
  | .wolPort => "9"
  | .brightness => "80"

def current (kind : SettingKind) (s : RuntimeSettings) : String :=
  match kind with
  | .pcIp => s.pcIpAddress
  | .wolPort => toString s.wolPort
  | .brightness => toString s.brightnessPercent

def parse (kind : SettingKind) (raw : String) : Except String ConfigChange :=
  match kind with
  | .pcIp => (ConfigValidation.validateIpv4 raw).map .pcIpAddress
  | .wolPort => (ConfigValidation.validateWolPort raw).map .wolPort
  | .brightness => (ConfigValidation.validateBrightnessPercent raw).map .brightness

end SettingKind

namespace ConfigChange

def kind : ConfigChange → SettingKind
  | .pcIpAddress _ => .pcIp
  | .wolPort _ => .wolPort
  | .brightness _ => .brightness

def labelJa (change : ConfigChange) : String := change.kind.labelJa

def displayValue : ConfigChange → String
  | .pcIpAddress value => value
  | .wolPort value => toString value
  | .brightness value => toString value

def apply (change : ConfigChange) (s : RuntimeSettings) (written : Bool) : RuntimeSettings × Bool :=
  match change with
  | .pcIpAddress value => s.setPcIpAddress value written
  | .wolPort value => s.setWolPort value written
  | .brightness value => s.setBrightnessPercent value written

end ConfigChange

lemma ok_of_map {ε α β : Type*} {x : Except ε α} {f : α → β} {b : β} (h : x.map f = .ok b) :
    ∃ a, x = .ok a ∧ f a = b := by
  cases x with
  | error e => simp [Except.map] at h
  | ok a => exact ⟨a, rfl, Except.ok.inj h⟩

lemma SettingKind.kind_of_parse {kind : SettingKind} {raw : String} {change : ConfigChange}
    (h : kind.parse raw = .ok change) : change.kind = kind := by
  cases kind with
  | pcIp =>
    simp only [parse] at h
    obtain ⟨v, -, rfl⟩ := ok_of_map h
    rfl
  | wolPort =>
    simp only [parse] at h
    obtain ⟨v, -, rfl⟩ := ok_of_map h
    rfl
  | brightness =>
    simp only [parse] at h
    obtain ⟨v, -, rfl⟩ := ok_of_map h
    rfl

/-- What a confirmation is about. -/
inductive PendingKind
  | power (action : PowerAction)
  | config (change : ConfigChange)
  | firmwareUpdate (version : String)
  deriving DecidableEq, Repr

def PendingKind.labelJa : PendingKind → String
  | .power action => action.labelJa
  | .config change => change.labelJa
  | .firmwareUpdate _ => "firmware更新"

/-- What a button says it decides about; the values themselves are not in its data. -/
inductive CallbackTarget
  | power (action : PowerAction)
  | config
  | firmwareUpdate
  deriving DecidableEq, Repr

def CallbackTarget.covers : CallbackTarget → PendingKind → Bool
  | .power a, .power b => a = b
  | .config, .config _ => true
  | .firmwareUpdate, .firmwareUpdate _ => true
  | _, _ => false

inductive StatusAction
  | refresh
  | wake
  | reboot
  | shutdown
  deriving DecidableEq, Repr

inductive Callback
  | decision (confirm : Bool) (target : CallbackTarget) (nonce : String)
  | editSetting (kind : SettingKind)
  | setLock (locked : Bool)
  | status (action : StatusAction)
  deriving DecidableEq, Repr

namespace Callback

def targetOf (target : String) : Option CallbackTarget :=
  if target = "config" then some .config
  else if target = "update" then some .firmwareUpdate
  else (PowerAction.fromSlug target).map .power

def parseDecision (confirm : Bool) (target nonce : String) : Option Callback :=
  (targetOf target).map fun t => .decision confirm t nonce

/-- Data of another shape, of an old button or of another bot is refused. -/
def parse (data : String) : Option Callback :=
  match split ':' data with
  | ["confirm", target, nonce] => if nonce = "" then none else parseDecision true target nonce
  | ["cancel", target, nonce] => if nonce = "" then none else parseDecision false target nonce
  | ["setedit", slug] => (SettingKind.fromSlug slug).map .editSetting
  | ["lock", "on"] => some (.setLock true)
  | ["lock", "off"] => some (.setLock false)
  | ["status", "refresh"] => some (.status .refresh)
  | ["status", "wake"] => some (.status .wake)
  | ["status", "reboot"] => some (.status .reboot)
  | ["status", "shutdown"] => some (.status .shutdown)
  | _ => none

example : parse "confirm:reboot:7KQ2MZ" = some (.decision true (.power .reboot) "7KQ2MZ") ∧
    parse "confirm:reboot:" = none ∧ parse "confirm:halt:7KQ2MZ" = none := by
  decide

end Callback

end PcRemote.Telegram
