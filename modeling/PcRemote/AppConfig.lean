import Mathlib.Logic.Function.Basic
import PcRemote.ConfigKeys

/-! The configuration a device starts with: the constants of the build, replaced by what flash
holds under the name of each key, and then brought back into range. -/
namespace PcRemote.Config
open ConfigValidation

/-- The strings of the namespace that can be read. -/
abbrev Nvs := String → Option String

/-- The first name is the current one, the others are names of older versions. -/
def TextKey.nvsKeys : TextKey → List String
  | .wifiSsid => ["wifi_ssid"]
  | .wifiPassword => ["wifi_pass"]
  | .pcMacAddress => ["pc_mac"]
  | .bridgeSharedSecret => ["bridge_secret", "agent_secret"]
  | .pcIpAddress => ["pc_ip"]
  | .telegramBotToken => ["tg_token"]
  | .telegramAllowedUserId => ["tg_user_id"]

def IntKey.nvsKeys : IntKey → List String
  | .wolPort => ["wol_port"]
  | .pcStatusPort => ["status_port"]
  | .bridgePort => ["bridge_port", "agent_port"]
  | .telegramLongPollTimeoutSeconds => ["tg_poll_secs"]
  | .telegramConfirmTtlSecs => ["tg_ttl_secs"]
  | .dailyReportHour => ["report_hour"]
  | .timezoneOffsetHours => ["tz_offset"]
  | .brightness => ["brightness"]

def maxStringLen : ℕ := 512

/-- The stored length of a string; it counts the terminating NUL. -/
def strLen (s : String) : ℕ := (Text.utf8 s).length + 1

def readString (nvs : Nvs) (key : String) : Option String :=
  (nvs key).filter fun s => strLen s ≠ 0 ∧ strLen s ≤ maxStringLen

section Replace
variable {α : Type*}

/-- The value stored under the first of the names that can be read, if it parses. -/
def storedValue (nvs : Nvs) (nvsKeys : List String) (parse : String → Option α) : Option α :=
  (nvsKeys.findSome? (readString nvs)).bind parse

def replace (nvs : Nvs) (nvsKeys : List String) (parse : String → Option α) (target : α) : α :=
  (storedValue nvs nvsKeys parse).getD target

end Replace

namespace AppConfig

def setInt (c : AppConfig) (k : IntKey) (value : ℤ) : AppConfig :=
  { c with int := Function.update c.int k value }

def applyNvs (c : AppConfig) (nvs : Nvs) : AppConfig where
  text k := replace nvs k.nvsKeys some (c.text k)
  int k := replace nvs k.nvsKeys k.spec.ty.parse (c.int k)

def clampTimezone (c : AppConfig) : AppConfig :=
  if isValidTimezoneOffsetHours (c.int .timezoneOffsetHours) then c
  else c.setInt .timezoneOffsetHours 0

def clampDailyReport (c : AppConfig) : AppConfig :=
  if isValidDailyReportHour (c.int .dailyReportHour) then c
  else c.setInt .dailyReportHour dailyReportDisabled

def clampStatusPort (c : AppConfig) : AppConfig :=
  c.setInt .pcStatusPort (normalizeStatusPort (c.int .pcStatusPort))

def clampBrightness (c : AppConfig) : AppConfig :=
  if isValidBrightnessPercent (c.int .brightness).toNat then c
  else c.setInt .brightness brightnessMaxPercent

def clampRanges (c : AppConfig) : AppConfig :=
  c.clampTimezone.clampDailyReport.clampStatusPort.clampBrightness

/-- Where the namespace does not open, the build is all there is. -/
def load (build : AppConfig) (nvs : Option Nvs) : AppConfig :=
  (match nvs with
    | some nvs => build.applyNvs nvs
    | none => build).clampRanges

end AppConfig

lemma readString_of_some {nvs : Nvs} {key s : String} (h : nvs key = some s) :
    readString nvs key = if strLen s ≤ maxStringLen then some s else none := by
  have hne : strLen s ≠ 0 := Nat.succ_ne_zero _
  rw [readString, h]
  split_ifs with hlen
  · exact Option.filter_some_pos (by simp [hne, hlen])
  · exact Option.filter_some_neg (by simp [hlen])

/-- The same string under every name of a key. -/
lemma storedValue_of_forall {α : Type*} {nvs : Nvs} {nvsKeys : List String}
    (parse : String → Option α) {s : String} (hne : nvsKeys ≠ [])
    (h : ∀ key ∈ nvsKeys, nvs key = some s) :
    storedValue nvs nvsKeys parse = if strLen s ≤ maxStringLen then parse s else none := by
  have hfind : nvsKeys.findSome? (readString nvs) =
      if strLen s ≤ maxStringLen then some s else none := by
    induction nvsKeys with
    | nil => exact absurd rfl hne
    | cons key rest ih =>
      rw [List.findSome?_cons, readString_of_some (h key List.mem_cons_self)]
      split_ifs with hlen
      · rfl
      · by_cases hrest : rest = []
        · rw [hrest, List.findSome?_nil]
        · have hagain := ih hrest fun key hkey => h key (List.mem_cons_of_mem _ hkey)
          rwa [if_neg hlen] at hagain
  rw [storedValue, hfind]
  split_ifs <;> rfl

/-- The value that a key is left with. -/
def clampedInt (k : IntKey) (value : ℤ) : ℤ :=
  match k with
  | .timezoneOffsetHours => if isValidTimezoneOffsetHours value then value else 0
  | .dailyReportHour => if isValidDailyReportHour value then value else dailyReportDisabled
  | .pcStatusPort => normalizeStatusPort value
  | .brightness => if isValidBrightnessPercent value.toNat then value else brightnessMaxPercent
  | .wolPort | .bridgePort | .telegramLongPollTimeoutSeconds | .telegramConfirmTtlSecs => value

/-- The keys that the clamp does not look at. -/
def unclampedKeys : List IntKey :=
  [.wolPort, .bridgePort, .telegramLongPollTimeoutSeconds, .telegramConfirmTtlSecs]

section Clamp
variable (c : AppConfig)

@[simp] lemma setInt_text (k : IntKey) (value : ℤ) : (c.setInt k value).text = c.text := rfl

@[simp] lemma setInt_int_self (k : IntKey) (value : ℤ) : (c.setInt k value).int k = value := by
  simp [AppConfig.setInt]

@[simp] lemma clampRanges_text : c.clampRanges.text = c.text := by
  unfold AppConfig.clampRanges AppConfig.clampBrightness AppConfig.clampStatusPort
    AppConfig.clampDailyReport AppConfig.clampTimezone
  split_ifs <;> rfl

/-- Each step of the clamp looks at one key and leaves the others alone. -/
@[simp] lemma clampRanges_int (k : IntKey) : c.clampRanges.int k = clampedInt k (c.int k) := by
  unfold AppConfig.clampRanges AppConfig.clampBrightness AppConfig.clampStatusPort
    AppConfig.clampDailyReport AppConfig.clampTimezone
  cases k <;> simp only [clampedInt] <;> split_ifs <;> simp_all [AppConfig.setInt]

end Clamp

/-- The value that flash has for a key, when the namespace opens. -/
def IntKey.stored (k : IntKey) (nvs : Option Nvs) : Option ℤ :=
  nvs.bind fun nvs => storedValue nvs k.nvsKeys k.spec.ty.parse

lemma load_int (build : AppConfig) (nvs : Option Nvs) (k : IntKey) :
    (build.load nvs).int k = clampedInt k ((k.stored nvs).getD (build.int k)) := by
  cases nvs with
  | none => simp [AppConfig.load, IntKey.stored]
  | some nvs => simp [AppConfig.load, IntKey.stored, AppConfig.applyNvs, replace]

/-- A parsed value lies within its type, where the upper bound of u64 is not the one that the
build has for it. -/
lemma IntTy.bounds_of_parse {ty : IntTy} (hty : ty ≠ .u64) {s : String} {value : ℤ}
    (h : ty.parse s = some value) : ty.minValue ≤ value ∧ value ≤ ty.maxValue := by
  cases ty with
  | u8 =>
    obtain ⟨n, hn, rfl⟩ := Option.map_eq_some_iff.mp h
    have hlt : n < 256 := Text.lt_of_parseUnsigned hn
    simp only [minValue, maxValue, Int.ofNat_eq_natCast]
    omega
  | u16 =>
    obtain ⟨n, hn, rfl⟩ := Option.map_eq_some_iff.mp h
    have hlt : n < 65536 := Text.lt_of_parseUnsigned hn
    simp only [minValue, maxValue, Int.ofNat_eq_natCast]
    omega
  | u32 =>
    obtain ⟨n, hn, rfl⟩ := Option.map_eq_some_iff.mp h
    have hlt : n < 4294967296 := Text.lt_of_parseUnsigned hn
    simp only [minValue, maxValue, Int.ofNat_eq_natCast]
    omega
  | u64 => exact absurd rfl hty
  | i64 => exact Text.bounds_of_parseSigned h

lemma IntTy.parse_toString {ty : IntTy} {value : ℤ}
    (h : ty.minValue ≤ value ∧ value ≤ ty.maxValue) : ty.parse (toString value) = some value := by
  have hnat : ∀ {bound : ℕ}, 0 ≤ value → value < bound →
      (Text.parseUnsigned bound (toString value)).map Int.ofNat = some value := by
    intro bound hzero hlt
    obtain ⟨n, rfl⟩ := Int.eq_ofNat_of_zero_le hzero
    have hparse : Text.parseUnsigned bound (toString n) = some n :=
      Text.parseUnsigned_toString (by omega)
    exact congrArg (Option.map Int.ofNat) hparse
  cases ty with
  | u8 | u16 | u32 | u64 => exact hnat h.1 (Int.lt_of_le_of_lt h.2 (by decide))
  | i64 => exact Text.parseSigned_toString h.1 h.2

/-- Written in decimal, an integer of any of the types is short enough to be read back. -/
lemma IntTy.strLen_toString_le {ty : IntTy} {value : ℤ}
    (h : ty.minValue ≤ value ∧ value ≤ ty.maxValue) : strLen (toString value) ≤ maxStringLen := by
  have hlo : Text.i64Min ≤ ty.minValue := by cases ty <;> decide
  have hhi : ty.maxValue ≤ Text.i64Max := by cases ty <;> decide
  have hlength := Text.length_toString_int (Int.le_trans hlo h.1) (Int.le_trans h.2 hhi)
  have hbytes := Text.length_utf8_le (toString value)
  unfold strLen maxStringLen
  omega

lemma IntKey.bounds_of_stored {k : IntKey} (hk : k.spec.ty ≠ .u64) {nvs : Option Nvs} {value : ℤ}
    (h : k.stored nvs = some value) :
    k.spec.ty.minValue ≤ value ∧ value ≤ k.spec.ty.maxValue := by
  obtain ⟨m, -, hstored⟩ := Option.bind_eq_some_iff.mp h
  obtain ⟨s, -, hparse⟩ := Option.bind_eq_some_iff.mp hstored
  exact IntTy.bounds_of_parse hk hparse

lemma clampedInt_of_mem {k : IntKey} (hk : k ∈ unclampedKeys) (value : ℤ) :
    clampedInt k value = value := by
  simp only [unclampedKeys, List.mem_cons, List.not_mem_nil, or_false] at hk
  rcases hk with rfl | rfl | rfl | rfl <;> rfl

lemma ty_ne_u64 {k : IntKey} (hk : k ∉ unclampedKeys) : k.spec.ty ≠ .u64 := by
  cases k <;> first | exact absurd (by decide) hk | decide

/-- The clamp brings a value of the right type into the range of its key. -/
lemma clampedInt_inRange {k : IntKey} (hk : k ∉ unclampedKeys) {value : ℤ}
    (h : k.spec.ty.minValue ≤ value ∧ value ≤ k.spec.ty.maxValue) :
    k.InRange (clampedInt k value) := by
  cases k with
  | wolPort | bridgePort | telegramLongPollTimeoutSeconds | telegramConfirmTtlSecs =>
    exact absurd (by decide) hk
  | pcStatusPort =>
    simp only [clampedInt, normalizeStatusPort]
    split_ifs with hzero
    · exact ⟨by decide, by simp [IntKey.spec]⟩
    · exact ⟨h, by simp [IntKey.spec]⟩
  | dailyReportHour =>
    simp only [clampedInt]
    split_ifs with hvalid
    · simp only [isValidDailyReportHour, Bool.and_eq_true, decide_eq_true_eq] at hvalid
      exact ⟨h, by rintro lo hi ⟨⟩; exact hvalid⟩
    · exact ⟨by decide, by rintro lo hi ⟨⟩; decide⟩
  | timezoneOffsetHours =>
    simp only [clampedInt]
    split_ifs with hvalid
    · simp only [isValidTimezoneOffsetHours, Bool.and_eq_true, decide_eq_true_eq] at hvalid
      exact ⟨h, by rintro lo hi ⟨⟩; exact hvalid⟩
    · exact ⟨by decide, by rintro lo hi ⟨⟩; decide⟩
  | brightness =>
    simp only [clampedInt]
    split_ifs with hvalid
    · simp only [isValidBrightnessPercent, decide_eq_true_eq] at hvalid
      refine ⟨h, ?_⟩
      rintro lo hi ⟨⟩
      have hlo : (0 : ℤ) ≤ value := h.1
      omega
    · exact ⟨by decide, by rintro lo hi ⟨⟩; decide⟩

lemma clampedInt_pcStatusPort_ne_zero (value : ℤ) : clampedInt .pcStatusPort value ≠ 0 := by
  simp only [clampedInt, normalizeStatusPort, defaultStatusPort]
  split_ifs with h
  · decide
  · exact h

/-- A value in range is left as it is, except that the port 0 stands for the default. -/
lemma clampedInt_of_inRange {k : IntKey} {value : ℤ} (h : k.InRange value) :
    clampedInt k value = if k = .pcStatusPort ∧ value = 0 then defaultStatusPort else value := by
  cases k with
  | wolPort | bridgePort | telegramLongPollTimeoutSeconds | telegramConfirmTtlSecs =>
    simp [clampedInt]
  | pcStatusPort => simp [clampedInt, normalizeStatusPort]
  | dailyReportHour =>
    have hvalid : isValidDailyReportHour value = true := by
      simpa [isValidDailyReportHour] using h.2 _ _ rfl
    simp [clampedInt, hvalid]
  | timezoneOffsetHours =>
    have hvalid : isValidTimezoneOffsetHours value = true := by
      simpa [isValidTimezoneOffsetHours] using h.2 _ _ rfl
    simp [clampedInt, hvalid]
  | brightness =>
    have hle : value ≤ brightnessMaxPercent := (h.2 _ _ rfl).2
    have hvalid : isValidBrightnessPercent value.toNat = true := by
      simp only [isValidBrightnessPercent, decide_eq_true_eq]
      omega
    simp [clampedInt, hvalid]

/-- Every key in its range, and a port to probe. -/
def AppConfig.InRange (c : AppConfig) : Prop :=
  (∀ k : IntKey, k.InRange (c.int k)) ∧ c.int .pcStatusPort ≠ 0

/-- What a device starts with is in range for every build and whatever flash holds. -/
def LoadedInRange : Prop :=
  ∀ (table : TomlTable) (build : AppConfig), generateConfig table = .ok build →
    ∀ nvs : Option Nvs, (build.load nvs).InRange

/-- A device starts with a configuration in range exactly when flash has no value out of range
for a key that the clamp does not look at. -/
theorem load_inRange_iff {table : TomlTable} {build : AppConfig}
    (hbuild : generateConfig table = .ok build) (nvs : Option Nvs) :
    (build.load nvs).InRange ↔
      ∀ k ∈ unclampedKeys, ∀ value, k.stored nvs = some value → k.InRange value := by
  constructor
  · rintro ⟨hall, -⟩ k hk value hstored
    have hrange := hall k
    rwa [load_int, hstored, Option.getD_some, clampedInt_of_mem hk] at hrange
  · intro hstored
    refine ⟨fun k => ?_, ?_⟩
    · rw [load_int]
      cases hvalue : k.stored nvs with
      | none =>
        have hin := build_inRange hbuild k
        by_cases hk : k ∈ unclampedKeys
        · rwa [Option.getD_none, clampedInt_of_mem hk]
        · exact clampedInt_inRange hk hin.1
      | some value =>
        by_cases hk : k ∈ unclampedKeys
        · rw [Option.getD_some, clampedInt_of_mem hk]
          exact hstored k hk value hvalue
        · exact clampedInt_inRange hk (IntKey.bounds_of_stored (ty_ne_u64 hk) hvalue)
    · rw [load_int]
      exact clampedInt_pcStatusPort_ne_zero _

section Example

/-- The configuration file that the repository gives as an example. -/
def exampleTable : TomlTable := fun key => List.lookup key
  [("wifi_ssid", .str "your-wifi-ssid"),
    ("wifi_password", .str "your-wifi-password"),
    ("pc_mac_address", .str "AA:BB:CC:DD:EE:FF"),
    ("wol_port", .integer 9),
    ("bridge_port", .integer 18080),
    ("bridge_shared_secret", .str "replace-with-the-same-secret-as-m5stack-pc-bridge"),
    ("pc_ip_address", .str "192.168.1.100"),
    ("telegram_bot_token", .str "replace-with-your-telegram-bot-token"),
    ("telegram_allowed_user_id", .str "replace-with-your-telegram-user-id"),
    ("telegram_long_poll_timeout_seconds", .integer 20),
    ("telegram_confirm_ttl_secs", .integer 60),
    ("daily_report_hour", .integer (-1)),
    ("timezone_offset_hours", .integer 9),
    ("brightness", .integer 100)]

def exampleBuild : AppConfig := generatedConfig exampleTable

lemma generateConfig_exampleTable : generateConfig exampleTable = .ok exampleBuild := by rfl

def tooBright : Nvs := fun key => if key = "brightness" then some "250" else none

theorem load_inRange_tooBright : (exampleBuild.load (some tooBright)).InRange :=
  (load_inRange_iff generateConfig_exampleTable _).mpr (by
    intro k hk value hstored
    have hnone : ∀ k ∈ unclampedKeys, k.stored (some tooBright) = none := by decide
    rw [hnone k hk] at hstored
    cases hstored)

def portZero : Nvs := fun key => if key = "wol_port" then some "0" else none

theorem not_loadedInRange : ¬ LoadedInRange := by
  intro h
  have hwol := (h exampleTable exampleBuild generateConfig_exampleTable (some portZero)).1 .wolPort
  have hzero : IntKey.stored .wolPort (some portZero) = some 0 := by decide
  rw [load_int, hzero] at hwol
  have hle := (hwol.2 1 65535 rfl).1
  exact absurd hle (by decide)

end Example

end PcRemote.Config
