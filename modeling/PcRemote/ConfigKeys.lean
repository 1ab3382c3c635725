import PcRemote.ConfigValidation

/-! The configuration keys and the build. One table says for every key what it is called, what
type it has and which integers it allows; the build refuses a configuration file that breaks
it. -/
namespace PcRemote.Config
open ConfigValidation

/-- The machine types of the integer settings. -/
inductive IntTy
  | u8
  | u16
  | u32
  | u64
  | i64
  deriving DecidableEq, Repr

namespace IntTy

def rustName : IntTy → String
  | .u8 => "u8"
  | .u16 => "u16"
  | .u32 => "u32"
  | .u64 => "u64"
  | .i64 => "i64"

def minValue : IntTy → ℤ
  | .u8 | .u16 | .u32 | .u64 => 0
  | .i64 => Text.i64Min

/-- A configuration file has no integer above the i64 range, so that bounds u64 as well. -/
def maxValue : IntTy → ℤ
  | .u8 => 255
  | .u16 => 65535
  | .u32 => 4294967295
  | .u64 | .i64 => Text.i64Max

/-- Reading a text as a value of the type. -/
def parse : IntTy → String → Option ℤ
  | .u8, s => (Text.parseU8 s).map Int.ofNat
  | .u16, s => (Text.parseU16 s).map Int.ofNat
  | .u32, s => (Text.parseUnsigned UInt32.size s).map Int.ofNat
  | .u64, s => (Text.parseUnsigned UInt64.size s).map Int.ofNat
  | .i64, s => Text.parseI64 s

end IntTy

inductive TextKey
  | wifiSsid
  | wifiPassword
  | pcMacAddress
  | bridgeSharedSecret
  | pcIpAddress
  | telegramBotToken
  | telegramAllowedUserId
  deriving DecidableEq, Repr

inductive IntKey
  | wolPort
  | pcStatusPort
  | bridgePort
  | telegramLongPollTimeoutSeconds
  | telegramConfirmTtlSecs
  | dailyReportHour
  | timezoneOffsetHours
  | brightness
  deriving DecidableEq, Repr

structure TextSpec where
  key : String
  constName : String
  oldKey : Option String

structure IntSpec where
  key : String
  constName : String
  ty : IntTy
  oldKey : Option String
  default : Option ℤ
  range : Option (ℤ × ℤ)

def TextKey.spec : TextKey → TextSpec
  | .wifiSsid => ⟨"wifi_ssid", "WIFI_SSID", none⟩
  | .wifiPassword => ⟨"wifi_password", "WIFI_PASSWORD", none⟩
  | .pcMacAddress => ⟨"pc_mac_address", "PC_MAC_ADDRESS", none⟩
  | .bridgeSharedSecret =>
      ⟨"bridge_shared_secret", "BRIDGE_SHARED_SECRET", some "agent_shared_secret"⟩
  | .pcIpAddress => ⟨"pc_ip_address", "PC_IP_ADDRESS", none⟩
  | .telegramBotToken => ⟨"telegram_bot_token", "TELEGRAM_BOT_TOKEN", none⟩
  | .telegramAllowedUserId => ⟨"telegram_allowed_user_id", "TELEGRAM_ALLOWED_USER_ID", none⟩

def IntKey.spec : IntKey → IntSpec
  | .wolPort => ⟨"wol_port", "WOL_PORT", .u16, none, none, some (1, 65535)⟩
  | .pcStatusPort => ⟨"pc_status_port", "PC_STATUS_PORT", .u16, none, some 80, none⟩
  | .bridgePort => ⟨"bridge_port", "BRIDGE_PORT", .u16, some "agent_port", none, some (1, 65535)⟩
  | .telegramLongPollTimeoutSeconds =>
      ⟨"telegram_long_poll_timeout_seconds", "TELEGRAM_LONG_POLL_TIMEOUT_SECONDS", .u32, none, none,
        some (1, Text.i64Max)⟩
  | .telegramConfirmTtlSecs =>
      ⟨"telegram_confirm_ttl_secs", "TELEGRAM_CONFIRM_TTL_SECS", .u64, none, none,
        some (1, Text.i64Max)⟩
  | .dailyReportHour =>
      ⟨"daily_report_hour", "DAILY_REPORT_HOUR", .i64, none, some dailyReportDisabled,
        some (dailyReportDisabled, dailyReportHourMax)⟩
  | .timezoneOffsetHours =>
      ⟨"timezone_offset_hours", "TIMEZONE_OFFSET_HOURS", .i64, none, some 0,
        some (timezoneOffsetMinHours, timezoneOffsetMaxHours)⟩
  | .brightness =>
      ⟨"brightness", "BRIGHTNESS", .u8, none, some brightnessMaxPercent,
        some (0, brightnessMaxPercent)⟩

/-- The effective range of a key: the bounds of its type, and its own. -/
def IntSpec.InRange (spec : IntSpec) (value : ℤ) : Prop :=
  (spec.ty.minValue ≤ value ∧ value ≤ spec.ty.maxValue) ∧
    ∀ lo hi, spec.range = some (lo, hi) → lo ≤ value ∧ value ≤ hi

def IntKey.InRange (k : IntKey) (value : ℤ) : Prop :=
  (k.spec.ty.minValue ≤ value ∧ value ≤ k.spec.ty.maxValue) ∧
    ∀ lo hi, k.spec.range = some (lo, hi) → lo ≤ value ∧ value ≤ hi

inductive Key
  | text (k : TextKey)
  | int (k : IntKey)
  deriving DecidableEq, Repr

/-- In the order in which constants are generated. -/
def keys : List Key :=
  [.text .wifiSsid, .text .wifiPassword, .text .pcMacAddress, .int .wolPort, .int .pcStatusPort,
    .int .bridgePort, .text .bridgeSharedSecret, .text .pcIpAddress, .text .telegramBotToken,
    .text .telegramAllowedUserId, .int .telegramLongPollTimeoutSeconds,
    .int .telegramConfirmTtlSecs, .int .dailyReportHour, .int .timezoneOffsetHours,
    .int .brightness]

lemma text_mem_keys (k : TextKey) : .text k ∈ keys := by cases k <;> decide

lemma int_mem_keys (k : IntKey) : .int k ∈ keys := by cases k <;> decide

/-- Of a value that is neither text nor integer only that much is read. -/
inductive TomlValue
  | str (s : String)
  | integer (n : ℤ)
  | other
  deriving DecidableEq, Repr

abbrev TomlTable := String → Option TomlValue

/-- A value for every key, as the constants of a build or as what a device works with. -/
structure AppConfig where
  text : TextKey → String
  int : IntKey → ℤ

section Build
variable (table : TomlTable)

def lookup (key : String) (oldKey : Option String) : Option TomlValue :=
  (table key).or (oldKey.bind table)

def require (key : String) (oldKey : Option String) : Except String TomlValue :=
  match lookup table key oldKey with
  | some value => .ok value
  | none =>
      match oldKey with
      | some oldKey => .error ("config.toml に必須key `" ++ key ++ "` がありません。旧key `" ++ oldKey ++
          "` も未設定です。config.example.toml を確認してください")
      | none => .error ("config.toml に必須key `" ++ key ++
          "` がありません。config.example.toml を確認してください")

def textLiteral (spec : TextSpec) : Except String String := do
  match ← require table spec.key spec.oldKey with
  | .str s => return s
  | .integer _ | .other => .error ("config.toml: `" ++ spec.key ++ "` は文字列で指定してください")

/-- The value of an integer key before its ranges are looked at. -/
def intLiteral (spec : IntSpec) : Except String ℤ :=
  match lookup table spec.key spec.oldKey, spec.default with
  | none, some default => .ok default
  | _, _ => do
      match ← require table spec.key spec.oldKey with
      | .integer n => return n
      | .str _ | .other => .error ("config.toml: `" ++ spec.key ++ "` は整数で指定してください")

def intValue (spec : IntSpec) : Except String ℤ := do
  let value ← intLiteral table spec
  if ¬ (spec.ty.minValue ≤ value ∧ value ≤ spec.ty.maxValue) then
    .error ("config.toml: `" ++ spec.key ++ "` は " ++ spec.ty.rustName ++ " の範囲(" ++
      toString spec.ty.minValue ++ "〜" ++ toString spec.ty.maxValue ++
      ")で指定してください。指定値: " ++ toString value)
  else
    match spec.range with
    | none => return value
    | some (min, max) =>
        if ¬ (min ≤ value ∧ value ≤ max) then
          .error ("config.toml: `" ++ spec.key ++ "` は" ++ toString min ++ "〜" ++ toString max ++
            "で指定してください。指定値: " ++ toString value)
        else return value

def checkKey : Key → Except String Unit
  | .text k => (textLiteral table k.spec).map fun _ => ()
  | .int k => (intValue table k.spec).map fun _ => ()

/-- The constants, once every key has been read without a complaint. -/
def generatedConfig : AppConfig where
  text k := (textLiteral table k.spec).toOption.getD ""
  int k := (intValue table k.spec).toOption.getD 0

/-- The first key that is missing or wrong stops the build. -/
def generateConfig : Except String AppConfig := do
  keys.forM (checkKey table)
  return generatedConfig table

end Build

section Accepted
variable {table : TomlTable} {build : AppConfig}

lemma forM_ok_iff {α : Type*} {f : α → Except String Unit} {ks : List α} :
    ks.forM f = .ok () ↔ ∀ k ∈ ks, f k = .ok () := by
  induction ks with
  | nil => simp [pure, Except.pure]
  | cons k ks ih =>
    rw [List.forall_mem_cons, ← ih]
    simp only [List.forM_eq_forM, List.forM_cons]
    cases hk : f k <;> simp [bind, Except.bind]

lemma generateConfig_ok (h : generateConfig table = .ok build) :
    build = generatedConfig table ∧ ∀ k, checkKey table k = .ok () := by
  unfold generateConfig at h
  cases hall : keys.forM (checkKey table) with
  | error e => rw [hall] at h; cases h
  | ok =>
    rw [hall] at h
    refine ⟨(Except.ok.inj h).symm, ?_⟩
    rintro (k | k)
    · exact forM_ok_iff.mp hall _ (text_mem_keys k)
    · exact forM_ok_iff.mp hall _ (int_mem_keys k)

lemma intLiteral_eq_ok {spec : IntSpec} {value : ℤ} :
    intLiteral table spec = .ok value ↔
      lookup table spec.key spec.oldKey = some (.integer value) ∨
        lookup table spec.key spec.oldKey = none ∧ spec.default = some value := by
  unfold intLiteral require
  rcases lookup table spec.key spec.oldKey with _ | (s | n | _)
  · cases spec.default with
    | some default => simp
    | none => cases spec.oldKey <;> simp [bind, Except.bind]
  · simp [bind, Except.bind]
  · simp [bind, Except.bind, pure, Except.pure]
  · simp [bind, Except.bind]

/-- The build takes the value of an integer key as it stands, if it is in the range. -/
lemma intValue_eq_ok {spec : IntSpec} {value : ℤ} :
    intValue table spec = .ok value ↔
      intLiteral table spec = .ok value ∧ spec.InRange value := by
  unfold intValue IntSpec.InRange
  cases intLiteral table spec with
  | error e => simp [bind, Except.bind]
  | ok v =>
    simp only [bind, Except.bind, Except.ok.injEq]
    constructor
    · intro h
      split_ifs at h with hty
      rcases hrange : spec.range with _ | ⟨min, max⟩
      · simp only [hrange, pure, Except.pure, Except.ok.injEq] at h
        subst h
        exact ⟨rfl, hty, by simp⟩
      · simp only [hrange, pure, Except.pure] at h
        split_ifs at h with hr
        simp only [Except.ok.injEq] at h
        subst h
        refine ⟨rfl, hty, ?_⟩
        rintro lo hi ⟨rfl, rfl⟩
        exact hr
    · rintro ⟨rfl, hty, hrange⟩
      rw [if_neg (not_not.mpr hty)]
      rcases hr : spec.range with _ | ⟨min, max⟩
      · rfl
      · exact if_neg (not_not.mpr (hrange min max hr))

lemma intValue_inRange {k : IntKey} {value : ℤ} (h : intValue table k.spec = .ok value) :
    k.InRange value := (intValue_eq_ok.mp h).2

/-- An accepted configuration has every integer in the effective range of its key. -/
lemma build_inRange (h : generateConfig table = .ok build) (k : IntKey) :
    k.InRange (build.int k) := by
  obtain ⟨rfl, hall⟩ := generateConfig_ok h
  have hk := hall (.int k)
  simp only [checkKey] at hk
  cases hv : intValue table k.spec with
  | error e => rw [hv] at hk; cases hk
  | ok value =>
    have hint : (generatedConfig table).int k = value := by
      simp [generatedConfig, hv, Except.toOption]
    rw [hint]
    exact intValue_inRange hv

end Accepted

end PcRemote.Config
