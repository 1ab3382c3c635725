import PcRemote.Text

/-! Validation of the values that can be set from Telegram, and of the owner's identity. -/
namespace PcRemote.ConfigValidation
open Text

/-- A decimal octet: up to three digits, at most 255, without a leading zero. -/
def isOctet (part : String) : Bool :=
  part.toList.length ≤ 3 && (part.toList.length == 1 || part.toList.head? != some '0') &&
    ((parseDigits part.toList).any fun n => n ≤ 255)

/-- The text form of an IPv4 address. -/
def isIpv4 (s : String) : Bool :=
  let octets := split '.' s
  octets.length == 4 && octets.all isOctet

/-- An address is four octets with dots between them. -/
lemma octets_of_isIpv4 {s : String} (h : isIpv4 s = true) :
    ∃ a b c d, s.toList = a ++ '.' :: (b ++ '.' :: (c ++ '.' :: d)) ∧
      ∀ part ∈ [a, b, c, d], isOctet (String.ofList part) = true := by
  simp only [isIpv4, Text.split, Bool.and_eq_true, beq_iff_eq, List.length_map, List.all_map,
    List.all_eq_true, Function.comp_apply] at h
  obtain ⟨hlength, hoctets⟩ := h
  have hjoin : ['.'].intercalate (s.toList.splitOn '.') = s.toList := List.intercalate_splitOn '.'
  match hparts : s.toList.splitOn '.', hlength with
  | [a, b, c, d], _ =>
    rw [hparts] at hjoin hoctets
    refine ⟨a, b, c, d, ?_, hoctets⟩
    rw [← hjoin]
    simp [List.intercalate, List.intersperse]

lemma length_le_of_isIpv4 {s : String} (h : isIpv4 s = true) : s.toList.length ≤ 15 := by
  obtain ⟨a, b, c, d, htext, hoctets⟩ := octets_of_isIpv4 h
  have hle : ∀ part ∈ [a, b, c, d], part.length ≤ 3 := by
    intro part hpart
    have hoctet := hoctets part hpart
    simp only [isOctet, String.toList_ofList, Bool.and_eq_true, decide_eq_true_eq] at hoctet
    exact hoctet.1.1
  have ha := hle a (by simp)
  have hb := hle b (by simp)
  have hc := hle c (by simp)
  have hd := hle d (by simp)
  rw [htext]
  simp only [List.length_append, List.length_cons]
  omega

def validateIpv4 (input : String) : Except String String :=
  let trimmed := trim input
  if isIpv4 trimmed then .ok trimmed
  else .error ("`" ++ trimmed ++ "` はIPv4アドレスとして解釈できません(例: 192.168.1.50)")

lemma validateIpv4_eq_ok {input s : String} :
    validateIpv4 input = .ok s ↔ isIpv4 (trim input) = true ∧ trim input = s := by
  simp only [validateIpv4]
  split
  · next h => simp [h]
  · next h => simp [h]

def composeStatusAddr (pcIpAddress : String) (statusPort : ℕ) : String :=
  trim pcIpAddress ++ ":" ++ toString statusPort

def validatePort (input : String) : Except String ℕ :=
  match parseU16 input with
  | none => .error ("`" ++ input ++ "` はport番号(1-65535)ではありません")
  | some port => if port = 0 then .error "portは1以上を指定してください" else .ok port

def defaultStatusPort : ℤ := 80

def normalizeStatusPort (port : ℤ) : ℤ := if port = 0 then defaultStatusPort else port

def timezoneOffsetMinHours : ℤ := -12
def timezoneOffsetMaxHours : ℤ := 14

/-- The hour at which no report is sent. -/
def dailyReportDisabled : ℤ := -1
def dailyReportHourMax : ℤ := 23

def isValidTimezoneOffsetHours (hours : ℤ) : Bool :=
  timezoneOffsetMinHours ≤ hours && hours ≤ timezoneOffsetMaxHours

def isValidDailyReportHour (hour : ℤ) : Bool :=
  dailyReportDisabled ≤ hour && hour ≤ dailyReportHourMax

def validateWolPort (input : String) : Except String ℕ := validatePort (trim input)

def brightnessMaxPercent : ℕ := 100

def isValidBrightnessPercent (percent : ℕ) : Bool := percent ≤ brightnessMaxPercent

def validateBrightnessPercent (input : String) : Except String ℕ :=
  let trimmed := trim input
  match parseU8 trimmed with
  | none => .error ("`" ++ trimmed ++ "` は明るさ(0〜" ++ toString brightnessMaxPercent ++
      "の数値)ではありません(例: 80)")
  | some percent =>
      if isValidBrightnessPercent percent then .ok percent
      else .error ("`" ++ trimmed ++ "` は範囲外です。明るさは0〜" ++
        toString brightnessMaxPercent ++ "で指定してください")

def normalizeTelegramUserId (input : String) : String := trim input

/-- Compared as text: another spelling of the same number does not match. -/
def telegramUserIdMatches (configValue : String) (fromId : ℤ) : Bool :=
  toString fromId == normalizeTelegramUserId configValue

def parseTelegramUserId (configValue : String) : Option ℤ :=
  parseI64 (normalizeTelegramUserId configValue)

def otaReceivedTooLarge (received manifestSize : UInt64) : Bool := manifestSize < received

end PcRemote.ConfigValidation
