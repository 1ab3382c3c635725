import PcRemote.Text

/-! Firmware versions and how the offered one compares with the running one. -/
namespace PcRemote.FirmwareVersion
open Text

/-- The version of the running firmware. -/
def firmwareVersion : String := "0.17.0"

inductive VersionOrder
  | newer
  | same
  | older
  | unknown
  deriving DecidableEq, Repr

def VersionOrder.showsConfirmButton (order : VersionOrder) : Bool := order != .same

def versionPart (digits : List Char) : Option ℕ := (parseDigits digits).filter (· < UInt64.size)

/-- Exactly three numbers, then a suffix that starts with a dash or a plus. -/
def splitVersion (version : String) : Option ((ℕ × ℕ × ℕ) × String) :=
  let inNumber := fun c => c != '-' && c != '+'
  match (version.toList.takeWhile inNumber).splitOn '.' with
  | [major, minor, patch] => do
      let major ← versionPart major
      let minor ← versionPart minor
      let patch ← versionPart patch
      return ((major, minor, patch), String.ofList (version.toList.dropWhile inNumber))
  | _ => none

def compareTriples (a b : ℕ × ℕ × ℕ) : Ordering :=
  (compare a.1 b.1).then ((compare a.2.1 b.2.1).then (compare a.2.2 b.2.2))

def compareVersions (current offered : String) : VersionOrder :=
  match splitVersion current, splitVersion offered with
  | some (cur, curSuffix), some (off, offSuffix) =>
      match compareTriples cur off with
      | .lt => .newer
      | .gt => .older
      | .eq => if curSuffix = offSuffix then .same else .unknown
  | _, _ => .unknown

def otaConfirmText (current offered : String) (size : UInt64) : String :=
  match compareVersions current offered with
  | .newer =>
      "firmware更新があります。\n現在: " ++ current ++ "\nversion: " ++ offered ++ "\nsize: " ++
        toString size ++ " bytes\n更新しますか？\nボタンを押すと開始します。" ++
        "完了すると自動でM5Stackを再起動します。"
  | .same => "すでに最新です(現在 " ++ current ++ ")"
  | .older =>
      "古い版への変更です。\n現在: " ++ current ++ " → 提示: " ++ offered ++ "\nsize: " ++
        toString size ++ " bytes\n意図的に巻き戻す場合のみボタンを押してください。" ++
        "完了すると自動でM5Stackを再起動します。"
  | .unknown =>
      "firmwareの版の新旧を判定できませんでした。\n現在: " ++ current ++ "\n提示: " ++ offered ++
        "\nsize: " ++ toString size ++ " bytes\n版を確認してからボタンを押してください。" ++
        "完了すると自動でM5Stackを再起動します。"

example : compareVersions "0.8.0" "0.11.0" = .newer ∧
    compareVersions "0.7.0" "0.7.0-diag2" = .unknown ∧
    compareVersions firmwareVersion "unknown" = .unknown := by
  decide

end PcRemote.FirmwareVersion
