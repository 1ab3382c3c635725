import Mathlib.Init

/-! The status message of the Telegram client: what the PC, the bridge and the lock allow, as
text with its buttons. -/
namespace PcRemote

structure Button where
  text : String
  data : String
  deriving DecidableEq, Repr

structure Battery where
  percent : Nat
  charging : Bool
  powered : Bool
  deriving DecidableEq, Repr

namespace Battery

inductive PowerState
  | charging
  | powered
  | onBattery
  deriving DecidableEq, Repr

/-- Charging comes first when the two readings contradict each other. -/
def classify (charging powered : Bool) : PowerState :=
  if charging then .charging else if powered then .powered else .onBattery

def statusJa (percent : Nat) : PowerState → String
  | .charging => toString percent ++ "% 充電中"
  | .powered => toString percent ++ "% 満充電・給電中"
  | .onBattery => toString percent ++ "% 電池駆動"

end Battery

namespace StatusMessage

structure PcStatusSnapshot where
  pcOnline : Bool
  bridgeOnline : Bool
  locked : Bool
  deriving DecidableEq, Repr

inductive PcControlStatus
  | locked
  | off
  | ready
  | bridgeUnavailable
  deriving DecidableEq, Repr

def PcStatusSnapshot.status (s : PcStatusSnapshot) : PcControlStatus :=
  if s.locked then .locked
  else if !s.pcOnline then .off
  else if s.bridgeOnline then .ready
  else .bridgeUnavailable

def refreshRow : List Button := [⟨"↻ 最新の状態に更新", "status:refresh"⟩]

/-- Only the buttons that make sense now; an old message keeps the ones it was sent with. -/
def statusButtons : PcControlStatus → List (List Button)
  | .ready =>
      [[⟨"🔄 PCを再起動", "status:reboot"⟩, ⟨"⏻ シャットダウン", "status:shutdown"⟩], refreshRow]
  | .off => [[⟨"⏻ PCを起動", "status:wake"⟩], refreshRow]
  | .locked => [[⟨"🔓 ロックを解除", "lock:off"⟩], refreshRow]
  | .bridgeUnavailable => [refreshRow]

def escapeChar : Char → List Char
  | '&' => "&amp;".toList
  | '<' => "&lt;".toList
  | '>' => "&gt;".toList
  | c => [c]

def escapeHtml (value : String) : String := String.ofList (value.toList.flatMap escapeChar)

def actionsText : PcControlStatus → String
  | .locked => "🔒 操作をロック中\n解除するまで起動・再起動・シャットダウンはできません"
  | .off => "起動できます"
  | .ready => "再起動・シャットダウンができます"
  | .bridgeUnavailable =>
      "⚠️ 再起動・シャットダウンはできません\nPC側の操作サービスが応答していません"

def statusMessageHtml (status : PcControlStatus) (pcLabel batteryText version : String) : String :=
  "🖥️ <b>PC ・ " ++ escapeHtml pcLabel ++ "</b>\n" ++ actionsText status ++
    "\n\n📱 <b>M5Stack</b>\n🔋 " ++ escapeHtml batteryText ++ "\n🏷️ v" ++ escapeHtml version

def pcOnlineLabelJa (online : Bool) : String := if online then "オン" else "オフ"

end StatusMessage

end PcRemote
