import Mathlib.Init
import PcRemote.PowerAction

/-! What the firmware says about a command it sent to the bridge. -/
namespace PcRemote

namespace PowerAction

def labelJa : PowerAction → String
  | .reboot => "再起動"
  | .shutdown => "シャットダウン"
  | .sleep => "スリープ"

def subjectLabelJa : PowerAction → String
  | .reboot => "PCの再起動"
  | .shutdown => "PCのシャットダウン"
  | .sleep => "PCのスリープ"

end PowerAction

namespace BridgeClient

def acceptedText (action : PowerAction) : String := action.subjectLabelJa ++ "を受け付けました。"

def rejectedText (action : PowerAction) (code : Nat) : String :=
  action.subjectLabelJa ++ "が拒否されました。(" ++ toString code ++ ")"

def failedText (action : PowerAction) : String := action.subjectLabelJa ++ "に失敗しました。"

def isAccepted (status : Nat) : Bool := 200 ≤ status && status < 300

/-- The report on a command, from its status code or from its failure to be sent. -/
def resultText (action : PowerAction) : Option Nat → String
  | some code => if isAccepted code then acceptedText action else rejectedText action code
  | none => failedText action

end BridgeClient

end PcRemote
