import PcRemote.LockOrder

/-! The mutexes of the firmware: for each function, in which scope it holds which guard. A function
that takes no mutex is left out where it is called; `question` stands where the source can leave
the function, with `?` or an early return, and takes nothing on its way. -/
namespace PcRemote.FirmwareLocks
open LockOrder LockOrder.Prog

inductive Mutex
  | power
  | https
  | wake
  | sleep
  | battery
  | state
  | settings
  | rootCa
  deriving DecidableEq, Repr

inductive Thread
  | ui
  | polling
  | notifier
  deriving DecidableEq, Repr

/-- What the functions share that read the settings. -/
def settingsReader : Prog Mutex := .call (.guard .settings .skip)

/-- What the functions share that write one setting: the store to the flash can fail. -/
def settingsWriter : Prog Mutex := .call (.guard .settings question)

def pcIpAddress : Prog Mutex := settingsReader

def pcStatusAddr : Prog Mutex := settingsReader

def wolPort : Prog Mutex := settingsReader

def brightnessPercent : Prog Mutex := settingsReader

def snapshot : Prog Mutex := settingsReader

def setPcIpAddress : Prog Mutex := settingsWriter

def setWolPort : Prog Mutex := settingsWriter

def setBrightnessPercent : Prog Mutex := settingsWriter

/-- A guard of the polling state that lives for one statement. -/
def lockState : Prog Mutex := .guard .state .skip

def wakeWatchStarted : Prog Mutex := .call (.guard .wake .skip)

def clearWakeWatch : Prog Mutex := .call (.guard .wake .skip)

def beginWakeWatch : Prog Mutex := .call (.guard .wake .skip)

def beginSleepWatch : Prog Mutex := .call (.guard .sleep .skip)

def pollSleepWatch : Prog Mutex := .call (.guard .sleep .skip)

def ensureRootCa : Prog Mutex := .call (.guard .rootCa (block [question, question]))

/-- Its caller holds the mutex of the HTTPS connection. -/
def postVia : Prog Mutex := .call (block [question, question])

def postJson : Prog Mutex := .call (.guard .https (block [question, postVia]))

def sendMessageReturningId : Prog Mutex :=
  .call (.guard .https (block [question, .loop question, question]))

def editMessageText : Prog Mutex := .call postJson

def sendMessage : Prog Mutex := .call postJson

def sendMessageWithKeyboard : Prog Mutex := .call postJson

def sendStatus : Prog Mutex := .call postJson

def editStatus : Prog Mutex := .call postJson

def sendMessageWithConfirmButtons : Prog Mutex := .call sendMessageWithKeyboard

def sendForceReply : Prog Mutex := .call postJson

def answerCallbackQuery : Prog Mutex := .call postJson

def answerCallbackQueryAndSend : Prog Mutex :=
  .call (.guard .https (block [question, postVia, question, option postVia]))

/-- `SettingKind::current`. -/
def current : Prog Mutex := .call (branch [pcIpAddress, wolPort, brightnessPercent])

def recordUnauthorizedAccess : Prog Mutex := .call (block [question, option sendMessage])

/-- The guard of the battery lives for the whole `match`. -/
def statusMessage : Prog Mutex :=
  .call (block [pcStatusAddr, .guard .battery (branch [.skip, .skip]), option pcIpAddress])

def sendSettingsMenu : Prog Mutex := .call (block [snapshot, sendMessageWithKeyboard])

def startSettingInput : Prog Mutex := .call (block [current, sendForceReply])

def requestConfirmation : Prog Mutex := .call sendMessageWithConfirmButtons

def requestConfigConfirmation : Prog Mutex := .call sendMessageWithConfirmButtons

def handleSettingInput : Prog Mutex :=
  .call (branch [block [current, requestConfigConfirmation], sendForceReply])

def handleSetCommand : Prog Mutex :=
  .call (block [option (block [startSettingInput, .ret]), handleSettingInput])

/-- The guard of the power lock is dropped before the wake watch begins. -/
def doWake : Prog Mutex :=
  .call (block [.guard .power wolPort, option (block [pcStatusAddr, beginWakeWatch]), sendMessage])

def runPowerAction : Prog Mutex :=
  .call (.guard .power (block [pcIpAddress, option beginSleepWatch]))

/-- `ConfigChange::apply`. -/
def apply : Prog Mutex := .call (branch [setPcIpAddress, setWolPort, setBrightnessPercent])

def applyConfigChange : Prog Mutex := .call apply

def handleConfirmation : Prog Mutex := .call (block [option runPowerAction, sendMessage])

def handleConfigConfirmation : Prog Mutex := .call (block [option applyConfigChange, sendMessage])

def handleUpdateCommand : Prog Mutex :=
  .call (block [pcIpAddress, option (block [sendMessage, .ret]), option (block [sendMessage, .ret]),
    sendMessageWithConfirmButtons])

/-- `ota::download_and_flash`. The reading of the image is a function of its own, given to
`with_signed_get`. -/
def downloadAndFlash (onProgress onApplying : Prog Mutex) : Prog Mutex :=
  .call (block [question,
    .call (block [question, .loop (block [question, option onProgress])]),
    question, onProgress, question, onApplying])

/-- `ota::run_ota_update`. It restarts the device where it succeeds. -/
def Ota.runOtaUpdate (onProgress onApplying : Prog Mutex) : Prog Mutex :=
  .call (block [downloadAndFlash onProgress onApplying, question, .stop])

def editProgressMessage : Prog Mutex := .call (block [question, editMessageText])

def onProgress : Prog Mutex := .call (block [question, editProgressMessage])

def onApplying : Prog Mutex := .call (block [question, editProgressMessage])

/-- The guard of the power lock is held across the whole update, its messages included. -/
def runOtaUpdate : Prog Mutex :=
  .call (.guard .power (block [pcIpAddress, Ota.runOtaUpdate onProgress onApplying]))

def executeOtaUpdate : Prog Mutex :=
  .call (block [option sendMessageReturningId, runOtaUpdate, option sendMessage])

def executeConfirmedOtaUpdate : Prog Mutex :=
  .call (block [pcIpAddress, branch [executeOtaUpdate, sendMessage, sendMessage]])

def handleUpdateConfirmation : Prog Mutex :=
  .call (block [option (block [sendMessage, .ret]), executeConfirmedOtaUpdate])

def dispatchCommand : Prog Mutex :=
  .call (block [option (block [sendMessage, .ret]),
    branch [block [statusMessage, sendStatus], sendSettingsMenu, sendMessage, sendMessage, doWake,
      requestConfirmation, handleConfirmation, handleUpdateCommand, handleUpdateConfirmation,
      handleSetCommand, handleConfigConfirmation, .skip]])

/-- How the button of a message is answered in the end. -/
def answerDecision : Prog Mutex := branch [answerCallbackQueryAndSend, answerCallbackQuery]

def handleCallbackQuery : Prog Mutex :=
  .call (block [
    option (block [answerCallbackQuery, recordUnauthorizedAccess, .ret]),
    option (block [answerCallbackQuery, .ret]),
    option (block [answerCallbackQuery, .ret]),
    branch [
      .skip,
      block [answerCallbackQuery, option startSettingInput, .ret],
      block [
        branch [
          block [statusMessage, option editStatus, answerCallbackQuery],
          block [answerCallbackQuery, option doWake],
          block [answerCallbackQuery, option requestConfirmation]],
        .ret],
      block [answerCallbackQuery, option sendSettingsMenu, .ret]],
    option (block [answerDecision, .ret]),
    option (block [answerDecision, .ret]),
    branch [
      runPowerAction,
      applyConfigChange,
      block [answerCallbackQuery, executeConfirmedOtaUpdate, .ret]],
    answerDecision])

def handleMessage : Prog Mutex :=
  .call (block [
    option (block [recordUnauthorizedAccess, .ret]),
    question,
    option (block [
      option (block [option (block [sendMessage, .ret]), handleSettingInput]),
      .ret]),
    dispatchCommand])

def processUpdates : Prog Mutex :=
  .call (block [question,
    .loop (block [option (block [handleCallbackQuery, .next]), option handleMessage])])

/-- The long poll holds the HTTPS mutex; its answer is handled after the guard is dropped. -/
def pollOnce : Prog Mutex :=
  .call (block [.guard .https (block [question, .loop question]), question, processUpdates])

def run : Prog Mutex :=
  .call (block [ensureRootCa, option (block [lockState, .ret]), lockState,
    .loop (block [pollOnce, branch [lockState, lockState]])])

def dueReport : Prog Mutex := .call (block [question, pcStatusAddr])

/-- The thread that `start_notifier` starts. -/
def startNotifier : Prog Mutex :=
  .call (.loop (block [question, option pcIpAddress, ensureRootCa, option .next,
    option sendMessage, dueReport, option sendMessage]))

/-- The guard of the polling state lives for the whole `match`. -/
def telegramLamp : Prog Mutex :=
  block [.guard .state (branch [.skip, .skip, .skip]), question]

def batteryPoll : Prog Mutex := block [option (.guard .battery .skip), question]

def statusCheck : Prog Mutex :=
  block [pcStatusAddr, wakeWatchStarted, option clearWakeWatch, pollSleepWatch, question]

/-- A button whose action is refused while the operation lock is on: the panel is drawn, which
can fail, and the loop goes on with its next iteration. -/
def rejectLocked : Prog Mutex := option (block [question, .next])

/-- A tap on WAKE or on OK. The guard of the power lock is held until the panel has been drawn. -/
def tap : Prog Mutex :=
  branch [
    .guard .power (block [rejectLocked, wolPort, option beginWakeWatch, question]),
    .guard .power (block [rejectLocked, pcIpAddress, question]),
    question]

def main : Prog Mutex :=
  .call (block [question, brightnessPercent, question, pcStatusAddr, question, brightnessPercent,
    .loop (block [question, telegramLamp, option batteryPoll, option statusCheck, question,
      brightnessPercent, option (block [question, .next]), option (block [rejectLocked, tap]),
      question])])

def program : Thread → Prog Mutex
  | .ui => main
  | .polling => run
  | .notifier => startNotifier

/-- The other mutexes are leaves: while one of them is held, no other one is taken. -/
def rank : Mutex → ℕ
  | .power => 0
  | _ => 1

lemma program_ordered (i : Thread) : (program i).ordered rank 0 = true := by
  cases i <;> decide

/-- No order allows taking the wake watch again in a `match` on it. -/
example (rank : Mutex → ℕ) (n : ℕ) : (Prog.guard .wake clearWakeWatch).ordered rank n = false := by
  simp [clearWakeWatch, Prog.ordered]

/-- However the three threads interleave and whatever branches they take, no thread locks a mutex
that it holds already, and no threads wait for each other in a circle. -/
theorem firmware_deadlock_free {s : Thread → ThreadState Mutex} (hs : Reachable program s) :
    (∀ i l t, (s i).todo = .acquire l :: t → l ∉ (s i).held) ∧
      ∀ i, ¬ Relation.TransGen (WaitsFor s) i i := by
  have hordered : AllOrdered rank s := hs.allOrdered program_ordered
  refine ⟨fun i l t htodo hheld => ?_, not_waitsFor_self hordered⟩
  exact absurd (hordered.rank_lt htodo hheld) (Nat.lt_irrefl _)

/-! The notifier thread waits for the root certificates while the polling thread holds their
mutex. -/

def waitingTraces : Thread → List (Event Mutex)
  | .ui => []
  | .polling | .notifier => [.acquire .rootCa, .release .rootCa]

lemma exec_ensureRootCa : Exec ensureRootCa [.acquire .rootCa, .release .rootCa] .panic :=
  .call (.guard (.panic _) (by decide))

lemma exec_waitingTraces (i : Thread) : ∃ x, Exec (program i) (waitingTraces i) x := by
  cases i with
  | ui => exact ⟨_, .panic _⟩
  | polling => exact ⟨_, .call (.seqExit exec_ensureRootCa (by decide))⟩
  | notifier =>
    have hbody : Exec (block [question, option pcIpAddress, ensureRootCa, option .next,
        option sendMessage, dueReport, option sendMessage])
        [.acquire .rootCa, .release .rootCa] .panic :=
      .seq (.right .skip) (.seq (.right .skip) (.seqExit exec_ensureRootCa (by decide)))
    exact ⟨_, .call (.loopExit hbody (by decide))⟩

def waitingState : Thread → ThreadState Mutex :=
  Function.update (start waitingTraces) .polling ⟨[.rootCa], [.release .rootCa]⟩

lemma step_waitingState : Step (start waitingTraces) (.polling, .acquire .rootCa) waitingState :=
  .acquire rfl fun j => by simp [start]

lemma reachable_waitingState : Reachable program waitingState :=
  ⟨waitingTraces, _, exec_waitingTraces, .one step_waitingState⟩

theorem firmware_deadlock_free_waiting :
    WaitsFor waitingState .notifier .polling ∧
      ¬ Relation.TransGen (WaitsFor waitingState) .notifier .notifier :=
  ⟨⟨.rootCa, [.release .rootCa], by decide, by decide⟩,
    (firmware_deadlock_free reachable_waitingState).2 .notifier⟩

end PcRemote.FirmwareLocks
