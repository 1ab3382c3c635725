import PcRemote.AuditLog
import PcRemote.BoardBattery
import PcRemote.BoardLight
import PcRemote.ButtonData
import PcRemote.CallbackAnswers
import PcRemote.CommandDelivery
import PcRemote.ConfigAgreement
import PcRemote.DisplayTime
import PcRemote.HtmlEscape
import PcRemote.HttpsLeaf
import PcRemote.NonceCapacity
import PcRemote.NotifierThread
import PcRemote.OperationLock
import PcRemote.OtaRoundTrip
import PcRemote.OwnerIdentity
import PcRemote.PollThread
import PcRemote.PowerNotify
import PcRemote.Rollback
import PcRemote.SettingsPersistence
import PcRemote.ShownControls
import PcRemote.StateNotifyRuns
import PcRemote.StatusProbe
import PcRemote.UnauthorisedUpdates
import PcRemote.WakeOnLan
import PcRemote.WindowsService
