import PcRemote.PowerAction
import PcRemote.Transition

/-! The operation lock and the two threads that start power operations. Both threads start a
send under PowerLock. The panel checks the flag again once it holds PowerLock; the Telegram
thread sets the flag by one atomic store, without PowerLock. -/
namespace PcRemote.OperationLock
open Transition

/-- A magic packet, or a command to the bridge. -/
inductive Operation
  | wake
  | command (action : PowerAction)
  deriving DecidableEq, Repr

inductive Thread
  | panel
  | telegram
  deriving DecidableEq, Repr

/-- Where the UI loop stands in a panel action. -/
inductive PanelPhase
  | idle
  | waiting (op : Operation)
  | holding (op : Operation)
  | rechecked (op : Operation)
  | refused
  | sending (op : Operation)
  deriving DecidableEq, Repr

/-- Where the Telegram thread stands in the update it dispatches. -/
inductive TelegramPhase
  | idle
  | waiting (op : Operation)
  | holding (op : Operation)
  | sending (op : Operation)
  | replying
  deriving DecidableEq, Repr

structure State where
  locked : Bool
  powerLock : Option Thread
  panel : PanelPhase
  telegram : TelegramPhase
  deriving DecidableEq, Repr

/-- The flag starts out clear and PowerLock free. -/
def State.start : State := ⟨false, none, .idle, .idle⟩

inductive Event
  | tap (op : Operation)
  | panelAcquire
  | panelRecheck
  | panelSend
  | panelRelease
  | request (op : Operation)
  | telegramAcquire
  | telegramSend
  | telegramRelease
  | setOperationLock (locked : Bool)
  | reply
  deriving DecidableEq, Repr

/-- The two events at which a magic packet or a command starts being sent. -/
def Event.startsSend : Event → Bool
  | .panelSend | .telegramSend => true
  | _ => false

inductive Step : State → Event → State → Prop
  | tap {s : State} {op : Operation} (hp : s.panel = .idle) :
      Step s (.tap op) { s with panel := if s.locked then .idle else .waiting op }
  | panelAcquire {s : State} {op : Operation} (hp : s.panel = .waiting op)
      (hl : s.powerLock = none) :
      Step s .panelAcquire { s with panel := .holding op, powerLock := some .panel }
  | panelRecheck {s : State} {op : Operation} (hp : s.panel = .holding op) :
      Step s .panelRecheck { s with panel := if s.locked then .refused else .rechecked op }
  | panelSend {s : State} {op : Operation} (hp : s.panel = .rechecked op) :
      Step s .panelSend { s with panel := .sending op }
  | panelRelease {s : State} (hp : s.panel = .refused ∨ ∃ op, s.panel = .sending op) :
      Step s .panelRelease { s with panel := .idle, powerLock := none }
  | request {s : State} {op : Operation} (ht : s.telegram = .idle) :
      Step s (.request op) { s with telegram := if s.locked then .replying else .waiting op }
  | telegramAcquire {s : State} {op : Operation} (ht : s.telegram = .waiting op)
      (hl : s.powerLock = none) :
      Step s .telegramAcquire { s with telegram := .holding op, powerLock := some .telegram }
  | telegramSend {s : State} {op : Operation} (ht : s.telegram = .holding op) :
      Step s .telegramSend { s with telegram := .sending op }
  | telegramRelease {s : State} {op : Operation} (ht : s.telegram = .sending op) :
      Step s .telegramRelease { s with telegram := .replying, powerLock := none }
  | setOperationLock {s : State} {locked : Bool} (ht : s.telegram = .idle) :
      Step s (.setOperationLock locked) { s with locked := locked, telegram := .replying }
  | reply {s : State} (ht : s.telegram = .replying) : Step s .reply { s with telegram := .idle }

def threads : System State Event := ⟨Step⟩

/-- Nothing starts being sent while the lock is set. -/
def Respects (s : State) (e : Event) : Prop := e.startsSend → s.locked = false

def NoSendWhileLocked : Prop :=
  ∀ es s e t, threads.Run .start es s → threads.step s e t → Respects s e

/-- The lock is set after the panel has checked the flag again and before it sends. -/
def LocksAfterRecheck (s : State) (e : Event) : Prop :=
  e = .setOperationLock true ∧ ∃ op, s.panel = .rechecked op

/-- A thread about to send has found the flag clear, and it still is. -/
structure Cleared (s : State) : Prop where
  panel : ∀ op, s.panel = .rechecked op → s.locked = false
  telegram : ∀ op, s.telegram = .waiting op ∨ s.telegram = .holding op → s.locked = false

lemma cleared_start : Cleared .start := by
  constructor <;> simp [State.start]

lemma cleared_step {s t : State} {e : Event} (h : Step s e t)
    (hlock : ¬ LocksAfterRecheck s e) (hs : Cleared s) : Cleared t := by
  cases h with
  | tap hp =>
    refine ⟨?_, hs.telegram⟩
    intro op hop
    dsimp only at hop
    split_ifs at hop
  | panelAcquire => exact ⟨by simp, hs.telegram⟩
  | panelRecheck hp =>
    refine ⟨?_, hs.telegram⟩
    intro op hop
    by_cases hl : s.locked
    · simp [hl] at hop
    · simpa using hl
  | panelSend => exact ⟨by simp, hs.telegram⟩
  | panelRelease => exact ⟨by simp, hs.telegram⟩
  | request ht =>
    refine ⟨hs.panel, ?_⟩
    intro op hop
    by_cases hl : s.locked
    · simp [hl] at hop
    · simpa using hl
  | telegramAcquire ht =>
    refine ⟨hs.panel, ?_⟩
    intro op _
    exact hs.telegram _ (.inl ht)
  | telegramSend => exact ⟨hs.panel, by simp⟩
  | telegramRelease => exact ⟨hs.panel, by simp⟩
  | @setOperationLock locked ht =>
    refine ⟨?_, by simp⟩
    intro op hop
    cases locked with
    | false => rfl
    | true => exact absurd ⟨rfl, op, hop⟩ hlock
  | reply => exact ⟨hs.panel, by simp⟩

lemma respects_of_cleared {s t : State} {e : Event} (h : Step s e t) (hs : Cleared s) :
    Respects s e := by
  intro hsend
  cases h with
  | panelSend hp => exact hs.panel _ hp
  | telegramSend ht => exact hs.telegram _ (.inr ht)
  | _ => simp [Event.startsSend] at hsend

/-- In every interleaving in which the lock is never set between the panel's second check and
its send, nothing starts being sent while the lock is set. -/
theorem no_send_while_locked {es : List Event} {s t : State} {e : Event}
    (hrun : (threads.restrict fun s e => ¬ LocksAfterRecheck s e).Run .start es s)
    (hstep : (threads.restrict fun s e => ¬ LocksAfterRecheck s e).step s e t) :
    Respects s e := by
  have hs : Cleared s := by
    refine hrun.invariant ?_ cleared_start
    rintro s e t ⟨hst, hlock⟩ hs
    exact cleared_step hst hlock hs
  exact respects_of_cleared hstep.1 hs

/-- The lock is set while the panel waits for PowerLock: the second check refuses the tap, and
the send that follows is the one tapped after the unlock. -/
theorem no_send_while_locked_refused_tap :
    Respects ⟨false, some .panel, .rechecked .wake, .idle⟩ .panelSend := by
  have hrun : (threads.restrict fun s e => ¬ LocksAfterRecheck s e).Run .start
      [.tap .wake, .setOperationLock true, .reply, .panelAcquire, .panelRecheck, .panelRelease,
        .setOperationLock false, .reply, .tap .wake, .panelAcquire, .panelRecheck]
      ⟨false, some .panel, .rechecked .wake, .idle⟩ := by
    refine .cons ⟨.tap rfl, by simp [LocksAfterRecheck]⟩ ?_
    refine .cons ⟨.setOperationLock rfl, by simp [LocksAfterRecheck, State.start]⟩ ?_
    refine .cons ⟨.reply rfl, by simp [LocksAfterRecheck]⟩ ?_
    refine .cons ⟨.panelAcquire rfl rfl, by simp [LocksAfterRecheck]⟩ ?_
    refine .cons ⟨.panelRecheck rfl, by simp [LocksAfterRecheck]⟩ ?_
    refine .cons ⟨.panelRelease (.inl rfl), by simp [LocksAfterRecheck]⟩ ?_
    refine .cons ⟨.setOperationLock rfl, by simp [LocksAfterRecheck]⟩ ?_
    refine .cons ⟨.reply rfl, by simp [LocksAfterRecheck]⟩ ?_
    refine .cons ⟨.tap rfl, by simp [LocksAfterRecheck]⟩ ?_
    refine .cons ⟨.panelAcquire rfl rfl, by simp [LocksAfterRecheck]⟩ ?_
    exact .one ⟨.panelRecheck rfl, by simp [LocksAfterRecheck]⟩
  exact no_send_while_locked hrun ⟨.panelSend rfl, by simp [LocksAfterRecheck]⟩

/-- The owner locks right after the panel's second check, and the magic packet still goes out. -/
theorem not_noSendWhileLocked : ¬ NoSendWhileLocked := by
  intro h
  have hrun : threads.Run .start
      [.tap .wake, .panelAcquire, .panelRecheck, .setOperationLock true, .reply]
      ⟨true, some .panel, .rechecked .wake, .idle⟩ := by
    refine .cons (.tap rfl) ?_
    refine .cons (.panelAcquire rfl rfl) ?_
    refine .cons (.panelRecheck rfl) ?_
    refine .cons (.setOperationLock rfl) ?_
    exact .one (.reply rfl)
  have hlocked := h _ _ _ _ hrun (.panelSend rfl) rfl
  simp at hlocked

def PanelPhase.holds : PanelPhase → Bool
  | .holding _ | .rechecked _ | .refused | .sending _ => true
  | .idle | .waiting _ => false

def TelegramPhase.holds : TelegramPhase → Bool
  | .holding _ | .sending _ => true
  | .idle | .waiting _ | .replying => false

/-- A thread is past its acquisition exactly when it is the holder of PowerLock. -/
structure Exclusive (s : State) : Prop where
  panel : s.powerLock = some .panel ↔ s.panel.holds
  telegram : s.powerLock = some .telegram ↔ s.telegram.holds

lemma exclusive_step {s t : State} {e : Event} (h : Step s e t) (hs : Exclusive s) :
    Exclusive t := by
  obtain ⟨hpanel, htelegram⟩ := hs
  cases h with
  | tap hp =>
    refine ⟨?_, htelegram⟩
    split_ifs <;> simpa [hp, PanelPhase.holds] using hpanel
  | panelAcquire hp hl =>
    refine ⟨by simp [PanelPhase.holds], ?_⟩
    simpa [hl] using htelegram
  | panelRecheck hp =>
    refine ⟨?_, htelegram⟩
    split_ifs <;> simpa [hp, PanelPhase.holds] using hpanel
  | panelSend hp =>
    refine ⟨?_, htelegram⟩
    simpa [hp, PanelPhase.holds] using hpanel
  | panelRelease hp =>
    have hheld : s.powerLock = some .panel := by
      rw [hpanel]
      rcases hp with hp | ⟨op, hp⟩ <;> simp [hp, PanelPhase.holds]
    refine ⟨by simp [PanelPhase.holds], ?_⟩
    simpa [hheld] using htelegram
  | request ht =>
    refine ⟨hpanel, ?_⟩
    split_ifs <;> simpa [ht, TelegramPhase.holds] using htelegram
  | telegramAcquire ht hl =>
    refine ⟨?_, by simp [TelegramPhase.holds]⟩
    simpa [hl] using hpanel
  | telegramSend ht =>
    refine ⟨hpanel, ?_⟩
    simpa [ht, TelegramPhase.holds] using htelegram
  | telegramRelease ht =>
    have hheld : s.powerLock = some .telegram := by
      rw [htelegram]
      simp [ht, TelegramPhase.holds]
    refine ⟨?_, by simp [TelegramPhase.holds]⟩
    simpa [hheld] using hpanel
  | setOperationLock ht =>
    refine ⟨hpanel, ?_⟩
    simpa [ht, TelegramPhase.holds] using htelegram
  | reply ht =>
    refine ⟨hpanel, ?_⟩
    simpa [ht, TelegramPhase.holds] using htelegram

/-- The two threads are never sending at the same time. -/
theorem sends_serialised {es : List Event} {s : State} (h : threads.Run .start es s)
    {op op' : Operation} (hp : s.panel = .sending op) : s.telegram ≠ .sending op' := by
  have hs : Exclusive s := by
    refine h.invariant (fun s e t hst hs => exclusive_step hst hs) ?_
    constructor <;> simp [State.start, PanelPhase.holds, TelegramPhase.holds]
  intro ht
  have hpanel := hs.panel.mpr (by simp [hp, PanelPhase.holds])
  have htelegram := hs.telegram.mpr (by simp [ht, TelegramPhase.holds])
  rw [hpanel] at htelegram
  simp at htelegram

end PcRemote.OperationLock
