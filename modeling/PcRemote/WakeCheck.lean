import PcRemote.Transition

/-! The wait for the PC to come up after a wake instruction. Its start time sits in one slot
shared by the UI loop and the Telegram thread. The UI loop reads the slot, decides, and
clears it under separate lock acquisitions, so the other thread can write in between. -/
namespace PcRemote.WakeCheck
open Transition

def wakeWatchTimeoutSecs : ℕ := 180

structure WakeWatch where
  waiting : Bool
  deriving DecidableEq, Repr

inductive WakeNotice
  | succeeded
  | timedOut
  deriving DecidableEq, Repr

def WakeWatch.idle : WakeWatch := ⟨false⟩

def WakeWatch.begin (_ : WakeWatch) (pcOnline : Bool) : WakeWatch × Bool :=
  if pcOnline then (⟨false⟩, false) else (⟨true⟩, true)

def WakeWatch.poll (w : WakeWatch) (pcOnline : Bool) (elapsedSecs : ℕ) :
    WakeWatch × Option WakeNotice :=
  if ¬ w.waiting then (w, none)
  else if pcOnline then (⟨false⟩, some .succeeded)
  else if wakeWatchTimeoutSecs ≤ elapsedSecs then (⟨false⟩, some .timedOut)
  else (w, none)

/-- A poll ends the wait exactly when it produces a notice. -/
theorem poll_notice_iff (pcOnline : Bool) (elapsedSecs : ℕ) :
    (WakeWatch.poll ⟨true⟩ pcOnline elapsedSecs).2.isSome ↔
      (WakeWatch.poll ⟨true⟩ pcOnline elapsedSecs).1.waiting = false := by
  unfold WakeWatch.poll
  cases pcOnline with
  | true => simp
  | false => by_cases h : wakeWatchTimeoutSecs ≤ elapsedSecs <;> simp [h]

def wakeRequestText : String := "PCの起動を指示しました。"

def wakeRequestFailedText : String := "PCの起動の指示に失敗しました。"

/-- A reading of the monotonic clock, in nanoseconds. -/
abbrev Instant := ℕ

def elapsedSecs (start now : Instant) : ℕ := (now - start) / 1000000000

/-- What begin_wake_watch writes into the slot. -/
def beginWakeWatch (pcOnline : Bool) (now : Instant) : Option Instant :=
  if (WakeWatch.idle.begin pcOnline).1.waiting then some now else none

/-- Where the UI loop stands in its wake step. -/
inductive UiPhase
  | idle
  | read (started : Option Instant)
  | ended (startedAt : Instant) (notice : Option WakeNotice)
  deriving DecidableEq, Repr

structure State where
  slot : Option Instant
  ui : UiPhase
  clock : Instant
  deriving DecidableEq, Repr

def State.start : State := ⟨none, .idle, 0⟩

inductive Event
  | telegramBegin (pcOnline : Bool) (now : Instant)
  | panelBegin (pcOnline : Bool) (now : Instant)
  | read
  | poll (nowOnline : Bool) (now : Instant)
  | clear
  deriving DecidableEq, Repr

def Event.isBegin : Event → Bool
  | .telegramBegin .. | .panelBegin .. => true
  | .read | .poll .. | .clear => false

/-- What the UI loop does next with the start time it has read. -/
def afterPoll (started : Option Instant) (nowOnline : Bool) (now : Instant) : UiPhase :=
  match started with
  | none => .idle
  | some startedAt =>
    let polled := WakeWatch.poll ⟨true⟩ nowOnline (elapsedSecs startedAt now)
    if ¬ polled.1.waiting then .ended startedAt polled.2 else .idle

lemma afterPoll_ne_read {started r : Option Instant} {nowOnline : Bool} {now : Instant} :
    afterPoll started nowOnline now ≠ .read r := by
  unfold afterPoll
  split
  · simp
  · dsimp only
    split_ifs <;> simp

/-- A wait ends with a notice for the very start time that was read. -/
lemma afterPoll_eq_ended {started : Option Instant} {nowOnline : Bool} {now startedAt : Instant}
    {notice : Option WakeNotice} (h : afterPoll started nowOnline now = .ended startedAt notice) :
    started = some startedAt ∧ notice.isSome := by
  unfold afterPoll at h
  split at h
  · simp at h
  · rename_i begun
    dsimp only at h
    split_ifs at h with hw
    have hn := (poll_notice_iff nowOnline (elapsedSecs begun now)).mpr (by simpa using hw)
    simp only [UiPhase.ended.injEq] at h
    exact ⟨by rw [h.1], h.2 ▸ hn⟩

inductive Step : State → Event → State → Prop
  | telegramBegin {s : State} {pcOnline : Bool} {now : Instant} (hc : s.clock ≤ now) :
      Step s (.telegramBegin pcOnline now) ⟨beginWakeWatch pcOnline now, s.ui, now⟩
  | panelBegin {s : State} {pcOnline : Bool} {now : Instant} (hu : s.ui = .idle)
      (hc : s.clock ≤ now) :
      Step s (.panelBegin pcOnline now) ⟨beginWakeWatch pcOnline now, .idle, now⟩
  | read {s : State} (hu : s.ui = .idle) : Step s .read ⟨s.slot, .read s.slot, s.clock⟩
  | poll {s : State} {started : Option Instant} {nowOnline : Bool} {now : Instant}
      (hu : s.ui = .read started) (hc : s.clock ≤ now) :
      Step s (.poll nowOnline now) ⟨s.slot, afterPoll started nowOnline now, now⟩
  | clear {s : State} {startedAt : Instant} {notice : Option WakeNotice}
      (hu : s.ui = .ended startedAt notice) : Step s .clear ⟨none, .idle, s.clock⟩

def threads : System State Event := ⟨Step⟩

/-- A start time leaves the slot by a newer instruction, or by the poll that read it and
ended its wait with a notice. -/
def Kept (s : State) (e : Event) (t : State) : Prop :=
  ∀ begun, s.slot = some begun → t.slot = some begun ∨ e.isBegin ∨
    (e = .clear ∧ ∃ notice, s.ui = .ended begun (some notice))

def NoLostWake : Prop :=
  ∀ es s e t, threads.Run .start es s → threads.step s e t → Kept s e t

/-- Whether the last instruction since the slot was read has started a wait of its own. -/
def overtakes (overtaken : Bool) : Event → Bool
  | .read => false
  | .telegramBegin pcOnline _ | .panelBegin pcOnline _ => !pcOnline
  | .poll .. | .clear => overtaken

/-- The two threads, with a note of whether what the UI loop read has been overtaken. -/
def watched : System (State × Bool) Event where
  step s e t := threads.step s.1 e t.1 ∧ t.2 = overtakes s.2 e

/-- The UI loop clears the slot although a wait was started after it read the slot. -/
def ClearsOvertaken (s : State × Bool) (e : Event) : Prop := e = .clear ∧ s.2 = true

/-- What the UI loop holds is what the slot holds, if that is anything and not overtaken. -/
structure Current (s : State × Bool) : Prop where
  read : ∀ started begun, s.1.ui = .read started → s.2 = false → s.1.slot = some begun →
    started = some begun
  ended : ∀ startedAt notice begun, s.1.ui = .ended startedAt notice → s.2 = false →
    s.1.slot = some begun → startedAt = begun
  notice : ∀ startedAt notice, s.1.ui = .ended startedAt notice → notice.isSome

lemma current_start : Current (.start, false) := by
  constructor <;> simp [State.start]

lemma current_step {s t : State} {b b' : Bool} {e : Event}
    (h : watched.step (s, b) e (t, b')) (hs : Current (s, b)) : Current (t, b') := by
  obtain ⟨hstep, hb⟩ := h
  simp only at hstep hb
  subst hb
  cases hstep with
  | telegramBegin hc =>
    rename_i pcOnline now
    have hnone : overtakes b (.telegramBegin pcOnline now) = false →
        beginWakeWatch pcOnline now = none := by
      cases pcOnline <;> simp [overtakes, beginWakeWatch, WakeWatch.begin]
    constructor
    · intro started begun _ hb hslot
      simp [hnone hb] at hslot
    · intro startedAt notice begun _ hb hslot
      simp [hnone hb] at hslot
    · exact hs.notice
  | panelBegin => constructor <;> simp
  | read =>
    constructor
    · intro started begun hu _ hslot
      simp only [UiPhase.read.injEq] at hu
      rw [← hu]
      exact hslot
    · simp
    · simp
  | poll hu =>
    constructor
    · intro started begun hd
      exact absurd hd afterPoll_ne_read
    · intro startedAt notice begun hd hb hslot
      have hread := hs.read _ begun hu hb hslot
      rw [(afterPoll_eq_ended hd).1] at hread
      exact Option.some.inj hread
    · intro startedAt notice hd
      exact (afterPoll_eq_ended hd).2
  | clear => constructor <;> simp

lemma kept_of_current {s t : State} {b : Bool} {e : Event} (hstep : Step s e t)
    (hclear : ¬ ClearsOvertaken (s, b) e) (hs : Current (s, b)) : Kept s e t := by
  intro begun hslot
  cases hstep with
  | telegramBegin => exact .inr (.inl rfl)
  | panelBegin => exact .inr (.inl rfl)
  | read => exact .inl hslot
  | poll => exact .inl hslot
  | clear hu =>
    have hb : b = false := by simpa [ClearsOvertaken] using hclear
    have hstarted := hs.ended _ _ begun hu hb hslot
    obtain ⟨notice, hn⟩ := Option.isSome_iff_exists.mp (hs.notice _ _ hu)
    exact .inr (.inr ⟨rfl, notice, by rw [hu, hstarted, hn]⟩)

/-- In every interleaving in which the UI loop never clears an overtaken slot, no wake
instruction disappears. -/
theorem wake_kept_unless_overtaken {es : List Event} {s t : State × Bool} {e : Event}
    (hrun : (watched.restrict fun s e => ¬ ClearsOvertaken s e).Run (.start, false) es s)
    (hstep : (watched.restrict fun s e => ¬ ClearsOvertaken s e).step s e t) :
    Kept s.1 e t.1 := by
  have hs : Current s := by
    refine hrun.invariant ?_ current_start
    rintro s e t ⟨hst, -⟩ hs
    exact current_step hst hs
  exact kept_of_current hstep.1.1 hstep.2 hs

/-- A second instruction restarts the wait, and the poll that reads it ends it. -/
theorem wake_kept_second_wait :
    Kept ⟨some 9, .ended 9 (some .succeeded), 12⟩ .clear ⟨none, .idle, 12⟩ := by
  have h₁ : threads.step .start (.telegramBegin false 7) ⟨some 7, .idle, 7⟩ :=
    .telegramBegin (Nat.zero_le _)
  have h₂ : threads.step ⟨some 7, .idle, 7⟩ .read ⟨some 7, .read (some 7), 7⟩ := .read rfl
  have h₃ : threads.step ⟨some 7, .read (some 7), 7⟩ (.poll false 8)
      ⟨some 7, afterPoll (some 7) false 8, 8⟩ := .poll rfl (show 7 ≤ 8 by decide)
  have h₄ : threads.step ⟨some 7, .idle, 8⟩ (.telegramBegin false 9) ⟨some 9, .idle, 9⟩ :=
    .telegramBegin (show 8 ≤ 9 by decide)
  have h₅ : threads.step ⟨some 9, .idle, 9⟩ .read ⟨some 9, .read (some 9), 9⟩ := .read rfl
  have h₆ : threads.step ⟨some 9, .read (some 9), 9⟩ (.poll true 12)
      ⟨some 9, afterPoll (some 9) true 12, 12⟩ := .poll rfl (show 9 ≤ 12 by decide)
  have h₇ : threads.step ⟨some 9, .ended 9 (some .succeeded), 12⟩ .clear ⟨none, .idle, 12⟩ :=
    .clear rfl
  exact wake_kept_unless_overtaken (s := (_, false)) (t := (_, false))
    (.cons (t := (_, true)) ⟨⟨h₁, rfl⟩, by simp [ClearsOvertaken]⟩
      (.cons (t := (_, false)) ⟨⟨h₂, rfl⟩, by simp [ClearsOvertaken]⟩
        (.cons (t := (_, false)) ⟨⟨h₃, rfl⟩, by simp [ClearsOvertaken]⟩
          (.cons (t := (_, true)) ⟨⟨h₄, rfl⟩, by simp [ClearsOvertaken]⟩
            (.cons (t := (_, false)) ⟨⟨h₅, rfl⟩, by simp [ClearsOvertaken]⟩
              (.one ⟨⟨h₆, rfl⟩, by simp [ClearsOvertaken]⟩))))))
    ⟨⟨h₇, rfl⟩, by simp [ClearsOvertaken]⟩

/-- The first wait times out; before the UI loop clears the slot, the owner asks again. -/
theorem not_noLostWake : ¬ NoLostWake := by
  intro h
  have h₁ : threads.step .start (.telegramBegin false 0) ⟨some 0, .idle, 0⟩ :=
    .telegramBegin (Nat.zero_le _)
  have h₂ : threads.step ⟨some 0, .idle, 0⟩ .read ⟨some 0, .read (some 0), 0⟩ := .read rfl
  have h₃ : threads.step ⟨some 0, .read (some 0), 0⟩ (.poll false 180000000000)
      ⟨some 0, afterPoll (some 0) false 180000000000, 180000000000⟩ := .poll rfl (Nat.zero_le _)
  have h₄ : threads.step ⟨some 0, .ended 0 (some .timedOut), 180000000000⟩
      (.telegramBegin false 180000000001)
      ⟨some 180000000001, .ended 0 (some .timedOut), 180000000001⟩ :=
    .telegramBegin (by decide)
  have hkept := h _ _ .clear _ (.cons h₁ (.cons h₂ (.cons h₃ (.one h₄)))) (.clear rfl)
    180000000001 rfl
  simp [Event.isBegin] at hkept

end PcRemote.WakeCheck
