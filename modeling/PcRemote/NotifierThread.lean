import PcRemote.DailyReport
import PcRemote.FirmwareNotice
import PcRemote.OtaActivation

/-! The notifier's thread. Other threads put texts on its queue; each turn of its loop takes one
of them or none, now and then looks for a newer firmware, sends the text it took and perhaps the
daily report. -/
namespace PcRemote.NotifierThread
open Config FirmwareVersion OtaUpdate Transition

def saturatingAdd (a b : UInt64) : UInt64 :=
  UInt64.ofNat (min (a.toNat + b.toNat) (UInt64.size - 1))

lemma toNat_saturatingAdd (a b : UInt64) :
    (saturatingAdd a b).toNat = min (a.toNat + b.toNat) (UInt64.size - 1) := by
  apply UInt64.toNat_ofNat_of_lt'
  exact (Nat.min_le_right _ _).trans_lt (by decide)

structure FirmwareCheckSchedule where
  nextCheckSecs : UInt64
  deriving DecidableEq, Repr

namespace FirmwareCheckSchedule

def default : FirmwareCheckSchedule := ⟨180⟩

def poll (s : FirmwareCheckSchedule) (elapsedSecs : UInt64) : FirmwareCheckSchedule × Bool :=
  if elapsedSecs < s.nextCheckSecs then (s, false)
  else (⟨saturatingAdd elapsedSecs (6 * 60 * 60)⟩, true)

end FirmwareCheckSchedule

def firmwareAvailableText (current offered : String) : String :=
  "新しいfirmware " ++ offered ++ " が利用可能です(現在 " ++ current ++ ")。/update で更新できます"

/-- How far a turn of the loop has come, with the text it took. -/
inductive Phase
  | receiving
  | received (queued : Option String)
  | checked (queued : Option String)
  | ended
  deriving DecidableEq, Repr

/-- The senders are the handles that other threads hold; the thread itself only has a weak one. -/
structure Thread where
  phase : Phase
  queue : List String
  senders : Bool
  schedule : FirmwareCheckSchedule
  notice : FirmwareNotice
  report : Notifier.DailyReport

/-- A check carries what a request for the manifest gives, whether it was made, and the version
announced; a sending the fate of its text. -/
inductive Event
  | notify (text : String)
  | dropSenders
  | receive (text : String)
  | timeout
  | disconnect
  | check (elapsedSecs : UInt64) (fetch : Fetch) (due : Bool) (announced : Option String)
  | send (queued : Option String) (turn : Notifier.Turn) (delivered : Bool)
      (report : Option Notifier.Sent)

section Model
variable (C : Signing.Crypto) (decode : List UInt8 → Except String OtaManifest)
  (secret : List UInt8) (config : AppConfig)

/-- The version of a manifest that was fetched and verified. -/
def offeredVersion (fetch : Fetch) : Option String :=
  match fetchVerifiedManifest C decode secret fetch with
  | .ok m => some m.version
  | .error _ => none

def Thread.start (unix : ℤ) : Thread where
  phase := .receiving
  queue := []
  senders := true
  schedule := .default
  notice := .default
  report := .new config unix

/-- The firmware check of a turn, and the version whose announcement it puts on the queue. A weak
handle is of no use once the senders are gone. -/
def Thread.check (t : Thread) (elapsedSecs : UInt64) (fetch : Fetch) :
    Thread × Bool × Option String :=
  let (schedule, due) := t.schedule.poll elapsedSecs
  if due then
    let offered := offeredVersion C decode secret fetch
    let (notice, notify) := t.notice.observe firmwareVersion offered
    let announced := if notify && t.senders then offered else none
    ({ t with
      schedule, notice
      queue := t.queue ++ (announced.map (firmwareAvailableText firmwareVersion)).toList },
      due, announced)
  else ({ t with schedule }, due, none)

/-- A text is received before it shows that the senders are gone. -/
inductive Step : Thread → Event → Thread → Prop
  | notify {t : Thread} {text : String} (hs : t.senders = true) :
      Step t (.notify text) { t with queue := t.queue ++ [text] }
  | dropSenders {t : Thread} : Step t .dropSenders { t with senders := false }
  | receive {t : Thread} {text : String} {queue : List String} (hp : t.phase = .receiving)
      (hq : t.queue = text :: queue) :
      Step t (.receive text) { t with phase := .received (some text), queue }
  | timeout {t : Thread} (hp : t.phase = .receiving) (hq : t.queue = []) (hs : t.senders = true) :
      Step t .timeout { t with phase := .received none }
  | disconnect {t : Thread} (hp : t.phase = .receiving) (hq : t.queue = [])
      (hs : t.senders = false) : Step t .disconnect { t with phase := .ended }
  | check {t t' : Thread} {queued : Option String} {elapsedSecs : UInt64} {fetch : Fetch}
      {due : Bool} {announced : Option String} (hp : t.phase = .received queued)
      (hc : t.check C decode secret elapsedSecs fetch = (t', due, announced)) :
      Step t (.check elapsedSecs fetch due announced) { t' with phase := .checked queued }
  | send {t : Thread} {queued : Option String} {turn : Notifier.Turn} {delivered : Bool}
      (hp : t.phase = .checked queued) :
      Step t (.send queued turn delivered (Notifier.turn config t.report turn).2)
        { t with phase := .receiving, report := (Notifier.turn config t.report turn).1 }

def thread : System Thread Event := ⟨Step C decode secret config⟩

end Model

/-! ### What a run comes to -/

namespace Event

/-- The text that an event puts on the queue. -/
def put : Event → Option String
  | .notify text => some text
  | .check _ _ _ announced => announced.map (firmwareAvailableText firmwareVersion)
  | _ => none

/-- The text that a turn is done with. -/
def handled : Event → Option String
  | .send queued _ _ _ => queued
  | _ => none

/-- The text that a turn has sent: the CA certificates were in place and nothing went wrong. -/
def sent : Event → Option String
  | .send queued turn delivered _ => if turn.rootCa && delivered then queued else none
  | _ => none

/-- The text that a turn has taken from the queue and not sent; it is not tried again. -/
def lost : Event → Option String
  | .send queued turn delivered _ => if turn.rootCa && delivered then none else queued
  | _ => none

def endsTurn : Event → Bool
  | .send .. => true
  | _ => false

end Event

/-- The text that the turn under way has taken from the queue. -/
def Phase.held : Phase → Option String
  | .received queued | .checked queued => queued
  | .receiving | .ended => none

/-- A turn is under way that took no text. -/
def Phase.idle : Phase → Bool
  | .received none | .checked none => true
  | _ => false

@[simp] lemma held_receiving : Phase.receiving.held = none := rfl
@[simp] lemma held_received (queued : Option String) : (Phase.received queued).held = queued := rfl
@[simp] lemma held_checked (queued : Option String) : (Phase.checked queued).held = queued := rfl
@[simp] lemma held_ended : Phase.ended.held = none := rfl

@[simp] lemma idle_receiving : Phase.receiving.idle = false := rfl
@[simp] lemma idle_ended : Phase.ended.idle = false := rfl

@[simp] lemma idle_received (queued : Option String) :
    (Phase.received queued).idle = queued.isNone := by
  cases queued <;> rfl

@[simp] lemma idle_checked (queued : Option String) :
    (Phase.checked queued).idle = queued.isNone := by
  cases queued <;> rfl

lemma filterMap_snoc {α β : Type*} (f : α → Option β) (as : List α) (a : α) :
    (as ++ [a]).filterMap f = as.filterMap f ++ (f a).toList := by
  rw [List.filterMap_append]
  cases h : f a <;> simp [h]

section Texts
variable {C : Signing.Crypto} {decode : List UInt8 → Except String OtaManifest}
  {secret : List UInt8} {config : AppConfig}

/-- What a check leaves: it only adds its announcement to the queue. -/
lemma Thread.check_queue {t t' : Thread} {elapsedSecs : UInt64} {fetch : Fetch} {due : Bool}
    {announced : Option String}
    (h : t.check C decode secret elapsedSecs fetch = (t', due, announced)) :
    t'.queue = t.queue ++ (announced.map (firmwareAvailableText firmwareVersion)).toList ∧
      t'.senders = t.senders ∧ t'.report = t.report := by
  simp only [Thread.check] at h
  split_ifs at h with hdue <;> obtain ⟨rfl, rfl, rfl⟩ := h <;> simp

/-- The texts put on the queue are, in order, those handled, the one held and those queued. -/
lemma fifo_run {t₀ t : Thread} {es : List Event}
    (h : (thread C decode secret config).Run t₀ es t) :
    es.filterMap Event.handled ++ t.phase.held.toList ++ t.queue =
      t₀.phase.held.toList ++ t₀.queue ++ es.filterMap Event.put := by
  refine h.history (J := fun es t => es.filterMap Event.handled ++ t.phase.held.toList ++ t.queue =
    t₀.phase.held.toList ++ t₀.queue ++ es.filterMap Event.put) ?_ (by simp)
  intro es s e t hst hJ
  rw [filterMap_snoc, filterMap_snoc, ← List.append_assoc, ← hJ]
  cases hst with
  | notify | dropSenders => simp [Event.handled, Event.put]
  | receive hp hq => simp [Event.handled, Event.put, hp, hq]
  | timeout hp hq | disconnect hp hq => simp [Event.handled, Event.put, hp, hq]
  | @check t' queued _ _ _ announced hp hc =>
    obtain ⟨hqueue, -, -⟩ := Thread.check_queue hc
    cases announced <;> simp [Event.handled, Event.put, hp, hqueue]
  | @send queued turn delivered hp =>
    cases queued <;> simp [Event.handled, Event.put, hp]

/-- How many texts wait to be handled. -/
def Thread.waiting (t : Thread) : ℕ := t.phase.held.toList.length + t.queue.length

/-- Each turn that ends has handled a text, as long as one was waiting; the turn under way may have
started before there was one. -/
lemma handled_run {t t' : Thread} {es : List Event}
    (h : (thread C decode secret config).Run t es t') :
    es.countP Event.endsTurn ≤ (es.filterMap Event.handled).length + t.phase.idle.toNat ∨
      t.waiting ≤ (es.filterMap Event.handled).length := by
  induction h with
  | nil => simp
  | cons hst hr ih =>
    cases hst with
    | notify hs =>
      simp [Thread.waiting, List.filterMap_cons, Event.handled, Event.endsTurn] at ih ⊢
      omega
    | dropSenders =>
      simpa [Thread.waiting, List.filterMap_cons, Event.handled, Event.endsTurn] using ih
    | receive hp hq =>
      simp [Thread.waiting, List.filterMap_cons, Event.handled, Event.endsTurn, hp, hq] at ih ⊢
      omega
    | timeout hp hq | disconnect hp hq => simp [Thread.waiting, hp, hq]
    | @check t' queued _ _ _ _ hp hc =>
      obtain ⟨hqueue, -, -⟩ := Thread.check_queue hc
      simp [Thread.waiting, List.filterMap_cons, Event.handled, Event.endsTurn, hp, hqueue] at ih ⊢
      omega
    | @send queued turn delivered hp =>
      cases queued <;>
        simp [Thread.waiting, List.filterMap_cons, List.countP_cons, Event.handled, Event.endsTurn,
          hp] at ih ⊢ <;>
        omega

/-- A thread that has ended has nothing left to send. -/
lemma ended_run {unix : ℤ} {t : Thread} {es : List Event}
    (h : (thread C decode secret config).Run (.start config unix) es t) :
    t.phase = .ended → t.queue = [] ∧ t.senders = false := by
  refine h.invariant (I := fun t => t.phase = .ended → t.queue = [] ∧ t.senders = false) ?_ nofun
  intro s e t hst hI hended
  cases hst with
  | notify hs => simp [hs] at hI; exact absurd hended hI
  | dropSenders => exact ⟨(hI hended).1, rfl⟩
  | disconnect hp hq hs => exact ⟨hq, hs⟩
  | receive | timeout | check | send => cases hended

lemma sent_sublist (es : List Event) :
    (es.filterMap Event.sent).Sublist (es.filterMap Event.handled) := by
  induction es with
  | nil => exact .slnil
  | cons e es ih =>
    cases e with
    | send queued turn delivered report =>
      cases hsent : turn.rootCa && delivered with
      | true =>
        cases queued <;> simpa [List.filterMap_cons, Event.sent, Event.handled, hsent] using ih
      | false =>
        have hnone : (Event.send queued turn delivered report).sent = none := by
          simp [Event.sent, hsent]
        rw [List.filterMap_cons_none hnone]
        exact ih.trans ((List.sublist_cons_self _ es).filterMap _)
    | _ => simpa [List.filterMap_cons, Event.sent, Event.handled] using ih

/-- What is handled is sent or lost, and not both. -/
lemma handled_perm (es : List Event) : (es.filterMap Event.handled).Perm
    (es.filterMap Event.sent ++ es.filterMap Event.lost) := by
  induction es with
  | nil => exact .nil
  | cons e es ih =>
    cases e with
    | send queued turn delivered report =>
      cases queued with
      | none => simpa [List.filterMap_cons, Event.sent, Event.lost, Event.handled] using ih
      | some text =>
        cases hsent : turn.rootCa && delivered with
        | true =>
          simpa [List.filterMap_cons, Event.sent, Event.lost, Event.handled, hsent] using ih
        | false =>
          simp only [List.filterMap_cons, Event.sent, Event.lost, Event.handled, hsent,
            Bool.false_eq_true, if_false]
          exact (ih.cons text).trans List.perm_middle.symm
    | _ => simpa [List.filterMap_cons, Event.sent, Event.lost, Event.handled] using ih

/-- Every turn with a text has the CA certificates and sends it. -/
def Delivers (es : List Event) : Prop :=
  ∀ text turn delivered report, Event.send (some text) turn delivered report ∈ es →
    turn.rootCa = true ∧ delivered = true

lemma sent_eq_handled {es : List Event} (h : Delivers es) :
    es.filterMap Event.sent = es.filterMap Event.handled := by
  refine List.filterMap_congr fun e he => ?_
  cases e with
  | send queued turn delivered report =>
    cases queued with
    | none => simp [Event.sent, Event.handled]
    | some text =>
      obtain ⟨hca, hdelivered⟩ := h _ _ _ _ he
      simp [Event.sent, Event.handled, hca, hdelivered]
  | _ => rfl

/-- What becomes of the texts put on the queue in a run. -/
structure Fifo (C : Signing.Crypto) (decode : List UInt8 → Except String OtaManifest)
    (secret : List UInt8) (config : AppConfig) (es : List Event) (t : Thread) : Prop where
  in_order : es.filterMap Event.handled ++ t.phase.held.toList ++ t.queue = es.filterMap Event.put
  sent_once : (es.filterMap Event.sent).Sublist (es.filterMap Event.put)
  sent_or_lost : (es.filterMap Event.handled).Perm
    (es.filterMap Event.sent ++ es.filterMap Event.lost)
  kept : Delivers es → es.filterMap Event.sent ++ t.phase.held.toList ++ t.queue =
    es.filterMap Event.put
  prompt : ∀ fs t', (thread C decode secret config).Run t fs t' →
    t.queue.length < fs.countP Event.endsTurn →
    es.filterMap Event.put <+: (es ++ fs).filterMap Event.handled
  ended : t.phase = .ended → es.filterMap Event.handled = es.filterMap Event.put

/-- The texts put on the queue, whether by other threads or by a firmware check, are handled in that
order, each once: it is sent, or lost for good where the CA certificates are missing or the sending
fails. A text is handled as soon as there have been more turns than texts were before it. None is
left at the end. -/
theorem texts_handled_in_order {unix : ℤ} {t : Thread} {es : List Event}
    (h : (thread C decode secret config).Run (.start config unix) es t) :
    Fifo C decode secret config es t := by
  have horder : es.filterMap Event.handled ++ t.phase.held.toList ++ t.queue =
      es.filterMap Event.put := fifo_run h
  refine ⟨horder, ?_, handled_perm es, ?_, ?_, ?_⟩
  · rw [← horder, List.append_assoc]
    exact (sent_sublist es).trans (List.sublist_append_left _ _)
  · intro hdelivers
    rw [sent_eq_handled hdelivers, horder]
  · intro fs t' hrest hturns
    have hnext := fifo_run hrest
    have hwaiting : t.waiting ≤ (fs.filterMap Event.handled).length := by
      have hcount := handled_run hrest
      have hidle : t.phase.held.toList.length + t.phase.idle.toNat ≤ 1 := by
        rcases hphase : t.phase with _ | (_ | queued) | (_ | queued) | _ <;> simp
      unfold Thread.waiting at hcount ⊢
      omega
    have hprefix : t.phase.held.toList ++ t.queue <+: fs.filterMap Event.handled := by
      refine List.prefix_of_prefix_length_le (List.prefix_append _ (fs.filterMap Event.put)) ?_
        (by simpa [Thread.waiting] using hwaiting)
      rw [← hnext, List.append_assoc]
      exact List.prefix_append _ _
    rw [← horder, List.filterMap_append, List.append_assoc, List.prefix_append_right_inj]
    exact hprefix
  · intro hended
    rw [← horder, (ended_run h hended).1, hended]
    simp

def plainConfig : AppConfig := ⟨fun _ => "", fun _ => 0⟩

def certified : Notifier.Turn := ⟨⟨0, 0⟩, true, true, true⟩

def twoTexts : List Event :=
  [.notify "online", .receive "online", .check 10 .clockNotSynced false none,
    .send (some "online") certified true none, .notify "offline", .receive "offline",
    .check 20 .clockNotSynced false none, .send (some "offline") certified false none]

/-- Two texts, each notified while the thread waits. The first is sent, the second is lost. -/
theorem texts_handled_in_order_two :
    (twoTexts.filterMap Event.handled).Perm (["online"] ++ ["offline"]) := by
  have hrun : ∃ t, (thread .standard (fun _ => .error "EOF") [] plainConfig).Run
      (.start plainConfig 0) twoTexts t :=
    ⟨_, .cons (.notify rfl) (.cons (.receive rfl rfl) (.cons (.check rfl rfl) (.cons (.send rfl)
      (.cons (.notify rfl) (.cons (.receive rfl rfl) (.cons (.check rfl rfl)
        (.one (.send rfl))))))))⟩
  obtain ⟨t, hrun⟩ := hrun
  exact (texts_handled_in_order hrun).sent_or_lost

end Texts

namespace Event

/-- The time of a check that was made. -/
def checkedAt : Event → Option UInt64
  | .check elapsedSecs _ true _ => some elapsedSecs
  | _ => none

def announced : Event → Option String
  | .check _ _ _ announced => announced
  | _ => none

end Event

section Checks
variable {C : Signing.Crypto} {decode : List UInt8 → Except String OtaManifest}
  {secret : List UInt8} {config : AppConfig}

variable (C decode secret) in
/-- What the checks that were made were offered. -/
def observations (es : List Event) : List (Option String) :=
  es.filterMap fun
    | .check _ fetch true _ => some (offeredVersion C decode secret fetch)
    | _ => none

def checkInterval : ℕ := 6 * 60 * 60

/-- The first check is made after three minutes, the others six hours after the one before, or when
seconds cannot be counted any further. -/
def Due (es : List Event) (elapsedSecs : UInt64) : Prop :=
  180 ≤ elapsedSecs.toNat ∧ ∀ earlier ∈ es.filterMap Event.checkedAt,
    min (earlier.toNat + checkInterval) (UInt64.size - 1) ≤ elapsedSecs.toNat

lemma poll_due {s : FirmwareCheckSchedule} {elapsedSecs : UInt64}
    (h : s.nextCheckSecs ≤ elapsedSecs) :
    s.poll elapsedSecs = (⟨saturatingAdd elapsedSecs (6 * 60 * 60)⟩, true) := by
  rw [FirmwareCheckSchedule.poll, if_neg (UInt64.not_lt.mpr h)]

lemma poll_not_due {s : FirmwareCheckSchedule} {elapsedSecs : UInt64}
    (h : ¬ s.nextCheckSecs ≤ elapsedSecs) : s.poll elapsedSecs = (s, false) := by
  rw [FirmwareCheckSchedule.poll, if_pos (UInt64.not_le.mp h)]

/-- A check does nothing before its time, and otherwise observes what is offered. -/
lemma Thread.check_cases {t t' : Thread} {elapsedSecs : UInt64} {fetch : Fetch} {due : Bool}
    {announced : Option String}
    (h : t.check C decode secret elapsedSecs fetch = (t', due, announced)) :
    (¬ t.schedule.nextCheckSecs ≤ elapsedSecs ∧ due = false ∧ announced = none ∧ t' = t) ∨
    (t.schedule.nextCheckSecs ≤ elapsedSecs ∧ due = true ∧
      t'.schedule = ⟨saturatingAdd elapsedSecs (6 * 60 * 60)⟩ ∧
      t'.notice = (t.notice.observe firmwareVersion (offeredVersion C decode secret fetch)).1 ∧
      announced = if (t.notice.observe firmwareVersion (offeredVersion C decode secret fetch)).2 &&
        t.senders then offeredVersion C decode secret fetch else none) := by
  by_cases hdue : t.schedule.nextCheckSecs ≤ elapsedSecs
  · simp only [Thread.check, poll_due hdue, if_true, Prod.mk.injEq] at h
    obtain ⟨rfl, rfl, rfl⟩ := h
    exact .inr ⟨hdue, rfl, rfl, rfl, rfl⟩
  · simp only [Thread.check, poll_not_due hdue, Bool.false_eq_true, if_false, Prod.mk.injEq] at h
    obtain ⟨rfl, rfl, rfl⟩ := h
    exact .inl ⟨hdue, rfl, rfl, rfl⟩

/-- What the state remembers of the checks so far. -/
structure Remembers (C : Signing.Crypto) (decode : List UInt8 → Except String OtaManifest)
    (secret : List UInt8) (es : List Event) (t : Thread) : Prop where
  schedule : ∀ elapsedSecs, t.schedule.nextCheckSecs ≤ elapsedSecs ↔ Due es elapsedSecs
  greatest : Greatest firmwareVersion (observations C decode secret es) t.notice
  senders : t.senders = true ↔ .dropSenders ∉ es
  increasing : (es.filterMap Event.announced).Pairwise Newer
  observed : ∀ version ∈ es.filterMap Event.announced,
    some version ∈ observations C decode secret es ∧ Newer firmwareVersion version

lemma remembers_start (unix : ℤ) : Remembers C decode secret [] (.start config unix) where
  schedule elapsedSecs := by
    simp [Due, Thread.start, FirmwareCheckSchedule.default, UInt64.le_iff_toNat_le]
  greatest := ⟨by simp [Thread.start, FirmwareNotice.default], by simp [observations]⟩
  senders := by simp [Thread.start]
  increasing := .nil
  observed := by simp

/-- After a check, the next one is due at the time it was set to. -/
lemma due_snoc {es : List Event} {elapsedSecs : UInt64} {fetch : Fetch}
    {announced : Option String} (h : Due es elapsedSecs) (later : UInt64) :
    saturatingAdd elapsedSecs (6 * 60 * 60) ≤ later ↔
      Due (es ++ [.check elapsedSecs fetch true announced]) later := by
  have hbound := elapsedSecs.toNat_lt
  have hnext : saturatingAdd elapsedSecs (6 * 60 * 60) ≤ later ↔
      min (elapsedSecs.toNat + checkInterval) (UInt64.size - 1) ≤ later.toNat := by
    rw [UInt64.le_iff_toNat_le, toNat_saturatingAdd]
    rfl
  rw [hnext]
  simp only [Due, filterMap_snoc, Event.checkedAt, Option.toList_some, List.forall_mem_append,
    List.forall_mem_singleton]
  refine ⟨fun hlater => ?_, fun hdue => hdue.2.2⟩
  have hmono : elapsedSecs.toNat ≤ later.toNat := by
    simp only [checkInterval, UInt64.size] at hlater
    omega
  exact ⟨h.1.trans hmono, fun earlier hearlier => (h.2 earlier hearlier).trans hmono, hlater⟩

/-- What a check makes of what it is offered. -/
structure Checked (C : Signing.Crypto) (decode : List UInt8 → Except String OtaManifest)
    (secret : List UInt8) (es : List Event) (elapsedSecs : UInt64) (fetch : Fetch) (due : Bool)
    (announced : Option String) : Prop where
  due_iff : due = true ↔ Due es elapsedSecs
  announced_iff : ∀ version, announced = some version ↔ due = true ∧
    offeredVersion C decode secret fetch = some version ∧
    Exceeds firmwareVersion (observations C decode secret es) version ∧ .dropSenders ∉ es

lemma Remembers.checked {es : List Event} {t t' : Thread} (h : Remembers C decode secret es t)
    {elapsedSecs : UInt64} {fetch : Fetch} {due : Bool} {announced : Option String}
    (hc : t.check C decode secret elapsedSecs fetch = (t', due, announced)) :
    Checked C decode secret es elapsedSecs fetch due announced := by
  rcases Thread.check_cases hc with ⟨hdue, rfl, rfl, -⟩ | ⟨hdue, rfl, -, -, hannounced⟩
  · exact ⟨by simpa [h.schedule] using hdue, by simp⟩
  · refine ⟨by simpa [h.schedule] using hdue, fun version => ?_⟩
    have hnotify := h.greatest.notifies_iff (offeredVersion C decode secret fetch)
    rw [hannounced, ← h.senders]
    simp only [Option.ite_none_right_eq_some, Bool.and_eq_true, hnotify, true_and]
    constructor
    · rintro ⟨⟨⟨version', hoffered, hexceeds⟩, hsenders⟩, hversion⟩
      obtain rfl : version' = version := Option.some.inj (hoffered.symm.trans hversion)
      exact ⟨hversion, hexceeds, hsenders⟩
    · rintro ⟨hversion, hexceeds, hsenders⟩
      exact ⟨⟨⟨version, hversion, hexceeds⟩, hsenders⟩, hversion⟩

/-- An event that is no check changes nothing that is remembered, apart from the senders. -/
lemma Remembers.other {es : List Event} {s t : Thread} {e : Event}
    (h : Remembers C decode secret es s) (hschedule : t.schedule = s.schedule)
    (hnotice : t.notice = s.notice) (hchecked : e.checkedAt = none)
    (hobserved : observations C decode secret (es ++ [e]) = observations C decode secret es)
    (hannounced : e.announced = none)
    (hsenders : t.senders = true ↔ .dropSenders ∉ es ++ [e]) :
    Remembers C decode secret (es ++ [e]) t where
  schedule elapsedSecs := by
    rw [hschedule, h.schedule, Due, Due, filterMap_snoc, hchecked]
    simp
  greatest := hobserved ▸ hnotice ▸ h.greatest
  senders := hsenders
  increasing := by simpa [filterMap_snoc, hannounced] using h.increasing
  observed := by simpa [filterMap_snoc, hannounced, hobserved] using h.observed

lemma Remembers.check {es : List Event} {s t : Thread} (h : Remembers C decode secret es s)
    {elapsedSecs : UInt64} {fetch : Fetch} {due : Bool} {announced : Option String}
    (hc : s.check C decode secret elapsedSecs fetch = (t, due, announced)) :
    Remembers C decode secret (es ++ [.check elapsedSecs fetch due announced]) t := by
  have hchecked := h.checked hc
  have hsenders : t.senders = true ↔
      .dropSenders ∉ es ++ [.check elapsedSecs fetch due announced] := by
    rw [(Thread.check_queue hc).2.1, h.senders]
    simp
  rcases Thread.check_cases hc with ⟨-, rfl, rfl, rfl⟩ | ⟨hdue, rfl, hschedule, hnotice, -⟩
  · exact h.other rfl rfl rfl (by simp [observations, List.filterMap_append]) rfl hsenders
  · have hobserved : observations C decode secret
        (es ++ [.check elapsedSecs fetch true announced]) =
          observations C decode secret es ++ [offeredVersion C decode secret fetch] := by
      simp [observations, List.filterMap_append]
    have hnew : ∀ version, announced = some version →
        offeredVersion C decode secret fetch = some version ∧ Newer firmwareVersion version ∧
          ∀ earlier ∈ es.filterMap Event.announced, Newer earlier version := by
      intro version hversion
      obtain ⟨-, hoffered, hexceeds, -⟩ := (hchecked.announced_iff version).mp hversion
      refine ⟨hoffered, hexceeds.1, fun earlier hearlier => ?_⟩
      obtain ⟨hmem, hnewer⟩ := h.observed earlier hearlier
      exact hexceeds.2 earlier hmem hnewer
    refine ⟨fun later => ?_, ?_, hsenders, ?_, ?_⟩
    · rw [hschedule]
      exact due_snoc (hchecked.due_iff.mp rfl) later
    · rw [hobserved, hnotice]
      exact h.greatest.observe _
    · rw [filterMap_snoc]
      refine List.pairwise_append.mpr
        ⟨h.increasing, ?_, fun earlier hearlier version hversion => ?_⟩
      · cases announced <;> simp [Event.announced]
      · exact (hnew version (by simpa [Event.announced] using hversion)).2.2 earlier hearlier
    · rw [filterMap_snoc, hobserved]
      intro version hversion
      rcases List.mem_append.mp hversion with hmem | hmem
      · exact ⟨List.mem_append_left _ (h.observed version hmem).1, (h.observed version hmem).2⟩
      · obtain ⟨hoffered, hnewer, -⟩ := hnew version (by simpa [Event.announced] using hmem)
        exact ⟨by simp [hoffered], hnewer⟩

lemma remembers_run {unix : ℤ} {t : Thread} {es : List Event}
    (h : (thread C decode secret config).Run (.start config unix) es t) :
    Remembers C decode secret es t := by
  refine h.history (fun es s e t hst hJ => ?_) (remembers_start unix)
  cases hst with
  | check hp hc =>
    obtain ⟨hschedule, hgreatest, hsenders, hincreasing, hobserved⟩ := hJ.check hc
    exact ⟨hschedule, hgreatest, hsenders, hincreasing, hobserved⟩
  | dropSenders =>
    exact hJ.other rfl rfl rfl (by simp [observations, List.filterMap_append]) rfl (by simp)
  | notify | receive | timeout | disconnect | send =>
    exact hJ.other rfl rfl rfl (by simp [observations, List.filterMap_append]) rfl
      (by simp [hJ.senders])

/-- In every run a firmware check is made after three minutes and then every six hours, and it
announces exactly a verified version that exceeds the running one and all that were offered before,
by the one text that it puts on the queue; so that no version is announced twice, even where its
text was lost. -/
theorem firmware_checks {unix : ℤ} {t : Thread} {es : List Event}
    (h : (thread C decode secret config).Run (.start config unix) es t) :
    (∀ before elapsedSecs fetch due announced after,
      es = before ++ .check elapsedSecs fetch due announced :: after →
      Checked C decode secret before elapsedSecs fetch due announced ∧
      ∃ s s', (thread C decode secret config).Run (.start config unix) before s ∧
        (thread C decode secret config).Run s' after t ∧
        s'.queue = s.queue ++
          (announced.map (firmwareAvailableText firmwareVersion)).toList) ∧
    (es.filterMap Event.announced).Pairwise Newer ∧
    (es.filterMap Event.announced).Nodup := by
  have hincreasing := (remembers_run h).increasing
  refine ⟨?_, hincreasing, hincreasing.imp Newer.ne⟩
  rintro before elapsedSecs fetch due announced after rfl
  obtain ⟨s, s', hbefore, hst, hafter⟩ := h.split
  cases hst with
  | check hp hc =>
    exact ⟨(remembers_run hbefore).checked hc, s, _, hbefore, hafter, (Thread.check_queue hc).1⟩

section Offered

def offeredFetch : Fetch := .response 200 [.bytes (Telegram.offeredBody .standard)]

lemma offeredVersion_offered : offeredVersion .standard (Telegram.decodeOffered .standard)
    (Text.utf8 "secret") offeredFetch = some "0.18.0" := by
  have hfetch : fetchVerifiedManifest .standard (Telegram.decodeOffered .standard)
      (Text.utf8 "secret") offeredFetch = .ok (Telegram.offeredManifest .standard) :=
    Telegram.fetchManifest_offered Sha256.length_digest (fun _ _ => Sha256.length_digest _) 0
  rw [offeredVersion, hfetch]
  rfl

/-- A newer firmware is found by the first check and announced. -/
theorem firmware_checks_offered :
    Checked .standard (Telegram.decodeOffered .standard) (Text.utf8 "secret") [.timeout] 200
      offeredFetch true (some "0.18.0") := by
  have hnewer : FirmwareNotice.default.observe firmwareVersion (some "0.18.0") =
      (⟨some "0.18.0"⟩, true) := by
    decide
  have hannounced : (if (FirmwareNotice.default.observe firmwareVersion
      (offeredVersion .standard (Telegram.decodeOffered .standard) (Text.utf8 "secret")
        offeredFetch)).2 && true then offeredVersion .standard (Telegram.decodeOffered .standard)
          (Text.utf8 "secret") offeredFetch else none) = some "0.18.0" := by
    rw [offeredVersion_offered, hnewer]
    rfl
  have hcheck : ∃ t', Thread.check .standard (Telegram.decodeOffered .standard)
      (Text.utf8 "secret") { Thread.start plainConfig 0 with phase := .received none } 200
        offeredFetch = (t', true, some "0.18.0") := by
    cases hc : Thread.check .standard (Telegram.decodeOffered .standard) (Text.utf8 "secret")
      { Thread.start plainConfig 0 with phase := .received none } 200 offeredFetch with
    | mk t' r =>
      obtain ⟨due, announced⟩ := r
      rcases Thread.check_cases hc with ⟨hdue, -⟩ | ⟨-, hdue, -, -, heq⟩
      · exact absurd (show FirmwareCheckSchedule.default.nextCheckSecs ≤ 200 by decide) hdue
      · exact ⟨t', by rw [hdue, heq.trans hannounced]⟩
  obtain ⟨t', hcheck⟩ := hcheck
  have hrun : ∃ t, (thread .standard (Telegram.decodeOffered .standard) (Text.utf8 "secret")
      plainConfig).Run (.start plainConfig 0)
        [.timeout, .check 200 offeredFetch true (some "0.18.0")] t :=
    ⟨_, .cons (.timeout rfl rfl rfl) (.cons (.check rfl hcheck) (.nil _))⟩
  obtain ⟨t, hrun⟩ := hrun
  exact ((firmware_checks hrun).1 [.timeout] _ _ _ _ [] rfl).1

end Offered

end Checks

end PcRemote.NotifierThread
