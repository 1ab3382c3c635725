import PcRemote.ClientBridge
import PcRemote.ConfigKeys
import PcRemote.StatusMessage
import PcRemote.Transition

/-! The daily report of the notifier. One remembered day keeps it from being sent twice; at a
restart that day is made up from the clock, which need not be synchronised yet. -/
namespace PcRemote.Notifier
open Config Transition

/-- The local day and hour of a Unix time. -/
def localTime (config : AppConfig) (unix : ℤ) : ℤ × ℤ :=
  let seconds := unix + config.int .timezoneOffsetHours * 3600
  (seconds / 86400, seconds % 86400 / 3600)

/-- A clock set before the epoch, like one that is not synchronised, gives nothing. -/
def localNow (config : AppConfig) (unix : ℤ) : Option (ℤ × ℤ) :=
  if isNtpSynced unix then some (localTime config unix) else none

/-- The day of the last report, counted in local days since the epoch. -/
structure DailyReport where
  lastSentDay : Option ℤ
  deriving DecidableEq, Repr

namespace DailyReport

/-- With the hour of the report past at start-up, the report of that day counts as sent. -/
def new (config : AppConfig) (unix : ℤ) : DailyReport :=
  ⟨(localNow config unix).bind fun (day, hour) =>
    if config.int .dailyReportHour ≤ hour then some day else none⟩

def dueReport (r : DailyReport) (config : AppConfig) (unix : ℤ) (pcOnline : Bool) :
    Option (ℤ × String) :=
  if ¬ (0 ≤ config.int .dailyReportHour ∧ config.int .dailyReportHour ≤ 23) then none
  else
    (localNow config unix).bind fun (day, hour) =>
      if hour ≠ config.int .dailyReportHour ∨ r.lastSentDay = some day then none
      else some (day, "定期レポート\nPC: " ++ StatusMessage.pcOnlineLabelJa pcOnline)

def markSent (_ : DailyReport) (day : ℤ) : DailyReport := ⟨some day⟩

end DailyReport

/-- What the clock shows at some true time. -/
structure Clock where
  time : ℤ
  unix : ℤ
  deriving DecidableEq, Repr

/-- A turn of the notifier's loop: the clock it reads, and how its requests turn out. -/
structure Turn extends Clock where
  rootCa : Bool
  pcOnline : Bool
  delivered : Bool
  deriving DecidableEq, Repr

/-- A report that was sent, and whether that succeeded. -/
structure Sent where
  day : ℤ
  text : String
  delivered : Bool
  deriving DecidableEq, Repr

/-- Without the CA certificates nothing is sent; only a report that is delivered is recorded. -/
def turn (config : AppConfig) (r : DailyReport) (t : Turn) : DailyReport × Option Sent :=
  if ¬ t.rootCa then (r, none)
  else
    match r.dueReport config t.unix t.pcOnline with
    | none => (r, none)
    | some (day, text) =>
        (if t.delivered then r.markSent day else r, some ⟨day, text, t.delivered⟩)

/-- The clock shows nonsense for a while, perhaps for no time at all, and from then on the time. -/
structure Honest (clocks : List Clock) : Prop where
  forwards : clocks.Pairwise fun a b => a.time ≤ b.time
  synchronises : ∃ early late, clocks = early ++ late ∧
    (∀ c ∈ early, isNtpSynced c.unix = false) ∧ ∀ c ∈ late, c.unix = c.time

lemma Honest.eq_time {clocks : List Clock} (h : Honest clocks) {c : Clock} (hc : c ∈ clocks)
    (hsynced : isNtpSynced c.unix = true) : c.unix = c.time := by
  obtain ⟨early, late, rfl, hearly, hlate⟩ := h.synchronises
  rcases List.mem_append.mp hc with hmem | hmem
  · rw [hearly c hmem] at hsynced
    cases hsynced
  · exact hlate c hmem

/-- From the first synchronised reading on, days do not run backwards. -/
def Forwards (config : AppConfig) (turns : List Turn) : Prop :=
  turns.Pairwise fun a b => isNtpSynced a.unix = true → isNtpSynced b.unix = true →
    (localTime config a.unix).1 ≤ (localTime config b.unix).1

lemma localDay_mono (config : AppConfig) {a b : ℤ} (h : a ≤ b) :
    (localTime config a).1 ≤ (localTime config b).1 := by
  simp only [localTime]
  omega

/-- Later the same day, the hour is not earlier. -/
lemma localHour_mono (config : AppConfig) {a b : ℤ} (h : a ≤ b)
    (hday : (localTime config a).1 = (localTime config b).1) :
    (localTime config a).2 ≤ (localTime config b).2 := by
  simp only [localTime] at hday ⊢
  omega

/-- A report is due in its hour, on a day that is not the one recorded. -/
lemma DailyReport.dueReport_eq_some {r : DailyReport} {config : AppConfig} {unix : ℤ}
    {pcOnline : Bool} {day : ℤ} {text : String}
    (h : r.dueReport config unix pcOnline = some (day, text)) :
    isNtpSynced unix = true ∧ localTime config unix = (day, config.int .dailyReportHour) ∧
      r.lastSentDay ≠ some day := by
  unfold dueReport localNow at h
  by_cases hsynced : isNtpSynced unix = true
  · simp only [hsynced, if_true, Option.bind_some] at h
    split_ifs at h with hhour hskip
    rw [Option.some.injEq, Prod.mk.injEq] at h
    rw [not_or, not_not] at hskip
    exact ⟨hsynced, Prod.ext h.1 hskip.1, h.1 ▸ hskip.2⟩
  · simp [hsynced] at h

/-- A turn of the loop that falls in the hour of the report, on a day, and can send it. -/
def InHour (config : AppConfig) (day : ℤ) (t : Turn) : Prop :=
  t.rootCa = true ∧ isNtpSynced t.unix = true ∧
    localTime config t.unix = (day, config.int .dailyReportHour)

lemma turn_of_inHour {config : AppConfig} {r : DailyReport} {t : Turn} {day : ℤ}
    (hhour : 0 ≤ config.int .dailyReportHour ∧ config.int .dailyReportHour ≤ 23)
    (h : InHour config day t) (hlast : r.lastSentDay ≠ some day) :
    turn config r t ≠ (r, none) := by
  obtain ⟨hca, hsynced, hlocal⟩ := h
  simp [turn, hca, DailyReport.dueReport, localNow, hhour, hsynced, hlocal, hlast]

/-- A turn sends nothing and changes nothing, or it sends the report of its day, which was not
recorded, and records it if it is delivered. -/
lemma turn_cases (config : AppConfig) (r : DailyReport) (t : Turn) :
    turn config r t = (r, none) ∨
    ∃ day text, InHour config day t ∧ r.lastSentDay ≠ some day ∧ turn config r t =
        (if t.delivered then ⟨some day⟩ else r, some ⟨day, text, t.delivered⟩) := by
  unfold turn
  cases hca : t.rootCa with
  | false => exact .inl rfl
  | true =>
    cases hdue : r.dueReport config t.unix t.pcOnline with
    | none => exact .inl rfl
    | some report =>
      obtain ⟨day, text⟩ := report
      obtain ⟨hsynced, hlocal, hlast⟩ := DailyReport.dueReport_eq_some hdue
      exact .inr ⟨day, text, ⟨hca, hsynced, hlocal⟩, hlast, rfl⟩

/-- The days whose report a run sent, delivered or not. -/
def sentDays (events : List (Turn × Option Sent)) : List ℤ :=
  (events.filterMap Prod.snd).map Sent.day

/-- The days whose report a run recorded as sent. -/
def markedDays (events : List (Turn × Option Sent)) : List ℤ :=
  ((events.filterMap Prod.snd).filter Sent.delivered).map Sent.day

@[simp] lemma sentDays_cons_none (t : Turn) (events : List (Turn × Option Sent)) :
    sentDays ((t, none) :: events) = sentDays events := rfl

@[simp] lemma sentDays_cons_some (t : Turn) (sent : Sent) (events : List (Turn × Option Sent)) :
    sentDays ((t, some sent) :: events) = sent.day :: sentDays events := rfl

@[simp] lemma markedDays_cons_none (t : Turn) (events : List (Turn × Option Sent)) :
    markedDays ((t, none) :: events) = markedDays events := rfl

@[simp] lemma markedDays_cons_some (t : Turn) (sent : Sent) (events : List (Turn × Option Sent)) :
    markedDays ((t, some sent) :: events) =
      if sent.delivered then sent.day :: markedDays events else markedDays events := by
  cases h : sent.delivered <;> simp [markedDays, h]

lemma markedDays_subset {events : List (Turn × Option Sent)} {day : ℤ}
    (h : day ∈ markedDays events) : day ∈ sentDays events := by
  obtain ⟨sent, hsent, rfl⟩ := List.mem_map.mp h
  exact List.mem_map_of_mem (List.mem_of_mem_filter hsent)

/-- The days that a report may still come to be sent on lie past the one recorded. -/
def Past (config : AppConfig) (r : DailyReport) (turns : List Turn) : Prop :=
  ∀ day, r.lastSentDay = some day → ∀ t ∈ turns, isNtpSynced t.unix = true →
    day ≤ (localTime config t.unix).1

lemma Past.turn {config : AppConfig} {r : DailyReport} {t : Turn} {turns : List Turn}
    (h : Past config r (t :: turns)) (hturns : Forwards config (t :: turns)) :
    Past config (turn config r t).1 turns := by
  have htail : Past config r turns := fun day hday t' ht' =>
    h day hday t' (List.mem_cons_of_mem _ ht')
  rcases turn_cases config r t with heq | ⟨day, text, ⟨-, hsynced, hlocal⟩, -, heq⟩
  · rwa [heq]
  · rw [heq]
    cases t.delivered with
    | false => exact htail
    | true =>
      intro day' hday' t' ht' hsynced'
      obtain rfl : day = day' := Option.some.inj hday'
      have hle := (List.pairwise_cons.mp hturns).1 t' ht' hsynced hsynced'
      rwa [hlocal] at hle

/-- With days going forwards, what is sent lies past what is recorded, and is recorded in order. -/
lemma sent_past (config : AppConfig) {r : DailyReport} {turns : List Turn}
    (hturns : Forwards config turns) (hpast : Past config r turns) :
    (∀ recorded, r.lastSentDay = some recorded →
      ∀ day ∈ sentDays (feed (turn config) r turns).1, recorded < day) ∧
    (markedDays (feed (turn config) r turns).1).Pairwise (· < ·) := by
  induction turns generalizing r with
  | nil => simp [feed, sentDays, markedDays]
  | cons t turns ih =>
    have hrest := ih (List.pairwise_cons.mp hturns).2 (hpast.turn hturns)
    simp only [feed]
    rcases turn_cases config r t with heq | ⟨day, text, ⟨-, hsynced, hlocal⟩, hlast, heq⟩
    · rw [heq] at hrest ⊢
      exact hrest
    · have hlater : ∀ recorded, r.lastSentDay = some recorded → recorded < day := by
        intro recorded hrecorded
        have hle := hpast recorded hrecorded t List.mem_cons_self hsynced
        have hne : recorded ≠ day := fun hday => hlast (hday ▸ hrecorded)
        rw [hlocal] at hle
        omega
      rw [heq] at hrest ⊢
      cases hdelivered : t.delivered with
      | false =>
        simp only [hdelivered, Bool.false_eq_true, if_false] at hrest ⊢
        simp only [sentDays_cons_some, markedDays_cons_some, Bool.false_eq_true, if_false]
        refine ⟨fun recorded hrecorded => List.forall_mem_cons.mpr ⟨hlater recorded hrecorded, ?_⟩,
          hrest.2⟩
        exact hrest.1 recorded hrecorded
      | true =>
        simp only [hdelivered, if_true] at hrest ⊢
        simp only [sentDays_cons_some, markedDays_cons_some, if_true]
        have hpast' := hrest.1 day rfl
        refine ⟨fun recorded hrecorded => List.forall_mem_cons.mpr ⟨hlater recorded hrecorded, ?_⟩,
          List.pairwise_cons.mpr ⟨fun day' hday' => hpast' day' (markedDays_subset hday'), hrest.2⟩⟩
        intro day' hday'
        have hlt := hlater recorded hrecorded
        have hlt' := hpast' day' hday'
        omega

/-- A report is sent on a day that is not recorded exactly when some turn falls in its hour. -/
lemma mem_sentDays_iff (config : AppConfig) {r : DailyReport} {turns : List Turn} {day : ℤ}
    (hhour : 0 ≤ config.int .dailyReportHour ∧ config.int .dailyReportHour ≤ 23)
    (hlast : r.lastSentDay ≠ some day) :
    day ∈ sentDays (feed (turn config) r turns).1 ↔ ∃ t ∈ turns, InHour config day t := by
  induction turns generalizing r with
  | nil => simp [feed, sentDays]
  | cons t turns ih =>
    simp only [feed, List.exists_mem_cons_iff]
    rcases turn_cases config r t with heq | ⟨day', text, hin, -, heq⟩
    · have hnot : ¬ InHour config day t := fun h => turn_of_inHour hhour h hlast heq
      rw [heq, sentDays_cons_none, ih hlast, or_iff_right hnot]
    · rw [heq, sentDays_cons_some, List.mem_cons]
      by_cases hday : day = day'
      · subst hday
        simp [hin]
      · have hnot : ¬ InHour config day t := fun h => by
          have heqDay := h.2.2.symm.trans hin.2.2
          exact hday (Prod.mk.inj heqDay).1
        have hlast' : (if t.delivered then (⟨some day'⟩ : DailyReport) else r).lastSentDay ≠
            some day := by
          split_ifs
          · simpa using Ne.symm hday
          · exact hlast
        rw [ih hlast', or_iff_right hday, or_iff_right hnot]

/-- The turns of a notifier created when the clock showed `created`, with what each sent. -/
def notifier (config : AppConfig) (created : Clock) (turns : List Turn) :
    List (Turn × Option Sent) :=
  (feed (turn config) (.new config created.unix) turns).1

/-- What is recorded at start-up is the day of a synchronised clock, with the hour past. -/
lemma new_eq_some {config : AppConfig} {unix day : ℤ}
    (h : (DailyReport.new config unix).lastSentDay = some day) :
    isNtpSynced unix = true ∧ (localTime config unix).1 = day ∧
      config.int .dailyReportHour ≤ (localTime config unix).2 := by
  simp only [DailyReport.new, localNow] at h
  by_cases hsynced : isNtpSynced unix = true
  · simp only [hsynced, if_true, Option.bind_some] at h
    split_ifs at h with hhour
    exact ⟨hsynced, Option.some.inj h, hhour⟩
  · simp [hsynced] at h

lemma new_of_past {config : AppConfig} {unix : ℤ} (hsynced : isNtpSynced unix = true)
    (hhour : config.int .dailyReportHour ≤ (localTime config unix).2) :
    (DailyReport.new config unix).lastSentDay = some (localTime config unix).1 := by
  simp [DailyReport.new, localNow, hsynced, hhour]

lemma new_of_unsynced {config : AppConfig} {unix : ℤ} (hsynced : isNtpSynced unix = false) :
    (DailyReport.new config unix).lastSentDay = none := by
  simp [DailyReport.new, localNow, hsynced]

section Run
variable {config : AppConfig} {created : Clock} {turns : List Turn}

lemma Honest.forwards_turns (h : Honest (created :: turns.map Turn.toClock)) :
    Forwards config turns := by
  have hpair := (List.pairwise_cons.mp h.forwards).2
  rw [List.pairwise_map] at hpair
  refine hpair.imp_of_mem fun {a b} ha hb hle hsa hsb => ?_
  have heqa := h.eq_time (List.mem_cons_of_mem _ (List.mem_map_of_mem ha)) hsa
  have heqb := h.eq_time (List.mem_cons_of_mem _ (List.mem_map_of_mem hb)) hsb
  exact localDay_mono config (heqa ▸ heqb ▸ hle)

lemma Honest.created_le (h : Honest (created :: turns.map Turn.toClock)) {t : Turn}
    (ht : t ∈ turns) (hsynced : isNtpSynced t.unix = true) : created.time ≤ t.unix := by
  have hmem : t.toClock ∈ turns.map Turn.toClock := List.mem_map_of_mem ht
  rw [h.eq_time (List.mem_cons_of_mem _ hmem) hsynced]
  exact (List.pairwise_cons.mp h.forwards).1 _ hmem

lemma Honest.past (h : Honest (created :: turns.map Turn.toClock)) :
    Past config (.new config created.unix) turns := by
  intro day hday t ht hsynced
  obtain ⟨hcreated, rfl, -⟩ := new_eq_some hday
  rw [h.eq_time List.mem_cons_self hcreated]
  exact localDay_mono config (h.created_le ht hsynced)

/-- Recorded days increase, and a report that fails leaves its day as it was. -/
lemma marked_once (h : Honest (created :: turns.map Turn.toClock)) :
    (markedDays (notifier config created turns)).Nodup :=
  (sent_past config h.forwards_turns h.past).2.imp Int.ne_of_lt

/-- The report of the day a notifier was created on, once its hour had come, is sent again exactly
when the clock was not synchronised at creation and is so in some turn of that very hour. -/
lemma mem_sentDays_created (h : Honest (created :: turns.map Turn.toClock))
    (hhour : 0 ≤ config.int .dailyReportHour ∧ config.int .dailyReportHour ≤ 23)
    (hpast : config.int .dailyReportHour ≤ (localTime config created.time).2) :
    (localTime config created.time).1 ∈ sentDays (notifier config created turns) ↔
      isNtpSynced created.unix = false ∧
        ∃ t ∈ turns, InHour config (localTime config created.time).1 t := by
  cases hsynced : isNtpSynced created.unix with
  | true =>
    have htime := h.eq_time List.mem_cons_self hsynced
    have hrecorded : (DailyReport.new config created.unix).lastSentDay =
        some (localTime config created.unix).1 :=
      new_of_past hsynced (by rwa [htime])
    have hlater : ∀ day ∈ sentDays (notifier config created turns),
        (localTime config created.unix).1 < day :=
      (sent_past config h.forwards_turns h.past).1 _ hrecorded
    rw [htime] at hlater
    simp only [Bool.true_eq_false, false_and, iff_false]
    exact fun hmem => Int.lt_irrefl _ (hlater _ hmem)
  | false =>
    have hnone : (DailyReport.new config created.unix).lastSentDay ≠
        some (localTime config created.time).1 := by
      simp [new_of_unsynced hsynced]
    rw [notifier, mem_sentDays_iff config hhour hnone]
    simp

/-- A turn in the hour of the report, on the day of the creation, means a creation in that hour. -/
lemma hour_of_inHour (h : Honest (created :: turns.map Turn.toClock))
    (hpast : config.int .dailyReportHour ≤ (localTime config created.time).2) {t : Turn}
    (ht : t ∈ turns) (hin : InHour config (localTime config created.time).1 t) :
    (localTime config created.time).2 = config.int .dailyReportHour := by
  obtain ⟨-, hsynced, hlocal⟩ := hin
  have hle := localHour_mono config (h.created_le ht hsynced) (by rw [hlocal])
  rw [hlocal] at hle
  exact Int.le_antisymm hle hpast

variable (config created turns)

/-- The report of each day at most once, also across restarts. -/
structure OncePerDay : Prop where
  marked_once : (markedDays (notifier config created turns)).Nodup
  failure_unmarked : ∀ early t late, turns = early ++ t :: late → ∀ sent,
    (turn config (feed (turn config) (.new config created.unix) early).2 t).2 = some sent →
    sent.delivered = false →
    (feed (turn config) (.new config created.unix) (early ++ [t])).2.lastSentDay ≠ some sent.day
  not_again : config.int .dailyReportHour ≤ (localTime config created.time).2 →
    (localTime config created.time).1 ∉ sentDays (notifier config created turns)

/-- A notifier created in the hour of the report before the clock was synchronised, which is so
in a turn of the same hour. -/
def CreatedUnsynced : Prop :=
  isNtpSynced created.unix = false ∧
    (localTime config created.time).2 = config.int .dailyReportHour ∧
    ∃ t ∈ turns, InHour config (localTime config created.time).1 t

variable {config created turns}

/-- A report that fails is not recorded: its day stays due. -/
lemma failure_unmarked {r : DailyReport} {t : Turn} {sent : Sent}
    (hsent : (turn config r t).2 = some sent) (hfailed : sent.delivered = false) :
    (turn config r t).1.lastSentDay ≠ some sent.day := by
  rcases turn_cases config r t with heq | ⟨day, text, -, hlast, heq⟩
  · simp [heq] at hsent
  · rw [heq] at hsent ⊢
    obtain rfl : _ = sent := Option.some.inj hsent
    simpa [show t.delivered = false from hfailed] using hlast

/-- The report of a day is sent at most once, also across restarts, exactly unless the notifier was
created in the hour of the report before its clock was synchronised. -/
theorem daily_report_once_iff (config : AppConfig) (created : Clock) (turns : List Turn)
    (hhour : 0 ≤ config.int .dailyReportHour ∧ config.int .dailyReportHour ≤ 23)
    (h : Honest (created :: turns.map Turn.toClock)) :
    OncePerDay config created turns ↔ ¬ CreatedUnsynced config created turns := by
  constructor
  · rintro honce ⟨hsynced, hcreated, hturn⟩
    have hpast := Int.le_of_eq hcreated.symm
    exact honce.not_again hpast ((mem_sentDays_created h hhour hpast).mpr ⟨hsynced, hturn⟩)
  · intro hnot
    refine ⟨marked_once h, fun early t late _ sent hsent hfailed => ?_, fun hpast hmem => hnot ?_⟩
    · rw [feed_append]
      exact failure_unmarked hsent hfailed
    · obtain ⟨hsynced, t, ht, hin⟩ := (mem_sentDays_created h hhour hpast).mp hmem
      exact ⟨hsynced, hour_of_inHour h hpast ht hin, t, ht, hin⟩

end Run

/-- Reports at nine, nine hours ahead of UTC. -/
def nineOClock : AppConfig where
  text _ := ""
  int
    | .dailyReportHour | .timezoneOffsetHours => 9
    | _ => 0

/-- Ten minutes past nine, with the clock at its start. -/
def createdTenPast : Clock := ⟨1700006400 + 600, 8⟩

/-- A minute later the clock is synchronised. -/
def turnElevenPast : Turn := ⟨⟨1700006400 + 660, 1700006400 + 660⟩, true, true, true⟩

lemma honest_restart : Honest [createdTenPast, turnElevenPast.toClock] where
  forwards := by decide
  synchronises := ⟨[createdTenPast], [turnElevenPast.toClock], rfl, by decide, by decide⟩

/-- A restart at ten past nine sends the report of that day, although its hour had come. -/
theorem daily_report_again :
    Honest [createdTenPast, turnElevenPast.toClock] ∧
    nineOClock.int .dailyReportHour ≤ (localTime nineOClock createdTenPast.time).2 ∧
    (localTime nineOClock createdTenPast.time).1 ∈
      sentDays (notifier nineOClock createdTenPast [turnElevenPast]) ∧
    ¬ OncePerDay nineOClock createdTenPast [turnElevenPast] := by
  have hpast : nineOClock.int .dailyReportHour ≤ (localTime nineOClock createdTenPast.time).2 := by
    decide
  have hsent : (localTime nineOClock createdTenPast.time).1 ∈
      sentDays (notifier nineOClock createdTenPast [turnElevenPast]) := by
    decide
  exact ⟨honest_restart, hpast, hsent, fun h => h.not_again hpast hsent⟩

/-- With the clock synchronised at the restart, the report of that day is not sent again. -/
theorem daily_report_once_iff_synced :
    OncePerDay nineOClock ⟨1700006400 + 600, 1700006400 + 600⟩ [turnElevenPast] :=
  (daily_report_once_iff nineOClock ⟨1700006400 + 600, 1700006400 + 600⟩ [turnElevenPast]
    (by decide) ⟨by decide, [], _, rfl, by decide, by decide⟩).mpr
    fun h => absurd h.1 (by decide)

end PcRemote.Notifier
