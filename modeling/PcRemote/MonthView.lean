import Mathlib.Data.Int.Interval
import Mathlib.Data.Set.Card
import PcRemote.CivilDays
import PcRemote.ClientBridge
import PcRemote.Grid

/-! The clock and the month on the screen. The weekday of the first of the month is found from the
day number of today, so that it needs no conversion back. -/
namespace PcRemote.Ui
open Text Gregorian Grid

structure ClockStrings where
  time : String
  date : String
  deriving DecidableEq, Repr

/-- Sunday is 0. -/
def weekdayNames : Vector String 7 := #v["SUN", "MON", "TUE", "WED", "THU", "FRI", "SAT"]

def clockTimeUnsynced : String := "--:--"

def clockDateUnsynced : String := "--/-- ---"

/-- A number filled up with zeros to a width, of which a minus sign takes a part. -/
def zeroPadded (width : ℕ) (n : ℤ) : String :=
  if n < 0 then "-" ++ String.ofList (List.leftpad (width - 1) '0' (Nat.toDigits 10 n.natAbs))
  else String.ofList (List.leftpad width '0' (Nat.toDigits 10 n.natAbs))

def localSeconds (unixSecs tzOffsetHours : ℤ) : Option ℤ := do
  let offset ← i64 (tzOffsetHours * 3600)
  i64 (unixSecs + offset)

def clockStrings (unixSecs tzOffsetHours : ℤ) : Option ClockStrings := do
  if isNtpSynced unixSecs = false then
    return ⟨clockTimeUnsynced, clockDateUnsynced⟩
  let seconds ← localSeconds unixSecs tzOffsetHours
  let days := seconds / 86400
  let secsOfDay := seconds % 86400
  let hour := asU32 (secsOfDay.tdiv 3600)
  let minute := asU32 ((secsOfDay.tmod 3600).tdiv 60)
  let date ← civilFromDays days
  let weekday ← weekdayNames[((days + 4) % 7).toNat]?
  return ⟨zeroPadded 2 hour ++ ":" ++ zeroPadded 2 minute,
    zeroPadded 2 date.month ++ "/" ++ zeroPadded 2 date.day ++ " " ++ weekday⟩

/-- The date of today, which is not known before the clock is synchronised. -/
def calendarDate (unixSecs tzOffsetHours : ℤ) : Option (Option CalendarDay) := do
  if isNtpSynced unixSecs = false then
    return none
  let seconds ← localSeconds unixSecs tzOffsetHours
  let date ← civilFromDays (seconds / 86400)
  return some date

structure CalendarView where
  title : String
  synced : Bool
  weeks : Vector (Vector (Option ℕ) 7) 6
  today : Option ℕ
  deriving DecidableEq, Repr

/-- The days of a month are written one after another, from the weekday of the first. -/
def fillWeeks (firstWeekday monthLen : ℕ) : Option (Vector (Vector (Option ℕ) 7) 6) :=
  (List.range' 1 monthLen).foldlM
    (fun weeks day =>
      let idx := firstWeekday + (day - 1)
      setCell weeks (idx / 7) (idx % 7) (some day))
    (empty 6 7)

def calendarView (unixSecs tzOffsetHours : ℤ) : Option CalendarView := do
  match ← calendarDate unixSecs tzOffsetHours with
  | none => return ⟨"----/--", false, empty 6 7, none⟩
  | some today =>
    let seconds ← localSeconds unixSecs tzOffsetHours
    let days := seconds / 86400
    let firstDays := days - (today.day - 1)
    let firstWeekday := ((firstDays + 4) % 7).toNat
    let monthLen := daysInMonth today.year today.month
    let weeks ← fillWeeks firstWeekday monthLen
    return ⟨zeroPadded 4 today.year ++ "-" ++ zeroPadded 2 today.month, true, weeks, some today.day⟩

lemma convertible_of_civilFromDays {z : ℤ} {day : CalendarDay} (hz : InI64 z)
    (h : civilFromDays z = some day) : Convertible z := by
  refine convertible_iff.mpr ⟨hz.1, ?_⟩
  by_contra hover
  have hnone : i64 (z + 719468) = none := if_neg fun hin => hover hin.2
  rw [civilFromDays, hnone] at h
  exact absurd h (by simp)

/-- The day numbers of the month in which a day is, and the days of the month they have. -/
lemma civilFromDays_month {z w : ℤ} {d : Date} {day : ℕ} (hd : d.dayNumber = z + 719468)
    (hw : Convertible w) :
    civilFromDays w = some ⟨d.year, d.month, day⟩ ↔
      w = z - (d.day - 1) + (day - 1) ∧ 1 ≤ day ∧ day ≤ monthLength d.year d.month := by
  obtain ⟨e, he, hnumber⟩ := civilFromDays_spec hw
  constructor
  · intro h
    have heq := Option.some.inj (he.symm.trans h)
    simp only [CalendarDay.ofDate, CalendarDay.mk.injEq] at heq
    obtain ⟨hyear, hmonth, rfl⟩ := heq
    have hday := e.day_mem
    rw [hyear, hmonth] at hday
    refine ⟨?_, hday⟩
    rw [Date.eq_withDay hyear hmonth, Date.dayNumber_withDay, hd] at hnumber
    omega
  · rintro ⟨hw', hday⟩
    have heq : e = d.withDay day hday := by
      apply Date.dayNumber_injective
      rw [Date.dayNumber_withDay, hnumber, hd]
      omega
    rw [he, heq]
    rfl

theorem fillWeeks_spec {firstWeekday monthLen : ℕ} (h : firstWeekday + monthLen ≤ 42) :
    ∃ weeks, fillWeeks firstWeekday monthLen = some weeks ∧
      cells weeks = List.replicate firstWeekday none ++ (List.range' 1 monthLen).map some ++
        List.replicate (42 - (firstWeekday + monthLen)) none := by
  unfold fillWeeks
  induction monthLen with
  | zero =>
    refine ⟨empty 6 7, rfl, ?_⟩
    rw [cells_empty, List.range'_zero, List.map_nil, List.append_nil,
      List.replicate_append_replicate]
    congr 1
    omega
  | succ n ih =>
    obtain ⟨weeks, hweeks, hcells⟩ := ih (by omega)
    obtain ⟨weeks', hset, hcells'⟩ := setCell_cells weeks (i := firstWeekday + (1 + n - 1))
      (by omega) (some (1 + n))
    refine ⟨weeks', ?_, ?_⟩
    · rw [List.range'_concat, List.foldlM_append, hweeks, Option.bind_eq_bind, Option.bind_some]
      simpa using hset
    · have hafter := set_after (k := firstWeekday) (n := 42 - (firstWeekday + (n + 1)))
        (List.range' 1 n) (1 + n)
      rw [List.length_range'] at hafter
      rw [hcells', hcells, List.range'_concat, Nat.one_mul, ← hafter]
      congr 2
      · congr 1
        omega
      · omega

lemma mem_cells {firstWeekday monthLen rest row column day : ℕ}
    {weeks : Vector (Vector (Option ℕ) 7) 6} (hrow : row < 6) (hcolumn : column < 7)
    (hcells : cells weeks = List.replicate firstWeekday none ++
      (List.range' 1 monthLen).map some ++ List.replicate rest none)
    (hday : weeks[row][column] = some day) :
    row * 7 + column = firstWeekday + (day - 1) ∧ 1 ≤ day ∧ day ≤ monthLen := by
  have hcell := getElem?_cells weeks hrow hcolumn
  rw [hcells, hday] at hcell
  obtain ⟨hle, hat⟩ := getElem?_filled hcell
  obtain ⟨hlt, hget⟩ := List.getElem?_eq_some_iff.mp hat
  rw [List.length_range'] at hlt
  rw [List.getElem_range'] at hget
  omega

lemma localSeconds_eq {unixSecs tzOffsetHours : ℤ}
    (hoffset : -12 ≤ tzOffsetHours ∧ tzOffsetHours ≤ 14)
    (hfits : InI64 (unixSecs + tzOffsetHours * 3600)) :
    localSeconds unixSecs tzOffsetHours = some (unixSecs + tzOffsetHours * 3600) := by
  have hsmall : InI64 (tzOffsetHours * 3600) := by
    unfold InI64 i64Min i64Max
    omega
  rw [localSeconds, i64_eq_some hsmall, Option.bind_eq_bind, Option.bind_some, i64_eq_some hfits]

lemma convertible_localDay {seconds : ℤ} (h : InI64 seconds) : Convertible (seconds / 86400) := by
  rw [convertible_iff]
  unfold InI64 i64Min i64Max at *
  omega

/-- The month has as many days as there are day numbers with its year and month. -/
lemma ncard_month {seconds : ℤ} {d : Date} (hd : d.dayNumber = seconds / 86400 + 719468)
    (h : InI64 seconds) :
    Set.ncard {w | InI64 w ∧ ∃ day, civilFromDays w = some ⟨d.year, d.month, day⟩}
      = daysInMonth d.year d.month := by
  have hday := d.day_mem
  have hlength := monthLength_le d.year d.month
  have hset : {w | InI64 w ∧ ∃ day, civilFromDays w = some ⟨d.year, d.month, day⟩}
      = Set.Ico (seconds / 86400 - (d.day - 1))
          (seconds / 86400 - (d.day - 1) + monthLength d.year d.month) := by
    ext w
    rw [Set.mem_ofPred_eq, Set.mem_Ico]
    constructor
    · rintro ⟨hw, day, hcivil⟩
      have h := (civilFromDays_month hd (convertible_of_civilFromDays hw hcivil)).mp hcivil
      omega
    · intro hw
      have hconvertible : Convertible w := by
        rw [convertible_iff]
        unfold InI64 i64Min i64Max at *
        omega
      refine ⟨hconvertible.1, (w - (seconds / 86400 - (d.day - 1)) + 1).toNat, ?_⟩
      apply (civilFromDays_month hd hconvertible).mpr
      omega
  rw [hset, Set.ncard_eq_toFinset_card', Set.toFinset_Ico, Int.card_Ico, daysInMonth_eq d.month_mem]
  omega

section

variable {unixSecs tzOffsetHours seconds : ℤ} {d : Date} (hsynced : isNtpSynced unixSecs = true)
  (hlocal : localSeconds unixSecs tzOffsetHours = some seconds)
  (hcivil : civilFromDays (seconds / 86400) = some (.ofDate d))

include hsynced hlocal hcivil

lemma calendarDate_eq : calendarDate unixSecs tzOffsetHours = some (some (.ofDate d)) := by
  simp [calendarDate, hsynced, hlocal, hcivil]

lemma clockStrings_spec {weekday : ℕ} (hlt : weekday < 7)
    (hweekday : ((seconds / 86400 + 4) % 7).toNat = weekday) :
    ∃ clock, clockStrings unixSecs tzOffsetHours = some clock ∧
      clock.date = zeroPadded 2 d.month ++ "/" ++ zeroPadded 2 d.day ++ " " ++
        weekdayNames[weekday] := by
  have hname : weekdayNames[((seconds / 86400 + 4) % 7).toNat]? = some weekdayNames[weekday] := by
    rw [hweekday, Vector.getElem?_eq_getElem hlt]
  rw [clockStrings, if_neg (by simp [hsynced]), hlocal]
  simp only [Option.bind_eq_bind, Option.bind_some, hcivil, hname]
  exact ⟨_, rfl, rfl⟩

lemma calendarView_spec {firstWeekday : ℕ}
    (hfirst : ((seconds / 86400 - (d.day - 1) + 4) % 7).toNat = firstWeekday) :
    ∃ view, calendarView unixSecs tzOffsetHours = some view ∧ view.today = some d.day ∧
      cells view.weeks = List.replicate firstWeekday none ++
        (List.range' 1 (daysInMonth d.year d.month)).map some ++
        List.replicate (42 - (firstWeekday + daysInMonth d.year d.month)) none := by
  have hlength := monthLength_le d.year d.month
  have hfits : firstWeekday + daysInMonth d.year d.month ≤ 42 := by
    rw [daysInMonth_eq d.month_mem]
    omega
  obtain ⟨weeks, hweeks, hcells⟩ := fillWeeks_spec hfits
  rw [calendarView, calendarDate_eq hsynced hlocal hcivil]
  simp only [Option.bind_eq_bind, Option.bind_some, hlocal, CalendarDay.ofDate, hfirst, hweeks]
  exact ⟨_, rfl, rfl, hcells⟩

end

/-- The month on the screen is the month of the calendar: all days of it one after another, with
nothing between them, each under its weekday, and today under the weekday that the clock shows. -/
theorem calendarView_correct {unixSecs tzOffsetHours : ℤ} (hsynced : isNtpSynced unixSecs = true)
    (hoffset : -12 ≤ tzOffsetHours ∧ tzOffsetHours ≤ 14)
    (hfits : InI64 (unixSecs + tzOffsetHours * 3600)) (w : Weekdays) :
    ∃ today view clock,
      calendarDate unixSecs tzOffsetHours = some (some today) ∧
      calendarView unixSecs tzOffsetHours = some view ∧
      clockStrings unixSecs tzOffsetHours = some clock ∧
      view.today = some today.day ∧
      civilFromDays ((unixSecs + tzOffsetHours * 3600) / 86400) = some today ∧
      (∃ before after, cells view.weeks = List.replicate before none ++ (List.range' 1
        (Set.ncard {z | InI64 z ∧ ∃ day, civilFromDays z = some ⟨today.year, today.month, day⟩})).map
          some ++ List.replicate after none) ∧
      (∀ (row : Fin 6) (column : Fin 7) day, view.weeks[row][column] = some day →
        ∃ z, InI64 z ∧ civilFromDays z = some ⟨today.year, today.month, day⟩ ∧
          w.weekday z = column) ∧
      ∀ (row : Fin 6) (column : Fin 7), view.weeks[row][column] = some today.day →
        clock.date = zeroPadded 2 today.month ++ "/" ++ zeroPadded 2 today.day ++ " " ++
          weekdayNames[column] := by
  have hlocal := localSeconds_eq hoffset hfits
  have hzone := convertible_localDay hfits
  obtain ⟨seconds, hseconds⟩ : ∃ s, s = unixSecs + tzOffsetHours * 3600 := ⟨_, rfl⟩
  rw [← hseconds] at hlocal hzone hfits ⊢
  obtain ⟨d, hcivil, hd⟩ := civilFromDays_spec hzone
  have hday := d.day_mem
  have hlength := monthLength_le d.year d.month
  obtain ⟨view, hview, htoday, hcells⟩ := calendarView_spec hsynced hlocal hcivil rfl
  have hweekday : ((seconds / 86400 + 4) % 7).toNat < 7 := by omega
  obtain ⟨clock, hclock, hclockDate⟩ := clockStrings_spec hsynced hlocal hcivil hweekday rfl
  refine ⟨.ofDate d, view, clock, calendarDate_eq hsynced hlocal hcivil, hview, hclock, htoday,
    hcivil, ?_, ?_, ?_⟩
  · have hmonth : Set.ncard {z | InI64 z ∧ ∃ day, civilFromDays z =
        some ⟨(CalendarDay.ofDate d).year, (CalendarDay.ofDate d).month, day⟩} =
          daysInMonth d.year d.month := ncard_month hd hfits
    rw [hmonth]
    exact ⟨_, _, hcells⟩
  · intro row column day hcell
    obtain ⟨hplace, hmem⟩ := mem_cells row.isLt column.isLt hcells hcell
    rw [daysInMonth_eq d.month_mem] at hmem
    have hconvertible : Convertible (seconds / 86400 - (d.day - 1) + (day - 1)) := by
      rw [convertible_iff]
      unfold InI64 i64Min i64Max at *
      omega
    refine ⟨_, hconvertible.1, (civilFromDays_month hd hconvertible).mpr ⟨rfl, hmem⟩, ?_⟩
    rw [w.weekday_eq]
    omega
  · intro row column hcell
    obtain ⟨hplace, hmem⟩ := mem_cells row.isLt column.isLt hcells hcell
    have htodayDay : (CalendarDay.ofDate d).day = d.day := rfl
    have hcolumn : ((seconds / 86400 + 4) % 7).toNat = column := by omega
    simp only [hcolumn] at hclockDate
    exact hclockDate

/-- The 29th of February 2024, at noon nine hours east of Greenwich. -/
theorem calendarView_correct_leap_day :
    isNtpSynced 1709175600 = true ∧ InI64 (1709175600 + 9 * 3600) ∧
    ∃ view clock, calendarView 1709175600 9 = some view ∧
      clockStrings 1709175600 9 = some clock ∧
      (∃ before after, cells view.weeks = List.replicate before none ++ (List.range' 1
        (Set.ncard {z | InI64 z ∧ ∃ day, civilFromDays z = some ⟨2024, 2, day⟩})).map some ++
          List.replicate after none) ∧
      ∀ (row : Fin 6) (column : Fin 7), view.weeks[row][column] = some 29 →
        clock.date = zeroPadded 2 2 ++ "/" ++ zeroPadded 2 29 ++ " " ++ weekdayNames[column] := by
  have hsynced : isNtpSynced 1709175600 = true := by decide
  have hfits : InI64 (1709175600 + 9 * 3600) := by decide
  have hdate : calendarDate 1709175600 9 = some (some ⟨2024, 2, 29⟩) := by decide
  obtain ⟨today, view, clock, htoday, hview, hclock, -, -, hcells, -, hcolumn⟩ :=
    calendarView_correct hsynced (by decide) hfits default
  obtain rfl := Option.some.inj (Option.some.inj (hdate.symm.trans htoday))
  exact ⟨hsynced, hfits, view, clock, hview, hclock, hcells, hcolumn⟩

end PcRemote.Ui
