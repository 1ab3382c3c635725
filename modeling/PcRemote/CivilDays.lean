import Mathlib.Data.Set.Function
import PcRemote.Gregorian
import PcRemote.Text

/-! The day-number conversion of the screen, which is the proleptic Gregorian calendar. -/
namespace PcRemote.Ui
open Text Gregorian

def InI64 (n : ℤ) : Prop := i64Min ≤ n ∧ n ≤ i64Max

instance (n : ℤ) : Decidable (InI64 n) :=
  inferInstanceAs (Decidable (i64Min ≤ n ∧ n ≤ i64Max))

/-- A result of 64-bit arithmetic, or nothing where it overflows. -/
def i64 (n : ℤ) : Option ℤ := if InI64 n then some n else none

/-- The cast to 32 bits. -/
def asU32 (n : ℤ) : ℕ := (n % 4294967296).toNat

structure CalendarDay where
  year : ℤ
  month : ℕ
  day : ℕ
  deriving DecidableEq, Repr

/-- Only the first two operations are on numbers that are not known to be small. -/
def civilFromDays (z : ℤ) : Option CalendarDay := do
  let z ← i64 (z + 719468)
  let era := z / 146097
  let start ← i64 (era * 146097)
  let doe := z - start
  let yoe := (doe - doe.tdiv 1460 + doe.tdiv 36524 - doe.tdiv 146096).tdiv 365
  let y := yoe + era * 400
  let doy := doe - (365 * yoe + yoe.tdiv 4 - yoe.tdiv 100)
  let mp := (5 * doy + 2).tdiv 153
  let d := asU32 (doy - (153 * mp + 2).tdiv 5 + 1)
  let m := asU32 (if mp < 10 then mp + 3 else mp - 9)
  return ⟨if m ≤ 2 then y + 1 else y, m, d⟩

def isLeapYear (year : ℤ) : Bool :=
  (year.tmod 4 == 0 && year.tmod 100 != 0) || year.tmod 400 == 0

/-- Only the months 1 to 12 are passed to it; for another it does not panic. -/
def daysInMonth (year : ℤ) (month : ℕ) : ℕ :=
  match month with
  | 1 | 3 | 5 | 7 | 8 | 10 | 12 => 31
  | 4 | 6 | 9 | 11 => 30
  | 2 => if isLeapYear year then 29 else 28
  | _ => 30

/-- Neither operation on the whole day number overflows. -/
def Convertible (z : ℤ) : Prop :=
  InI64 z ∧ InI64 (z + 719468) ∧ InI64 ((z + 719468) / 146097 * 146097)

lemma convertible_iff {z : ℤ} : Convertible z ↔ i64Min ≤ z ∧ z + 719468 ≤ i64Max := by
  unfold Convertible InI64 i64Min i64Max
  omega

namespace CalendarDay

def Valid (day : CalendarDay) : Prop :=
  (1 ≤ day.month ∧ day.month ≤ 12) ∧ 1 ≤ day.day ∧ day.day ≤ daysInMonth day.year day.month

def ofDate (d : Date) : CalendarDay := ⟨d.year, d.month, d.day⟩

/-- The next day, the first of the next month or the first of January of the next year. -/
def next (day : CalendarDay) : CalendarDay :=
  if day.day < daysInMonth day.year day.month then ⟨day.year, day.month, day.day + 1⟩
  else if day.month < 12 then ⟨day.year, day.month + 1, 1⟩
  else ⟨day.year + 1, 1, 1⟩

/-- The order of the dates: by year, by month, by day. -/
def Before (a b : CalendarDay) : Prop :=
  a.year < b.year ∨ a.year = b.year ∧ (a.month < b.month ∨ a.month = b.month ∧ a.day < b.day)

end CalendarDay

lemma isLeapYear_eq (year : ℤ) : isLeapYear year = isLeap year := by
  have hdvd (n : ℤ) : (year.tmod n == 0) = (year % n == 0) := by
    rw [Bool.eq_iff_iff, beq_iff_eq, beq_iff_eq, ← Int.dvd_iff_tmod_eq_zero,
      Int.dvd_iff_emod_eq_zero]
  unfold isLeapYear isLeap
  rw [bne, bne, hdvd, hdvd, hdvd]

lemma daysInMonth_eq {month : ℕ} (h : 1 ≤ month ∧ month ≤ 12) (year : ℤ) :
    daysInMonth year month = monthLength year month := by
  obtain ⟨hlo, hhi⟩ := h
  interval_cases month
  case «2» => rw [daysInMonth, monthLength_february, isLeapYear_eq]
  all_goals rfl

namespace CalendarDay

lemma ofDate_injective : Function.Injective ofDate := by
  intro a b h
  simp only [ofDate, mk.injEq] at h
  exact Date.ext h.1 h.2.1 h.2.2

lemma valid_ofDate (d : Date) : (ofDate d).Valid := by
  refine ⟨d.month_mem, d.day_mem.1, ?_⟩
  rw [ofDate, daysInMonth_eq d.month_mem]
  exact d.day_mem.2

lemma exists_ofDate {day : CalendarDay} (h : day.Valid) : ∃ d, ofDate d = day := by
  obtain ⟨hmonth, hlo, hhi⟩ := h
  rw [daysInMonth_eq hmonth] at hhi
  exact ⟨⟨day.year, day.month, day.day, hmonth, hlo, hhi⟩, rfl⟩

lemma ofDate_next (d : Date) : ofDate d.next = (ofDate d).next := by
  have hnext : (ofDate d).next =
      if d.day < monthLength d.year d.month then ⟨d.year, d.month, d.day + 1⟩
      else if d.month < 12 then ⟨d.year, d.month + 1, 1⟩
      else ⟨d.year + 1, 1, 1⟩ := by
    rw [← daysInMonth_eq d.month_mem]
    rfl
  rw [hnext]
  by_cases hday : d.day < monthLength d.year d.month
  · rw [Date.next, dif_pos hday, if_pos hday]
    rfl
  · by_cases hmonth : d.month < 12
    · rw [Date.next, dif_neg hday, dif_pos hmonth, if_neg hday, if_pos hmonth]
      rfl
    · rw [Date.next, dif_neg hday, dif_neg hmonth, if_neg hday, if_neg hmonth]
      rfl

lemma ofDate_before {a b : Date} : (ofDate a).Before (ofDate b) ↔ a < b := Date.lt_iff.symm

end CalendarDay

lemma i64_eq_some {n : ℤ} (h : InI64 n) : i64 n = some n := if_pos h

lemma tdiv_eq {a : ℤ} (h : 0 ≤ a) (b : ℤ) : a.tdiv b = a / b := Int.tdiv_eq_ediv_of_nonneg h

lemma number_mem (p : PeriodDay) : 0 ≤ p.number ∧ p.number < 146097 := by
  have hc := p.century_mem
  have hq := p.cycle_mem
  have hr := p.year_mem
  have hs := p.day_mem
  unfold PeriodDay.number
  omega

lemma yearOfPeriod_mem (p : PeriodDay) : 0 ≤ p.yearOfPeriod ∧ p.yearOfPeriod < 400 := by
  have hc := p.century_mem
  have hq := p.cycle_mem
  have hr := p.year_mem
  unfold PeriodDay.yearOfPeriod
  omega

/-- The quotients by 1460, 36524 and 146096 leave out the leap days of the period that are over. -/
lemma yearOfPeriod_eq (p : PeriodDay) :
    (p.number - p.number.tdiv 1460 + p.number.tdiv 36524 - p.number.tdiv 146096).tdiv 365
      = p.yearOfPeriod := by
  have hnumber := (number_mem p).1
  rw [tdiv_eq hnumber, tdiv_eq hnumber, tdiv_eq hnumber, tdiv_eq (by omega)]
  obtain ⟨c, q, r, s, hc, hq, hr, h0, hs⟩ := p
  unfold PeriodDay.number PeriodDay.yearOfPeriod
  dsimp only
  obtain ⟨n, hn⟩ : ∃ n, n = 36524 * c + 1461 * q + 365 * r + s := ⟨_, rfl⟩
  rw [← hn]
  have hfours : n / 1460 = 25 * c + q + if 1460 ≤ 24 * c + q + 365 * r + s then 1 else 0 := by
    split_ifs <;> omega
  have hcenturies : n / 36524 - n / 146096 = c := by
    by_cases hlast : n = 146096
    · omega
    · have hlt : 1461 * q + 365 * r + s < 36524 := by omega
      omega
  split_ifs at hfours <;> omega

lemma dayOfYear_eq (p : PeriodDay) :
    p.number - (365 * p.yearOfPeriod + p.yearOfPeriod.tdiv 4 - p.yearOfPeriod.tdiv 100) = p.day := by
  have hyear := (yearOfPeriod_mem p).1
  rw [tdiv_eq hyear, tdiv_eq hyear]
  have hc := p.century_mem
  have hq := p.cycle_mem
  have hr := p.year_mem
  unfold PeriodDay.number PeriodDay.yearOfPeriod
  omega

lemma asU32_eq {n : ℤ} {m : ℕ} (h : n = m) (hlt : m < 4294967296) : asU32 n = m := by
  unfold asU32
  omega

/-- The month and the day of the month, for a day of a year that begins in March. -/
lemma monthOfDay_eq {day : ℕ} (h : day < 366) :
    asU32 (if (5 * (day : ℤ) + 2).tdiv 153 < 10 then (5 * (day : ℤ) + 2).tdiv 153 + 3
        else (5 * (day : ℤ) + 2).tdiv 153 - 9)
      = (if monthOfDay day < 10 then monthOfDay day + 3 else monthOfDay day - 9) ∧
    asU32 (day - (153 * (5 * (day : ℤ) + 2).tdiv 153 + 2).tdiv 5 + 1)
      = day - monthStart (monthOfDay day) + 1 := by
  have hstart := (monthStart_monthOfDay day).1
  have hmonth : (5 * (day : ℤ) + 2).tdiv 153 = (monthOfDay day : ℕ) := by
    rw [tdiv_eq (by omega), monthOfDay]
    omega
  have hlt : monthOfDay day ≤ 11 := by
    unfold monthOfDay
    omega
  have hdays : (153 * ((monthOfDay day : ℕ) : ℤ) + 2).tdiv 5 = (monthStart (monthOfDay day) : ℕ) := by
    rw [tdiv_eq (by omega), monthStart]
    omega
  rw [hmonth, hdays]
  constructor
  · apply asU32_eq
    · split_ifs <;> omega
    · split_ifs <;> omega
  · exact asU32_eq (by omega) (by omega)

/-- The converted date is the one with that day number. -/
theorem civilFromDays_spec {z : ℤ} (h : Convertible z) :
    ∃ d : Date, civilFromDays z = some (.ofDate d) ∧ d.dayNumber = z + 719468 := by
  obtain ⟨p, hp⟩ := PeriodDay.exists_number (n := (z + 719468) - (z + 719468) / 146097 * 146097)
    (by omega) (by omega)
  refine ⟨Date.ofYearDay (p.yearOfPeriod + (z + 719468) / 146097 * 400) p.day.toNat (p.day_lt _),
    ?_, ?_⟩
  · have hz := i64_eq_some h.2.1
    have hstart := i64_eq_some h.2.2
    obtain ⟨day, hday⟩ := Int.eq_ofNat_of_zero_le p.day_mem.1
    have hlt : day < 366 := by
      have := p.day_mem.2
      omega
    obtain ⟨hmonth, hdays⟩ := monthOfDay_eq hlt
    simp only [civilFromDays, hz, hstart, Option.bind_eq_bind, Option.bind_some, ← hp,
      yearOfPeriod_eq, dayOfYear_eq, hday, hmonth, hdays]
    have hyear (y : ℤ) : (if (if monthOfDay day < 10 then monthOfDay day + 3
        else monthOfDay day - 9) ≤ 2 then y + 1 else y)
          = if monthOfDay day < 10 then y else y + 1 := by
      have hlt : monthOfDay day ≤ 11 := by
        unfold monthOfDay
        omega
      split_ifs <;> omega
    rw [hyear]
    rfl
  · have hstart := p.yearStart_yearOfPeriod ((z + 719468) / 146097)
    have hday := p.day_mem.1
    rw [Date.dayNumber_ofYearDay]
    omega

lemma civilFromDays_ofDate {d : Date} (h : Convertible (d.dayNumber - 719468)) :
    civilFromDays (d.dayNumber - 719468) = some (.ofDate d) := by
  obtain ⟨e, he, hnumber⟩ := civilFromDays_spec h
  rw [Int.sub_add_cancel] at hnumber
  rw [he, Date.dayNumber_injective hnumber]

lemma civilFromDays_succ {z : ℤ} {day : CalendarDay} (hz : Convertible z)
    (hnext : Convertible (z + 1)) (hday : civilFromDays z = some day) :
    civilFromDays (z + 1) = some day.next := by
  obtain ⟨d, hd, hnumber⟩ := civilFromDays_spec hz
  obtain ⟨e, he, hsucc⟩ := civilFromDays_spec hnext
  have heq : e = d.next := by
    apply Date.dayNumber_injective
    rw [Date.dayNumber_next, hnumber, hsucc]
    omega
  obtain rfl := Option.some.inj (hday.symm.trans hd)
  rw [he, heq, CalendarDay.ofDate_next]

/-- The dates of the first and of the last day number that can be converted. -/
def firstDay : CalendarDay := ⟨-25252734927764585, 6, 7⟩

def lastDay : CalendarDay := ⟨25252734927766554, 9, 25⟩

lemma civilFromDays_first : civilFromDays i64Min = some firstDay := by decide

lemma civilFromDays_last : civilFromDays (i64Max - 719468) = some lastDay := by decide

/-- Day numbers and the dates they are converted to are in the same order. -/
lemma before_iff {z w : ℤ} {a b : CalendarDay} (hz : Convertible z) (hw : Convertible w)
    (ha : civilFromDays z = some a) (hb : civilFromDays w = some b) : a.Before b ↔ z < w := by
  obtain ⟨d, hd, hdz⟩ := civilFromDays_spec hz
  obtain ⟨e, he, hew⟩ := civilFromDays_spec hw
  obtain rfl := Option.some.inj (ha.symm.trans hd)
  obtain rfl := Option.some.inj (hb.symm.trans he)
  rw [CalendarDay.ofDate_before, ← Date.dayNumber_lt_iff, hdz, hew]
  omega

lemma civilFromDays_bijOn :
    Set.BijOn civilFromDays {z | Convertible z}
      {result | ∃ day : CalendarDay, result = some day ∧ day.Valid ∧
        ¬ day.Before firstDay ∧ ¬ lastDay.Before day} := by
  have hfirst : Convertible i64Min := convertible_iff.mpr (by decide)
  have hlast : Convertible (i64Max - 719468) := convertible_iff.mpr (by decide)
  refine ⟨?_, ?_, ?_⟩
  · intro z hz
    have hz : Convertible z := hz
    have hbounds := convertible_iff.mp hz
    obtain ⟨d, hd, -⟩ := civilFromDays_spec hz
    refine ⟨.ofDate d, hd, CalendarDay.valid_ofDate d, ?_, ?_⟩
    · rw [before_iff hz hfirst hd civilFromDays_first]
      omega
    · rw [before_iff hlast hz civilFromDays_last hd]
      omega
  · intro z hz w hw heq
    obtain ⟨d, hd, hdz⟩ := civilFromDays_spec hz
    obtain ⟨e, he, hew⟩ := civilFromDays_spec hw
    have hde : d = e := CalendarDay.ofDate_injective
      (Option.some.inj ((hd.symm.trans heq).trans he))
    rw [hde] at hdz
    omega
  · rintro result ⟨day, rfl, hvalid, hlow, hhigh⟩
    obtain ⟨d, rfl⟩ := CalendarDay.exists_ofDate hvalid
    obtain ⟨a, ha, hanumber⟩ := civilFromDays_spec hfirst
    obtain ⟨b, hb, hbnumber⟩ := civilFromDays_spec hlast
    rw [Option.some.inj (civilFromDays_first.symm.trans ha), CalendarDay.ofDate_before,
      ← Date.dayNumber_lt_iff] at hlow
    rw [Option.some.inj (civilFromDays_last.symm.trans hb), CalendarDay.ofDate_before,
      ← Date.dayNumber_lt_iff] at hhigh
    have hconvertible : Convertible (d.dayNumber - 719468) := convertible_iff.mpr (by omega)
    exact ⟨d.dayNumber - 719468, hconvertible, civilFromDays_ofDate hconvertible⟩

/-- The conversion is the proleptic Gregorian calendar on every day number it can be made for. -/
theorem civilFromDays_gregorian :
    (∀ z, Convertible z → ∃ day, civilFromDays z = some day ∧ day.Valid) ∧
    civilFromDays 0 = some ⟨1970, 1, 1⟩ ∧
    (∀ z day, Convertible z → Convertible (z + 1) → civilFromDays z = some day →
      civilFromDays (z + 1) = some day.next) ∧
    Set.BijOn civilFromDays {z | Convertible z}
      {result | ∃ day : CalendarDay, result = some day ∧ day.Valid ∧
        ¬ day.Before firstDay ∧ ¬ lastDay.Before day} := by
  refine ⟨?_, by decide, ?_, civilFromDays_bijOn⟩
  · intro z hz
    obtain ⟨d, hd, -⟩ := civilFromDays_spec hz
    exact ⟨.ofDate d, hd, CalendarDay.valid_ofDate d⟩
  · intro z day hz hnext hday
    exact civilFromDays_succ hz hnext hday

end PcRemote.Ui
