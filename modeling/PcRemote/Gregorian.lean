import Mathlib.Algebra.Order.Group.Int
import Mathlib.Data.Int.Order.Basic
import Mathlib.Data.Prod.Lex
import Mathlib.Tactic.IntervalCases

/-! The proleptic Gregorian calendar. Days are counted in years that begin in March, so that a leap
day is the last day of its year; on the dates in their order this count is strictly increasing, and
one more for the next date. -/
namespace PcRemote.Gregorian

def isLeap (year : ℤ) : Bool := (year % 4 == 0 && year % 100 != 0) || year % 400 == 0

def monthLength (year : ℤ) (month : ℕ) : ℕ :=
  if month = 2 then if isLeap year then 29 else 28
  else if month = 4 ∨ month = 6 ∨ month = 9 ∨ month = 11 then 30
  else 31

lemma monthLength_february (year : ℤ) :
    monthLength year 2 = if isLeap year then 29 else 28 := rfl

lemma le_monthLength (year : ℤ) (month : ℕ) : 28 ≤ monthLength year month := by
  unfold monthLength
  split_ifs <;> decide

lemma monthLength_le (year : ℤ) (month : ℕ) : monthLength year month ≤ 31 := by
  unfold monthLength
  split_ifs <;> decide

/-- A date that the calendar has. -/
@[ext] structure Date where
  year : ℤ
  month : ℕ
  day : ℕ
  month_mem : 1 ≤ month ∧ month ≤ 12
  day_mem : 1 ≤ day ∧ day ≤ monthLength year month

namespace Date

def key (d : Date) : ℤ ×ₗ ℕ ×ₗ ℕ := toLex (d.year, toLex (d.month, d.day))

lemma key_injective : Function.Injective key := by
  intro a b h
  have h := toLex.injective h
  have hrest := toLex.injective (congrArg Prod.snd h)
  exact Date.ext (congrArg Prod.fst h) (congrArg Prod.fst hrest) (congrArg Prod.snd hrest)

instance : LinearOrder Date := LinearOrder.lift' key key_injective

lemma lt_iff {a b : Date} : a < b ↔
    a.year < b.year ∨ a.year = b.year ∧ (a.month < b.month ∨ a.month = b.month ∧ a.day < b.day) := by
  change key a < key b ↔ _
  simp only [key, Prod.Lex.toLex_lt_toLex]

/-- The next day, the first of the next month or the first of the next year. -/
def next (d : Date) : Date :=
  if hday : d.day < monthLength d.year d.month then
    ⟨d.year, d.month, d.day + 1, d.month_mem, Nat.le_add_left 1 d.day, hday⟩
  else if hmonth : d.month < 12 then
    ⟨d.year, d.month + 1, 1, ⟨Nat.le_add_left 1 d.month, hmonth⟩, le_refl 1,
      (le_monthLength d.year (d.month + 1)).trans' (by decide)⟩
  else
    ⟨d.year + 1, 1, 1, by decide, le_refl 1, (le_monthLength (d.year + 1) 1).trans' (by decide)⟩

end Date

/-- The number of days before the first of March of a year. -/
def yearStart (year : ℤ) : ℤ := 365 * year + year / 4 - year / 100 + year / 400

/-- The number of days of a year before its month, where March is month 0. -/
def monthStart (month : ℕ) : ℕ := (153 * month + 2) / 5

lemma yearStart_succ (year : ℤ) :
    yearStart (year + 1) = yearStart year + if isLeap (year + 1) then 366 else 365 := by
  unfold yearStart isLeap
  split_ifs with hleap
  · simp only [Bool.or_eq_true, Bool.and_eq_true, beq_iff_eq, bne_iff_ne] at hleap
    omega
  · simp only [Bool.or_eq_true, Bool.and_eq_true, beq_iff_eq, bne_iff_ne] at hleap
    omega

lemma yearStart_le {a b : ℤ} (h : a < b) : yearStart a + 365 ≤ yearStart b := by
  unfold yearStart
  omega

lemma monthStart_le {a b : ℕ} (h : a < b) : monthStart (a + 1) ≤ monthStart b := by
  unfold monthStart
  omega

/-- The month with a given day of a year that begins in March, where March is month 0. -/
def monthOfDay (day : ℕ) : ℕ := (5 * day + 2) / 153

lemma monthStart_monthOfDay (day : ℕ) :
    monthStart (monthOfDay day) ≤ day ∧ day < monthStart (monthOfDay day + 1) := by
  unfold monthStart monthOfDay
  omega

namespace Date

def marchYear (d : Date) : ℤ := if d.month ≤ 2 then d.year - 1 else d.year

def marchMonth (d : Date) : ℕ := (d.month + 9) % 12

/-- The number of days since the first of March of year 0. -/
def dayNumber (d : Date) : ℤ := yearStart d.marchYear + monthStart d.marchMonth + (d.day - 1)

/-- Every month but February ends where the next one begins. -/
lemma monthStart_add_monthLength (year : ℤ) {month : ℕ} (hmonth : 1 ≤ month ∧ month ≤ 12)
    (hne : month ≠ 2) :
    monthStart ((month + 9) % 12) + monthLength year month = monthStart ((month + 9) % 12 + 1) := by
  obtain ⟨hlo, hhi⟩ := hmonth
  interval_cases month <;> first | rfl | exact absurd rfl hne

lemma day_lt_monthStart (d : Date) (hne : d.month ≠ 2) :
    monthStart d.marchMonth + d.day ≤ monthStart (d.marchMonth + 1) := by
  have hlength := monthStart_add_monthLength d.year d.month_mem hne
  have hday := d.day_mem.2
  unfold marchMonth
  omega

/-- The date of a year that begins in March is one of its days. -/
lemma day_lt_yearStart (d : Date) : d.dayNumber < yearStart (d.marchYear + 1) := by
  have hday := d.day_mem.2
  have hmonth := d.month_mem
  by_cases hfeb : d.month = 2
  · have hyear : d.marchYear = d.year - 1 := by rw [marchYear, if_pos (by omega)]
    have hstart : monthStart d.marchMonth = 337 := by rw [marchMonth, hfeb]; rfl
    have hsucc := yearStart_succ (d.year - 1)
    rw [hfeb, monthLength_february] at hday
    rw [Int.sub_add_cancel] at hsucc
    rw [dayNumber, hyear, hstart, Int.sub_add_cancel, hsucc]
    cases hleap : isLeap d.year
    · simp only [hleap, Bool.false_eq_true, if_false] at hday ⊢
      omega
    · simp only [hleap, if_true] at hday ⊢
      omega
  · have hlt := day_lt_monthStart d hfeb
    have hend : monthStart (d.marchMonth + 1) ≤ monthStart 11 := by
      unfold monthStart marchMonth
      omega
    have hyear := yearStart_le (Int.lt_succ d.marchYear)
    have hlast : monthStart 11 = 337 := rfl
    unfold dayNumber
    omega

lemma dayNumber_lt {a b : Date} (hab : a < b) : a.dayNumber < b.dayNumber := by
  have ha := a.month_mem
  have hb := b.month_mem
  have hmarch : a.marchYear < b.marchYear ∨ a.marchYear = b.marchYear ∧
      (a.marchMonth < b.marchMonth ∨ a.marchMonth = b.marchMonth ∧ a.day < b.day) := by
    have hlt := lt_iff.mp hab
    unfold marchYear marchMonth
    split_ifs <;> omega
  rcases hmarch with hyear | ⟨hyear, hmonth | ⟨hmonth, hday⟩⟩
  · have hend := day_lt_yearStart a
    have hstart : yearStart (a.marchYear + 1) ≤ yearStart b.marchYear := by
      unfold yearStart
      omega
    have hfirst := b.day_mem.1
    have hb : yearStart b.marchYear ≤ b.dayNumber := by
      unfold dayNumber
      omega
    omega
  · -- The earlier month is not February, which is the last month of the year.
    have hne : a.month ≠ 2 := by
      unfold marchMonth at hmonth
      omega
    have hend := day_lt_monthStart a hne
    have hstart := monthStart_le hmonth
    have hfirst := b.day_mem.1
    unfold dayNumber
    rw [hyear]
    omega
  · unfold dayNumber
    rw [hyear, hmonth]
    omega

theorem dayNumber_injective : Function.Injective dayNumber := by
  intro a b h
  rcases lt_trichotomy a b with hlt | heq | hgt
  · exact absurd h (Int.ne_of_lt (dayNumber_lt hlt))
  · exact heq
  · exact absurd h.symm (Int.ne_of_lt (dayNumber_lt hgt))

theorem dayNumber_lt_iff {a b : Date} : a.dayNumber < b.dayNumber ↔ a < b := by
  refine ⟨fun h => ?_, dayNumber_lt⟩
  rcases lt_trichotomy a b with hlt | rfl | hgt
  · exact hlt
  · exact absurd h (Int.lt_irrefl _)
  · exact absurd (Int.lt_trans h (dayNumber_lt hgt)) (Int.lt_irrefl _)

theorem dayNumber_next (d : Date) : d.next.dayNumber = d.dayNumber + 1 := by
  have hmonth := d.month_mem
  have hday := d.day_mem
  unfold next
  split_ifs with hlt hdec
  · simp only [dayNumber, marchYear, marchMonth]
    omega
  · by_cases hfeb : d.month = 2
    · have hsucc := yearStart_succ (d.year - 1)
      rw [Int.sub_add_cancel] at hsucc
      have hlength := monthLength_february d.year
      rw [← hfeb] at hlength
      simp only [dayNumber, marchYear, marchMonth, hfeb, monthStart]
      split_ifs at hsucc hlength ⊢ <;> omega
    · have hlength := monthStart_add_monthLength d.year hmonth hfeb
      simp only [dayNumber, marchYear, marchMonth]
      have hnext : (d.month + 1 + 9) % 12 = (d.month + 9) % 12 + 1 := by omega
      rw [hnext, ← hlength]
      split_ifs <;> omega
  · have hdec : d.month = 12 := by omega
    have hlength : monthLength d.year d.month = 31 := by rw [hdec]; rfl
    have hyear : d.marchYear = d.year := by rw [marchYear, if_neg (by omega)]
    have hmarch : d.marchMonth = 9 := by rw [marchMonth, hdec]
    have hday : d.day = 31 := by omega
    rw [dayNumber, dayNumber, hyear, hmarch, hday]
    simp only [marchYear, marchMonth, show (1 : ℕ) ≤ 2 by decide, if_true, Int.add_sub_cancel]
    unfold monthStart
    omega

/-- The date with a given day of a year that begins in March. -/
def ofYearDay (year : ℤ) (day : ℕ) (h : day < if isLeap (year + 1) then 366 else 365) : Date where
  year := if monthOfDay day < 10 then year else year + 1
  month := if monthOfDay day < 10 then monthOfDay day + 3 else monthOfDay day - 9
  day := day - monthStart (monthOfDay day) + 1
  month_mem := by
    have hlt : day < 366 := h.trans_le (by split_ifs <;> decide)
    unfold monthOfDay
    split_ifs <;> omega
  day_mem := by
    have hlt : day < 366 := h.trans_le (by split_ifs <;> decide)
    have hmonth : monthOfDay day ≤ 11 := by
      unfold monthOfDay
      omega
    obtain ⟨hstart, hend⟩ := monthStart_monthOfDay day
    refine ⟨Nat.le_add_left 1 _, ?_⟩
    by_cases hfeb : monthOfDay day = 11
    · have hlast : monthStart (monthOfDay day) = 337 := by rw [hfeb]; rfl
      rw [hlast, hfeb]
      rw [show (if 11 < 10 then year else year + 1) = year + 1 from rfl,
        show (if 11 < 10 then 11 + 3 else 11 - 9) = 2 from rfl, monthLength_february]
      split_ifs at h ⊢ <;> omega
    · have hmonth : 1 ≤ (if monthOfDay day < 10 then monthOfDay day + 3 else monthOfDay day - 9) ∧
          (if monthOfDay day < 10 then monthOfDay day + 3 else monthOfDay day - 9) ≤ 12 := by
        split_ifs <;> omega
      have hlength := monthStart_add_monthLength
        (if monthOfDay day < 10 then year else year + 1) hmonth (by split_ifs <;> omega)
      have hmarch : ((if monthOfDay day < 10 then monthOfDay day + 3 else monthOfDay day - 9) + 9)
          % 12 = monthOfDay day := by split_ifs <;> omega
      rw [hmarch] at hlength
      omega

lemma dayNumber_ofYearDay {year : ℤ} {day : ℕ}
    (h : day < if isLeap (year + 1) then 366 else 365) :
    (ofYearDay year day h).dayNumber = yearStart year + day := by
  have hlt : day < 366 := h.trans_le (by split_ifs <;> decide)
  have hmonth : monthOfDay day ≤ 11 := by
    unfold monthOfDay
    omega
  have hstart := (monthStart_monthOfDay day).1
  have hyear : (ofYearDay year day h).marchYear = year := by
    simp only [marchYear, ofYearDay]
    split_ifs <;> omega
  have hmarch : (ofYearDay year day h).marchMonth = monthOfDay day := by
    simp only [marchMonth, ofYearDay]
    split_ifs <;> omega
  have hday : (ofYearDay year day h).day = day - monthStart (monthOfDay day) + 1 := rfl
  rw [dayNumber, hyear, hmarch, hday]
  omega

end Date

/-! ### The period of 400 years -/

/-- A day in the period: the century, the four years of the century, the year of these and the day
of the year. A century, and the fourth year, may end with a leap day. -/
structure PeriodDay where
  century : ℤ
  cycle : ℤ
  year : ℤ
  day : ℤ
  century_mem : 0 ≤ century ∧ century ≤ 3
  cycle_mem : 0 ≤ cycle ∧ cycle ≤ 24
  year_mem : 0 ≤ year ∧ year ≤ 3
  day_mem : 0 ≤ day ∧ (day < 365 ∨ day = 365 ∧ year = 3 ∧ (cycle < 24 ∨ century = 3))

namespace PeriodDay

def number (p : PeriodDay) : ℤ := 36524 * p.century + 1461 * p.cycle + 365 * p.year + p.day

def yearOfPeriod (p : PeriodDay) : ℤ := 100 * p.century + 4 * p.cycle + p.year

/-- The fourth century of the period is one day longer than the others, and so is the last year of
each four: the quotients have to be cut there. -/
lemma exists_number {n : ℤ} (h0 : 0 ≤ n) (h1 : n < 146097) : ∃ p : PeriodDay, p.number = n := by
  obtain ⟨c, hc, hlo, hhi⟩ : ∃ c : ℤ, (0 ≤ c ∧ c ≤ 3) ∧ 36524 * c ≤ n ∧
      (n < 36524 * (c + 1) ∨ c = 3 ∧ n = 146096) :=
    ⟨min (n / 36524) 3, by omega⟩
  obtain ⟨q, hq⟩ : ∃ q, q = (n - 36524 * c) / 1461 := ⟨_, rfl⟩
  obtain ⟨r, hr⟩ : ∃ r, r = min ((n - 36524 * c - 1461 * q) / 365) 3 := ⟨_, rfl⟩
  exact ⟨⟨c, q, r, n - 36524 * c - 1461 * q - 365 * r, hc, by omega, by omega, by omega⟩, by
    simp only [number]
    omega⟩

lemma yearStart_yearOfPeriod (p : PeriodDay) (period : ℤ) :
    yearStart (p.yearOfPeriod + period * 400) + p.day = period * 146097 + p.number := by
  have hc := p.century_mem
  have hq := p.cycle_mem
  have hr := p.year_mem
  unfold yearStart yearOfPeriod number
  omega

lemma day_lt (p : PeriodDay) (period : ℤ) :
    p.day.toNat < if isLeap (p.yearOfPeriod + period * 400 + 1) then 366 else 365 := by
  have hc := p.century_mem
  have hq := p.cycle_mem
  have hr := p.year_mem
  obtain ⟨hlo, hlt | ⟨hday, hyear, hleap⟩⟩ := p.day_mem
  · split_ifs <;> omega
  · have hleap : isLeap (p.yearOfPeriod + period * 400 + 1) = true := by
      simp only [isLeap, yearOfPeriod, Bool.or_eq_true, Bool.and_eq_true, beq_iff_eq, bne_iff_ne]
      omega
    rw [if_pos hleap]
    omega

end PeriodDay

namespace Date

def withDay (d : Date) (day : ℕ) (h : 1 ≤ day ∧ day ≤ monthLength d.year d.month) : Date :=
  ⟨d.year, d.month, day, d.month_mem, h⟩

lemma dayNumber_withDay (d : Date) {day : ℕ} (h : 1 ≤ day ∧ day ≤ monthLength d.year d.month) :
    (d.withDay day h).dayNumber = d.dayNumber + (day - d.day) := by
  have hyear : (d.withDay day h).marchYear = d.marchYear := rfl
  have hmonth : (d.withDay day h).marchMonth = d.marchMonth := rfl
  have hday : (d.withDay day h).day = day := rfl
  rw [dayNumber, hyear, hmonth, hday, dayNumber]
  omega

lemma eq_withDay {d e : Date} (hyear : e.year = d.year) (hmonth : e.month = d.month) :
    e = d.withDay e.day (by rw [← hyear, ← hmonth]; exact e.day_mem) :=
  Date.ext hyear hmonth rfl

end Date

/-- A count of the weekdays, with Sunday as 0, in which day 0 is a Thursday. -/
structure Weekdays where
  weekday : ℤ → ℕ
  weekday_lt : ∀ n, weekday n < 7
  weekday_zero : weekday 0 = 4
  weekday_succ : ∀ n, weekday (n + 1) = (weekday n + 1) % 7

/-- There is only one such count. -/
theorem Weekdays.weekday_eq (w : Weekdays) (n : ℤ) : w.weekday n = ((n + 4) % 7).toNat := by
  induction n with
  | zero => exact w.weekday_zero
  | succ n ih =>
    rw [w.weekday_succ, ih]
    omega
  | pred n ih =>
    have hsucc := w.weekday_succ (-(n : ℤ) - 1)
    have hlt := w.weekday_lt (-(n : ℤ) - 1)
    rw [Int.sub_add_cancel, ih] at hsucc
    omega

instance : Inhabited Weekdays where
  default :=
    { weekday := fun n => ((n + 4) % 7).toNat
      weekday_lt := fun n => by omega
      weekday_zero := rfl
      weekday_succ := fun n => by omega }

end PcRemote.Gregorian
