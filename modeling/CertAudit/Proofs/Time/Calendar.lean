/- Every day has a date in the calendar, and its number is the number of that date. An instant has a
text just where its date has a year of four digits. -/
import CertAudit.Time.Timestamp
import Mathlib.Data.Int.Basic
namespace CertAudit
namespace Calendar

/-- The days of an era, which are 400 years from a first of March, before one of its years. -/
def daysBefore (year : Int) : Int := 365 * year + year / 4 - year / 100

/-- The days of an era before one of them, without the leap days before it. -/
def plainDays (day : Int) : Int := day - day / 1460 + day / 36524 - day / 146096

/-- The year of an era that a day is in. -/
def yearOf (day : Int) : Int := plainDays day / 365

variable {day : Int}

theorem plainDays_mono {a b : Int} (h : a ≤ b) : plainDays a ≤ plainDays b := by
  simp only [plainDays]
  omega

/-- The first day of a later year is its first without the leap days too; the day before is not. -/
theorem plainDays_daysBefore : ∀ year : Nat, year < 399 →
    365 * ((year + 1 : Nat) : Int) ≤ plainDays (daysBefore (year + 1 : Nat)) ∧
      plainDays (daysBefore (year + 1 : Nat) - 1) < 365 * ((year + 1 : Nat) : Int) := by
  decide +kernel

/-- A year of an era but its last has 365 days, and one more if a leap day ends it. -/
theorem daysBefore_succ : ∀ year : Nat, year < 399 →
    daysBefore (year + 1 : Nat) =
      daysBefore year + (if isLeap (year + 1) then 366 else 365 : Nat) := by
  decide +kernel

theorem yearOf_bounds (h : 0 ≤ day) (h' : day < 146097) : 0 ≤ yearOf day ∧ yearOf day ≤ 399 := by
  simp only [yearOf, plainDays]
  omega

theorem daysBefore_yearOf_le (h : 0 ≤ day) (h' : day < 146097) :
    daysBefore (yearOf day) ≤ day := by
  obtain ⟨hlow, hhigh⟩ := yearOf_bounds h h'
  obtain ⟨year, hyear⟩ := Int.eq_ofNat_of_zero_le hlow
  cases year with
  | zero => simpa [hyear, daysBefore] using h
  | succ year =>
    refine Int.not_lt.mp fun hlt => ?_
    have hmono := plainDays_mono (Int.le_sub_one_of_lt hlt)
    have hbefore := (plainDays_daysBefore year (by omega)).2
    have hfloor : 365 * yearOf day ≤ plainDays day := by
      simp only [yearOf]
      omega
    rw [hyear] at hmono hfloor
    omega

theorem lt_daysBefore_succ {year : Nat} (hyear : yearOf day = year) (hlast : year < 399) :
    day < daysBefore (year + 1 : Nat) := by
  refine Int.not_le.mp fun hle => ?_
  have hmono := plainDays_mono hle
  have hfirst := (plainDays_daysBefore year hlast).1
  have hfloor : plainDays day < 365 * (yearOf day + 1) := by
    simp only [yearOf]
    omega
  omega

/-- The day of its year of a day of an era. -/
def dayOfYear (day : Int) : Int := day - daysBefore (yearOf day)

theorem dayOfYear_bounds (h : 0 ≤ day) (h' : day < 146097) :
    0 ≤ dayOfYear day ∧
      dayOfYear day < (if isLeap (yearOf day + 1) then 366 else 365 : Nat) := by
  have hfirst := daysBefore_yearOf_le h h'
  obtain ⟨hlow, hhigh⟩ := yearOf_bounds h h'
  refine ⟨Int.sub_nonneg_of_le hfirst, ?_⟩
  obtain ⟨year, hyear⟩ := Int.eq_ofNat_of_zero_le hlow
  simp only [dayOfYear, hyear]
  rcases Nat.lt_or_eq_of_le (show year ≤ 399 by omega) with hlt | rfl
  · have hnext := lt_daysBefore_succ hyear hlt
    rw [daysBefore_succ year hlt] at hnext
    exact Int.sub_left_lt_of_lt_add hnext
  · have hera : daysBefore (399 : Nat) + 366 = 146097 := by decide
    have hleap : isLeap ((399 : Nat) + 1) = true := by decide
    rw [if_pos hleap]
    omega

/-- The months from March to that of a day of a year. -/
def fromMarch (day : Int) : Int := (5 * day + 2) / 153

/-- The month of a day of a year that begins in March. -/
def monthOf (day : Int) : Nat :=
  (if fromMarch day < 10 then fromMarch day + 3 else fromMarch day - 9).toNat

/-- The day of its month of a day of a year that begins in March. -/
def dayOfMonth (day : Int) : Nat := (day - (153 * fromMarch day + 2) / 5 + 1).toNat

/-- A day of a year is a day of a month, and its month and day of the month give it back. -/
theorem monthOf_dayOfMonth : ∀ leap : Bool, ∀ day : Nat, day < (if leap then 366 else 365) →
    (1 ≤ dayOfMonth day ∧ dayOfMonth day ≤ daysInMonth (if leap then 4 else 1) (monthOf day)) ∧
      (153 * (((monthOf day : Int) + 9) % 12) + 2) / 5 + (dayOfMonth day - 1 : Int) = day := by
  decide +kernel

/-- The years of an era take turns with leap days as the years from 0 on do. -/
theorem isLeap_add_era (year era : Int) : isLeap (year + era * 400) = isLeap year := by
  have h4 : (year + era * 400) % 4 = year % 4 := by omega
  have h100 : (year + era * 400) % 100 = year % 100 := by omega
  have h400 : (year + era * 400) % 400 = year % 400 := by omega
  simp only [isLeap, h4, h100, h400]

/-- Only February has days that depend on the year. -/
theorem daysInMonth_congr {a b : Int} {month : Nat} (h : month = 2 → isLeap a = isLeap b) :
    daysInMonth a month = daysInMonth b month := by
  simp only [daysInMonth]
  split
  · rw [h ‹_›]
  · rfl

theorem isDate_first {year : Int} {month day : Nat} (h : isDate year month day = true) :
    1 ≤ month ∧ 1 ≤ day := by
  simp only [isDate, Bool.and_eq_true, decide_eq_true_eq] at h
  obtain ⟨hfirst, hlast⟩ := h
  refine ⟨Nat.pos_of_ne_zero ?_, hfirst⟩
  rintro rfl
  have hnone : daysInMonth year 0 = 0 := rfl
  omega

theorem isDate_bounds {year : Int} {month day : Nat} (h : isDate year month day = true) :
    month ≤ 12 ∧ day ≤ 31 := by
  simp only [isDate, Bool.and_eq_true, decide_eq_true_eq] at h
  obtain ⟨hfirst, hlast⟩ := h
  unfold daysInMonth at hlast
  split at hlast
  · split at hlast <;> omega
  · split at hlast
    · omega
    · split at hlast <;> omega

/-- The day of its era of a day number. -/
def dayOfEra (number : Int) : Int := (number + 719468) % 146097

/-- The year of a day number, counted from March. -/
def marchYear (number : Int) : Int :=
  yearOf (dayOfEra number) + (number + 719468) / 146097 * 400

theorem dateOfDay_eq (number : Int) :
    dateOfDay number =
      (marchYear number + (if monthOf (dayOfYear (dayOfEra number)) ≤ 2 then 1 else 0),
        monthOf (dayOfYear (dayOfEra number)), dayOfMonth (dayOfYear (dayOfEra number))) := by
  simp only [monthOf, Int.toNat_le]
  rfl

theorem dayOfEra_bounds (number : Int) : 0 ≤ dayOfEra number ∧ dayOfEra number < 146097 := by
  simp only [dayOfEra]
  omega

theorem exists_dayOfYear (number : Int) :
    ∃ day : Nat, dayOfYear (dayOfEra number) = day ∧
      day < if isLeap (yearOf (dayOfEra number) + 1) then 366 else 365 := by
  obtain ⟨hfirst, hlast⟩ := dayOfEra_bounds number
  obtain ⟨hday, hday'⟩ := dayOfYear_bounds hfirst hlast
  obtain ⟨day, hnat⟩ := Int.eq_ofNat_of_zero_le hday
  exact ⟨day, hnat, Int.ofNat_lt.mp (hnat ▸ hday')⟩

theorem isDate_dateOfDay (number : Int) :
    isDate (dateOfDay number).1 (dateOfDay number).2.1 (dateOfDay number).2.2 = true := by
  obtain ⟨day, hnat, hday⟩ := exists_dayOfYear number
  obtain ⟨leap, hleap⟩ : ∃ leap, isLeap (yearOf (dayOfEra number) + 1) = leap := ⟨_, rfl⟩
  rw [hleap] at hday
  obtain ⟨⟨hfirst, hlast⟩, _⟩ := monthOf_dayOfMonth leap day hday
  -- the month of a leap day is in the year that ends with it, not in the one it is counted in
  have hsame : daysInMonth (if leap then 4 else 1) (monthOf day) =
      daysInMonth (marchYear number + if monthOf day ≤ 2 then 1 else 0) (monthOf day) := by
    refine daysInMonth_congr fun hfebruary => ?_
    rw [hfebruary, if_pos (Nat.le_refl 2), marchYear, Int.add_right_comm, isLeap_add_era, hleap]
    cases leap <;> rfl
  rw [dateOfDay_eq, hnat]
  simp only [isDate, ← hsame, hfirst, hlast, decide_true, Bool.and_self]

theorem dayNumber_dateOfDay (number : Int) :
    dayNumber (dateOfDay number).1 (dateOfDay number).2.1 (dateOfDay number).2.2 = number := by
  obtain ⟨day, hnat, hday⟩ := exists_dayOfYear number
  obtain ⟨_, hback⟩ := monthOf_dayOfMonth _ day hday
  have hcount : dayNumber (marchYear number + if monthOf day ≤ 2 then 1 else 0) (monthOf day)
      (dayOfMonth day) = 365 * marchYear number + marchYear number / 4 - marchYear number / 100
        + marchYear number / 400 + day - 719468 := by
    simp only [dayNumber, hback]
    split <;> simp only [Int.add_sub_cancel, Int.add_zero]
  have hera : dayOfEra number = daysBefore (yearOf (dayOfEra number)) + day := by
    rw [← hnat, dayOfYear]
    omega
  obtain ⟨hyear, hyear'⟩ := yearOf_bounds (dayOfEra_bounds number).1 (dayOfEra_bounds number).2
  rw [dateOfDay_eq, hnat, hcount]
  -- an era has 146097 days, and adds 400 to the year
  simp only [marchYear]
  simp only [daysBefore, dayOfEra] at hera hyear hyear' ⊢
  omega

/-- The days from the first of March of the year 0 to that of a year. -/
def daysToMarch (year : Int) : Int := 365 * year + year / 4 - year / 100 + year / 400

theorem dayNumber_first (year : Int) :
    dayNumber year 1 1 = daysToMarch (year - 1) + 306 - 719468 := by
  rw [daysToMarch]
  rfl

theorem dayNumber_first_mono {a b : Int} (h : a ≤ b) : dayNumber a 1 1 ≤ dayNumber b 1 1 := by
  simp only [dayNumber_first, daysToMarch]
  omega

/-- The days of a year come after its first and before the first of the next year. -/
theorem dayNumber_bounds {year : Int} {month day : Nat} (h : isDate year month day = true) :
    dayNumber year 1 1 ≤ dayNumber year month day ∧
      dayNumber year month day < dayNumber (year + 1) 1 1 := by
  obtain ⟨hmonth, hday⟩ := isDate_first h
  obtain ⟨hmonth', hday'⟩ := isDate_bounds h
  have hnumber : dayNumber year month day = daysToMarch (if month ≤ 2 then year - 1 else year) +
      ((153 * (((month : Int) + 9) % 12) + 2) / 5 + (day - 1 : Int)) - 719468 := rfl
  simp only [hnumber, dayNumber_first, daysToMarch]
  split
  · omega
  · omega

/-- The dates of earlier years are those of the days before the first of a year. -/
theorem year_lt_iff (number year : Int) :
    (dateOfDay number).1 < year ↔ number < dayNumber year 1 1 := by
  obtain ⟨hfirst, hnext⟩ := dayNumber_bounds (isDate_dateOfDay number)
  rw [dayNumber_dateOfDay] at hfirst hnext
  constructor
  · intro h
    exact Int.lt_of_lt_of_le hnext (dayNumber_first_mono (Int.add_one_le_of_lt h))
  · intro h
    by_contra hlater
    have hmono := dayNumber_first_mono (Int.not_lt.mp hlater)
    exact absurd h (Int.not_lt.mpr (Int.le_trans hmono hfirst))

theorem dayNumber_eq_add (year : Int) (month day : Nat) :
    dayNumber year month day = dayNumber year month 1 + (day - 1 : Int) := by
  simp only [dayNumber]
  omega

theorem dayNumber_march (year : Int) :
    dayNumber year 3 1 = dayNumber year 2 1 + (if isLeap year then 29 else 28 : Nat) := by
  by_cases hleap : isLeap year = true
  · rw [if_pos hleap]
    simp only [isLeap, Bool.and_eq_true, Bool.or_eq_true, bne_iff_ne, beq_iff_eq] at hleap
    simp only [dayNumber]
    omega
  · rw [if_neg hleap]
    simp only [isLeap, Bool.and_eq_true, Bool.or_eq_true, bne_iff_ne, beq_iff_eq] at hleap
    simp only [dayNumber]
    omega

/-- The lengths of the months from one March to the next February, which ends that count. -/
theorem fromMarch_next : ∀ month : Nat, month < 12 → 1 ≤ month → month ≠ 2 →
    (153 * (((month + 1 : Nat) + 9 : Int) % 12) + 2) / 5 =
      (153 * ((month + 9 : Int) % 12) + 2) / 5 + daysInMonth 0 month := by
  decide

/-- A month ends where the next one of its year begins. -/
theorem dayNumber_nextMonth {year : Int} {month : Nat} (h : 1 ≤ month) (h' : month < 12) :
    dayNumber year (month + 1) 1 = dayNumber year month 1 + daysInMonth year month := by
  by_cases hfebruary : month = 2
  · subst hfebruary
    exact dayNumber_march year
  · have hlength : daysInMonth year month = daysInMonth 0 month :=
      daysInMonth_congr fun h => absurd h hfebruary
    have hnext := fromMarch_next month h' h hfebruary
    have hsame : (month + 1 ≤ 2) = (month ≤ 2) := propext (by omega)
    simp only [dayNumber, hsame, hlength, hnext]
    omega

theorem dayNumber_month_mono {year : Int} {a b : Nat} (ha : 1 ≤ a) (h : a ≤ b) (hb : b ≤ 12) :
    dayNumber year a 1 ≤ dayNumber year b 1 := by
  induction b, h using Nat.le_induction with
  | base => exact Int.le_refl _
  | succ b hle ih =>
    have hnext : dayNumber year (b + 1) 1 = dayNumber year b 1 + daysInMonth year b :=
      dayNumber_nextMonth (Nat.le_trans ha hle) hb
    have hbefore := ih (Nat.le_of_succ_le hb)
    omega

/-- The days of a month come before those of a later month of its year. -/
theorem dayNumber_lt_of_month_lt {year : Int} {month day month' day' : Nat}
    (h : isDate year month day = true) (h' : isDate year month' day' = true)
    (hlt : month < month') : dayNumber year month day < dayNumber year month' day' := by
  have hmonths := isDate_bounds h'
  have hnext : dayNumber year (month + 1) 1 = dayNumber year month 1 + daysInMonth year month :=
    dayNumber_nextMonth (isDate_first h).1 (by omega)
  have hmono : dayNumber year (month + 1) 1 ≤ dayNumber year month' 1 :=
    dayNumber_month_mono (Nat.succ_pos month) hlt hmonths.1
  have hlast : day ≤ daysInMonth year month := by
    simp only [isDate, Bool.and_eq_true, decide_eq_true_eq] at h
    exact h.2
  rw [dayNumber_eq_add year month, dayNumber_eq_add year month']
  have hfirst := (isDate_first h').2
  omega

theorem dayNumber_inj {year : Int} {month day month' day' : Nat}
    (h : isDate year month day = true) (h' : isDate year month' day' = true)
    (heq : dayNumber year month day = dayNumber year month' day') :
    month = month' ∧ day = day' := by
  have hmonth : month = month' := by
    rcases Nat.lt_trichotomy month month' with hlt | hsame | hgt
    · exact absurd heq (Int.ne_of_lt (dayNumber_lt_of_month_lt h h' hlt))
    · exact hsame
    · exact absurd heq.symm (Int.ne_of_lt (dayNumber_lt_of_month_lt h' h hgt))
  subst hmonth
  rw [dayNumber_eq_add year month day, dayNumber_eq_add year month day'] at heq
  exact ⟨rfl, by omega⟩

/-- The number of a day gives its date back. -/
theorem dateOfDay_dayNumber {year : Int} {month day : Nat}
    (h : isDate year month day = true) :
    dateOfDay (dayNumber year month day) = (year, month, day) := by
  obtain ⟨hfirst, hnext⟩ := dayNumber_bounds h
  have hback := dayNumber_dateOfDay (dayNumber year month day)
  have hdate := isDate_dateOfDay (dayNumber year month day)
  have hafter := (year_lt_iff (dayNumber year month day) (year + 1)).mpr hnext
  have hbefore := mt (year_lt_iff (dayNumber year month day) year).mp (Int.not_lt.mpr hfirst)
  generalize dateOfDay (dayNumber year month day) = date at *
  obtain ⟨year', month', day'⟩ := date
  have hyear : year' = year := by
    dsimp only at hafter hbefore
    omega
  subst hyear
  obtain ⟨rfl, rfl⟩ := dayNumber_inj hdate h hback
  rfl

end Calendar

namespace Timestamp

/-- The first second of the year 0. -/
def yearZero : Int := -62167219200

/-- An instant shown in UTC has no text before the year 0 and behind the year 9999. -/
theorem rfc3339?_eq_none_iff (t : Timestamp) (hutc : t.offset = 0) :
    t.rfc3339? = none ↔ t.seconds < yearZero ∨ latest < t.seconds := by
  have hfirst : Calendar.dayNumber 0 1 1 * 86400 = yearZero := rfl
  have hbehind : Calendar.dayNumber 10000 1 1 * 86400 = latest + 1 := rfl
  have hbefore := Calendar.year_lt_iff (t.seconds / 86400) 0
  have hwithin := Calendar.year_lt_iff (t.seconds / 86400) 10000
  simp only [rfc3339?, hutc, Int.add_zero]
  split
  · rename_i hyear
    simp only [true_iff]
    omega
  · rename_i hyear
    simp only [reduceCtorEq, false_iff]
    omega

end Timestamp
end CertAudit
