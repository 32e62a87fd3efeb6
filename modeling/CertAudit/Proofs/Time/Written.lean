/- The texts of a date and a time of day without separators, and the instants they stand for. -/
import CertAudit.Proofs.Time.Compact
import Mathlib
namespace CertAudit

/-- What stands before the digits of a year. -/
inductive YearSign
  | unsigned
  | plus
  | minus

namespace YearSign

def chars : YearSign → List Char
  | unsigned => []
  | plus => ['+']
  | minus => ['-']

/-- The year with a sign and a number. -/
def year : YearSign → Nat → Int
  | unsigned, n => n
  | plus, n => n
  | minus, n => -n

end YearSign

/-- A day of the calendar and a second of it, as numbers that can be written in fourteen digits. -/
structure WrittenTime where
  sign : YearSign
  year : Nat
  month : Nat
  day : Nat
  hour : Nat
  minute : Nat
  second : Nat
  fourDigits : year < 10 ^ 4
  date : Calendar.isDate (sign.year year) month day = true
  clock : hour ≤ 23 ∧ minute ≤ 59 ∧ second ≤ 59

namespace WrittenTime

variable {w : WrittenTime} {t : Timestamp}

/-- The digits `YYYYMMDDHHMMSS`. -/
def digits (w : WrittenTime) : List Char :=
  Timestamp.padded 4 w.year ++ (Timestamp.padded 2 w.month ++ (Timestamp.padded 2 w.day ++
    (Timestamp.padded 2 w.hour ++ (Timestamp.padded 2 w.minute ++ Timestamp.padded 2 w.second))))

def secondOfDay (w : WrittenTime) : Nat := w.hour * 3600 + w.minute * 60 + w.second

/-- A whole second whose date and time of day in UTC are the written ones. -/
structure IsInstant (w : WrittenTime) (t : Timestamp) : Prop where
  date : Calendar.dateOfDay (t.seconds / 86400) = (w.sign.year w.year, w.month, w.day)
  clock : t.seconds % 86400 = w.secondOfDay
  whole : t.nanos = 0
  utc : t.offset = 0

theorem bounds (w : WrittenTime) :
    w.month < 10 ^ 2 ∧ w.day < 10 ^ 2 ∧ w.hour < 10 ^ 2 ∧ w.minute < 10 ^ 2 ∧
      w.second < 10 ^ 2 := by
  have hdate := Calendar.isDate_bounds w.date
  have hclock := w.clock
  omega

theorem digits_length (w : WrittenTime) : w.digits.length = 14 := by
  obtain ⟨hmonth, hday, hhour, hminute, hsecond⟩ := w.bounds
  simp only [digits, List.length_append, Timestamp.padded_length (by decide) w.fourDigits,
    Timestamp.padded_length (by decide) hmonth, Timestamp.padded_length (by decide) hday,
    Timestamp.padded_length (by decide) hhour, Timestamp.padded_length (by decide) hminute,
    Timestamp.padded_length (by decide) hsecond]

theorem isDigit_of_mem_digits {c : Char} (h : c ∈ w.digits) : Literal.isDigit c = true := by
  simp only [digits, List.mem_append] at h
  rcases h with h | h | h | h | h | h <;> exact Timestamp.isDigit_of_mem_padded h

theorem secondOfDay_lt (w : WrittenTime) : w.secondOfDay < 86400 := by
  have hclock := w.clock
  simp only [secondOfDay]
  omega

theorem isInstant_iff :
    w.IsInstant t ↔
      t = .ofLocal (w.sign.year w.year) w.month w.day w.secondOfDay 0 0 := by
  have hsecond := w.secondOfDay_lt
  constructor
  · intro h
    have hnumber := Calendar.dayNumber_dateOfDay (t.seconds / 86400)
    rw [h.date] at hnumber
    obtain ⟨hdate, hclock, hwhole, hutc⟩ := h
    obtain ⟨seconds, nanos, offset⟩ := t
    subst hwhole hutc
    dsimp only at hnumber hclock
    have hseconds : seconds = seconds / 86400 * 86400 + w.secondOfDay := by omega
    rw [Timestamp.ofLocal, hnumber, ← hseconds, Int.sub_zero]
  · rintro rfl
    have hday : (Calendar.dayNumber (w.sign.year w.year) w.month w.day * 86400 +
        w.secondOfDay - 0) / 86400 =
          Calendar.dayNumber (w.sign.year w.year) w.month w.day := by
      omega
    constructor
    · rw [Timestamp.ofLocal, hday]
      exact Calendar.dateOfDay_dayNumber w.date
    · simp only [Timestamp.ofLocal]
      omega
    · rfl
    · rfl

end WrittenTime

namespace Timestamp

variable {year : Int} {t : Timestamp} {cs rest : List Char}

theorem signedYear?_eq_some_iff :
    signedYear? cs = some (year, rest) ↔
      ∃ (sign : YearSign) (n : Nat), n < 10 ^ 4 ∧ year = sign.year n ∧
        cs = sign.chars ++ (padded 4 n ++ rest) := by
  constructor
  · intro h
    unfold signedYear? at h
    split at h
    all_goals
      obtain ⟨⟨n, more⟩, hread, heq⟩ := Option.map_eq_some_iff.mp h
      obtain ⟨rfl, hn⟩ := (digits?_eq_some_iff (by decide)).mp hread
      cases heq
    · exact ⟨.minus, n, hn, rfl, rfl⟩
    · exact ⟨.plus, n, hn, rfl, rfl⟩
    · exact ⟨.unsigned, n, hn, rfl, rfl⟩
  · rintro ⟨sign, n, hn, rfl, rfl⟩
    have hread := digits?_padded (by decide) hn rest
    cases sign with
    | unsigned => exact signedYear?_padded hn rest
    | plus =>
      simp only [YearSign.chars, List.cons_append, List.nil_append, signedYear?, hread]
      rfl
    | minus =>
      simp only [YearSign.chars, List.cons_append, List.nil_append, signedYear?, hread]
      rfl

/-- What is read as a date and a time of day is their digits, with a sign or without. -/
theorem ofCompact?_eq_some_iff :
    ofCompact? cs = some t ↔
      ∃ w : WrittenTime, cs = w.sign.chars ++ w.digits ∧ w.IsInstant t := by
  constructor
  · intro h
    simp only [ofCompact?, bind, Option.bind_eq_some_iff, Prod.exists] at h
    obtain ⟨year, cs₁, hyear, month, cs₂, hmonth, day, cs₃, hday, hour, cs₄, hhour, minute, cs₅,
      hminute, second, cs₆, hsecond, inDay, hinDay, h⟩ := h
    -- Each reading gives the text back, so that the whole text is put together from the last one.
    obtain ⟨sign, n, hn, rfl, rfl⟩ := signedYear?_eq_some_iff.mp hyear
    obtain ⟨rfl, -⟩ := (digits?_eq_some_iff (by decide)).mp hmonth
    obtain ⟨rfl, -⟩ := (digits?_eq_some_iff (by decide)).mp hday
    obtain ⟨rfl, -⟩ := (digits?_eq_some_iff (by decide)).mp hhour
    obtain ⟨rfl, -⟩ := (digits?_eq_some_iff (by decide)).mp hminute
    obtain ⟨rfl, -⟩ := (digits?_eq_some_iff (by decide)).mp hsecond
    rw [secondOfDay?] at hinDay
    split at hinDay
    · rename_i hclock
      cases hinDay
      split at h
      · rename_i hdate
        rw [Bool.and_eq_true, List.isEmpty_iff] at hdate
        obtain ⟨rfl, hdate⟩ := hdate
        cases h
        refine ⟨⟨sign, n, month, day, hour, minute, second, hn, hdate, hclock⟩, ?_, ?_⟩
        · simp only [WrittenTime.digits, List.append_nil]
        · exact WrittenTime.isInstant_iff.mpr rfl
      · cases h
    · cases hinDay
  · rintro ⟨w, rfl, hinstant⟩
    obtain ⟨hmonth, hday, hhour, hminute, hsecond⟩ := w.bounds
    have hlast := digits?_padded (by decide) hsecond []
    rw [List.append_nil] at hlast
    have hread : ∀ more, signedYear? (w.sign.chars ++ (padded 4 w.year ++ more)) =
        some (w.sign.year w.year, more) := fun more =>
      signedYear?_eq_some_iff.mpr ⟨w.sign, w.year, w.fourDigits, rfl, rfl⟩
    have hinDay : secondOfDay? w.hour w.minute w.second = some w.secondOfDay :=
      if_pos w.clock
    simp only [WrittenTime.digits, ofCompact?, bind, Option.bind, hread,
      digits?_padded (by decide) hmonth, digits?_padded (by decide) hday,
      digits?_padded (by decide) hhour, digits?_padded (by decide) hminute, hlast, hinDay,
      w.date, List.isEmpty_nil, Bool.and_self, if_true]
    rw [WrittenTime.isInstant_iff.mp hinstant]

end Timestamp
end CertAudit
