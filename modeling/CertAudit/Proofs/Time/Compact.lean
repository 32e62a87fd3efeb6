/- Whole seconds in UTC, and the digits that spell them without separators. -/
import CertAudit.Proofs.Number.Digits
import CertAudit.Proofs.Time.Calendar
import CertAudit.Time.Reader
import Mathlib
namespace CertAudit
namespace Timestamp

variable {width n : Nat} {cs ds rest : List Char}

theorem digitsNat_eq_ofDigitChars (cs : List Char) :
    Literal.digitsNat cs = Nat.ofDigitChars 10 cs 0 := by
  rw [Literal.digitsNat, Nat.ofDigitChars_eq_foldl]
  simp only [Nat.mul_comm 10]
  rfl

theorem padded_length (hwidth : 0 < width) (hn : n < 10 ^ width) :
    (padded width n).length = width := by
  have hdigits := (Nat.length_toDigits_le_iff (by decide) hwidth).mpr hn
  simp only [padded, List.length_append, List.length_replicate]
  omega

theorem isDigit_of_mem_padded {c : Char} (h : c ∈ padded width n) : Literal.isDigit c = true := by
  rcases List.mem_append.mp h with hzero | hdigit
  · rw [List.eq_of_mem_replicate hzero]
    rfl
  · exact Nat.isDigit_of_mem_toDigits (by decide) (by decide) hdigit

theorem digitsNat_padded : Literal.digitsNat (padded width n) = n := by
  rw [digitsNat_eq_ofDigitChars, padded, Nat.ofDigitChars_append,
    Nat.ofDigitChars_replicate_zero, Nat.mul_zero,
    Nat.ofDigitChars_toDigits (by decide) (by decide)]

/-- A number written with zeros before it is read back off the front. -/
theorem digits?_padded (hwidth : 0 < width) (hn : n < 10 ^ width) (rest : List Char) :
    digits? width (padded width n ++ rest) = some (n, rest) := by
  have hlength := padded_length hwidth hn
  have hall : (padded width n).all Literal.isDigit = true :=
    List.all_eq_true.mpr fun c => isDigit_of_mem_padded
  simp only [digits?, List.take_left' hlength, List.drop_left' hlength, hlength, hall,
    digitsNat_padded, decide_true, Bool.and_self, if_true]

/-- A year without a sign is read as one. -/
theorem signedYear?_padded (hn : n < 10 ^ 4) (rest : List Char) :
    signedYear? (padded 4 n ++ rest) = some ((n : Int), rest) := by
  have hread := digits?_padded (by decide) hn rest
  have hlength : (padded 4 n).length = 4 := padded_length (by decide) hn
  have hsign : ∀ sign more, Literal.isDigit sign = false →
      padded 4 n ++ rest ≠ sign :: more := by
    intro sign more hsign h
    obtain ⟨c, cs, hcs⟩ := List.exists_cons_of_length_pos (show 0 < (padded 4 n).length by omega)
    have hmem : c ∈ padded 4 n := hcs ▸ List.mem_cons_self
    rw [hcs, List.cons_append] at h
    cases h
    rw [isDigit_of_mem_padded hmem] at hsign
    cases hsign
  rw [signedYear?, hread]
  · rfl
  · exact fun more => hsign _ more (by decide)
  · exact fun more => hsign _ more (by decide)

theorem ofDigitChars_snoc {front : List Char} {d : Nat} (hd : d < 10) :
    Nat.ofDigitChars 10 (front ++ [d.digitChar]) 0 = 10 * Nat.ofDigitChars 10 front 0 + d := by
  rw [Nat.ofDigitChars_append, Nat.ofDigitChars_cons_digitChar_of_lt_ten hd, Nat.ofDigitChars_nil]

theorem ofDigitChars_lt (h : ∀ c ∈ cs, c.isDigit = true) :
    Nat.ofDigitChars 10 cs 0 < 10 ^ cs.length := by
  induction cs using List.reverseRecOn with
  | nil => decide
  | append_singleton front c ih =>
    obtain ⟨hfront, hlast⟩ := List.forall_mem_append.mp h
    obtain ⟨d, hd, rfl⟩ := IsNumeral.exists_digitChar (hlast c List.mem_cons_self)
    have hlt := ih hfront
    rw [ofDigitChars_snoc hd, List.length_append, List.length_singleton, Nat.pow_succ]
    omega

/-- As many digits that stand for the same number are the same digits. -/
theorem eq_of_ofDigitChars_eq (hlength : cs.length = ds.length)
    (hcs : ∀ c ∈ cs, c.isDigit = true) (hds : ∀ c ∈ ds, c.isDigit = true)
    (hvalue : Nat.ofDigitChars 10 cs 0 = Nat.ofDigitChars 10 ds 0) : cs = ds := by
  induction cs using List.reverseRecOn generalizing ds with
  | nil => exact (List.length_eq_zero_iff.mp hlength.symm).symm
  | append_singleton front c ih =>
    cases ds using List.reverseRecOn with
    | nil => simp at hlength
    | append_singleton front' c' =>
      obtain ⟨hfront, hlast⟩ := List.forall_mem_append.mp hcs
      obtain ⟨hfront', hlast'⟩ := List.forall_mem_append.mp hds
      obtain ⟨d, hd, rfl⟩ := IsNumeral.exists_digitChar (hlast c List.mem_cons_self)
      obtain ⟨d', hd', rfl⟩ := IsNumeral.exists_digitChar (hlast' c' List.mem_cons_self)
      rw [ofDigitChars_snoc hd, ofDigitChars_snoc hd'] at hvalue
      have hsame : d = d' := by omega
      have hfronts : front = front' := by
        refine ih ?_ hfront hfront' (by omega)
        simpa using hlength
      rw [hsame, hfronts]

/-- Digits read off the front are those of their number, with zeros before it. -/
theorem digits?_eq_some_iff (hwidth : 0 < width) :
    digits? width cs = some (n, rest) ↔ cs = padded width n ++ rest ∧ n < 10 ^ width := by
  constructor
  · intro h
    rw [digits?] at h
    split at h
    · rename_i hdigits
      rw [Bool.and_eq_true, decide_eq_true_eq, List.all_eq_true] at hdigits
      obtain ⟨hlength, hall⟩ := hdigits
      cases h
      rw [digitsNat_eq_ofDigitChars]
      have hlt := ofDigitChars_lt hall
      rw [hlength] at hlt
      have hpadded : padded width (Nat.ofDigitChars 10 (cs.take width) 0) = cs.take width := by
        refine eq_of_ofDigitChars_eq ?_ (fun c => isDigit_of_mem_padded) hall ?_
        · rw [padded_length hwidth hlt, hlength]
        · rw [← digitsNat_eq_ofDigitChars, digitsNat_padded]
      rw [hpadded, List.take_append_drop]
      exact ⟨rfl, hlt⟩
    · cases h
  · rintro ⟨rfl, hn⟩
    exact digits?_padded hwidth hn rest

end Timestamp

/-- A whole second in UTC, in a year of four digits. -/
structure WholeSecond where
  seconds : Int
  year : 0 ≤ (Calendar.dateOfDay (seconds / 86400)).1 ∧
    (Calendar.dateOfDay (seconds / 86400)).1 ≤ 9999

namespace WholeSecond

/-- The instant. -/
def timestamp (t : WholeSecond) : Timestamp := { seconds := t.seconds }

/-- The digits of the date. -/
def dateChars (t : WholeSecond) : List Char :=
  let (year, month, day) := Calendar.dateOfDay (t.seconds / 86400)
  Timestamp.padded 4 year.toNat ++ (Timestamp.padded 2 month ++ Timestamp.padded 2 day)

/-- The digits of the time of day. -/
def clockChars (t : WholeSecond) : List Char :=
  let second := (t.seconds % 86400).toNat
  Timestamp.padded 2 (second / 3600) ++
    (Timestamp.padded 2 (second / 60 % 60) ++ Timestamp.padded 2 (second % 60))

/-- The date and the time of day in digits only. -/
def compactChars (t : WholeSecond) : List Char := t.dateChars ++ t.clockChars

theorem ofCompact?_compactChars (t : WholeSecond) :
    Timestamp.ofCompact? t.compactChars = some t.timestamp := by
  have hdate := Calendar.isDate_dateOfDay (t.seconds / 86400)
  have hnumber := Calendar.dayNumber_dateOfDay (t.seconds / 86400)
  have hyear := t.year
  simp only [compactChars, dateChars, clockChars]
  generalize Calendar.dateOfDay (t.seconds / 86400) = date at hdate hnumber hyear
  obtain ⟨year, month, day⟩ := date
  dsimp only at hdate hnumber hyear ⊢
  obtain ⟨year, rfl⟩ := Int.eq_ofNat_of_zero_le hyear.1
  obtain ⟨hmonth, hday⟩ := Calendar.isDate_bounds hdate
  generalize hsecond : (t.seconds % 86400).toNat = second
  have hlast := Timestamp.digits?_padded (by decide) (show second % 60 < 10 ^ 2 by omega) []
  rw [List.append_nil] at hlast
  simp only [List.append_assoc, Timestamp.ofCompact?, Int.toNat_natCast, bind, Option.bind,
    Timestamp.signedYear?_padded (show year < 10 ^ 4 by omega),
    Timestamp.digits?_padded (by decide) (show month < 10 ^ 2 by omega),
    Timestamp.digits?_padded (by decide) (show day < 10 ^ 2 by omega),
    Timestamp.digits?_padded (by decide) (show second / 3600 < 10 ^ 2 by omega),
    Timestamp.digits?_padded (by decide) (show second / 60 % 60 < 10 ^ 2 by omega), hlast]
  have hofDay : Timestamp.secondOfDay? (second / 3600) (second / 60 % 60) (second % 60) =
      some second := by
    rw [Timestamp.secondOfDay?, if_pos (by omega)]
    exact congrArg some (by omega)
  simp only [hofDay, hdate, List.isEmpty_nil, Bool.and_self, if_true, Timestamp.ofLocal, hnumber,
    timestamp]
  have hseconds : t.seconds / 86400 * 86400 + second - 0 = t.seconds := by omega
  rw [hseconds]

theorem isDigit_of_mem_compactChars {t : WholeSecond} {c : Char} (h : c ∈ t.compactChars) :
    Literal.isDigit c = true := by
  simp only [compactChars, dateChars, clockChars, List.mem_append] at h
  rcases h with (h | h | h) | h | h | h <;> exact Timestamp.isDigit_of_mem_padded h

end WholeSecond
end CertAudit
