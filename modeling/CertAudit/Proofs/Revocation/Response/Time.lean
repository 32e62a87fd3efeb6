/- Which bytes are read as a time, and which of them are the digits of a UTC time up to a `Z`. -/
import CertAudit.Proofs.Bytes
import CertAudit.Proofs.Time.Written
import CertAudit.Revocation.Response
import Mathlib
namespace CertAudit

theorem YearSign.chars_append_inj {sign sign' : YearSign} {cs ds : List Char}
    (hcs : ∀ c more, cs = c :: more → Literal.isDigit c = true)
    (hds : ∀ d more, ds = d :: more → Literal.isDigit d = true)
    (h : sign.chars ++ cs = sign'.chars ++ ds) : sign = sign' ∧ cs = ds := by
  -- A sign is no digit, so that it is not taken for the first digit behind no sign.
  cases sign with
  | unsigned =>
    cases sign' with
    | unsigned => exact ⟨rfl, h⟩
    | plus => exact absurd (hcs '+' ds h) (by decide)
    | minus => exact absurd (hcs '-' ds h) (by decide)
  | plus =>
    cases sign' with
    | unsigned => exact absurd (hds '+' cs h.symm) (by decide)
    | plus => exact ⟨rfl, List.tail_eq_of_cons_eq h⟩
    | minus => exact absurd (List.head_eq_of_cons_eq h) (by decide)
  | minus =>
    cases sign' with
    | unsigned => exact absurd (hds '-' cs h.symm) (by decide)
    | plus => exact absurd (List.head_eq_of_cons_eq h) (by decide)
    | minus => exact ⟨rfl, List.tail_eq_of_cons_eq h⟩

namespace WrittenTime

variable {w w' : WrittenTime} {tail tail' : List Char}

/-- A written time with more text behind it. -/
def bytes (w : WrittenTime) (tail : List Char) : Bytes :=
  Bytes.ofString (String.ofList (w.sign.chars ++ (w.digits ++ tail)))

theorem isDigit_of_digits_append (c : Char) (more : List Char)
    (h : w.digits ++ tail = c :: more) : Literal.isDigit c = true := by
  obtain ⟨d, ds, hdigits⟩ :=
    List.exists_cons_of_length_pos (show 0 < w.digits.length by rw [w.digits_length]; decide)
  have hd : Literal.isDigit d = true := isDigit_of_mem_digits (hdigits ▸ List.mem_cons_self)
  rw [hdigits, List.cons_append] at h
  rwa [← List.head_eq_of_cons_eq h]

/-- The text tells the sign and what stands behind the digits. -/
theorem bytes_inj (h : w.bytes tail = w'.bytes tail') : w.sign = w'.sign ∧ tail = tail' := by
  have hchars := String.ofList_injective (Bytes.ofString_injective h)
  obtain ⟨hsign, hdigits⟩ :=
    YearSign.chars_append_inj isDigit_of_digits_append isDigit_of_digits_append hchars
  exact ⟨hsign, (List.append_inj hdigits (by rw [digits_length, digits_length])).2⟩

end WrittenTime

/-- The texts behind the seconds that end a UTC time: a point with digits, if any, and a `Z`. -/
inductive ClosesTime : List Char → Prop
  | zulu : ClosesTime ['Z']
  | fraction {ds : List Char} : ds ≠ [] → (∀ d ∈ ds, Literal.isDigit d = true) →
      ClosesTime ('.' :: (ds ++ ['Z']))

theorem ClosesTime.getLast? {tail : List Char} (h : ClosesTime tail) :
    tail.getLast? = some 'Z' := by
  cases h with
  | zulu => rfl
  | fraction => rw [← List.cons_append, List.getLast?_concat]

/-- A time of the form `YYYYMMDDHHMMSS[.fff]Z` with the instant of its whole second. -/
def IsGeneralizedTime (content : Bytes) (t : Timestamp) : Prop :=
  ∃ (w : WrittenTime) (tail : List Char),
    w.sign = .unsigned ∧ ClosesTime tail ∧ content = w.bytes tail ∧ w.IsInstant t

namespace ResponseReader

variable {content : Bytes} {t : Timestamp} {cs front tail : List Char}

/-- The texts behind the seconds that do not count. -/
inductive Ignored : List Char → Prop
  | nothing : Ignored []
  | zulu : Ignored ['Z']
  | point (cs : List Char) : Ignored ('.' :: cs)

theorem ignored_of_closesTime (h : ClosesTime tail) : Ignored tail := by
  cases h with
  | zulu => exact .zulu
  | fraction => exact .point _

theorem dropZulu_cases (cs : List Char) : cs = dropZulu cs ∨ cs = dropZulu cs ++ ['Z'] := by
  rw [dropZulu]
  split
  · rename_i hlast
    exact .inr (List.dropLast_append_getLast? 'Z' (beq_iff_eq.mp hlast)).symm
  · exact .inl rfl

theorem dropZulu_append_point (front more : List Char) :
    ∃ more', dropZulu (front ++ '.' :: more) = front ++ '.' :: more' := by
  rcases dropZulu_cases (front ++ '.' :: more) with h | h
  · exact ⟨more, h.symm⟩
  · rcases List.eq_nil_or_concat more with rfl | ⟨init, last, rfl⟩
    · simp at h
    · refine ⟨init, ?_⟩
      have hinit : front ++ '.' :: init ++ [last] =
          dropZulu (front ++ '.' :: (init.concat last)) ++ ['Z'] := by
        rw [← h]
        simp
      exact (List.append_inj' hinit rfl).1.symm

theorem beforePoint_of_not_mem (h : '.' ∉ front) : beforePoint front = front :=
  List.takeWhile_eq_self_iff.mpr fun _ hc => bne_iff_ne.mpr (ne_of_mem_of_not_mem hc h)

theorem beforePoint_append_point (h : '.' ∉ front) (more : List Char) :
    beforePoint (front ++ '.' :: more) = front := by
  rw [beforePoint, List.takeWhile_append_of_pos]
  · simp
  · exact fun _ hc => bne_iff_ne.mpr (ne_of_mem_of_not_mem hc h)

theorem beforePoint_cases (cs : List Char) :
    cs = beforePoint cs ∨ ∃ more, cs = beforePoint cs ++ '.' :: more := by
  have hsplit := List.takeWhile_append_dropWhile (p := (· != '.')) (l := cs)
  cases hrest : cs.dropWhile (· != '.') with
  | nil =>
    rw [hrest, List.append_nil] at hsplit
    exact .inl hsplit.symm
  | cons c more =>
    have hc : c = '.' := by
      have hhead := List.head?_dropWhile_not (· != '.') cs
      simpa [hrest] using hhead
    rw [hrest, hc] at hsplit
    exact .inr ⟨more, hsplit.symm⟩

theorem exists_ignored (cs : List Char) :
    ∃ tail, Ignored tail ∧ cs = beforePoint (dropZulu cs) ++ tail := by
  rcases dropZulu_cases cs with hcs | hcs
  · rcases beforePoint_cases (dropZulu cs) with hcut | ⟨more, hcut⟩
    · exact ⟨[], .nothing, by rw [List.append_nil, ← hcut, ← hcs]⟩
    · exact ⟨'.' :: more, .point more, by rw [← hcut, ← hcs]⟩
  · rcases beforePoint_cases (dropZulu cs) with hcut | ⟨more, hcut⟩
    · exact ⟨['Z'], .zulu, by rw [← hcut, ← hcs]⟩
    · refine ⟨'.' :: (more ++ ['Z']), .point _, ?_⟩
      rw [← List.cons_append, ← List.append_assoc, ← hcut, ← hcs]

/-- What does not count is cut off a text without a point and a `Z`. -/
theorem beforePoint_dropZulu_append (hpoint : '.' ∉ front) (hzulu : 'Z' ∉ front)
    (h : Ignored tail) : beforePoint (dropZulu (front ++ tail)) = front := by
  cases h with
  | nothing =>
    have hlast : ¬(front.getLast? == some 'Z') = true := fun h =>
      hzulu (List.mem_of_getLast? (beq_iff_eq.mp h))
    rw [List.append_nil, dropZulu, if_neg hlast, beforePoint_of_not_mem hpoint]
  | zulu =>
    have hcut : dropZulu (front ++ ['Z']) = front := by simp [dropZulu]
    rw [hcut, beforePoint_of_not_mem hpoint]
  | point more =>
    obtain ⟨more', hmore⟩ := dropZulu_append_point front more
    rw [hmore, beforePoint_append_point hpoint]

theorem not_mem_written (w : WrittenTime) {c : Char} (hc : Literal.isDigit c = false)
    (hplus : c ≠ '+') (hminus : c ≠ '-') : c ∉ w.sign.chars ++ w.digits := by
  intro h
  rcases List.mem_append.mp h with hsign | hdigit
  · cases hcase : w.sign with
    | unsigned => simp [hcase, YearSign.chars] at hsign
    | plus => exact hplus (by simpa [hcase, YearSign.chars] using hsign)
    | minus => exact hminus (by simpa [hcase, YearSign.chars] using hsign)
  · rw [WrittenTime.isDigit_of_mem_digits hdigit] at hc
    cases hc

theorem time_eq_ok_iff :
    time content = .ok t ↔
      ∃ (w : WrittenTime) (tail : List Char),
        Ignored tail ∧ content = w.bytes tail ∧ w.IsInstant t := by
  constructor
  · intro h
    rw [time] at h
    split at h
    · cases h
    · rename_i text htext
      dsimp only at h
      split at h
      · rename_i instant hread
        cases h
        obtain ⟨w, hw, hinstant⟩ := Timestamp.ofCompact?_eq_some_iff.mp hread
        obtain ⟨tail, htail, hcs⟩ := exists_ignored text.toList
        refine ⟨w, tail, htail, ?_, hinstant⟩
        rw [Bytes.eq_ofString_of_toString? htext, WrittenTime.bytes, ← List.append_assoc, ← hw,
          ← hcs, String.ofList_toList]
      · cases h
  · rintro ⟨w, tail, htail, rfl, hinstant⟩
    have hread := beforePoint_dropZulu_append
      (not_mem_written w (by decide) (by decide) (by decide))
      (not_mem_written w (by decide) (by decide) (by decide)) htail
    have hwritten := Timestamp.ofCompact?_eq_some_iff.mpr ⟨w, rfl, hinstant⟩
    rw [List.append_assoc] at hread
    simp only [time, WrittenTime.bytes, Bytes.toString?_ofString, String.toList_ofList, hread,
      hwritten]

/-- A time is read from a date of the calendar and a time of day in fourteen digits, with a sign
or without, and nothing, a `Z`, or a point and any text behind them; the instant is that second in
UTC. The texts among these that have the form of a UTC time are those without the sign where a `Z`
ends the text, and digits alone stand between the point and the `Z`. -/
theorem time_accepts (content : Bytes) (t : Timestamp) :
    (time content = .ok t ↔
      ∃ (w : WrittenTime) (tail : List Char),
        Ignored tail ∧ content = w.bytes tail ∧ w.IsInstant t) ∧
    (IsGeneralizedTime content t ↔
      time content = .ok t ∧
        ∀ (w : WrittenTime) (tail : List Char),
          content = w.bytes tail → w.sign = .unsigned ∧ ClosesTime tail) := by
  refine ⟨time_eq_ok_iff, ?_⟩
  constructor
  · rintro ⟨w, tail, hsign, hcloses, rfl, hinstant⟩
    constructor
    · exact time_eq_ok_iff.mpr ⟨w, tail, ignored_of_closesTime hcloses, rfl, hinstant⟩
    · intro w' tail' hsame
      obtain ⟨hsign', htail⟩ := WrittenTime.bytes_inj hsame
      exact ⟨hsign' ▸ hsign, htail ▸ hcloses⟩
  · rintro ⟨hread, hform⟩
    obtain ⟨w, tail, -, hbytes, hinstant⟩ := time_eq_ok_iff.mp hread
    obtain ⟨hsign, hcloses⟩ := hform w tail hbytes
    exact ⟨w, tail, hsign, hcloses, hbytes, hinstant⟩

theorem not_isGeneralizedTime {w : WrittenTime} (h : w.sign = .unsigned → ¬ClosesTime tail) :
    ¬IsGeneralizedTime (w.bytes tail) t := by
  rintro ⟨w', tail', hsign, hcloses, hbytes, -⟩
  obtain ⟨hsame, htail⟩ := WrittenTime.bytes_inj hbytes
  exact h (hsame ▸ hsign) (htail ▸ hcloses)

/-- A time is read from a text without a `Z`, from one with a sign before the year, and from one
with a letter that is no ASCII character behind the point. -/
theorem time_looseForms :
    (time (Bytes.ofString "20260501000000") = .ok { seconds := 1777593600 } ∧
      ∀ t, ¬IsGeneralizedTime (Bytes.ofString "20260501000000") t) ∧
    (time (Bytes.ofString "+20260501000000Z") = .ok { seconds := 1777593600 } ∧
      ∀ t, ¬IsGeneralizedTime (Bytes.ofString "+20260501000000Z") t) ∧
    (time (Bytes.ofString "20260501000000.é") = .ok { seconds := 1777593600 } ∧
      ∀ t, ¬IsGeneralizedTime (Bytes.ofString "20260501000000.é") t) := by
  have hopen : Bytes.ofString "20260501000000" =
      WrittenTime.bytes ⟨.unsigned, 2026, 5, 1, 0, 0, 0, by decide, by decide, by decide⟩ [] := by
    rfl
  have hsigned : Bytes.ofString "+20260501000000Z" =
      WrittenTime.bytes ⟨.plus, 2026, 5, 1, 0, 0, 0, by decide, by decide, by decide⟩ ['Z'] := by
    rfl
  have hletter : Bytes.ofString "20260501000000.é" =
      WrittenTime.bytes ⟨.unsigned, 2026, 5, 1, 0, 0, 0, by decide, by decide, by decide⟩
        ['.', 'é'] := by
    rfl
  refine ⟨⟨by cbv, ?_⟩, ⟨by cbv, ?_⟩, ⟨by cbv, ?_⟩⟩
  · intro t
    rw [hopen]
    exact not_isGeneralizedTime fun _ h => absurd h.getLast? (by decide)
  · intro t
    rw [hsigned]
    exact not_isGeneralizedTime fun h => by cases h
  · intro t
    rw [hletter]
    exact not_isGeneralizedTime fun _ h => absurd h.getLast? (by decide)

end ResponseReader
end CertAudit
