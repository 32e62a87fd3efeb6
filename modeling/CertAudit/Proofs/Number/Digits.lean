/- Appending a byte to decimal digits overflows nowhere and leaves digits, and what is written in the
end is the one numeral of the integer that the bytes spell. -/
import CertAudit.Number.Digits
import Mathlib.Data.List.Basic
import Mathlib.Data.List.Induction
import Mathlib.Data.Nat.Digits.Defs
import Mathlib.Tactic.Linarith
namespace CertAudit

/-- A decimal numeral of an integer, with no zero in front of other digits. -/
structure IsNumeral (s : String) (n : Nat) : Prop where
  nonempty : s.toList ≠ []
  digits : ∀ c ∈ s.toList, c.isDigit = true
  value : Nat.ofDigitChars 10 s.toList 0 = n
  leading : s.toList.head? = some '0' → s = "0"

namespace Digits

variable {digits xs ys : List UInt8} {carry : UInt32} {d b : UInt8}

def value (digits : List UInt8) : Nat := Nat.ofDigits 10 (digits.map UInt8.toNat)

def AreDigits (digits : List UInt8) : Prop := ∀ d ∈ digits, d.toNat < 10

/-- No step of a shift overflows. -/
def ShiftFits : UInt32 → List UInt8 → Prop
  | _, [] => True
  | carry, d :: rest =>
    d.toNat * 256 + carry.toNat < UInt32.size ∧ ShiftFits ((d.toUInt32 * 256 + carry) / 10) rest

/-- No arithmetic of the conversion of a byte string overflows. -/
structure OverflowFree (bs : Bytes) : Prop where
  shifts : ∀ front b rest, bs = front ++ b :: rest → ShiftFits b.toUInt32 (ofBytes front)
  signs : ∀ d ∈ ofBytes bs, 48 + d.toNat < UInt8.size

@[simp] theorem value_nil : value [] = 0 := rfl

@[simp] theorem value_cons (d : UInt8) (rest : List UInt8) :
    value (d :: rest) = d.toNat + 10 * value rest := by
  rw [value, List.map_cons, Nat.ofDigits_cons, value]

theorem value_append (xs ys : List UInt8) :
    value (xs ++ ys) = value xs + 10 ^ xs.length * value ys := by
  rw [value, List.map_append, Nat.ofDigits_append, List.length_map, value, value]

theorem areDigits_cons : AreDigits (d :: xs) ↔ d.toNat < 10 ∧ AreDigits xs := List.forall_mem_cons

theorem areDigits_append : AreDigits (xs ++ ys) ↔ AreDigits xs ∧ AreDigits ys :=
  List.forall_mem_append

theorem toNat_ten : (10 : UInt32).toNat = 10 := rfl

/-- A digit times 256 and a carry below 256 are far from the bound of their type. -/
theorem toNat_step (hd : d.toNat < 10) (hcarry : carry.toNat < 256) :
    (d.toUInt32 * 256 + carry).toNat = d.toNat * 256 + carry.toNat := by
  have hsize : d.toNat * 256 + carry.toNat < 2 ^ 32 := by omega
  rw [UInt32.toNat_add, UInt32.toNat_mul, UInt8.toNat_toUInt32]
  have hbase : (256 : UInt32).toNat = 256 := rfl
  rw [hbase, Nat.mod_add_mod, Nat.mod_eq_of_lt hsize]

theorem toNat_step_div (hd : d.toNat < 10) (hcarry : carry.toNat < 256) :
    ((d.toUInt32 * 256 + carry) / 10).toNat = (d.toNat * 256 + carry.toNat) / 10 := by
  rw [UInt32.toNat_div, toNat_step hd hcarry, toNat_ten]

/-- What is handed on is a carry again. -/
theorem toNat_step_div_lt (hd : d.toNat < 10) (hcarry : carry.toNat < 256) :
    ((d.toUInt32 * 256 + carry) / 10).toNat < 256 := by
  rw [toNat_step_div hd hcarry]
  omega

theorem toNat_ones (carry : UInt32) : (carry % 10).toUInt8.toNat = carry.toNat % 10 := by
  rw [UInt32.toNat_toUInt8, UInt32.toNat_mod, toNat_ten]
  exact Nat.mod_eq_of_lt (by omega)

theorem toNat_ones_lt (carry : UInt32) : (carry % 10).toUInt8.toNat < 10 := by
  rw [toNat_ones]
  exact Nat.mod_lt _ (by decide)

theorem shift_cons (carry : UInt32) (d : UInt8) (rest : List UInt8) :
    shift carry (d :: rest) =
      (((d.toUInt32 * 256 + carry) % 10).toUInt8 ::
        (shift ((d.toUInt32 * 256 + carry) / 10) rest).1,
        (shift ((d.toUInt32 * 256 + carry) / 10) rest).2) := rfl

theorem shiftFits (h : AreDigits digits) (hcarry : carry.toNat < 256) : ShiftFits carry digits := by
  induction digits generalizing carry with
  | nil => trivial
  | cons d rest ih =>
    obtain ⟨hd, hrest⟩ := areDigits_cons.mp h
    have hsize : d.toNat * 256 + carry.toNat < UInt32.size := by
      rw [UInt32.size]
      omega
    exact ⟨hsize, ih hrest (toNat_step_div_lt hd hcarry)⟩

theorem shift_areDigits (carry : UInt32) (digits : List UInt8) :
    AreDigits (shift carry digits).1 := by
  induction digits generalizing carry with
  | nil =>
    intro d hd
    cases hd
  | cons d rest ih =>
    rw [shift_cons]
    exact areDigits_cons.mpr ⟨toNat_ones_lt _, ih _⟩

theorem shift_length (carry : UInt32) (digits : List UInt8) :
    (shift carry digits).1.length = digits.length := by
  induction digits generalizing carry with
  | nil => rfl
  | cons d rest ih =>
    rw [shift_cons, List.length_cons, List.length_cons, ih]

/-- With what the highest digit hands on, nothing is lost. -/
theorem shift_value (h : AreDigits digits) (hcarry : carry.toNat < 256) :
    value (shift carry digits).1 + 10 ^ digits.length * (shift carry digits).2.toNat =
      value digits * 256 + carry.toNat := by
  induction digits generalizing carry with
  | nil => simp [shift]
  | cons d rest ih =>
    obtain ⟨hd, hrest⟩ := areDigits_cons.mp h
    have hrest := ih hrest (toNat_step_div_lt hd hcarry)
    have hones := toNat_ones (d.toUInt32 * 256 + carry)
    rw [toNat_step hd hcarry] at hones
    rw [toNat_step_div hd hcarry] at hrest
    rw [shift_cons, value_cons, value_cons, List.length_cons, Nat.pow_succ, hones]
    have hsplit := Nat.mod_add_div (d.toNat * 256 + carry.toNat) 10
    linarith [hrest, hsplit]

theorem ofCarry_areDigits (carry : UInt32) : AreDigits (ofCarry carry) := by
  fun_induction ofCarry carry with
  | case1 =>
    intro d hd
    cases hd
  | case2 carry hne ih => exact areDigits_cons.mpr ⟨toNat_ones_lt carry, ih⟩

theorem ofCarry_value (carry : UInt32) : value (ofCarry carry) = carry.toNat := by
  fun_induction ofCarry carry with
  | case1 => rfl
  | case2 carry hne ih =>
    rw [value_cons, ih, toNat_ones, UInt32.toNat_div, toNat_ten]
    exact Nat.mod_add_div carry.toNat 10

theorem append_areDigits (digits : List UInt8) (b : UInt8) : AreDigits (append digits b) :=
  areDigits_append.mpr ⟨shift_areDigits _ _, ofCarry_areDigits _⟩

theorem append_value (h : AreDigits digits) (b : UInt8) :
    value (append digits b) = value digits * 256 + b.toNat := by
  have hb : b.toUInt32.toNat < 256 := by
    rw [UInt8.toNat_toUInt32]
    exact b.toNat_lt
  have hshift := shift_value h hb
  rw [UInt8.toNat_toUInt32] at hshift
  rw [append, value_append, ofCarry_value, shift_length, hshift]

theorem ofBytes_concat (bs : Bytes) (b : UInt8) : ofBytes (bs ++ [b]) = append (ofBytes bs) b :=
  List.foldl_append

theorem ofBytes_areDigits (bs : Bytes) : AreDigits (ofBytes bs) := by
  induction bs using List.reverseRecOn with
  | nil => simp [ofBytes, AreDigits]
  | append_singleton bs b ih =>
    rw [ofBytes_concat]
    exact append_areDigits _ b

/-- The digits after each byte stand for the bytes so far. -/
theorem ofBytes_value (bs : Bytes) : value (ofBytes bs) = bs.toNat := by
  induction bs using List.reverseRecOn with
  | nil => rfl
  | append_singleton bs b ih =>
    rw [ofBytes_concat, append_value (ofBytes_areDigits bs), ih, Bytes.toNat, Bytes.toNat,
      List.foldl_append]
    rfl

theorem overflowFree (bs : Bytes) : OverflowFree bs := by
  constructor
  · intro front b rest _
    refine shiftFits (ofBytes_areDigits front) ?_
    rw [UInt8.toNat_toUInt32]
    exact b.toNat_lt
  · intro d hd
    have hdigit := ofBytes_areDigits bs d hd
    rw [UInt8.size]
    omega

theorem append_ne_nil (h : digits ≠ []) (b : UInt8) : append digits b ≠ [] := by
  intro hnil
  have hlength := congrArg List.length hnil
  rw [append, List.length_append, shift_length, List.length_nil] at hlength
  exact h (List.length_eq_zero_iff.mp (Nat.eq_zero_of_add_eq_zero hlength).1)

theorem ofBytes_ne_nil (bs : Bytes) : ofBytes bs ≠ [] := by
  induction bs using List.reverseRecOn with
  | nil => exact List.cons_ne_nil 0 []
  | append_singleton bs b ih =>
    rw [ofBytes_concat]
    exact append_ne_nil ih b

theorem dropZeros_ne_nil (h : digits ≠ []) : dropZeros digits ≠ [] := by
  fun_induction dropZeros digits with
  | case1 d rest ih => exact ih (List.cons_ne_nil d rest)
  | case2 => exact h

theorem dropZeros_areDigits (h : AreDigits digits) : AreDigits (dropZeros digits) := by
  fun_induction dropZeros digits with
  | case1 d rest ih => exact ih (areDigits_cons.mp h).2
  | case2 => exact h

/-- What is left begins with a zero only if that is all. -/
theorem dropZeros_head (h : (dropZeros digits).head? = some 0) : dropZeros digits = [0] := by
  fun_induction dropZeros digits with
  | case1 d rest ih => exact ih h
  | case2 digits hother =>
    cases digits with
    | nil => cases h
    | cons d rest =>
      cases h
      cases rest with
      | nil => rfl
      | cons e rest => exact absurd rfl (hother e rest)

theorem dropZeros_value (digits : List UInt8) :
    value (dropZeros digits).reverse = value digits.reverse := by
  fun_induction dropZeros digits with
  | case1 d rest ih =>
    rw [ih, List.reverse_cons (a := 0), value_append]
    simp
  | case2 => rfl

theorem sign_eq_digitChar (hd : d.toNat < 10) : sign d = d.toNat.digitChar := by
  have hsigns : ∀ n < 10, sign (UInt8.ofNat n) = n.digitChar := by decide
  have h := hsigns d.toNat hd
  rwa [UInt8.ofNat_toNat] at h

theorem sign_eq_zero (hd : d.toNat < 10) (h : sign d = '0') : d = 0 := by
  have hsigns : ∀ n < 10, n.digitChar = '0' → n = 0 := by decide
  rw [sign_eq_digitChar hd] at h
  exact UInt8.toNat_inj.mp (hsigns d.toNat hd h)

theorem ofDigitChars_signs (h : AreDigits digits) :
    Nat.ofDigitChars 10 (digits.map sign) 0 = value digits.reverse := by
  induction digits using List.reverseRecOn with
  | nil => rfl
  | append_singleton rest d ih =>
    obtain ⟨hrest, hd⟩ := areDigits_append.mp h
    have hlast : d.toNat < 10 := hd d List.mem_cons_self
    rw [List.map_append, Nat.ofDigitChars_append, ih hrest, List.reverse_append]
    rw [List.map_singleton, sign_eq_digitChar hlast,
      Nat.ofDigitChars_cons_digitChar_of_lt_ten hlast]
    simp [Nat.ofDigitChars, Nat.add_comm]

end Digits

namespace IsNumeral

variable {s : String} {n : Nat} {cs : List Char} {c : Char}

theorem exists_digitChar (h : c.isDigit = true) : ∃ n < 10, c = n.digitChar := by
  have hsigns : ∀ n < 10, Char.ofNat (48 + n) = n.digitChar := by decide
  obtain ⟨hlow, hhigh⟩ : 48 ≤ c.toNat ∧ c.toNat ≤ 57 := Char.isDigit_iff_toNat.mp h
  have hlt : c.toNat - 48 < 10 := by omega
  refine ⟨c.toNat - 48, hlt, ?_⟩
  rw [← hsigns _ hlt, Nat.add_sub_cancel' hlow, Char.ofNat_toNat]

/-- Digits without a zero in front are those of the integer that they stand for. -/
theorem toDigits_ofDigitChars (hne : cs ≠ []) (hdigits : ∀ c ∈ cs, c.isDigit = true)
    (hleading : cs.head? = some '0' → cs = ['0']) :
    Nat.toDigits 10 (Nat.ofDigitChars 10 cs 0) = cs := by
  induction cs using List.reverseRecOn with
  | nil => exact absurd rfl hne
  | append_singleton front c ih =>
    obtain ⟨hfront, hlast⟩ := List.forall_mem_append.mp hdigits
    obtain ⟨d, hd, rfl⟩ := exists_digitChar (hlast c List.mem_cons_self)
    rw [Nat.ofDigitChars_append, Nat.ofDigitChars_cons_digitChar_of_lt_ten hd,
      Nat.ofDigitChars_nil]
    by_cases hnil : front = []
    · subst hnil
      rw [Nat.ofDigitChars_nil, Nat.mul_zero, Nat.zero_add, List.nil_append]
      exact Nat.toDigits_of_lt_base hd
    · have hzero : front.head? ≠ some '0' := by
        intro h
        have hall := hleading (List.head?_append_of_ne_nil front hnil ▸ h)
        have hlength := congrArg List.length hall
        rw [List.length_append] at hlength
        exact hnil (List.length_eq_zero_iff.mp (Nat.succ.inj hlength))
      have hfront := ih hnil hfront fun h => absurd h hzero
      -- The front stands for more than zero, so that its integer has no fewer digits.
      generalize Nat.ofDigitChars 10 front 0 = n at hfront ⊢
      have hpos : n ≠ 0 := by
        rintro rfl
        exact hzero (hfront ▸ rfl)
      rw [Nat.toDigits_of_base_le (by decide) (by omega)]
      have hdiv : (10 * n + d) / 10 = n := by omega
      have hmod : (10 * n + d) % 10 = d := by omega
      rw [hdiv, hmod, hfront]

theorem eq_repr (h : IsNumeral s n) : s = Nat.repr n := by
  apply String.toList_inj.mp
  rw [Nat.toList_repr, ← h.value]
  refine (toDigits_ofDigitChars h.nonempty h.digits ?_).symm
  intro hhead
  rw [h.leading hhead]
  rfl

end IsNumeral

namespace Bytes

open Digits

variable {a b bs : Bytes}

theorem toDecimal_toList (bs : Bytes) :
    bs.toDecimal.toList = (dropZeros (ofBytes bs).reverse).map sign := String.toList_ofList

theorem toDecimal_isNumeral (bs : Bytes) : IsNumeral bs.toDecimal bs.toNat := by
  have hne : dropZeros (ofBytes bs).reverse ≠ [] :=
    dropZeros_ne_nil (mt List.reverse_eq_nil_iff.mp (ofBytes_ne_nil bs))
  have hdigits : AreDigits (dropZeros (ofBytes bs).reverse) := by
    apply dropZeros_areDigits
    intro d hd
    exact ofBytes_areDigits bs d (List.mem_reverse.mp hd)
  constructor
  · rw [toDecimal_toList]
    exact mt List.map_eq_nil_iff.mp hne
  · intro c hc
    rw [toDecimal_toList] at hc
    obtain ⟨d, hd, rfl⟩ := List.mem_map.mp hc
    rw [sign_eq_digitChar (hdigits d hd), Nat.isDigit_digitChar]
    exact decide_eq_true (hdigits d hd)
  · rw [toDecimal_toList, ofDigitChars_signs hdigits, dropZeros_value, List.reverse_reverse,
      ofBytes_value]
  · intro hhead
    rw [toDecimal_toList, List.head?_map] at hhead
    obtain ⟨d, hd, hsign⟩ := Option.map_eq_some_iff.mp hhead
    have hzero : d = 0 := sign_eq_zero (hdigits d (List.mem_of_head? hd)) hsign
    have hall := dropZeros_head (hzero ▸ hd)
    rw [toDecimal, hall]
    rfl

/-- Byte strings have the same decimal numeral just where they spell the same integer. -/
theorem toDecimal_eq_iff : a.toDecimal = b.toDecimal ↔ a.toNat = b.toNat := by
  constructor
  · intro h
    rw [← (toDecimal_isNumeral a).value, h, (toDecimal_isNumeral b).value]
  · intro h
    rw [(toDecimal_isNumeral a).eq_repr, h, ← (toDecimal_isNumeral b).eq_repr]

end Bytes
end CertAudit
