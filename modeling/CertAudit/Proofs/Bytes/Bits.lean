/- Byte strings as strings of bits, the most significant bit of each byte first. -/
import CertAudit.Bytes
import Mathlib
namespace CertAudit.Bytes

variable {bs as ms : Bytes} {l : List Bool} {i n : Nat}

def byteBits (b : UInt8) : List Bool := (List.range 8).reverse.map b.toNat.testBit

def bits (bs : Bytes) : List Bool := bs.flatMap byteBits

@[simp] theorem length_byteBits (b : UInt8) : (byteBits b).length = 8 := by simp [byteBits]

theorem bits_cons (b : UInt8) (bs : Bytes) : bits (b :: bs) = byteBits b ++ bits bs :=
  List.flatMap_cons

@[simp] theorem length_bits (bs : Bytes) : (bits bs).length = 8 * bs.length := by
  induction bs with
  | nil => rfl
  | cons b bs ih =>
    rw [bits_cons, List.length_append, length_byteBits, ih, List.length_cons]
    omega

theorem getElem?_byteBits (b : UInt8) (h : i < 8) :
    (byteBits b)[i]? = some (b.toNat.testBit (7 - i)) := by
  rw [byteBits, List.getElem?_map, List.getElem?_reverse (by simpa using h), List.length_range,
    List.getElem?_range (by omega)]
  rfl

/-- Eight bits stand for one byte. -/
theorem getElem?_bits (bs : Bytes) (i : Nat) :
    (bits bs)[i]? = bs[i / 8]?.map fun b => b.toNat.testBit (7 - i % 8) := by
  induction bs generalizing i with
  | nil => rfl
  | cons b bs ih =>
    rw [bits_cons]
    by_cases h : i < 8
    · rw [List.getElem?_append_left (by simpa using h), getElem?_byteBits b h,
        Nat.div_eq_of_lt h, Nat.mod_eq_of_lt h]
      rfl
    · have hdiv : i / 8 = (i - 8) / 8 + 1 := by omega
      have hmod : (i - 8) % 8 = i % 8 := by omega
      rw [List.getElem?_append_right (by simpa using h), length_byteBits, ih, hdiv, hmod]
      rfl

theorem exists_byteBits_eq (h : l.length = 8) : ∃ b, byteBits b = l := by
  have hall : ∀ b₀ b₁ b₂ b₃ b₄ b₅ b₆ b₇ : Bool,
      byteBits (UInt8.ofNat ([b₀, b₁, b₂, b₃, b₄, b₅, b₆, b₇].foldl
        (fun n b => 2 * n + b.toNat) 0)) = [b₀, b₁, b₂, b₃, b₄, b₅, b₆, b₇] := by
    decide
  match l, h with
  | [b₀, b₁, b₂, b₃, b₄, b₅, b₆, b₇], _ => exact ⟨_, hall b₀ b₁ b₂ b₃ b₄ b₅ b₆ b₇⟩

/-- Bits that come in eights are those of a byte string. -/
theorem exists_bits_eq (h : l.length = 8 * n) : ∃ bs, bs.length = n ∧ bits bs = l := by
  induction n generalizing l with
  | zero => exact ⟨[], rfl, (List.eq_nil_of_length_eq_zero h).symm⟩
  | succ n ih =>
    obtain ⟨b, hb⟩ := exists_byteBits_eq (l := l.take 8) (by rw [List.length_take]; omega)
    obtain ⟨bs, hlength, hbits⟩ := ih (l := l.drop 8) (by rw [List.length_drop]; omega)
    refine ⟨b :: bs, by rw [List.length_cons, hlength], ?_⟩
    rw [bits_cons, hb, hbits, List.take_append_drop]

/-- Two bytes agree under a mask if they agree in the bits of the mask. -/
theorem and_eq_and_iff (a b m : UInt8) : a &&& m = b &&& m ↔
    ∀ k < 8, m.toNat.testBit k = true → a.toNat.testBit k = b.toNat.testBit k := by
  rw [← UInt8.toNat_inj, UInt8.toNat_and, UInt8.toNat_and]
  constructor
  · intro h k _ hm
    have hk := congrArg (Nat.testBit · k) h
    simpa [Nat.testBit_and, hm] using hk
  · intro h
    refine Nat.eq_of_testBit_eq fun k => ?_
    rw [Nat.testBit_and, Nat.testBit_and]
    cases hm : m.toNat.testBit k with
    | false => rw [Bool.and_false, Bool.and_false]
    | true =>
      have hk : k < 8 := by
        by_contra hge
        have hlt : m.toNat < 2 ^ k :=
          lt_of_lt_of_le m.toNat_lt (Nat.pow_le_pow_right (by decide) (not_lt.mp hge))
        rw [Nat.testBit_lt_two_pow hlt] at hm
        cases hm
      rw [h k hk hm]

theorem count_byteBits (b : UInt8) :
    (byteBits b).count true = ((List.range 8).filter b.toNat.testBit).length := by
  rw [byteBits, List.count, List.countP_map, List.countP_reverse, List.countP_eq_length_filter]
  congr 2
  funext k
  simp

end CertAudit.Bytes
