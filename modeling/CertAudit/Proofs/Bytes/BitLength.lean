/- The number of bits that is counted from the bytes of an integer is that of the integer. -/
import CertAudit.Proofs.Bytes.Shortest
import Mathlib.Data.Nat.Size
namespace CertAudit

namespace BitLength

theorem size_toNat {width : Nat} (hwidth : 0 < width) (x : BitVec width) :
    x.toNat.size = width - x.clz.toNat := by
  apply Nat.le_antisymm
  · exact Nat.size_le.mpr BitVec.toNat_lt_two_pow_sub_clz
  · rcases Decidable.eq_or_ne x 0 with rfl | hx
    · have hclz : (0 : BitVec width).clz = width := BitVec.clz_eq_iff_eq_zero.mpr rfl
      rw [hclz]
      simp [Nat.mod_eq_of_lt Nat.lt_two_pow_self]
    · -- The bit behind the leading zeros is set.
      have htop := Nat.lt_size.mpr (BitVec.two_pow_sub_clz_le_toNat_of_ne_zero hwidth hx)
      omega

/-- Bits of some width behind an integer other than zero lengthen it by the width. -/
theorem size_mul_two_pow_add {a k r : Nat} (ha : a ≠ 0) (hr : r < 2 ^ k) :
    (a * 2 ^ k + r).size = a.size + k := by
  apply Nat.le_antisymm
  · rw [Nat.size_le, Nat.pow_add]
    calc a * 2 ^ k + r < a * 2 ^ k + 2 ^ k := Nat.add_lt_add_left hr _
      _ = (a + 1) * 2 ^ k := (Nat.succ_mul a (2 ^ k)).symm
      _ ≤ 2 ^ a.size * 2 ^ k := Nat.mul_le_mul_right _ (Nat.lt_size_self a)
  · calc a.size + k = (a * 2 ^ k).size := by rw [← Nat.shiftLeft_eq, Nat.size_shiftLeft ha]
      _ ≤ (a * 2 ^ k + r).size := Nat.size_le_size (Nat.le_add_right _ _)

end BitLength

namespace Bytes

variable {bs : Bytes} {n width : Nat}

theorem toNat_concat (bs : Bytes) (b : UInt8) : toNat (bs ++ [b]) = toNat bs * 256 + b.toNat := by
  rw [toNat, List.foldl_append]
  rfl

theorem toNat_bigEndian (n : Nat) : toNat (bigEndian n) = n := by
  rw [bigEndian]
  fun_induction littleEndian n with
  | case1 n hsmall =>
    have hbyte : (UInt8.ofNat n).toNat = n := UInt8.toNat_ofNat_of_lt hsmall
    rw [List.reverse_singleton, toNat_cons, hbyte]
    exact Nat.mul_one n
  | case2 n hlarge ih =>
    rw [List.reverse_cons, toNat_concat, ih, UInt8.toNat_ofNat']
    exact Nat.div_add_mod' n 256

theorem bigEndian_length_le (hn : n < 256 ^ width) (hwidth : 0 < width) :
    (bigEndian n).length ≤ width := by
  rw [bigEndian, List.length_reverse]
  fun_induction littleEndian n generalizing width with
  | case1 n hsmall => exact hwidth
  | case2 n hlarge ih =>
    obtain ⟨width, rfl⟩ := Nat.exists_eq_add_one.mpr hwidth
    have hmore : 0 < width := by
      rcases Nat.eq_zero_or_pos width with rfl | hpos
      · exact absurd hn hlarge
      · exact hpos
    rw [List.length_cons]
    exact Nat.succ_le_succ (ih (Nat.div_lt_of_lt_mul (Nat.pow_succ' ▸ hn)) hmore)

theorem toNat_stripLeadingZeros (bs : Bytes) : toNat (stripLeadingZeros bs) = toNat bs := by
  rcases Decidable.eq_or_ne bs [] with rfl | hbs
  · rfl
  · rw [stripLeadingZeros_eq_shortest hbs, toNat_shortest]

theorem stripLeadingZeros_length_le (bs : Bytes) : (stripLeadingZeros bs).length ≤ bs.length := by
  rcases Decidable.eq_or_ne bs [] with rfl | hbs
  · exact Nat.le_refl _
  · rw [stripLeadingZeros_eq_shortest hbs]
    exact shortest_length_le (toNat_lt bs) (List.length_pos_iff.mpr hbs)

theorem toNat_eight_sub_leadingZeros (b : UInt8) : (8 - leadingZeros b).toNat = b.toNat.size := by
  have hle : b.toBitVec.clz.toNat ≤ 8 := BitVec.clz_le
  have hzeros : (leadingZeros b).toNat = b.toBitVec.clz.toNat :=
    UInt32.toNat_ofNat_of_lt (Nat.lt_of_le_of_lt hle (by decide))
  have hsub : leadingZeros b ≤ 8 := UInt32.le_iff_toNat_le.mpr (hzeros ▸ hle)
  rw [UInt32.toNat_sub_of_le _ _ hsub, hzeros]
  exact (BitLength.size_toNat (by decide) b.toBitVec).symm

theorem size_toNat_cons {b : UInt8} (hb : b ≠ 0) (bs : Bytes) :
    (toNat (b :: bs)).size = b.toNat.size + 8 * bs.length := by
  have hpow : 256 ^ bs.length = 2 ^ (8 * bs.length) := by rw [Nat.pow_mul]
  have hne : b.toNat ≠ 0 := fun h => hb (UInt8.toNat_inj.mp h)
  rw [toNat_cons, hpow, BitLength.size_mul_two_pow_add hne (hpow ▸ toNat_lt bs)]

/-- Zeros in front of an integer do not count, and below 2 ^ 29 bytes the count does not wrap. -/
theorem toNat_bitLength (h : bs.length < 2 ^ 29) : (bitLength bs).toNat = (toNat bs).size := by
  rw [← toNat_stripLeadingZeros bs, bitLength]
  obtain hs | hs | ⟨b, rest, hb, hs⟩ := stripLeadingZeros_cases bs
  · rw [hs]
    rfl
  · rw [hs]
    rfl
  · have hrest : rest.length < 2 ^ 29 - 1 := by
      have hlength := stripLeadingZeros_length_le bs
      rw [hs, List.length_cons] at hlength
      omega
    have hfirst : b.toNat.size ≤ 8 := Nat.size_le.mpr b.toNat_lt
    have hbehind : (UInt32.ofNat rest.length).toNat = rest.length :=
      UInt32.toNat_ofNat_of_lt (show rest.length < 2 ^ 32 by omega)
    have height : (8 : UInt32).toNat = 8 := rfl
    rw [hs, size_toNat_cons hb, List.length_cons, Nat.add_sub_cancel, UInt32.toNat_add,
      UInt32.toNat_mul, hbehind, height, toNat_eight_sub_leadingZeros]
    omega

theorem toNat_bitLength_bigEndian (hn : n < 256 ^ width) (hwidth : width < 2 ^ 28) :
    (bitLength (bigEndian n)).toNat = n.size := by
  have hwider : n < 256 ^ (width + 1) :=
    Nat.lt_of_lt_of_le hn (Nat.pow_le_pow_right (by decide) (Nat.le_succ width))
  have hlength : (bigEndian n).length ≤ width + 1 := bigEndian_length_le hwider (Nat.succ_pos _)
  rw [toNat_bitLength (by omega), toNat_bigEndian]

end Bytes
end CertAudit
