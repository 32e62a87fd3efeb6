/- The text that the tree shows for a subtree of addresses, and the addresses that are in it. The
text of a network tells which they are only if the mask has its ones in front and the width of the
base. -/
import CertAudit.Certificate.Tree
import CertAudit.Proofs.NameConstraints.Netmask
import CertAudit.Proofs.Oid
namespace CertAudit

/-- The addresses that begin with some bits of a base. -/
structure Network where
  base : IpAddress
  length : Nat

namespace Network

def text (k : Network) : String := k.base.display ++ "/" ++ Nat.repr k.length

def Holds (k : Network) (a : IpAddress) : Prop :=
  a.octets.length = k.base.octets.length ∧
    (Bytes.bits a.octets).take k.length = (Bytes.bits k.base.octets).take k.length

theorem slash_mem_text (k : Network) : '/' ∈ k.text.toList := by simp [text]

end Network

namespace Hex

theorem lowerDigit_ne_slash : ∀ n < 16, lowerDigit n ≠ '/' := by decide

theorem slash_not_mem_lower (bs : Bytes) : '/' ∉ (lower bs).toList := by
  rw [lower, String.toList_ofList]
  intro hslash
  obtain ⟨n, hn, h⟩ := exists_of_mem_lowerChars hslash
  exact lowerDigit_ne_slash n hn h.symm

end Hex

namespace NameConstraints

variable {bs mask : Bytes} {k : Network} {xs mbits : List Bool} {i p : Nat}

theorem getElem?_flipped_ne (hi : i < xs.length) : (xs.modify i not)[i]? ≠ xs[i]? := by
  rw [List.getElem?_modify, List.getElem?_eq_getElem hi]
  simp

theorem getElem?_flipped_of_ne {j : Nat} (h : i ≠ j) : (xs.modify i not)[j]? = xs[j]? := by
  rw [List.getElem?_modify]
  simp [h]

/-- Another bit in one place leaves the first bits as they are if it is behind them. -/
theorem take_flipped_iff (hi : i < xs.length) : (xs.modify i not).take p = xs.take p ↔ p ≤ i := by
  constructor
  · intro h
    by_contra hlt
    have hget := congrArg (fun ys => ys[i]?) h
    simp only [List.getElem?_take_of_lt (not_le.mp hlt)] at hget
    exact getElem?_flipped_ne hi hget
  · intro hle
    refine List.ext_getElem? fun j => ?_
    rw [List.getElem?_take, List.getElem?_take]
    split
    · exact getElem?_flipped_of_ne (by omega)
    · rfl

/-- Another bit in one place is not seen under a mask without a one there. -/
theorem agreeUnder_flipped_iff (hi : i < xs.length) :
    AgreeUnder mbits (xs.modify i not) xs ↔ mbits[i]? ≠ some true := by
  constructor
  · exact fun h hone => getElem?_flipped_ne hi (h i hone)
  · intro h j hone
    refine getElem?_flipped_of_ne ?_
    rintro rfl
    exact h hone

theorem eq_ones_of_getElem? (hp : p ≤ xs.length) (h : ∀ i < xs.length, xs[i]? = some true ↔ i < p) :
    xs = List.replicate p true ++ List.replicate (xs.length - p) false := by
  refine List.ext_getElem (by simp; omega) fun i hi hi' => ?_
  have hones : (List.replicate p true ++ List.replicate (xs.length - p) false)[i]? = some true ↔
      i < p := getElem?_ones_iff
  rw [List.getElem?_eq_getElem hi', ← h i hi, List.getElem?_eq_getElem hi, Option.some.injEq,
    Option.some.injEq] at hones
  exact (Bool.eq_iff_iff.mpr hones).symm

theorem exists_flipped (a : IpAddress) (i : Nat) : ∃ x : IpAddress,
    x.octets.length = a.octets.length ∧
      Bytes.bits x.octets = (Bytes.bits a.octets).modify i not := by
  obtain ⟨bs, hlength, hbits⟩ := Bytes.exists_bits_eq (n := a.octets.length)
    (l := (Bytes.bits a.octets).modify i not) (by simp)
  exact ⟨⟨bs, hlength ▸ a.width⟩, hlength, hbits⟩

/-- The addresses in a subtree are those of the network with its base just if the ones of the mask
are in front. -/
theorem forall_ipIn_iff_holds (hmask : mask.length = k.base.octets.length)
    (hlength : k.length ≤ 8 * k.base.octets.length) :
    (∀ a : IpAddress, ipIn a.octets (k.base.octets ++ mask) = true ↔ k.Holds a) ↔
      IsNetmask k.length mask := by
  constructor
  · -- A bit of the base counts for the subtree if it counts for the network.
    intro hsame
    have hbits : ∀ i < (Bytes.bits mask).length,
        (Bytes.bits mask)[i]? = some true ↔ i < k.length := by
      intro i hi
      have hbase : i < (Bytes.bits k.base.octets).length := by
        rwa [Bytes.length_bits, ← hmask, ← Bytes.length_bits]
      obtain ⟨a, hwidth, hflipped⟩ := exists_flipped k.base i
      have hiff := hsame a
      rw [ipIn_append_iff a hwidth.symm (hmask.trans hwidth.symm), Network.Holds,
        and_iff_right hwidth, hflipped, agreeUnder_flipped_iff hbase, take_flipped_iff hbase] at hiff
      rw [← not_iff_not, not_lt]
      exact hiff
    refine ⟨_, eq_ones_of_getElem? ?_ hbits⟩
    rwa [Bytes.length_bits, hmask]
  · intro hones a
    by_cases hwidth : a.octets.length = k.base.octets.length
    · rw [ipIn_append_of_isNetmask a hwidth.symm (hmask.trans hwidth.symm) hones, Network.Holds,
        and_iff_right hwidth]
    · have hother : (k.base.octets ++ mask).length ≠ 2 * a.octets.length := by
        rw [List.length_append]
        omega
      rw [ipIn_eq_false_of_length hother]
      simp [Network.Holds, hwidth]

theorem bitCount_eq_count (bs : Bytes) :
    CertificateTree.bitCount bs = (Bytes.bits bs).count true := by
  induction bs with
  | nil => rfl
  | cons b bs ih =>
    rw [Bytes.bits_cons, List.count_append, Bytes.count_byteBits, ← ih, CertificateTree.bitCount,
      List.flatMap_cons, List.length_append]
    rfl

/-- The network with as many bits as a mask has ones. -/
def maskedNetwork (a : IpAddress) (mask : Bytes) : Network := ⟨a, (Bytes.bits mask).count true⟩

theorem subnetText_append (a : IpAddress) (h : (a.octets ++ mask).length / 2 = a.octets.length) :
    CertificateTree.subnetText (a.octets ++ mask) = (maskedNetwork a mask).text := by
  rw [CertificateTree.subnetText, h, List.take_left, List.drop_left, IpAddress.ofBytes?,
    dif_pos a.width, bitCount_eq_count]
  rfl

theorem length_take_half (bs : Bytes) : (bs.take (bs.length / 2)).length = bs.length / 2 :=
  List.length_take_of_le (Nat.div_le_self _ _)

theorem subnetText_of_width (h : bs.length / 2 ≠ 4 ∧ bs.length / 2 ≠ 16) :
    CertificateTree.subnetText bs = Hex.lower bs := by
  have hnone : IpAddress.ofBytes? (bs.take (bs.length / 2)) = none := by
    rw [IpAddress.ofBytes?, dif_neg]
    rw [length_take_half]
    exact not_or.mpr h
  rw [CertificateTree.subnetText, hnone]

/-- A mask of the width of the base is needed for any address to be in a subtree. -/
theorem not_forall_ipIn_iff_holds (hmask : mask.length ≠ k.base.octets.length) :
    ¬ ∀ a : IpAddress, ipIn a.octets (k.base.octets ++ mask) = true ↔ k.Holds a := by
  intro hsame
  have hbase := (hsame k.base).mpr ⟨rfl, rfl⟩
  rw [ipIn_eq_false_of_length] at hbase
  · cases hbase
  · rw [List.length_append]
    omega

theorem forall_ipIn_iff_maskedNetwork (a : IpAddress) (mask : Bytes) :
    (∀ x : IpAddress, ipIn x.octets (a.octets ++ mask) = true ↔ (maskedNetwork a mask).Holds x) ↔
      mask.length = a.octets.length ∧ IsNetmask (maskedNetwork a mask).length mask := by
  by_cases hmask : mask.length = a.octets.length
  · have hcount : (maskedNetwork a mask).length ≤ 8 * a.octets.length := by
      rw [← hmask, ← Bytes.length_bits]
      exact List.count_le_length
    rw [and_iff_right hmask]
    exact forall_ipIn_iff_holds (k := maskedNetwork a mask) hmask hcount
  · have hnot := not_forall_ipIn_iff_holds (k := maskedNetwork a mask) hmask
    exact iff_of_false hnot fun hboth => hmask hboth.1

/-- Subtrees whose first half has the width of an address are shown as networks, all others in
hexadecimal. The network holds just the addresses in the subtree if base and mask are of one width
and the mask has its ones in front. -/
theorem subnetText_denotes (bs : Bytes) :
    (bs.length ∈ [8, 9, 32, 33] → ∃ k : Network, k.base.octets = bs.take (bs.length / 2) ∧
      k.length = (Bytes.bits (bs.drop (bs.length / 2))).count true ∧
      CertificateTree.subnetText bs = k.text ∧
      ((∀ a : IpAddress, ipIn a.octets bs = true ↔ k.Holds a) ↔
        bs.length ∈ [8, 32] ∧ IsNetmask k.length (bs.drop (bs.length / 2)))) ∧
    (bs.length ∉ [8, 9, 32, 33] → CertificateTree.subnetText bs = Hex.lower bs ∧
      ∀ k : Network, CertificateTree.subnetText bs ≠ k.text) := by
  simp only [List.mem_cons, List.not_mem_nil, or_false]
  constructor
  · intro h
    have hbase := length_take_half bs
    obtain ⟨a, ha⟩ : ∃ a : IpAddress, a.octets = bs.take (bs.length / 2) :=
      ⟨⟨_, by omega⟩, rfl⟩
    obtain ⟨mask, hmask⟩ : ∃ mask, mask = bs.drop (bs.length / 2) := ⟨_, rfl⟩
    have hbs : bs = a.octets ++ mask := by rw [ha, hmask, List.take_append_drop]
    have hlength : bs.length = a.octets.length + mask.length := by rw [hbs, List.length_append]
    have hhalf : (a.octets ++ mask).length / 2 = a.octets.length := by rw [← hbs, ha, hbase]
    have hwidth : mask.length = a.octets.length ↔ bs.length = 8 ∨ bs.length = 32 := by
      rw [← hbs] at hhalf
      omega
    have hexact := forall_ipIn_iff_maskedNetwork a mask
    rw [← hbs, hwidth] at hexact
    rw [← hmask]
    refine ⟨maskedNetwork a mask, ha, rfl, ?_, hexact⟩
    rw [hbs]
    exact subnetText_append a hhalf
  · intro h
    have hhex : CertificateTree.subnetText bs = Hex.lower bs := subnetText_of_width (by omega)
    refine ⟨hhex, fun k heq => Hex.slash_not_mem_lower bs ?_⟩
    rw [← hhex, heq]
    exact k.slash_mem_text

/-- A network of the sixth version, whose prefix ends within a byte. -/
def shortPrefix : Bytes := 0x20 :: 1 :: List.replicate 14 0 ++ [0xff, 0xfe] ++ List.replicate 14 0

theorem subnetText_denotes_shortPrefix :
    ∃ k : Network, CertificateTree.subnetText shortPrefix = k.text ∧ k.text = "2001::/15" ∧
      ∀ a : IpAddress, ipIn a.octets shortPrefix = true ↔ k.Holds a := by
  obtain ⟨k, hbase, hlength, htext, hexact⟩ := (subnetText_denotes shortPrefix).1 (by decide)
  have hshown : k.text = "2001::/15" := by
    rw [← htext]
    cbv
  refine ⟨k, htext, hshown, hexact.mpr ⟨by decide, ?_⟩⟩
  rw [hlength]
  exact ⟨113, by decide +kernel⟩

/-- A mask that is a byte too long, and one with a gap, are shown as networks whose addresses are not
those in the subtree. -/
theorem subnetText_misleads :
    CertificateTree.subnetText [10, 0, 0, 0, 255, 0, 0, 0, 0] = "10.0.0.0/8" ∧
      ipIn [10, 1, 2, 3] [10, 0, 0, 0, 255, 0, 0, 0, 0] = false ∧
      CertificateTree.subnetText [10, 0, 0, 0, 255, 0, 255, 0] = "10.0.0.0/16" ∧
      ipIn [10, 0, 1, 2] [10, 0, 0, 0, 255, 0, 255, 0] = false ∧
      ipIn [10, 1, 0, 2] [10, 0, 0, 0, 255, 0, 255, 0] = true := by
  refine ⟨?_, by decide, ?_, by decide, by decide⟩
  · cbv
  · cbv

end NameConstraints
end CertAudit
