/- A subtree of addresses whose mask has its ones in front holds the addresses that begin with the
same bits as its base. -/
import CertAudit.Proofs.Bytes.Bits
import CertAudit.Proofs.NameConstraints.Matching
namespace CertAudit.NameConstraints

variable {address base mask subtree wide : Bytes} {xs ys : List Bool} {i p : Nat}

/-- A mask with some ones in front and nothing but zeros behind them. -/
def IsNetmask (p : Nat) (mask : Bytes) : Prop :=
  ∃ zeros, Bytes.bits mask = List.replicate p true ++ List.replicate zeros false

/-- Strings of bits agree where a third one has ones. -/
def AgreeUnder (mask xs ys : List Bool) : Prop := ∀ i : Nat, mask[i]? = some true → xs[i]? = ys[i]?

/-- Bytes agree under a mask one by one if their bits do. -/
theorem agreeUnder_bits (hbase : base.length = address.length)
    (hmask : mask.length = address.length) :
    AgreeUnder (Bytes.bits mask) (Bytes.bits address) (Bytes.bits base) ↔
      ∀ (i : Nat) (a b m : UInt8), address[i]? = some a → base[i]? = some b → mask[i]? = some m →
        a &&& m = b &&& m := by
  simp only [AgreeUnder, Bytes.getElem?_bits, Bytes.and_eq_and_iff]
  constructor
  · intro h i a b m ha hb hm k hk hone
    -- Bit k of a byte, counted from the least significant one, has this place in the string.
    have hplace : (8 * i + (7 - k)) / 8 = i ∧ 7 - (8 * i + (7 - k)) % 8 = k := by omega
    have hbit := h (8 * i + (7 - k))
    rw [hplace.1, hplace.2, ha, hb, hm] at hbit
    exact Option.some.inj (hbit (congrArg some hone))
  · intro h i hone
    obtain ⟨m, hm, hbit⟩ := Option.map_eq_some_iff.mp hone
    obtain ⟨hlt, _⟩ := List.getElem?_eq_some_iff.mp hm
    have ha : address[i / 8]? = some address[i / 8] := List.getElem?_eq_getElem (hmask ▸ hlt)
    have hb : base[i / 8]? = some base[i / 8] := List.getElem?_eq_getElem (hbase ▸ hmask ▸ hlt)
    rw [ha, hb]
    exact congrArg some (h (i / 8) _ _ m ha hb hm (7 - i % 8) (by omega) hbit)

/-- An address is in a subtree of its width if its bits are those of the base under the mask. -/
theorem ipIn_append_iff (a : IpAddress) (hbase : base.length = a.octets.length)
    (hmask : mask.length = a.octets.length) : ipIn a.octets (base ++ mask) = true ↔
      AgreeUnder (Bytes.bits mask) (Bytes.bits a.octets) (Bytes.bits base) := by
  have hlow : ∀ (i : Nat) (x : UInt8), a.octets[i]? = some x → (base ++ mask)[i]? = base[i]? := by
    intro i x hx
    obtain ⟨hlt, _⟩ := List.getElem?_eq_some_iff.mp hx
    exact List.getElem?_append_left (hbase ▸ hlt)
  have hhigh : ∀ i, (base ++ mask)[a.octets.length + i]? = mask[i]? := by
    intro i
    rw [← hbase, List.getElem?_append_right (Nat.le_add_right _ _), Nat.add_sub_cancel_left]
  have hlength : (base ++ mask).length = 2 * a.octets.length := by
    rw [List.length_append]
    omega
  rw [ipIn_iff, IpWithin, agreeUnder_bits hbase hmask, and_iff_right a.width,
    and_iff_right hlength]
  simp only [hhigh]
  constructor
  · intro hagree i x b m hx hb hm
    exact hagree i x b m hx ((hlow i x hx).trans hb) hm
  · intro hagree i x b m hx hb hm
    exact hagree i x b m hx ((hlow i x hx).symm.trans hb) hm

theorem ipIn_eq_false_of_length (h : subtree.length ≠ 2 * address.length) :
    ipIn address subtree = false := by
  rw [← Bool.not_eq_true, ipIn_iff]
  exact fun hwithin => h hwithin.2.1

theorem getElem?_ones_iff {zeros : Nat} :
    (List.replicate p true ++ List.replicate zeros false)[i]? = some true ↔ i < p := by
  by_cases h : i < p
  · simp [List.getElem?_append, h]
  · simp [List.getElem?_append, h, List.getElem?_replicate]

theorem agreeUnder_ones {zeros : Nat} :
    AgreeUnder (List.replicate p true ++ List.replicate zeros false) xs ys ↔
      xs.take p = ys.take p := by
  simp only [AgreeUnder, getElem?_ones_iff]
  constructor
  · intro h
    refine List.ext_getElem? fun i => ?_
    rw [List.getElem?_take, List.getElem?_take]
    split
    · rename_i hi
      exact h i hi
    · rfl
  · intro h i hi
    rw [← List.getElem?_take_of_lt hi, h, List.getElem?_take_of_lt hi]

/-- Under a mask with its ones in front the addresses count that begin like the base. -/
theorem ipIn_append_of_isNetmask (a : IpAddress) (hbase : base.length = a.octets.length)
    (hmask : mask.length = a.octets.length) (hones : IsNetmask p mask) :
    ipIn a.octets (base ++ mask) = true ↔
      (Bytes.bits a.octets).take p = (Bytes.bits base).take p := by
  obtain ⟨zeros, hbits⟩ := hones
  rw [ipIn_append_iff a hbase hmask, hbits, agreeUnder_ones]

theorem exists_isNetmask {width : Nat} (h : p ≤ 8 * width) :
    ∃ mask, mask.length = width ∧ IsNetmask p mask := by
  obtain ⟨mask, hlength, hbits⟩ := Bytes.exists_bits_eq (n := width)
    (l := List.replicate p true ++ List.replicate (8 * width - p) false) (by simp; omega)
  exact ⟨mask, hlength, _, hbits⟩

/-- A subtree of another width holds no address. One of the width of an address whose mask has its
ones in front holds the address if that begins with as many bits of the base, and so does every one
with fewer ones and the same base. -/
theorem ipIn_leadingBits (a : IpAddress) :
    (∀ subtree, subtree.length ≠ 2 * a.octets.length → ipIn a.octets subtree = false) ∧
    (∀ p ≤ 8 * a.octets.length, ∃ mask, mask.length = a.octets.length ∧ IsNetmask p mask) ∧
    (∀ base mask p, base.length = a.octets.length → mask.length = a.octets.length →
      IsNetmask p mask → (ipIn a.octets (base ++ mask) = true ↔
        (Bytes.bits a.octets).take p = (Bytes.bits base).take p)) ∧
    ∀ base mask wide p, base.length = mask.length → wide.length = mask.length →
      IsNetmask (p + 1) mask → IsNetmask p wide → ipIn a.octets (base ++ mask) = true →
        ipIn a.octets (base ++ wide) = true := by
  refine ⟨fun subtree => ipIn_eq_false_of_length, fun p => exists_isNetmask,
    fun base mask p => ipIn_append_of_isNetmask a, ?_⟩
  intro base mask wide p hhalf hwide hmask hones hin
  have hlength : (base ++ mask).length = 2 * a.octets.length := by
    by_contra hne
    rw [ipIn_eq_false_of_length hne] at hin
    cases hin
  rw [List.length_append] at hlength
  rw [ipIn_append_of_isNetmask a (by omega) (by omega) hmask] at hin
  rw [ipIn_append_of_isNetmask a (by omega) (by omega) hones]
  have htake := congrArg (List.take p) hin
  rwa [List.take_take, List.take_take, Nat.min_eq_left (Nat.le_succ p)] at htake

/-- The base of a network whose prefix ends within a byte. -/
def classlessNetwork : Bytes := [10, 64, 0, 0]

theorem ipIn_leadingBits_classlessNetwork : ∃ a : IpAddress, a.octets = [10, 127, 3, 4] ∧
    IsNetmask 10 [255, 192, 0, 0] ∧ IsNetmask 9 [255, 128, 0, 0] ∧
    ipIn a.octets (classlessNetwork ++ [255, 192, 0, 0]) = true ∧
    ipIn a.octets (classlessNetwork ++ [255, 128, 0, 0]) = true := by
  obtain ⟨_, _, hleading, hwider⟩ := ipIn_leadingBits ⟨[10, 127, 3, 4], .inl rfl⟩
  have hten : IsNetmask 10 [255, 192, 0, 0] := ⟨22, by decide⟩
  have hnine : IsNetmask 9 [255, 128, 0, 0] := ⟨23, by decide⟩
  have hin := (hleading classlessNetwork [255, 192, 0, 0] 10 rfl rfl hten).mpr (by decide)
  have hwide := hwider classlessNetwork [255, 192, 0, 0] [255, 128, 0, 0] 9 rfl rfl hten hnine hin
  exact ⟨_, rfl, hten, hnine, hin, hwide⟩

end CertAudit.NameConstraints
