/- The bytes of a text, byte strings without leading zeros, and bytes below 128, which are the UTF-8
encoding of the characters with their numbers. -/
import CertAudit.Bytes
import Mathlib.Data.List.TakeWhile
namespace CertAudit.Bytes

theorem toString?_ofString (s : String) : toString? (ofString s) = some s := by
  simp only [toString?, ofString, Array.toArray_toList]
  exact dif_pos s.isValidUTF8

theorem eq_ofString_of_toString? {bs : Bytes} {s : String} (h : toString? bs = some s) :
    bs = ofString s := by
  unfold toString? String.fromUTF8? at h
  split at h
  · cases h
    rfl
  · cases h

theorem ofString_injective : Function.Injective ofString := by
  intro s t h
  have hread := toString?_ofString s
  rw [h, toString?_ofString] at hread
  exact (Option.some.inj hread).symm

theorem ofString_append (s t : String) : ofString (s ++ t) = ofString s ++ ofString t := by
  simp only [ofString, String.toUTF8_eq_toByteArray, String.toByteArray_append,
    ByteArray.data_append, Array.toList_append]

theorem stripLeadingZeros_of_head {b : UInt8} (hb : b ≠ 0) (bs : Bytes) :
    stripLeadingZeros (b :: bs) = b :: bs := by
  simp [stripLeadingZeros, hb]

/-- A byte string without leading zeros is empty, a single zero, or begins with another byte. -/
theorem stripLeadingZeros_cases (bs : Bytes) :
    stripLeadingZeros bs = [] ∨ stripLeadingZeros bs = [0] ∨
      ∃ b rest, b ≠ 0 ∧ stripLeadingZeros bs = b :: rest := by
  cases hrest : bs.dropWhile (· == 0) with
  | cons b rest =>
    have hb : (b == 0) = false := by
      simpa [hrest] using List.head?_dropWhile_not (· == 0) bs
    exact .inr (.inr ⟨b, rest, by simpa using hb, by simp only [stripLeadingZeros, hrest]⟩)
  | nil =>
    have hzero : ∀ b ∈ bs, b = 0 := by simpa using List.dropWhile_eq_nil_iff.mp hrest
    have hlast : stripLeadingZeros bs = bs.drop (bs.length - 1) := by
      simp only [stripLeadingZeros, hrest]
    rcases List.eq_nil_or_concat bs with rfl | ⟨front, b, rfl⟩
    · exact .inl rfl
    · have hb : b = 0 := hzero b (by simp)
      refine .inr (.inl ?_)
      rw [hlast]
      simp [hb]

theorem stripLeadingZeros_idem (bs : Bytes) :
    stripLeadingZeros (stripLeadingZeros bs) = stripLeadingZeros bs := by
  obtain h | h | ⟨b, rest, hb, h⟩ := stripLeadingZeros_cases bs
  · rw [h]
    rfl
  · rw [h]
    rfl
  · rw [h, stripLeadingZeros_of_head hb]

section Ascii

variable {bs cs : Bytes}

/-- The characters with the numbers of bytes. -/
def toChars (bs : Bytes) : List Char := bs.map fun b => Char.ofNat b.toNat

def IsAscii (bs : Bytes) : Prop := ∀ b ∈ bs, b.toNat < 128

instance : Decidable (IsAscii bs) := List.decidableBAll _ bs

@[simp] theorem toChars_nil : toChars [] = [] := rfl

theorem toChars_append (bs cs : Bytes) : toChars (bs ++ cs) = toChars bs ++ toChars cs :=
  List.map_append

theorem isAscii_append : IsAscii (bs ++ cs) ↔ IsAscii bs ∧ IsAscii cs := List.forall_mem_append

theorem ofString_singleton :
    ∀ n < 128, ofString (String.ofList [Char.ofNat n]) = [UInt8.ofNat n] := by
  decide

theorem ofString_toChars (h : IsAscii bs) : ofString (String.ofList (toChars bs)) = bs := by
  induction bs with
  | nil => rfl
  | cons b rest ih =>
    obtain ⟨hb, hrest⟩ := List.forall_mem_cons.mp h
    have hchars : toChars (b :: rest) = [Char.ofNat b.toNat] ++ toChars rest := rfl
    rw [hchars, String.ofList_append, ofString_append, ofString_singleton _ hb, ih hrest,
      UInt8.ofNat_toNat]
    rfl

theorem toString?_of_isAscii (h : IsAscii bs) :
    toString? bs = some (String.ofList (toChars bs)) := by
  have hread := toString?_ofString (String.ofList (toChars bs))
  rwa [ofString_toChars h] at hread

end Ascii
end CertAudit.Bytes
