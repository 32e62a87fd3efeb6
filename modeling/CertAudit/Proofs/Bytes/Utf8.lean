/- In UTF-8 no character begins inside another, so a text ends in another where its bytes do. -/
import CertAudit.Proofs.Bytes
namespace CertAudit.Bytes

variable {c : Char} {cs ds : List Char} {b : UInt8} {before after : Bytes}

theorem ofString_eq_flatMap (s : String) :
    ofString s = s.toList.flatMap String.utf8EncodeChar := by
  rw [ofString, String.toUTF8_eq_toByteArray, ← String.utf8Encode_toList, List.utf8Encode,
    List.toList_data_toByteArray]

theorem isFirst_of_flatMap_eq_cons (h : cs.flatMap String.utf8EncodeChar = b :: after) :
    b.IsUTF8FirstByte := by
  cases cs with
  | nil => cases h
  | cons c cs =>
    obtain ⟨first, rest, hc⟩ := List.exists_cons_of_ne_nil (String.utf8EncodeChar_ne_nil (c := c))
    rw [List.flatMap_cons, hc, List.cons_append] at h
    obtain ⟨rfl, -⟩ := List.cons.inj h
    have hfirst : (String.utf8EncodeChar c)[0]? = some first := by rw [hc, List.getElem?_cons_zero]
    obtain ⟨_, hget⟩ := List.getElem?_eq_some_iff.mp hfirst
    rw [← hget]
    exact UInt8.isUTF8FirstByte_getElem_utf8EncodeChar.mpr rfl

theorem not_isFirst_of_encodeChar (h : String.utf8EncodeChar c = before ++ b :: after)
    (hne : before ≠ []) : ¬ b.IsUTF8FirstByte := by
  have hinner : (String.utf8EncodeChar c)[before.length]? = some b := by
    rw [h, List.getElem?_append_right (Nat.le_refl _), Nat.sub_self, List.getElem?_cons_zero]
  obtain ⟨_, hget⟩ := List.getElem?_eq_some_iff.mp hinner
  rw [← hget, UInt8.isUTF8FirstByte_getElem_utf8EncodeChar, List.length_eq_zero_iff]
  exact hne

/-- A byte below 128 in front is the number of the character. -/
theorem toNat_of_encodeChar (h : String.utf8EncodeChar c = b :: after) (hb : b.toNat < 128) :
    c.toNat = b.toNat := by
  have hval : c.val.toNat = c.toNat := rfl
  unfold String.utf8EncodeChar at h
  dsimp only at h
  split at h
  · obtain ⟨rfl, -⟩ := List.cons.inj h
    rw [UInt8.toNat_ofNat']
    omega
  · exfalso
    -- Encodings of several bytes begin with 192 at least.
    repeat' split at h
    all_goals
      obtain ⟨rfl, -⟩ := List.cons.inj h
      rw [UInt8.toNat_ofNat'] at hb
      omega

theorem flatMap_injective : Function.Injective (List.flatMap String.utf8EncodeChar) := by
  intro cs ds h
  have hofList : ofString (String.ofList cs) = ofString (String.ofList ds) := by
    rw [ofString_eq_flatMap, ofString_eq_flatMap, String.toList_ofList, String.toList_ofList, h]
  exact String.ofList_injective (ofString_injective hofList)

theorem suffix_of_flatMap_suffix
    (h : cs.flatMap String.utf8EncodeChar <:+ ds.flatMap String.utf8EncodeChar) : cs <:+ ds := by
  induction ds with
  | nil =>
    have hnil : cs.flatMap String.utf8EncodeChar = List.flatMap String.utf8EncodeChar [] :=
      List.suffix_nil.mp h
    cases flatMap_injective hnil
    exact List.suffix_refl []
  | cons d ds ih =>
    obtain ⟨before, hbefore⟩ := h
    rw [List.flatMap_cons] at hbefore
    -- The bytes begin inside the first character, or are among those behind it.
    rcases List.append_eq_append_iff.mp hbefore with ⟨inside, hd, hcs⟩ | ⟨later, _, hds⟩
    · cases inside with
      | nil => exact (flatMap_injective hcs) ▸ List.suffix_cons d ds
      | cons b inside =>
        by_cases hne : before = []
        · rw [hne, List.nil_append] at hbefore
          have hall : cs = d :: ds := flatMap_injective (hbefore.trans List.flatMap_cons.symm)
          exact hall ▸ List.suffix_refl _
        · exact absurd (isFirst_of_flatMap_eq_cons hcs) (not_isFirst_of_encodeChar hd hne)
    · exact (ih ⟨later, hds.symm⟩).trans (List.suffix_cons d ds)

theorem ofString_suffix_iff (s t : String) : ofString s <:+ ofString t ↔ s.toList <:+ t.toList := by
  rw [ofString_eq_flatMap, ofString_eq_flatMap]
  constructor
  · exact suffix_of_flatMap_suffix
  · rintro ⟨before, hbefore⟩
    rw [← hbefore, List.flatMap_append]
    exact List.suffix_append _ _

end CertAudit.Bytes
