/- A certificate is the same from its bare encoding and from armor, alone and in a bundle. -/
import CertAudit.Proofs.Bundle
import CertAudit.Proofs.Certificate.Trailing
import CertAudit.Proofs.Text.Armoring
namespace CertAudit

variable {b : UInt8} {rest d : Bytes} {c : Certificate} {certificates : List Certificate}
  {encodings texts : List Bytes}

/-- An identifier with the number of a sequence, or one whose number follows, begins no armor. -/
theorem Armor.not_isArmored_of_identifier (h : b.toNat % 32 = Der.Tag.sequence ∨ b.toNat % 32 = 31)
    (rest : Bytes) : isArmored (b :: rest) = false := by
  -- The low bits of a blank and of a hyphen are none of the two.
  have hother : ∀ sign : UInt8, sign.toNat % 32 ≠ Der.Tag.sequence → sign.toNat % 32 ≠ 31 →
      b ≠ sign := by
    rintro sign hsequence hlong rfl
    exact h.elim hsequence hlong
  have hblank : Bytes.isBlank b = false := by
    simp [Bytes.isBlank, hother 0x20 (by decide) (by decide), hother 0x09 (by decide) (by decide),
      hother 0x0a (by decide) (by decide), hother 0x0c (by decide) (by decide),
      hother 0x0d (by decide) (by decide)]
  have hhyphen : (0x2d == b) = false :=
    beq_eq_false_iff_ne.mpr (hother 0x2d (by decide) (by decide)).symm
  have hbegin : Bytes.ofString "-----BEGIN" = 0x2d :: Bytes.ofString "----BEGIN" := by decide
  rw [isArmored, List.dropWhile_cons_of_neg (Bool.eq_false_iff.mp hblank), hbegin,
    List.isPrefixOf_cons_cons, hhyphen, Bool.false_and]

namespace Certificate

theorem exists_identifier_of_ofEncoding (h : ofEncoding d = .ok c) :
    ∃ b rest, d = b :: rest ∧ (b.toNat % 32 = Der.Tag.sequence ∨ b.toNat % 32 = 31) := by
  rw [ofEncoding] at h
  split at h
  · cases h
  · rename_i hread
    rw [readSignedCertificate, SignedBytes.read_eq] at hread
    obtain ⟨⟨content, rest⟩, hcontent, _⟩ := Option.bind_eq_some_iff.mp hread
    exact Der.exists_identifier_of_readContent hcontent

theorem ofBytes_of_ofEncoding (h : ofEncoding d = .ok c) : ofBytes d = .ok c := by
  obtain ⟨b, rest, rfl, hidentifier⟩ := exists_identifier_of_ofEncoding h
  rw [ofBytes, Armor.not_isArmored_of_identifier hidentifier]
  exact h

theorem bundle_of_ofEncoding (h : ofEncoding d = .ok c) : bundle d = .ok [c] := by
  obtain ⟨b, rest, rfl, hidentifier⟩ := exists_identifier_of_ofEncoding h
  rw [bundle, Armor.not_isArmored_of_identifier hidentifier, h]
  rfl

theorem ofBytes_of_isArmored {text : Bytes} (h : Armor.isArmored text = true) :
    ofBytes text = ofArmor text := by
  cases text with
  | nil => cases h
  | cons b rest =>
    rw [ofBytes, h]
    rfl

theorem armorLabels_certificate : armorLabels.contains "CERTIFICATE" = true := by decide

theorem ofArmor_certificateBlock {text : Bytes} {bs : List ArmorBlock} {broken : Bool}
    (h : Armor.Layout text (Armor.certificateBlock d :: bs) broken) :
    ofArmor text = ofEncoding d := by
  rw [ofArmor, h.first?_eq]
  exact if_pos armorLabels_certificate

theorem holds_certificateBlocks (hne : certificates ≠ [])
    (hread : List.Forall₂ (fun d c => ofEncoding d = .ok c) encodings certificates) :
    Armor.Holds armorLabels ofEncoding (encodings.map Armor.certificateBlock) certificates := by
  have hall : ∀ b ∈ encodings.map Armor.certificateBlock, armorLabels.contains b.label = true := by
    intro b hb
    obtain ⟨d, _, rfl⟩ := List.mem_map.mp hb
    exact armorLabels_certificate
  refine ⟨hne, ?_⟩
  rw [List.filter_eq_self.mpr hall, List.forall₂_map_left_iff]
  exact hread

/-- The armor of encodings, one behind the other, is a bundle of what the encodings are read as, and
where one certificate is wanted it is the first. The bare encodings give the same certificates. -/
theorem bundle_armor (hne : encodings ≠ [])
    (harmor : List.Forall₂ Armor.IsArmor encodings texts)
    (hread : List.Forall₂ (fun d c => ofEncoding d = .ok c) encodings certificates) :
    bundle texts.flatten = .ok certificates ∧
      (∃ c, certificates.head? = some c ∧ ofBytes texts.flatten = .ok c ∧
        ofArmor texts.flatten = .ok c) ∧
      List.Forall₂ (fun d c => ofBytes d = .ok c ∧ bundle d = .ok [c]) encodings certificates := by
  have hlayout := Armor.layout_flatten harmor
  have hbare := hread.imp fun d c h => And.intro (ofBytes_of_ofEncoding h) (bundle_of_ofEncoding h)
  cases hread with
  | nil => exact absurd rfl hne
  | @cons d c others _ hfirst hothers =>
    cases harmor with
    | @cons _ text _ more harmor _ =>
      have harmored : Armor.isArmored (text :: more).flatten = true :=
        harmor.isArmored_append more.flatten
      have hone : ofArmor (text :: more).flatten = .ok c :=
        (ofArmor_certificateBlock hlayout).trans hfirst
      refine ⟨?_, ⟨c, rfl, ?_, hone⟩, hbare⟩
      · rw [Armor.bundle_eq_ok_iff hlayout harmored]
        exact holds_certificateBlocks (List.cons_ne_nil _ _) (.cons hfirst hothers)
      · rw [ofBytes_of_isArmored harmored, hone]

/-- Two certificates in lines of different widths and with different ends. -/
def twoWidths : Bytes :=
  Armor.armor [0x0a] 64 Armor.firstCertificate.encoding ++
    Armor.armor [0x0d, 0x0a] 1 Armor.secondCertificate.encoding

theorem bundle_armor_twoWidths :
    ofEncoding Armor.firstCertificate.encoding = .ok Armor.firstCertificate ∧
      ofEncoding Armor.secondCertificate.encoding = .ok Armor.secondCertificate ∧
      bundle twoWidths = .ok [Armor.firstCertificate, Armor.secondCertificate] ∧
      ofBytes twoWidths = .ok Armor.firstCertificate ∧
      ofArmor twoWidths = .ok Armor.firstCertificate ∧
      bundle Armor.secondCertificate.encoding = .ok [Armor.secondCertificate] := by
  have harmorFirst := Armor.isArmor_armor (.inl rfl) 64 Armor.firstCertificate.encoding
  have harmorSecond := Armor.isArmor_armor (.inr rfl) 1 Armor.secondCertificate.encoding
  have hfirst : ofEncoding Armor.firstCertificate.encoding = .ok Armor.firstCertificate := by cbv
  have hsecond : ofEncoding Armor.secondCertificate.encoding = .ok Armor.secondCertificate := by cbv
  obtain ⟨hbundle, ⟨c, hhead, hbytes, hone⟩, hbare⟩ := bundle_armor (List.cons_ne_nil _ _)
    (.cons harmorFirst (.cons harmorSecond .nil)) (.cons hfirst (.cons hsecond .nil))
  rw [List.flatten_cons, List.flatten_singleton] at hbundle hbytes hone
  cases hhead
  simp only [List.forall₂_cons] at hbare
  exact ⟨hfirst, hsecond, hbundle, hbytes, hone, hbare.2.1.2⟩

end Certificate
end CertAudit
