/- Bundles of certificates and of revocation lists hold what stands in their blocks up to the first
that is malformed. -/
import CertAudit.Proofs.Attempt
import CertAudit.Proofs.Bytes
import CertAudit.Proofs.Certificate.Reading
import CertAudit.Proofs.Text.Armor
import CertAudit.Revocation.List
import Mathlib
namespace CertAudit

namespace Armor

variable {α β : Type} {xs : List α} {ys : List β} {f : α → Except Failure β} {text : Bytes}
  {bs : List ArmorBlock} {broken : Bool}

/-- The blocks with some labels hold what is read from them, in order, and there is one at least. -/
structure Holds (labels : List String) (read : Bytes → Except Failure α) (bs : List ArmorBlock)
    (items : List α) : Prop where
  nonempty : items ≠ []
  each : List.Forall₂ (fun b x => read b.content = .ok x)
    (bs.filter fun b => labels.contains b.label) items

/-- Where items are gathered and there have to be some, one fault or another tells of none. -/
theorem bind_nonempty_eq_ok_iff {gathered : Except Failure (List β)} {fault other : Failure} :
    (gathered.bind fun items =>
        if !items.isEmpty then .ok items
        else if broken then .error fault else .error other) = .ok ys ↔
      ys ≠ [] ∧ gathered = .ok ys := by
  cases gathered with
  | error fault => simp [Except.bind]
  | ok items =>
    cases items with
    | nil => cases broken <;> simp [Except.bind, eq_comm]
    | cons x items =>
      simp only [Except.bind, List.isEmpty_cons, Bool.not_false, if_true, Except.ok.injEq]
      constructor
      · rintro rfl
        exact ⟨List.cons_ne_nil x items, rfl⟩
      · exact And.right

theorem bundle_eq_ok_iff (h : Layout text bs broken) (harmored : isArmored text = true)
    {certificates : List Certificate} :
    Certificate.bundle text = .ok certificates ↔
      Holds Certificate.armorLabels Certificate.ofEncoding bs certificates := by
  simp only [Certificate.bundle, harmored, if_true, h.blocks_eq]
  refine bind_nonempty_eq_ok_iff.trans ?_
  rw [mapM_eq_ok_iff]
  exact ⟨fun h => ⟨h.1, h.2⟩, fun h => ⟨h.nonempty, h.each⟩⟩

theorem ofArmor_eq_ok_iff (h : Layout text bs broken) {lists : List RevocationList} :
    RevocationList.ofArmor text = .ok lists ↔
      Holds ["X509 CRL"] RevocationList.ofEncoding bs lists := by
  have hlabel : (fun b : ArmorBlock => b.label == "X509 CRL") =
      fun b => ["X509 CRL"].contains b.label := by
    funext b
    rw [Bool.eq_iff_iff]
    simp
  simp only [RevocationList.ofArmor, h.blocks_eq, hlabel]
  refine bind_nonempty_eq_ok_iff.trans ?_
  rw [mapM_eq_ok_iff]
  exact ⟨fun h => ⟨h.1, h.2⟩, fun h => ⟨h.nonempty, h.each⟩⟩

/-- The blocks of a text are determined. A bundle of certificates holds what is read from those with
a label of certificates, in order, and a bundle of revocation lists what is read from those with the
label of lists; what follows a malformed block is in neither. -/
theorem bundle_holds_blocks (text : Bytes) :
    ∃ bs broken, Layout text bs broken ∧
      (∀ bs' broken', Layout text bs' broken' → bs' = bs ∧ broken' = broken) ∧
      (isArmored text = true → ∀ certificates,
        Certificate.bundle text = .ok certificates ↔
          Holds Certificate.armorLabels Certificate.ofEncoding bs certificates) ∧
      ∀ lists, RevocationList.ofArmor text = .ok lists ↔
        Holds ["X509 CRL"] RevocationList.ofEncoding bs lists := by
  obtain ⟨bs, broken, hlayout, hunique⟩ := existsUnique_layout text
  exact ⟨bs, broken, hlayout, hunique, fun harmored _ => bundle_eq_ok_iff hlayout harmored,
    fun _ => ofArmor_eq_ok_iff hlayout⟩

/-- The line of a text. -/
def lineOf (s : String) : Bytes := Bytes.ofString (s ++ "\n")

/-- The lines of a block with its base64 signs in one line. -/
def framed (signs : String) : List Bytes :=
  [lineOf "-----BEGIN CERTIFICATE-----", lineOf signs, lineOf "-----END CERTIFICATE-----"]

section Framed

variable {s : String} {content rest : Bytes} {ls : List Bytes}

theorem lineOf_eq (s : String) : lineOf s = Bytes.ofString s ++ [0x0a] :=
  Bytes.ofString_append s "\n"

theorem Cut.lineOf (h : Cut rest ls) (plain : 0x0a ∉ Bytes.ofString s) :
    Cut (lineOf s ++ rest) (lineOf s :: ls) := by
  rw [lineOf_eq, List.append_assoc]
  exact .cons plain h

theorem Cut.framed (h : Cut rest ls) (plain : 0x0a ∉ Bytes.ofString s) :
    Cut ((framed s).flatten ++ rest) (framed s ++ ls) := by
  have hend : 0x0a ∉ Bytes.ofString "-----END CERTIFICATE-----" := by decide
  have hbegin : 0x0a ∉ Bytes.ofString "-----BEGIN CERTIFICATE-----" := by decide
  have hlines := ((h.lineOf hend).lineOf plain).lineOf hbegin
  simpa [Armor.framed] using hlines

theorem firstWith_opening_framed (s : String) (ls : List Bytes) :
    FirstWith opening (framed s ++ ls) [] ("-----BEGIN CERTIFICATE-----" ++ "\n").toList
      (lineOf s :: lineOf "-----END CERTIFICATE-----" :: ls) :=
  .here (Bytes.toString?_ofString _) (by decide) _

theorem firstWith_closing (plain : ¬ closing <+: (s ++ "\n").toList) (ls : List Bytes) :
    FirstWith closing (lineOf s :: lineOf "-----END CERTIFICATE-----" :: ls) [lineOf s]
      ("-----END CERTIFICATE-----" ++ "\n").toList ls :=
  .later ⟨s ++ "\n", Bytes.toString?_ofString _, plain⟩
    (.here (Bytes.toString?_ofString _) (by decide) ls)

theorem contentOf?_lineOf (h : ∀ c ∈ s.toList.getLast?, Unicode.isWhiteSpace c = false) :
    contentOf? [lineOf s] = Base64.decodeChain? (Bytes.ofString s) := by
  have hwhite : Unicode.isWhiteSpace '\n' = true := by decide
  have hfeed : ∀ c ∈ ['\n'], Unicode.isWhiteSpace c = true := by simp [hwhite]
  have hline : (s ++ "\n").toList = s.toList ++ ['\n'] := String.toList_append
  simp only [contentOf?, bodySigns, List.flatMap_singleton, lineOf, Bytes.toString?_ofString,
    Option.getD_some, hline, trimEnd_append hfeed h, String.ofList_toList]

/-- Base64 signs that begin as those of a sequence do and end in a filling sign. -/
def sequenceSigns (middle : String) : String := "M" ++ middle ++ "="

theorem sequenceSigns_plain (h : 0x0a ∉ Bytes.ofString s) :
    0x0a ∉ Bytes.ofString (sequenceSigns s) := by
  have hfirst : 0x0a ∉ Bytes.ofString "M" := by decide
  have hlast : 0x0a ∉ Bytes.ofString "=" := by decide
  simp only [sequenceSigns, Bytes.ofString_append, List.mem_append, hfirst, h, hlast, or_self,
    not_false_iff]

theorem wellFormed_framed
    (hcontent : Base64.decodeChain? (Bytes.ofString (sequenceSigns s)) = some content)
    (ls : List Bytes) :
    WellFormed { label := "CERTIFICATE", content } (framed (sequenceSigns s) ++ ls) ls := by
  have hlabel : label? ("-----BEGIN CERTIFICATE-----" ++ "\n").toList = some "CERTIFICATE" := by
    decide
  have hchars : (sequenceSigns s).toList = 'M' :: (s.toList ++ ['=']) := by simp [sequenceSigns]
  have hplain : ¬ closing <+: (sequenceSigns s ++ "\n").toList := by
    have hclosing : closing = '-' :: "----END ".toList := by decide
    rw [String.toList_append, hchars, hclosing, List.cons_append, List.cons_prefix_cons]
    exact fun h => absurd h.1 (by decide)
  have hfull : ∀ c ∈ (sequenceSigns s).toList.getLast?, Unicode.isWhiteSpace c = false := by
    rw [hchars, ← List.cons_append, List.getLast?_concat]
    rintro c ⟨⟩
    decide
  exact ⟨firstWith_opening_framed _ ls, hlabel, firstWith_closing hplain ls,
    (contentOf?_lineOf hfull).trans hcontent⟩

end Framed

/-- A certificate of an authority for itself. -/
def firstCertificate : Certificate :=
  .short 1 (.single [0x55, 4, 3] 0x0c "CA") (.single [0x55, 4, 3] 0x0c "CA")

/-- A certificate of the same authority for another subject. -/
def secondCertificate : Certificate :=
  .short 2 (.single [0x55, 4, 3] 0x0c "CA") (.single [0x55, 4, 3] 0x0c "B")

def firstSigns : String :=
  sequenceSigns ("GAwVAIBATAFBgMrZXAwDTELMAkGA1UEAwwCQ0EwHhcNNzAwMTAxMDAwMDAwWhcNNzAwMTAxMDAw" ++
    "MDAwWjANMQswCQYDVQQDDAJDQTAKMAUGAytlcAMBADAFBgMrZXADAQA")

def secondSigns : String :=
  sequenceSigns ("F8wUwIBAjAFBgMrZXAwDTELMAkGA1UEAwwCQ0EwHhcNNzAwMTAxMDAwMDAwWhcNNzAwMTAxMDAw" ++
    "MDAwWjAMMQowCAYDVQQDDAFCMAowBQYDK2VwAwEAMAUGAytlcAMBAA=")

/-- Two certificates with a block between them whose body is not base64. -/
def interrupted : Bytes :=
  (framed firstSigns).flatten ++ ((framed "*").flatten ++ ((framed secondSigns).flatten ++ []))

theorem unreadable_malformed (ls : List Bytes) : Malformed (framed "*" ++ ls) :=
  .content (firstWith_opening_framed "*" ls) (firstWith_closing (by decide) ls) (by decide)

theorem interrupted_layout :
    Layout interrupted [{ label := "CERTIFICATE", content := firstCertificate.encoding }] true := by
  refine ⟨framed firstSigns ++ (framed "*" ++ (framed secondSigns ++ [])), ?_, ?_⟩
  · have hfirst : 0x0a ∉ Bytes.ofString firstSigns := sequenceSigns_plain (by decide)
    have hsecond : 0x0a ∉ Bytes.ofString secondSigns := sequenceSigns_plain (by decide)
    exact ((Cut.nil.framed hsecond).framed (by decide)).framed hfirst
  · have hcontent : Base64.decodeChain? (Bytes.ofString firstSigns) =
        some firstCertificate.encoding := by cbv
    exact .block (wellFormed_framed hcontent _) (.malformed (unreadable_malformed _))

theorem interrupted_armored : isArmored interrupted = true := rfl

/-- Of the two certificates the bundle holds the one before the malformed block. -/
theorem bundle_holds_blocks_interrupted :
    isArmored interrupted = true ∧
      ∀ certificates, Certificate.bundle interrupted = .ok certificates ↔
        Holds Certificate.armorLabels Certificate.ofEncoding
          [{ label := "CERTIFICATE", content := firstCertificate.encoding }] certificates := by
  obtain ⟨bs, broken, _, hunique, hbundle, _⟩ := bundle_holds_blocks interrupted
  obtain ⟨rfl, rfl⟩ := hunique _ _ interrupted_layout
  exact ⟨interrupted_armored, hbundle interrupted_armored⟩

/-- A block with a certificate stands behind a malformed one, and the bundle lacks it. -/
theorem bundle_interrupted :
    interrupted = (framed firstSigns ++ framed "*" ++ framed secondSigns).flatten ∧
      Malformed (framed "*" ++ framed secondSigns) ∧
      WellFormed { label := "CERTIFICATE", content := secondCertificate.encoding }
        (framed secondSigns) [] ∧
      Certificate.ofEncoding secondCertificate.encoding = .ok secondCertificate ∧
      Certificate.bundle interrupted = .ok [firstCertificate] ∧
      secondCertificate ∉ [firstCertificate] := by
  refine ⟨?_, unreadable_malformed _, ?_, by cbv, ?_, by decide⟩
  · simp only [interrupted, List.flatten_append, List.append_assoc, List.append_nil]
  · have hcontent : Base64.decodeChain? (Bytes.ofString secondSigns) =
        some secondCertificate.encoding := by cbv
    have hwell := wellFormed_framed hcontent []
    rwa [List.append_nil] at hwell
  · rw [bundle_eq_ok_iff interrupted_layout interrupted_armored]
    have hread : Certificate.ofEncoding firstCertificate.encoding = .ok firstCertificate := by cbv
    exact ⟨List.cons_ne_nil _ _, .cons hread .nil⟩

end Armor
end CertAudit
