/- Two names that have been read are the same in one line if and only if their attributes look alike.
Certificates are linked by such lines, so an issuer may bear another name than the one asked for, as
long as the two differ in nothing but values that are not text and types that have one form. -/
import CertAudit.Operator
import CertAudit.Proofs.Context
import CertAudit.Proofs.Name.Line
import Mathlib
namespace CertAudit

namespace Der.Element

variable {e f : Element}

/-- The value is of a kind of text, and its bytes spell one. -/
def Readable (e : Element) : Prop :=
  Name.isTextTag e.tag = true ∧ ∃ s, Bytes.toString? e.content = some s

/-- The value is no text, or is the text that stands for values that are none. -/
def Noted (e : Element) : Prop := ¬ e.Readable ∨ e.content = Bytes.ofString "<binary>"

/-- Both values are the same text, or both are shown as the note that a value is no text. -/
def Alike (e f : Element) : Prop :=
  (e.Readable ∧ f.Readable ∧ e.content = f.content) ∨ (e.Noted ∧ f.Noted)

theorem Readable.content_eq (h : e.Readable) : e.content = Bytes.ofString (Name.valueText e) := by
  obtain ⟨htag, s, hs⟩ := h
  rw [Name.valueText, if_pos htag, hs]
  exact Bytes.eq_ofString_of_toString? hs

theorem valueText_of_not_readable (h : ¬ e.Readable) : Name.valueText e = "<binary>" := by
  unfold Name.valueText
  split
  · rename_i htag
    cases hs : Bytes.toString? e.content with
    | none => rfl
    | some s => exact absurd ⟨htag, s, hs⟩ h
  · rfl

theorem valueText_eq_note_iff : Name.valueText e = "<binary>" ↔ e.Noted := by
  by_cases he : e.Readable
  · have hcontent := he.content_eq
    constructor
    · intro h
      exact .inr (h ▸ hcontent)
    · rintro (hnot | hnote)
      · exact absurd he hnot
      · exact Bytes.ofString_injective (hcontent.symm.trans hnote)
  · exact ⟨fun _ => .inl he, fun _ => valueText_of_not_readable he⟩

theorem valueText_eq_iff : Name.valueText e = Name.valueText f ↔ e.Alike f := by
  constructor
  · intro h
    by_cases he : e.Readable
    · by_cases hf : f.Readable
      · exact .inl ⟨he, hf, by rw [he.content_eq, hf.content_eq, h]⟩
      · have hnote := valueText_of_not_readable hf
        exact .inr ⟨valueText_eq_note_iff.mp (h.trans hnote), valueText_eq_note_iff.mp hnote⟩
    · have hnote := valueText_of_not_readable he
      exact .inr ⟨valueText_eq_note_iff.mp hnote, valueText_eq_note_iff.mp (h.symm.trans hnote)⟩
  · rintro (⟨he, hf, hcontent⟩ | ⟨he, hf⟩)
    · rw [he.content_eq, hf.content_eq] at hcontent
      exact Bytes.ofString_injective hcontent
    · rw [valueText_eq_note_iff.mpr he, valueText_eq_note_iff.mpr hf]

end Der.Element

namespace EncodedAttribute

variable {a b : EncodedAttribute}

/-- Both types have one form, and both values look alike. -/
structure Alike (a b : EncodedAttribute) : Prop where
  type : Oid.ofContent a.type = Oid.ofContent b.type
  value : a.value.Alike b.value

/-- Both types are the only spelling of their form and differ, or the values have other bytes and do
not both stand as the note. -/
def Differ (a b : EncodedAttribute) : Prop :=
  (Oid.isPlain a.type = true ∧ Oid.isPlain b.type = true ∧ a.type ≠ b.type) ∨
    (a.value.content ≠ b.value.content ∧ ¬ (a.value.Noted ∧ b.value.Noted))

theorem shown_eq_iff : a.shown = b.shown ↔ a.Alike b := by
  have hforms : ∀ content, (Oid.ofContent content).toList.all Oid.isFormChar = true :=
    fun _ => List.all_eq_true.mpr fun _ => Oid.isFormChar_of_mem_ofContent
  rw [shown, shown, Prod.mk.injEq, Der.Element.valueText_eq_iff]
  constructor
  · rintro ⟨htype, hvalue⟩
    exact ⟨Identifiers.nameIn_attributeNames_inj (hforms _) (hforms _) htype, hvalue⟩
  · rintro ⟨htype, hvalue⟩
    exact ⟨by rw [htype], hvalue⟩

theorem Alike.not_differ (h : a.Alike b) : ¬ a.Differ b := by
  rintro (⟨ha, hb, hne⟩ | ⟨hne, hnot⟩)
  · exact hne (Oid.ofContent_inj ha hb h.type)
  · rcases h.value with ⟨_, _, hcontent⟩ | hnoted
    · exact hne hcontent
    · exact hnot hnoted

end EncodedAttribute

/-- Names have as many attributes, and those at one place look alike. -/
def Name.Alike (n m : Name) : Prop :=
  List.Forall₂ EncodedAttribute.Alike n.encodedAttributes m.encodedAttributes

theorem Name.IsRead.oneLine_eq_iff {n m : Name} (hn : n.IsRead) (hm : m.IsRead) :
    n.oneLine = m.oneLine ↔ n.Alike m := by
  rw [hn.plainTypes.oneLine_eq_iff hm.plainTypes, hn.attributes_eq, hm.attributes_eq,
    ← List.forall₂_eq_eq_eq, List.forall₂_map_left_iff, List.forall₂_map_right_iff, Name.Alike]
  simp only [EncodedAttribute.shown_eq_iff]

theorem Name.Alike.getElem? {n m : Name} (h : n.Alike m) {i : Nat} {a b : EncodedAttribute}
    (ha : n.encodedAttributes[i]? = some a) (hb : m.encodedAttributes[i]? = some b) :
    a.Alike b := by
  obtain ⟨hi, rfl⟩ := List.getElem?_eq_some_iff.mp ha
  obtain ⟨hi', rfl⟩ := List.getElem?_eq_some_iff.mp hb
  exact h.get hi hi'

namespace Chain

variable {n m : Name}

/-- Two names are the same in one line if and only if they look alike, so a difference in one attribute
that can be seen tells them apart, and a certificate that asks for one of them is linked to one that
bears the other only if they look alike. -/
theorem linked_names_alike (hn : n.IsRead) (hm : m.IsRead) :
    (n.oneLine = m.oneLine ↔ n.Alike m) ∧
    (∀ (i : Nat) (a b : EncodedAttribute), n.encodedAttributes[i]? = some a →
      m.encodedAttributes[i]? = some b → a.Differ b → n.oneLine ≠ m.oneLine) ∧
    ∀ (entries chain rest : List ChainEntry) (p : Nat) (e next : ChainEntry),
      assemble entries = .ok (chain, rest) → chain[p]? = some e → chain[p + 1]? = some next →
        e.certificate.issuer = n → next.certificate.subject = m → n.Alike m := by
  have hlines := hn.oneLine_eq_iff hm
  refine ⟨hlines, ?_, ?_⟩
  · intro i a b ha hb hdiffer hline
    exact ((hlines.mp hline).getElem? ha hb).not_differ hdiffer
  · intro entries chain rest p e next h he hnext hissuer hsubject
    have hline : e.certificate.issuerLine = next.certificate.subjectLine :=
      Audit.issuerLine_eq_subjectLine h he hnext
    rw [Certificate.issuerLine, Certificate.subjectLine, hissuer, hsubject] at hline
    exact hlines.mp hline

/-- The name of an authority in wide characters, which are not read as text. -/
def wideName (content : Bytes) : Name :=
  { attributes := [("CN", "<binary>")]
    encoding := Der.shortForm 0x30 (Der.shortForm 0x31 (Der.shortForm 0x30
      (Der.shortForm 0x06 [0x55, 4, 3] ++ Der.shortForm 0x1e content))) }

/-- A certificate of the authority A. -/
def strayLeaf : Certificate := .short 7 (wideName [0, 0x41]) (.single [0x55, 4, 3] 0x0c "leaf")

/-- The certificate of the authority B. -/
def wideRoot : Certificate := .short 1 (wideName [0, 0x42]) (wideName [0, 0x42])

def strayEntries : List ChainEntry := [{ certificate := strayLeaf }, { certificate := wideRoot }]

def strayChain : List ChainEntry := [
  { certificate := strayLeaf },
  { certificate := wideRoot, position := 1, role := .root }]

theorem assemble_strayEntries : assemble strayEntries = .ok (strayChain, []) := rfl

theorem strayEntries_isRead : ∀ e ∈ strayEntries, e.certificate.IsRead := by
  have hleaf : Certificate.ofBytes strayLeaf.encoding = .ok strayLeaf := by cbv
  have hroot : Certificate.ofBytes wideRoot.encoding = .ok wideRoot := by cbv
  intro e he
  rcases List.mem_pair.mp he with rfl | rfl
  · exact .of_ofBytes hleaf
  · exact .of_ofBytes hroot

/-- The attribute that a common name is encoded as. -/
def commonName (tag : Nat) (content : Bytes) : EncodedAttribute :=
  { type := [0x55, 4, 3], value := { tagClass := .universal, constructed := false, tag, content } }

theorem linked_names_alike_strayEntries :
    (Name.single [0x55, 4, 3] 0x0c "A").oneLine ≠ (Name.single [0x55, 4, 3] 0x0c "B").oneLine ∧
      strayLeaf.issuer.Alike wideRoot.subject := by
  constructor
  · have hread : (Name.single [0x55, 4, 3] 0x0c "A").IsRead :=
      ⟨(Name.single [0x55, 4, 3] 0x0c "A").encoding, [], by cbv⟩
    have hread' : (Name.single [0x55, 4, 3] 0x0c "B").IsRead :=
      ⟨(Name.single [0x55, 4, 3] 0x0c "B").encoding, [], by cbv⟩
    have hfirst : (Name.single [0x55, 4, 3] 0x0c "A").encodedAttributes[0]? =
        some (commonName Der.Tag.utf8String [0x41]) := by cbv
    have hfirst' : (Name.single [0x55, 4, 3] 0x0c "B").encodedAttributes[0]? =
        some (commonName Der.Tag.utf8String [0x42]) := by cbv
    obtain ⟨_, hdiffer, _⟩ := linked_names_alike hread hread'
    refine hdiffer 0 _ _ hfirst hfirst' (.inr ⟨by decide, ?_⟩)
    rintro ⟨hnoted, _⟩
    exact absurd (Der.Element.valueText_eq_note_iff.mpr hnoted) (by decide)
  · have hleaf : strayLeaf.IsRead := strayEntries_isRead _ List.mem_cons_self
    have hroot : wideRoot.IsRead := strayEntries_isRead _ (List.mem_cons_of_mem _ List.mem_cons_self)
    obtain ⟨_, _, hlinked⟩ := linked_names_alike hleaf.exists_names.1 hroot.exists_names.2
    exact hlinked _ _ _ 0 _ _ assemble_strayEntries rfl rfl rfl rfl

/-- A certificate of one authority is linked to the root of another, though their names are encoded
with other bytes, since neither is read as text. -/
theorem linked_names_differ_strayEntries :
    (∀ e ∈ strayEntries, e.certificate.IsRead) ∧
      assemble strayEntries = .ok (strayChain, []) ∧
      strayLeaf.issuer.encodedAttributes = [commonName 30 [0, 0x41]] ∧
      wideRoot.subject.encodedAttributes = [commonName 30 [0, 0x42]] ∧
      strayLeaf.issuer.oneLine = wideRoot.subject.oneLine ∧
      Operator.issuedBy.evaluate none
        (Audit.contextOf { seconds := 0 } [] [] strayChain { certificate := strayLeaf }) [] =
          .ok true :=
  ⟨strayEntries_isRead, rfl, by cbv, by cbv, rfl, rfl⟩

end Chain
end CertAudit
