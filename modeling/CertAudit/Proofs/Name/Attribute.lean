/- The attributes of a name as they are encoded, and what the name shows of them: the short name or
the dotted form of a type, and the text of a value or a note that it has none. -/
import CertAudit.Proofs.Bytes
import CertAudit.Proofs.Certificate.Names
import CertAudit.Proofs.Oid
import Mathlib
namespace CertAudit

/-- An attribute as it is encoded: the content of its type, and its value. -/
structure EncodedAttribute where
  type : Bytes
  value : Der.Element
deriving DecidableEq

namespace EncodedAttribute

/-- What a name shows of an attribute. -/
def shown (a : EncodedAttribute) : String × String :=
  (Identifiers.nameIn Identifiers.attributeNames (Oid.ofContent a.type), Name.valueText a.value)

/-- Reads an attribute without regard to what is shown of it. -/
def read (bs : Bytes) : Option (EncodedAttribute × Bytes) := do
  let (content, rest) ← Der.readContent Der.Tag.sequence bs
  let (type, content) ← Oid.read content
  let (value, _) ← Der.read content
  some ({ type, value }, rest)

/-- Reads a set of one or more attributes. -/
def readSet (bs : Bytes) : Option (List EncodedAttribute × Bytes) := do
  let (content, rest) ← Der.readContent Der.Tag.set bs
  match (Der.readMany read content).1 with
  | [] => none
  | attributes => some (attributes, rest)

end EncodedAttribute

namespace Identifiers

variable {oid other : String}

theorem nameIn_cases (table : List (String × String)) (oid : String) :
    (oid, nameIn table oid) ∈ table ∨ nameIn table oid = oid := by
  unfold nameIn
  cases hlookup : table.lookup oid with
  | none => exact .inr rfl
  | some name =>
    obtain ⟨before, after, rfl, _⟩ := List.lookup_eq_some_iff.mp hlookup
    exact .inl (List.mem_append_right before List.mem_cons_self)

theorem attributeNames_plain : ∀ entry ∈ attributeNames,
    ',' ∉ entry.2.toList ∧ '=' ∉ entry.2.toList ∧ '\\' ∉ entry.2.toList := by decide

theorem attributeNames_inj : ∀ entry ∈ attributeNames, ∀ other ∈ attributeNames,
    entry.2 = other.2 → entry.1 = other.1 := by decide +kernel

/-- No short name looks like the form of an identifier. -/
theorem attributeNames_not_form : ∀ entry ∈ attributeNames,
    entry.2.toList.all Oid.isFormChar = false := by decide

theorem nameIn_attributeNames_inj (hoid : oid.toList.all Oid.isFormChar = true)
    (hother : other.toList.all Oid.isFormChar = true)
    (h : nameIn attributeNames oid = nameIn attributeNames other) : oid = other := by
  rcases nameIn_cases attributeNames oid with hin | hform <;>
    rcases nameIn_cases attributeNames other with hin' | hform'
  · exact attributeNames_inj _ hin _ hin' h
  · have hnot := attributeNames_not_form _ hin
    rw [h, hform', hother] at hnot
    cases hnot
  · have hnot := attributeNames_not_form _ hin'
    rw [← h, hform, hoid] at hnot
    cases hnot
  · rw [← hform, h, hform']

end Identifiers

namespace Name

variable {n : Name}

/-- Reading has given a name. -/
def IsRead (n : Name) : Prop := ∃ bs rest, read bs = some (n, rest)

/-- The attributes that the encoding of a name holds, as they are encoded. -/
def encodedAttributes (n : Name) : List EncodedAttribute :=
  match Der.readOpenHeader n.encoding with
  | some (_, sets) => (Der.readMany EncodedAttribute.readSet sets).1.flatten
  | none => []

theorem readAttribute_eq_map : readAttribute = fun bs =>
    (EncodedAttribute.read bs).map fun read => (read.1.shown, read.2) := by
  funext bs
  simp only [readAttribute, EncodedAttribute.read, bind, Option.map_bind, Function.comp_def,
    Option.map_some]
  rfl

theorem readAttributes_eq_map : readAttributes = fun bs =>
    (EncodedAttribute.readSet bs).map fun read =>
      (read.1.map EncodedAttribute.shown, read.2) := by
  funext bs
  simp only [readAttributes, EncodedAttribute.readSet, bind, Option.map_bind, readAttribute_eq_map,
    Der.readMany_map]
  congr 1
  funext read
  cases hmany : (Der.readMany EncodedAttribute.read read.1).1 <;> simp [hmany]

theorem IsRead.attributes_eq (h : n.IsRead) :
    n.attributes = n.encodedAttributes.map EncodedAttribute.shown := by
  obtain ⟨bs, rest, hread⟩ := h
  rw [attributes_eq_attributesIn hread, attributesIn, encodedAttributes]
  cases Der.readOpenHeader n.encoding with
  | none => rfl
  | some header =>
    simp only [readAttributes_eq_map, Der.readMany_map, List.map_flatten]

end Name
end CertAudit
