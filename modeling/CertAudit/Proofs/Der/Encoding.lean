/- Elements are read back from their spellings, the encodings by the distinguished rules among them. -/
import CertAudit.Der.Value
import CertAudit.Proofs.Bytes.Shortest
import CertAudit.Proofs.Der.Front
namespace CertAudit.Der

variable {identifier : UInt8} {content spelled a b bs : Bytes} {n : Nat}

/-- The length of a content: below 128 one byte, else the number of bytes of the length and the
length in as few bytes as it takes. -/
def lengthBytes (n : Nat) : Bytes :=
  if n < 128 then [UInt8.ofNat n]
  else UInt8.ofNat (128 + (Bytes.shortest n).length) :: Bytes.shortest n

/-- The encoding of an element whose identifier is a single byte. -/
def encode (identifier : UInt8) (content : Bytes) : Bytes :=
  identifier :: (lengthBytes content.length ++ content)

/-- The element with an identifier of one byte and a content. -/
def elementOf (identifier : UInt8) (content : Bytes) : Element :=
  ⟨classOf identifier, identifier.toNat / 32 % 2 == 1, identifier.toNat % 32, content⟩

@[simp]
theorem elementOf_content : (elementOf identifier content).content = content := rfl

/-- The bytes can be counted in 64 bits, as those of every byte string in memory can. -/
def Fits (bs : Bytes) : Prop := bs.length < UInt64.size

theorem Fits.left (h : Fits (a ++ b)) : Fits a := by
  simp only [Fits, List.length_append] at h ⊢
  omega

theorem Fits.right (h : Fits (a ++ b)) : Fits b := by
  simp only [Fits, List.length_append] at h ⊢
  omega

theorem Fits.inner (h : Fits (encode identifier content)) : Fits content := by
  simp only [Fits, encode, List.length_cons, List.length_append] at h ⊢
  omega

/-- Some bytes spell a length: one byte below 128, or the number of bytes behind it and in these the
length, with or without zeros in front. -/
inductive SpellsLength (n : Nat) : Bytes → Prop
  | short (h : n < 128) : SpellsLength n [UInt8.ofNat n]
  | long {digits : Bytes} (hnonempty : digits ≠ []) (hwidth : digits.length < 127)
      (hvalue : Bytes.toNat digits = n) (h : n < UInt64.size) :
      SpellsLength n (UInt8.ofNat (128 + digits.length) :: digits)

/-- Some bytes spell an element: an identifier of one byte, the length of the content in any form, and
the content. -/
inductive Spells (identifier : UInt8) (content : Bytes) : Bytes → Prop
  | intro {length : Bytes} (h : SpellsLength content.length length) :
      Spells identifier content (identifier :: (length ++ content))

theorem Spells.ne_nil (h : Spells identifier content spelled) : spelled ≠ [] := by
  cases h with
  | intro _ => exact List.cons_ne_nil _ _

theorem spellsLength_lengthBytes (h : n < UInt64.size) : SpellsLength n (lengthBytes n) := by
  simp only [lengthBytes]
  split
  · rename_i hshort
    exact .short hshort
  · have hwidth : (Bytes.shortest n).length ≤ 8 := Bytes.shortest_length_le h (by decide)
    exact .long (Bytes.shortest_ne_nil n) (by omega) (Bytes.toNat_shortest n) h

theorem spells_encode (h : Fits content) : Spells identifier content (encode identifier content) :=
  .intro (spellsLength_lengthBytes h)

theorem SpellsLength.read {length : Bytes} (h : SpellsLength n length) (rest : Bytes) :
    readLength (length ++ rest) = some (some n, rest) := by
  cases h with
  | short hshort =>
    have hbyte : (UInt8.ofNat n).toNat = n := UInt8.toNat_ofNat_of_lt (show n < 256 by omega)
    simp only [List.singleton_append, readLength, hbyte, hshort, if_true]
  | long hnonempty hwidth hvalue h =>
    rename_i digits
    have hpositive : 0 < digits.length := List.length_pos_iff.mpr hnonempty
    have hbyte : (UInt8.ofNat (128 + digits.length)).toNat = 128 + digits.length :=
      UInt8.toNat_ofNat_of_lt (show 128 + digits.length < 256 by omega)
    simp only [List.cons_append, readLength, hbyte]
    rw [if_neg (by omega), if_neg (by omega), if_neg (by omega), Nat.add_sub_cancel_left,
      take?_append]
    simp only [bind, Option.bind_some, hvalue, h, if_true]

/-- The header of an element that has been spelled. -/
def headerOf (identifier : UInt8) (content : Bytes) : Header :=
  ⟨classOf identifier, identifier.toNat / 32 % 2 == 1, identifier.toNat % 32, some content.length⟩

theorem Spells.readOpenHeader (h : Spells identifier content spelled)
    (hidentifier : identifier.toNat % 32 ≠ 31) (rest : Bytes) :
    readOpenHeader (spelled ++ rest) = some (headerOf identifier content, content ++ rest) := by
  cases h with
  | intro hlength =>
    simp only [List.cons_append, List.append_assoc, Der.readOpenHeader, readTag, hidentifier,
      if_false, bind, Option.bind_some, hlength.read, Option.isNone_some, Bool.false_and,
      Bool.false_eq_true]
    rfl

/-- An element that has been spelled is read back, whatever comes behind it. -/
theorem Spells.read (h : Spells identifier content spelled)
    (hidentifier : identifier.toNat % 32 ≠ 31) (rest : Bytes) :
    read (spelled ++ rest) = some (elementOf identifier content, rest) := by
  simp only [Der.read, readHeader, h.readOpenHeader hidentifier, headerOf, bind, Option.bind_some,
    take?_append]
  rfl

theorem read_encode (hidentifier : identifier.toNat % 32 ≠ 31) (h : Fits content) (rest : Bytes) :
    read (encode identifier content ++ rest) = some (elementOf identifier content, rest) :=
  (spells_encode h).read hidentifier rest

section Checked

variable {α : Type} {item : Bytes → Option (α × Bytes)} {x : α}

theorem readAll_nil (item : Bytes → Option (α × Bytes)) : readAll item [] = some [] := by
  rw [readAll, readMany_nil]

theorem readAll_append {front rest : Bytes} (hitem : item (front ++ rest) = some (x, rest))
    (hne : front ≠ []) : readAll item (front ++ rest) = (readAll item rest).map (x :: ·) := by
  have hshorter : rest.length < (front ++ rest).length := by
    rw [List.length_append]
    exact Nat.lt_add_of_pos_left (List.length_pos_iff.mpr hne)
  rw [readAll, readMany, hitem, readAll]
  simp only [hshorter, if_true]
  obtain ⟨xs, unread⟩ := readMany item rest
  cases unread <;> rfl

theorem readBody_append {h : Header} (hlength : h.length = some content.length)
    (htag : h.tag ≠ Tag.endOfContent) (depth : Nat) (rest : Bytes) :
    readBody (depth + 1) h (content ++ rest) =
      some (⟨h.tagClass, h.constructed, h.tag, content⟩, rest) := by
  -- An empty content could otherwise be that of an end marker.
  have hskip : skipContent (depth + 1) h (content ++ rest) = some (false, rest) := by
    rw [skipContent, hlength]
    simp only [htag, and_false, if_false, take?_append, Option.map_some]
  simp [readBody, hskip, hlength]

theorem Spells.readChecked_integer {depth : Nat} (h : Spells 0x02 content spelled)
    (hdepth : 0 < depth) (rest : Bytes) :
    readChecked depth (spelled ++ rest) = some (elementOf 0x02 content, rest) := by
  obtain ⟨depth, rfl⟩ := Nat.exists_eq_add_one.mpr hdepth
  have htag : (headerOf 0x02 content).tag ≠ Tag.endOfContent := show 2 ≠ 0 by decide
  have hbody : readBody (depth + 1) (headerOf 0x02 content) (content ++ rest) =
      some (elementOf 0x02 content, rest) := readBody_append rfl htag depth rest
  rw [readChecked, h.readOpenHeader (by decide) rest]
  simp only [bind, Option.bind_some, hbody]
  rfl

theorem Spells.readElements (h : Spells 0x30 content spelled) (rest : Bytes) :
    readElements (spelled ++ rest) =
      (readAll (readChecked (maxDepth - 1)) content).map (·, rest) := by
  rw [Der.readElements, readTagged, h.read (by decide) rest]
  rfl

end Checked

section Integer

theorem toNat_of_signedValue (h : signedValue content = n) : Bytes.toNat content = n := by
  cases content with
  | nil => exact Int.natCast_inj.mp h
  | cons b rest =>
    have hless : (Bytes.toNat (b :: rest) : Int) < Nat.pow 256 (b :: rest).length :=
      Int.ofNat_lt.mpr (Bytes.toNat_lt _)
    rw [signedValue] at h
    split at h
    · -- With its highest bit set the content is that of a negative integer.
      omega
    · exact Int.natCast_inj.mp h

theorem lt_of_signedValue (h : signedValue content = n) : n < 256 ^ content.length := by
  rw [← toNat_of_signedValue h]
  exact Bytes.toNat_lt content

theorem number?_elementOf (h : signedValue content = n) (hn : n < 2 ^ 64) :
    (elementOf 0x02 content).number? = some n := by
  have hsign : 0 ≤ signedValue content := h ▸ Int.natCast_nonneg n
  have hclass : (elementOf 0x02 content).tagClass = .universal := rfl
  have htag : (elementOf 0x02 content).tag = Tag.integer := rfl
  rw [Element.number?, hclass, htag, elementOf_content]
  simp only [ne_eq, not_true, if_false, hsign, and_true, if_true, toNat_of_signedValue h]
  -- The tag is neither that of a bit string nor that of an enumerated value.
  rw [if_neg (by decide), if_neg (by decide)]
  exact if_pos hn

end Integer
end CertAudit.Der
