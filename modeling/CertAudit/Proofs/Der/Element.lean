/- Reading an element cuts its encoding into a header, the content and what follows. -/
import CertAudit.Der.Element
import Mathlib.Data.List.Basic
namespace CertAudit.Der

/-- Some bytes have been taken off the front. -/
def Takes (bs rest : Bytes) : Prop := ∃ taken, taken ≠ [] ∧ bs = taken ++ rest

variable {bs rest : Bytes}

theorem Takes.cons (b : UInt8) (rest : Bytes) : Takes (b :: rest) rest :=
  ⟨[b], List.cons_ne_nil _ _, rfl⟩

theorem Takes.trans {middle : Bytes} (h : Takes bs middle) (h' : Takes middle rest) :
    Takes bs rest := by
  obtain ⟨taken, hne, rfl⟩ := h
  obtain ⟨more, _, rfl⟩ := h'
  exact ⟨taken ++ more, by simp [hne], (List.append_assoc _ _ _).symm⟩

theorem take?_eq_append {n : Nat} {front : Bytes} (h : take? n bs = some (front, rest)) :
    bs = front ++ rest := by
  simp only [take?] at h
  split at h
  · cases h
    exact (List.take_append_drop n bs).symm
  · cases h

theorem readLongTag_takes {left n tag : Nat} (h : readLongTag left n bs = some (tag, rest)) :
    Takes bs rest := by
  induction left generalizing n bs with
  | zero => cases bs <;> cases h
  | succ left ih =>
    cases bs with
    | nil => cases h
    | cons b bs =>
      simp only [readLongTag] at h
      split at h
      · cases h
        exact .cons b _
      · exact (Takes.cons b bs).trans (ih h)

theorem readTag_takes {tag : TagClass × Bool × Nat} (h : readTag bs = some (tag, rest)) :
    Takes bs rest := by
  cases bs with
  | nil => cases h
  | cons b bs =>
    simp only [readTag] at h
    split at h
    · obtain ⟨⟨n, rest'⟩, hlong, heq⟩ := Option.map_eq_some_iff.mp h
      cases heq
      exact (Takes.cons b bs).trans (readLongTag_takes hlong)
    · cases h
      exact .cons b _

/-- The first byte of a tag holds its class, and its number or that the number follows. -/
theorem exists_identifier_of_readTag {tag : TagClass × Bool × Nat}
    (h : readTag bs = some (tag, rest)) :
    ∃ b more, bs = b :: more ∧ classOf b = tag.1 ∧
      (b.toNat % 32 = tag.2.2 ∨ b.toNat % 32 = 31) := by
  cases bs with
  | nil => cases h
  | cons b bs =>
    refine ⟨b, bs, rfl, ?_⟩
    simp only [readTag] at h
    split at h
    · rename_i hlong
      obtain ⟨_, _, heq⟩ := Option.map_eq_some_iff.mp h
      cases heq
      exact ⟨rfl, .inr hlong⟩
    · cases h
      exact ⟨rfl, .inl rfl⟩

theorem readLength_takes {length : Option Nat} (h : readLength bs = some (length, rest)) :
    Takes bs rest := by
  cases bs with
  | nil => cases h
  | cons b bs =>
    simp only [readLength] at h
    split at h
    · cases h
      exact .cons b _
    · split at h
      · cases h
        exact .cons b _
      · split at h
        · cases h
        · obtain ⟨⟨digits, rest'⟩, htake, h⟩ := Option.bind_eq_some_iff.mp h
          split at h
          · cases h
            rw [take?_eq_append htake, ← List.cons_append]
            exact ⟨b :: digits, List.cons_ne_nil _ _, rfl⟩
          · cases h

theorem readHeader_takes {header : Header} {length : Nat}
    (h : readHeader bs = some (header, length, rest)) : Takes bs rest := by
  obtain ⟨⟨_, rest'⟩, hopen, h⟩ := Option.bind_eq_some_iff.mp h
  obtain ⟨_, _, h⟩ := Option.bind_eq_some_iff.mp h
  cases h
  obtain ⟨⟨_, tagged⟩, htag, h⟩ := Option.bind_eq_some_iff.mp hopen
  obtain ⟨⟨_, measured⟩, hlength, h⟩ := Option.bind_eq_some_iff.mp h
  dsimp only at h
  split at h
  · cases h
  · cases h
    exact (readTag_takes htag).trans (readLength_takes hlength)

theorem read_eq_append {e : Element} (h : read bs = some (e, rest)) :
    ∃ header, header ≠ [] ∧ bs = header ++ (e.content ++ rest) := by
  obtain ⟨⟨_, _, body⟩, hheader, h⟩ := Option.bind_eq_some_iff.mp h
  obtain ⟨⟨content, rest'⟩, htake, h⟩ := Option.bind_eq_some_iff.mp h
  cases h
  obtain ⟨header, hne, rfl⟩ := readHeader_takes hheader
  exact ⟨header, hne, by rw [take?_eq_append htake]⟩

theorem readContent_eq_append {tag : Nat} {content : Bytes}
    (h : readContent tag bs = some (content, rest)) :
    ∃ header, header ≠ [] ∧ bs = header ++ (content ++ rest) := by
  obtain ⟨⟨e, rest'⟩, htagged, heq⟩ := Option.map_eq_some_iff.mp h
  cases heq
  obtain ⟨⟨e', rest''⟩, hread, htagged⟩ := Option.bind_eq_some_iff.mp htagged
  dsimp only at htagged
  split at htagged
  · cases htagged
    exact read_eq_append hread
  · cases htagged

theorem exists_identifier_of_read {e : Element} (h : read bs = some (e, rest)) :
    ∃ b more, bs = b :: more ∧ classOf b = e.tagClass ∧
      (b.toNat % 32 = e.tag ∨ b.toNat % 32 = 31) := by
  obtain ⟨⟨_, _, body⟩, hheader, h⟩ := Option.bind_eq_some_iff.mp h
  obtain ⟨_, _, h⟩ := Option.bind_eq_some_iff.mp h
  obtain ⟨⟨header, _⟩, hopen, hheader⟩ := Option.bind_eq_some_iff.mp hheader
  obtain ⟨_, _, hheader⟩ := Option.bind_eq_some_iff.mp hheader
  obtain ⟨⟨_, _⟩, htag, hopen⟩ := Option.bind_eq_some_iff.mp hopen
  obtain ⟨_, _, hopen⟩ := Option.bind_eq_some_iff.mp hopen
  cases h
  cases hheader
  dsimp only at hopen
  split at hopen
  · cases hopen
  · cases hopen
    exact exists_identifier_of_readTag htag

theorem exists_identifier_of_readContent {tag : Nat} {content : Bytes}
    (h : readContent tag bs = some (content, rest)) :
    ∃ b more, bs = b :: more ∧ (b.toNat % 32 = tag ∨ b.toNat % 32 = 31) := by
  obtain ⟨⟨e, _⟩, htagged, _⟩ := Option.map_eq_some_iff.mp h
  obtain ⟨⟨e', _⟩, hread, htagged⟩ := Option.bind_eq_some_iff.mp htagged
  dsimp only at htagged
  split at htagged
  · rename_i hnumber
    obtain ⟨b, more, hbs, _, hidentifier⟩ := exists_identifier_of_read hread
    exact ⟨b, more, hbs, hnumber ▸ hidentifier⟩
  · cases htagged

theorem readMany_length_le {α : Type} (item : Bytes → Option (α × Bytes)) (bs : Bytes) :
    (readMany item bs).2.length ≤ bs.length := by
  fun_induction readMany item bs with
  | case1 bs hnone => exact Nat.le_refl _
  | case2 bs x rest hitem hshorter xs unread hmany ih =>
    rw [hmany] at ih
    exact Nat.le_trans ih (Nat.le_of_lt hshorter)
  | case3 bs x rest hitem hshorter => exact Nat.le_refl _

end CertAudit.Der
