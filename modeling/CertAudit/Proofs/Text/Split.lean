/- Cutting a text at a separator gives back what was put together with it. -/
import CertAudit.Text.Split
import Mathlib.Data.List.Basic
namespace CertAudit.CharList

variable {sep : Char}

theorem split_ne_nil (sep : Char) (cs : List Char) : split sep cs ≠ [] := by
  cases cs with
  | nil => exact List.cons_ne_nil _ _
  | cons c rest =>
    unfold split
    split
    · exact List.cons_ne_nil _ _
    · split
      · exact List.cons_ne_nil _ _
      · exact List.cons_ne_nil _ _

theorem split_cons_self (sep : Char) (cs : List Char) :
    split sep (sep :: cs) = [] :: split sep cs := by
  simp only [split, if_true]

theorem split_cons_of_ne {c : Char} (hc : c ≠ sep) {cs part : List Char}
    {parts : List (List Char)} (h : split sep cs = part :: parts) :
    split sep (c :: cs) = (c :: part) :: parts := by
  simp only [split, hc, if_false, h]

theorem split_of_not_mem {cs : List Char} (h : sep ∉ cs) : split sep cs = [cs] := by
  induction cs with
  | nil => rfl
  | cons c rest ih =>
    rw [List.mem_cons, not_or] at h
    exact split_cons_of_ne (Ne.symm h.1) (ih h.2)

theorem split_append_cons (sep : Char) (before after : List Char) :
    split sep (before ++ sep :: after) = split sep before ++ split sep after := by
  induction before with
  | nil => exact split_cons_self sep after
  | cons c before ih =>
    by_cases hc : c = sep
    · subst hc
      rw [List.cons_append, split_cons_self, split_cons_self, ih, List.cons_append]
    · obtain ⟨part, parts, hparts⟩ := List.exists_cons_of_ne_nil (split_ne_nil sep before)
      rw [hparts] at ih
      rw [List.cons_append, split_cons_of_ne hc ih, split_cons_of_ne hc hparts]
      rfl

theorem split_eq_splitOn (sep : Char) (cs : List Char) : split sep cs = cs.splitOn sep := by
  induction cs with
  | nil => exact (List.splitOn_nil sep).symm
  | cons c rest ih =>
    obtain ⟨part, parts, hparts⟩ := List.exists_cons_of_ne_nil (split_ne_nil sep rest)
    rw [List.splitOn, List.splitOnP_cons_eq_if_modifyHead, ← List.splitOn, ← ih, hparts]
    by_cases hc : c = sep
    · rw [if_pos (beq_iff_eq.mpr hc), hc, split_cons_self, hparts]
    · rw [if_neg (mt beq_iff_eq.mp hc), split_cons_of_ne hc hparts]
      rfl

theorem split_injective (sep : Char) : Function.Injective (split sep) := by
  have hjoin : ∀ ks : List Char, [sep].intercalate (split sep ks) = ks := by
    intro ks
    rw [split_eq_splitOn]
    exact List.intercalate_splitOn sep
  intro cs ds h
  rw [← hjoin cs, h, hjoin]

/-- Parts without the separator are found again in what they make up. -/
theorem split_intercalate {parts : List (List Char)} (h : ∀ part ∈ parts, sep ∉ part)
    (hne : parts ≠ []) : split sep ([sep].intercalate parts) = parts := by
  rw [split_eq_splitOn]
  exact List.splitOn_intercalate sep h hne

/-- No part has the separator. -/
theorem not_mem_of_mem_split {cs part : List Char} (h : part ∈ split sep cs) : sep ∉ part := by
  induction cs generalizing part with
  | nil =>
    rw [List.mem_singleton.mp h]
    exact List.not_mem_nil
  | cons c rest ih =>
    by_cases hc : c = sep
    · rw [hc, split_cons_self] at h
      rcases List.mem_cons.mp h with rfl | h
      · exact List.not_mem_nil
      · exact ih h
    · obtain ⟨first, parts, hparts⟩ := List.exists_cons_of_ne_nil (split_ne_nil sep rest)
      rw [split_cons_of_ne hc hparts] at h
      rw [hparts] at ih
      rcases List.mem_cons.mp h with rfl | h
      · exact List.not_mem_cons_of_ne_of_not_mem (Ne.symm hc) (ih List.mem_cons_self)
      · exact ih (List.mem_cons_of_mem first h)

theorem mem_of_mem_split {cs part : List Char} {c : Char} (h : part ∈ split sep cs) (hc : c ∈ part) :
    c ∈ cs := by
  induction cs generalizing part with
  | nil =>
    rw [List.mem_singleton.mp h] at hc
    exact hc
  | cons d rest ih =>
    by_cases hd : d = sep
    · rw [hd, split_cons_self] at h
      rcases List.mem_cons.mp h with rfl | h
      · cases hc
      · exact List.mem_cons_of_mem d (ih h hc)
    · obtain ⟨first, parts, hparts⟩ := List.exists_cons_of_ne_nil (split_ne_nil sep rest)
      rw [split_cons_of_ne hd hparts] at h
      rw [hparts] at ih
      rcases List.mem_cons.mp h with rfl | h
      · exact (List.mem_cons.mp hc).elim (fun heq => heq ▸ List.mem_cons_self)
          fun hc => List.mem_cons_of_mem d (ih List.mem_cons_self hc)
      · exact List.mem_cons_of_mem d (ih (List.mem_cons_of_mem first h) hc)

/-- A text with a separator is cut in two at least. -/
theorem split_of_mem {cs : List Char} (h : sep ∈ cs) :
    ∃ first second parts, split sep cs = first :: second :: parts := by
  obtain ⟨before, after, rfl⟩ := List.append_of_mem h
  obtain ⟨first, parts, hfirst⟩ := List.exists_cons_of_ne_nil (split_ne_nil sep before)
  obtain ⟨second, more, hsecond⟩ := List.exists_cons_of_ne_nil (split_ne_nil sep after)
  rw [split_append_cons, hfirst, hsecond]
  cases parts with
  | nil => exact ⟨first, second, more, rfl⟩
  | cons part parts => exact ⟨first, part, _, rfl⟩

/-- What holds no separator stays in front of the first part. -/
theorem split_append_of_not_mem {front cs part : List Char} {parts : List (List Char)}
    (hfront : sep ∉ front) (h : split sep cs = part :: parts) :
    split sep (front ++ cs) = (front ++ part) :: parts := by
  induction front with
  | nil => exact h
  | cons c rest ih =>
    rw [List.mem_cons, not_or] at hfront
    exact split_cons_of_ne (Ne.symm hfront.1) (ih hfront.2)

theorem length_split (sep : Char) (cs : List Char) :
    (split sep cs).length = cs.count sep + 1 := by
  induction cs with
  | nil => rfl
  | cons c rest ih =>
    by_cases hc : c = sep
    · rw [hc, split_cons_self, List.length_cons, ih, List.count_cons_self]
    · obtain ⟨first, parts, hparts⟩ := List.exists_cons_of_ne_nil (split_ne_nil sep rest)
      rw [split_cons_of_ne hc hparts, List.count_cons_of_ne hc, ← ih, hparts]
      rfl

/-- A text with a separator has a last one. -/
theorem exists_last_of_mem {cs : List Char} (h : sep ∈ cs) :
    ∃ before last, cs = before ++ sep :: last ∧ sep ∉ last := by
  induction cs with
  | nil => cases h
  | cons c rest ih =>
    by_cases hrest : sep ∈ rest
    · obtain ⟨before, last, rfl, hlast⟩ := ih hrest
      exact ⟨c :: before, last, rfl, hlast⟩
    · rcases List.mem_cons.mp h with rfl | hlater
      · exact ⟨[], rest, rfl, hrest⟩
      · exact absurd hlater hrest

end CertAudit.CharList
