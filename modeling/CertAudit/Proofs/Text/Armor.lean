/- Armored text is a sequence of blocks, up to its end or to a block that cannot be read; the reader
gives exactly these blocks. -/
import CertAudit.Text.Armor
import Mathlib.Data.List.TakeWhile
namespace CertAudit.Armor

/-- A text is cut into lines behind each line feed. -/
inductive Cut : Bytes → List Bytes → Prop
  | nil : Cut [] []
  | last {line : Bytes} (nonempty : line ≠ []) (plain : 0x0a ∉ line) : Cut line [line]
  | cons {line rest : Bytes} {ls : List Bytes} (plain : 0x0a ∉ line) (cut : Cut rest ls) :
    Cut (line ++ 0x0a :: rest) ((line ++ [0x0a]) :: ls)

/-- A line is text that does not begin with some signs. -/
def Lacks (signs : List Char) (line : Bytes) : Prop :=
  ∃ s, Bytes.toString? line = some s ∧ ¬ signs <+: s.toList

/-- The lines before the first one that begins with some signs, the text of that line, and the lines
behind it. -/
inductive FirstWith (signs : List Char) : List Bytes → List Bytes → List Char → List Bytes → Prop
  | here {line : Bytes} {s : String} (text : Bytes.toString? line = some s)
    (begins : signs <+: s.toList) (rest : List Bytes) :
    FirstWith signs (line :: rest) [] s.toList rest
  | later {line : Bytes} {ls front rest : List Bytes} {text : List Char} (lacks : Lacks signs line)
    (next : FirstWith signs ls front text rest) :
    FirstWith signs (line :: ls) (line :: front) text rest

/-- A line that is no text stands before any line that begins with some signs. -/
inductive Garbled (signs : List Char) : List Bytes → Prop
  | here {line : Bytes} (h : Bytes.toString? line = none) (rest : List Bytes) :
    Garbled signs (line :: rest)
  | later {line : Bytes} {ls : List Bytes} (lacks : Lacks signs line) (next : Garbled signs ls) :
    Garbled signs (line :: ls)

/-- The base64 signs of lines, blanks at the ends of lines left out. -/
def bodySigns (body : List Bytes) : List Char :=
  body.flatMap fun line => Unicode.trimEnd ((Bytes.toString? line).getD "").toList

/-- The bytes that the lines of a body spell. -/
def contentOf? (body : List Bytes) : Option Bytes :=
  Base64.decodeChain? (Bytes.ofString (String.ofList (bodySigns body)))

/-- A block comes first in lines, from the line that begins it to the one that ends it. -/
inductive WellFormed (b : ArmorBlock) (ls rest : List Bytes) : Prop
  | mk {before inner body : List Bytes} {first last : List Char}
    (opens : FirstWith opening ls before first inner) (label : label? first = some b.label)
    (closes : FirstWith closing inner body last rest) (content : contentOf? body = some b.content)

/-- What comes first in lines begins as a block, but is none. -/
inductive Malformed (ls : List Bytes) : Prop
  | garbled (h : Garbled opening ls)
  | label {before inner : List Bytes} {first : List Char}
    (opens : FirstWith opening ls before first inner) (label : label? first = none)
  | unclosed {before inner : List Bytes} {first : List Char}
    (opens : FirstWith opening ls before first inner) (body : ∀ line ∈ inner, Lacks closing line)
  | body {before inner : List Bytes} {first : List Char}
    (opens : FirstWith opening ls before first inner) (body : Garbled closing inner)
  | content {before inner body rest : List Bytes} {first last : List Char}
    (opens : FirstWith opening ls before first inner)
    (closes : FirstWith closing inner body last rest) (content : contentOf? body = none)

/-- The blocks of lines up to the first malformed one, and whether there is one. -/
inductive Blocks : List Bytes → List ArmorBlock → Bool → Prop
  | done {ls : List Bytes} (h : ∀ line ∈ ls, Lacks opening line) : Blocks ls [] false
  | malformed {ls : List Bytes} (h : Malformed ls) : Blocks ls [] true
  | block {ls rest : List Bytes} {b : ArmorBlock} {bs : List ArmorBlock} {broken : Bool}
    (first : WellFormed b ls rest) (others : Blocks rest bs broken) : Blocks ls (b :: bs) broken

/-- The blocks of a text up to the first malformed one, and whether there is one. -/
def Layout (text : Bytes) (bs : List ArmorBlock) (broken : Bool) : Prop :=
  ∃ ls, Cut text ls ∧ Blocks ls bs broken

variable {signs text : List Char} {ls front rest : List Bytes} {b : ArmorBlock}
  {bs : List ArmorBlock} {broken : Bool} {line : Bytes}

section Lines

/-- Takes one byte into account: the line begun and the lines done, both in reverse. -/
def cutStep (s : Bytes × List Bytes) (b : UInt8) : Bytes × List Bytes :=
  if b == 0x0a then ([], (b :: s.1).reverse :: s.2) else (b :: s.1, s.2)

/-- The lines at the end of a text. -/
def cutEnd (s : Bytes × List Bytes) : List Bytes :=
  (if s.1.isEmpty then s.2 else s.1.reverse :: s.2).reverse

theorem lines_eq (text : Bytes) : lines text = cutEnd (text.foldl cutStep ([], [])) := rfl

theorem foldl_cutStep_of_plain (h : 0x0a ∉ line) (s : Bytes × List Bytes) :
    line.foldl cutStep s = (line.reverse ++ s.1, s.2) := by
  induction line generalizing s with
  | nil => rfl
  | cons c line ih =>
    rw [List.mem_cons, not_or] at h
    have hc : (c == 0x0a) = false := beq_eq_false_iff_ne.mpr (Ne.symm h.1)
    rw [List.foldl_cons, ih h.2]
    simp [cutStep, hc]

theorem Cut.cutEnd_foldl {text : Bytes} (h : Cut text ls) (done : List Bytes) :
    cutEnd (text.foldl cutStep ([], done)) = done.reverse ++ ls := by
  induction h generalizing done with
  | nil => simp [cutEnd]
  | last hne hplain =>
    rw [foldl_cutStep_of_plain hplain]
    simp [cutEnd, hne]
  | cons hplain _ ih =>
    rw [List.foldl_append, foldl_cutStep_of_plain hplain, List.foldl_cons]
    simp [cutStep, ih]

theorem Cut.lines_eq {text : Bytes} (h : Cut text ls) : lines text = ls := h.cutEnd_foldl []

theorem exists_cut (text : Bytes) : ∃ ls, Cut text ls := by
  induction text with
  | nil => exact ⟨[], .nil⟩
  | cons c text ih =>
    obtain ⟨ls, hcut⟩ := ih
    by_cases hc : c = 0x0a
    · subst hc
      have hline : Cut ([] ++ 0x0a :: text) _ := .cons (by simp) hcut
      exact ⟨_, hline⟩
    · have hplain : ∀ {line : Bytes}, 0x0a ∉ line → 0x0a ∉ c :: line := fun h => by
        simp [Ne.symm hc, h]
      cases hcut with
      | nil => exact ⟨_, .last (List.cons_ne_nil _ _) (hplain (by simp))⟩
      | last _ h => exact ⟨_, .last (List.cons_ne_nil _ _) (hplain h)⟩
      | cons h hrest => exact ⟨_, .cons (hplain h) hrest⟩

theorem cut_lines (text : Bytes) : Cut text (lines text) := by
  obtain ⟨ls, hcut⟩ := exists_cut text
  rwa [hcut.lines_eq]

end Lines

theorem first_cases (signs : List Char) (ls : List Bytes) :
    (∀ line ∈ ls, Lacks signs line) ∨ Garbled signs ls ∨
      ∃ front text rest, FirstWith signs ls front text rest := by
  induction ls with
  | nil => exact .inl (by simp)
  | cons line ls ih =>
    cases hline : Bytes.toString? line with
    | none => exact .inr (.inl (.here hline ls))
    | some s =>
      by_cases hbegins : signs <+: s.toList
      · exact .inr (.inr ⟨_, _, _, .here hline hbegins ls⟩)
      · have hlacks : Lacks signs line := ⟨s, hline, hbegins⟩
        rcases ih with hnone | hgarbled | ⟨front, text, rest, hfirst⟩
        · exact .inl (List.forall_mem_cons.mpr ⟨hlacks, hnone⟩)
        · exact .inr (.inl (.later hlacks hgarbled))
        · exact .inr (.inr ⟨_, _, _, .later hlacks hfirst⟩)

theorem FirstWith.length_lt (h : FirstWith signs ls front text rest) : rest.length < ls.length := by
  induction h with
  | here _ _ rest => exact Nat.lt_succ_self rest.length
  | later _ _ ih => exact Nat.lt_succ_of_lt ih

theorem isPrefixOf_eq_true {s : String} (h : signs <+: s.toList) :
    signs.isPrefixOf s.toList = true := List.isPrefixOf_iff_prefix.mpr h

theorem isPrefixOf_eq_false {s : String} (h : ¬ signs <+: s.toList) :
    signs.isPrefixOf s.toList = false := by
  rw [Bool.eq_false_iff]
  exact mt List.isPrefixOf_iff_prefix.mp h

section Body

theorem trimEnd_append {cs blanks : List Char} (hblanks : ∀ c ∈ blanks, Unicode.isWhiteSpace c = true)
    (h : ∀ c ∈ cs.getLast?, Unicode.isWhiteSpace c = false) :
    Unicode.trimEnd (cs ++ blanks) = cs := by
  have hdrop : blanks.reverse.dropWhile Unicode.isWhiteSpace = [] := by
    rw [List.dropWhile_eq_nil_iff]
    intro c hc
    exact hblanks c (List.mem_reverse.mp hc)
  rw [Unicode.trimEnd, List.reverse_append, List.dropWhile_append, hdrop, List.isEmpty_nil,
    if_pos rfl]
  cases hcs : cs.reverse with
  | nil => rw [List.reverse_eq_nil_iff.mp hcs]; rfl
  | cons c rest =>
    have hc : Unicode.isWhiteSpace c = false := h c (by simp [← List.head?_reverse, hcs])
    rw [List.dropWhile_cons_of_neg (Bool.eq_false_iff.mp hc), ← hcs, List.reverse_reverse]

theorem body?_of_lacks (h : ∀ line ∈ ls, Lacks closing line) (done : List (List Char)) :
    body? done ls = none := by
  induction ls generalizing done with
  | nil => rfl
  | cons line ls ih =>
    obtain ⟨⟨s, hline, hlacks⟩, hrest⟩ := List.forall_mem_cons.mp h
    simp [body?, hline, isPrefixOf_eq_false hlacks, ih hrest]

theorem body?_of_garbled (h : Garbled closing ls) (done : List (List Char)) :
    body? done ls = none := by
  induction h generalizing done with
  | here h rest => simp [body?, h]
  | later hlacks _ ih =>
    obtain ⟨s, hline, hlacks⟩ := hlacks
    simp [body?, hline, isPrefixOf_eq_false hlacks, ih]

theorem body?_of_firstWith (h : FirstWith closing ls front text rest) (done : List (List Char)) :
    body? done ls = some (done.reverse.flatten ++ bodySigns front, rest) := by
  induction h generalizing done with
  | here hline hbegins rest => simp [body?, hline, isPrefixOf_eq_true hbegins, bodySigns]
  | later hlacks _ ih =>
    obtain ⟨s, hline, hlacks⟩ := hlacks
    simp [body?, hline, isPrefixOf_eq_false hlacks, ih, bodySigns]

end Body

theorem readFirst_of_lacks (h : ∀ line ∈ ls, Lacks opening line) : readFirst ls = .missing := by
  induction ls with
  | nil => rfl
  | cons line ls ih =>
    obtain ⟨⟨s, hline, hlacks⟩, hrest⟩ := List.forall_mem_cons.mp h
    simp [readFirst, hline, isPrefixOf_eq_false hlacks, ih hrest]

theorem readFirst_of_garbled (h : Garbled opening ls) : readFirst ls = .broken := by
  induction h with
  | here h rest => simp [readFirst, h]
  | later hlacks _ ih =>
    obtain ⟨s, hline, hlacks⟩ := hlacks
    simp [readFirst, hline, isPrefixOf_eq_false hlacks, ih]

theorem readFirst_of_firstWith (h : FirstWith opening ls front text rest) :
    readFirst ls = readBody text rest := by
  induction h with
  | here hline hbegins rest => simp [readFirst, hline, isPrefixOf_eq_true hbegins]
  | later hlacks _ ih =>
    obtain ⟨s, hline, hlacks⟩ := hlacks
    simp [readFirst, hline, isPrefixOf_eq_false hlacks, ih]

theorem WellFormed.readFirst_eq (h : WellFormed b ls rest) : readFirst ls = .block b rest := by
  obtain ⟨hopens, hlabel, hcloses, hcontent⟩ := h
  rw [contentOf?] at hcontent
  rw [readFirst_of_firstWith hopens, readBody, hlabel, body?_of_firstWith hcloses]
  simp [hcontent]

theorem Malformed.readFirst_eq (h : Malformed ls) : readFirst ls = .broken := by
  cases h with
  | garbled h => exact readFirst_of_garbled h
  | label hopens hlabel => rw [readFirst_of_firstWith hopens, readBody, hlabel]
  | unclosed hopens hbody =>
    rw [readFirst_of_firstWith hopens, readBody, body?_of_lacks hbody]
    split <;> rfl
  | body hopens hbody =>
    rw [readFirst_of_firstWith hopens, readBody, body?_of_garbled hbody]
    split <;> rfl
  | content hopens hcloses hcontent =>
    rw [contentOf?] at hcontent
    rw [readFirst_of_firstWith hopens, readBody, body?_of_firstWith hcloses]
    split
    · rfl
    · simp [hcontent]

theorem WellFormed.length_lt (h : WellFormed b ls rest) : rest.length < ls.length := by
  obtain ⟨hopens, _, hcloses, _⟩ := h
  exact Nat.lt_trans hcloses.length_lt hopens.length_lt

theorem Malformed.length_pos (h : Malformed ls) : 0 < ls.length := by
  cases ls with
  | nil => cases h.readFirst_eq
  | cons line ls => exact Nat.succ_pos _

/-- No block, a malformed one or a well-formed one comes first in lines. -/
theorem block_cases (ls : List Bytes) :
    (∀ line ∈ ls, Lacks opening line) ∨ Malformed ls ∨ ∃ b rest, WellFormed b ls rest := by
  rcases first_cases opening ls with hnone | hgarbled | ⟨before, first, inner, hopens⟩
  · exact .inl hnone
  · exact .inr (.inl (.garbled hgarbled))
  rcases first_cases closing inner with hnone | hgarbled | ⟨body, last, rest, hcloses⟩
  · exact .inr (.inl (.unclosed hopens hnone))
  · exact .inr (.inl (.body hopens hgarbled))
  cases hlabel : label? first with
  | none => exact .inr (.inl (.label hopens hlabel))
  | some label =>
    cases hcontent : contentOf? body with
    | none => exact .inr (.inl (.content hopens hcloses hcontent))
    | some content =>
      have hblock : WellFormed { label, content } ls rest := ⟨hopens, hlabel, hcloses, hcontent⟩
      exact .inr (.inr ⟨{ label, content }, rest, hblock⟩)

theorem exists_blocks (ls : List Bytes) : ∃ bs broken, Blocks ls bs broken := by
  induction hlen : ls.length using Nat.strongRecOn generalizing ls with
  | ind n ih =>
    subst hlen
    rcases block_cases ls with hnone | hmalformed | ⟨b, rest, hfirst⟩
    · exact ⟨[], false, .done hnone⟩
    · exact ⟨[], true, .malformed hmalformed⟩
    · obtain ⟨bs, broken, hothers⟩ := ih rest.length hfirst.length_lt rest rfl
      exact ⟨b :: bs, broken, .block hfirst hothers⟩

theorem Blocks.readBlocks_eq (h : Blocks ls bs broken) {fuel : Nat} (hfuel : ls.length ≤ fuel) :
    readBlocks fuel ls = (bs, broken) := by
  induction h generalizing fuel with
  | done h =>
    cases fuel with
    | zero => rfl
    | succ fuel => rw [readBlocks, readFirst_of_lacks h]
  | malformed h =>
    have hpos := h.length_pos
    obtain ⟨fuel, rfl⟩ := Nat.exists_eq_succ_of_ne_zero (by omega : fuel ≠ 0)
    rw [readBlocks, h.readFirst_eq]
  | block hfirst _ ih =>
    have hshorter := hfirst.length_lt
    obtain ⟨fuel, rfl⟩ := Nat.exists_eq_succ_of_ne_zero (by omega : fuel ≠ 0)
    rw [readBlocks, hfirst.readFirst_eq]
    simp only [ih (by omega : _ ≤ fuel)]

theorem Layout.blocks_eq {text : Bytes} (h : Layout text bs broken) :
    blocks text = (bs, broken) := by
  obtain ⟨ls, hcut, hblocks⟩ := h
  rw [blocks, hcut.lines_eq]
  exact hblocks.readBlocks_eq (Nat.le_refl _)

/-- Every text has blocks up to a malformed one or its end, and they are determined. -/
theorem existsUnique_layout (text : Bytes) :
    ∃ bs broken, Layout text bs broken ∧
      ∀ bs' broken', Layout text bs' broken' → bs' = bs ∧ broken' = broken := by
  obtain ⟨bs, broken, hblocks⟩ := exists_blocks (lines text)
  have hlayout : Layout text bs broken := ⟨_, cut_lines text, hblocks⟩
  refine ⟨bs, broken, hlayout, ?_⟩
  intro bs' broken' h'
  exact Prod.ext_iff.mp (h'.blocks_eq.symm.trans hlayout.blocks_eq)

end CertAudit.Armor
