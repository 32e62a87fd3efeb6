/- The lines of a tree shown as text. Every node begins one, and its value goes on over as many more
as it has line feeds. -/
import CertAudit.Proofs.Tree
import Mathlib
namespace CertAudit.Node

/-- The lines of a text that ends in a line feed. -/
def textLines (s : String) : List String :=
  (CharList.split '\n' s.toList).dropLast.map String.ofList

/-- What is shown of a node behind its path. -/
def shown (n : Node) : String :=
  match n.value with
  | some v => " = " ++ v.display
  | none => ""

/-- A path with what is shown of its node. -/
def entryText (e : String × Node) : String := e.1 ++ e.2.shown

/-- The lines that a node has in the text of its tree. -/
def entryLines (e : String × Node) : List String :=
  (CharList.split '\n' (entryText e).toList).map String.ofList

def feeds (s : String) : Nat := s.toList.count '\n'

/-- The characters before the first ` = `, or all of them. -/
def beforeEquals : List Char → List Char
  | [] => []
  | c :: cs => if [' ', '=', ' '].isPrefixOf (c :: cs) then [] else c :: beforeEquals cs

/-- The part of a line before the first ` = `, or the whole line. -/
def pathPart (s : String) : String := String.ofList (beforeEquals s.toList)

/-- A character that ends neither the path in a line nor the line. -/
def isPathChar (c : Char) : Bool := c != '=' && c != '\n'

variable {n : Node} {e : String × Node} {cs : List Char} {s : String}

theorem IsOver.no_equals (h : IsOver isPathChar s) : '=' ∉ s.toList :=
  fun hmem => absurd (h _ hmem) (by decide)

theorem IsOver.no_feed (h : IsOver isPathChar s) : '\n' ∉ s.toList :=
  fun hmem => absurd (h _ hmem) (by decide)

theorem beforeEquals_of_not_mem (h : '=' ∉ cs) : beforeEquals cs = cs := by
  induction cs with
  | nil => rfl
  | cons c rest ih =>
    have hnot : ¬[' ', '=', ' '].isPrefixOf (c :: rest) = true := by
      intro hprefix
      have hsub := (List.isPrefixOf_iff_prefix.mp hprefix).subset
      exact h (hsub (.tail _ (.head _)))
    rw [beforeEquals, if_neg hnot, ih (List.not_mem_of_not_mem_cons h)]

theorem beforeEquals_append (h : '=' ∉ cs) (more : List Char) :
    beforeEquals (cs ++ ' ' :: '=' :: ' ' :: more) = cs := by
  induction cs with
  | nil => rfl
  | cons c rest ih =>
    have hnot : ¬[' ', '=', ' '].isPrefixOf (c :: (rest ++ ' ' :: '=' :: ' ' :: more)) = true := by
      intro hprefix
      -- The second character is no sign of equality, be it of the path or behind it.
      cases rest with
      | nil => simp [List.isPrefixOf] at hprefix
      | cons d rest =>
        have hd : '=' = d := by
          simp only [List.cons_append, List.isPrefixOf, Bool.and_eq_true, beq_iff_eq] at hprefix
          exact hprefix.2.1
        exact h (hd ▸ .tail _ (.head _))
    rw [List.cons_append, beforeEquals, if_neg hnot, ih (List.not_mem_of_not_mem_cons h)]

/-- What is shown of a node begins with the sign of equality in its first line, if at all. -/
theorem part_shown_cases {part : List Char} {parts : List (List Char)}
    (h : CharList.split '\n' n.shown.toList = part :: parts) :
    part = [] ∨ ∃ more, part = ' ' :: '=' :: ' ' :: more := by
  rw [shown] at h
  cases hvalue : n.value with
  | none =>
    rw [hvalue] at h
    exact .inl (List.cons.inj h).1.symm
  | some v =>
    obtain ⟨first, rest, hdisplay⟩ :=
      List.exists_cons_of_ne_nil (CharList.split_ne_nil '\n' v.display.toList)
    rw [hvalue] at h
    dsimp only at h
    rw [String.toList_append, CharList.split_append_of_not_mem (by decide) hdisplay] at h
    exact .inr ⟨first, (List.cons.inj h).1.symm⟩

/-- The first line of a node has the path of the node in front, and its value has as many more lines
as it has line feeds. -/
theorem exists_entryLines (h : IsOver isPathChar e.1) :
    ∃ first more, entryLines e = first :: more ∧ pathPart first = e.1 ∧
      more.length = feeds e.2.shown := by
  have hcount : (entryLines e).length = feeds e.2.shown + 1 := by
    rw [entryLines, List.length_map, CharList.length_split, entryText, String.toList_append,
      List.count_append, List.count_eq_zero.mpr h.no_feed, Nat.zero_add, feeds]
  obtain ⟨part, parts, hshown⟩ :=
    List.exists_cons_of_ne_nil (CharList.split_ne_nil '\n' e.2.shown.toList)
  have hlines : entryLines e =
      String.ofList (e.1.toList ++ part) :: parts.map String.ofList := by
    rw [entryLines, entryText, String.toList_append,
      CharList.split_append_of_not_mem h.no_feed hshown, List.map_cons]
  refine ⟨_, _, hlines, ?_, ?_⟩
  · have hpath : beforeEquals (e.1.toList ++ part) = e.1.toList := by
      rcases part_shown_cases hshown with rfl | ⟨more, rfl⟩
      · rw [List.append_nil]
        exact beforeEquals_of_not_mem h.no_equals
      · exact beforeEquals_append h.no_equals more
    rw [pathPart, String.toList_ofList, hpath, String.ofList_toList]
  · rw [hlines, List.length_cons] at hcount
    exact Nat.succ.inj hcount

theorem line_eq (e : String × Node) : line e = entryText e ++ "\n" := by
  rw [line, entryText, shown]
  cases e.2.value with
  | none => simp
  | some v => simp [String.append_assoc]

theorem split_flatMap_feed (xs : List (List Char)) :
    CharList.split '\n' (xs.flatMap (· ++ ['\n'])) = xs.flatMap (CharList.split '\n') ++ [[]] := by
  induction xs with
  | nil => rfl
  | cons x rest ih =>
    rw [List.flatMap_cons, List.append_assoc, List.singleton_append, CharList.split_append_cons, ih,
      List.flatMap_cons, List.append_assoc]

theorem textLines_display (hpaths : ∀ e ∈ n.walk, e.1 ≠ "") :
    textLines n.display = n.walk.flatMap entryLines := by
  have hall : (n.walk.filter fun e => e.1 ≠ "") = n.walk :=
    List.filter_eq_self.mpr fun e he => decide_eq_true (hpaths e he)
  have hchars : n.display.toList =
      (n.walk.map fun e => (entryText e).toList).flatMap (· ++ ['\n']) := by
    rw [display, hall, String.toList_join, List.flatMap_map, List.flatMap_map]
    congr 1
    funext e
    rw [line_eq, String.toList_append]
    rfl
  rw [textLines, hchars, split_flatMap_feed, List.dropLast_concat, List.flatMap_map,
    List.map_flatMap]
  rfl

theorem length_textLines_display_iff (hpaths : ∀ e ∈ n.walk, e.1 ≠ "")
    (hkeys : ∀ e ∈ n.walk, IsOver isPathChar e.1) :
    (textLines n.display).length = n.walk.length ↔ ∀ e ∈ n.walk, feeds e.2.shown = 0 := by
  have hcount : ∀ e ∈ n.walk, (entryLines e).length = 1 + feeds e.2.shown := by
    intro e he
    obtain ⟨first, more, hlines, _, hmore⟩ := exists_entryLines (hkeys e he)
    rw [hlines, List.length_cons, hmore, Nat.add_comm]
  rw [textLines_display hpaths, List.length_flatMap, List.map_congr_left hcount, List.sum_map_add,
    List.map_const', List.sum_replicate_nat, Nat.mul_one, Nat.add_eq_left,
    List.sum_eq_zero_iff_forall_eq_nat, List.forall_mem_map]

end CertAudit.Node
