/- Texts that spell documents of truth values, integers, texts and arrays, with blanks between the
parts. What is spelled is what is read, and both the compact and the indented text spell it. -/
import CertAudit.Json.Reader
import CertAudit.Proofs.Time.Compact
namespace CertAudit.Json

section Scalars

variable {n fuel depth : Nat} {c : Char} {cs rest read : List Char}

/-- What may come behind a value: nothing, a blank, a comma, or the end of an array. -/
def Closes (rest : List Char) : Prop :=
  ∀ c, rest.head? = some c → c ∈ [' ', '\n', '\t', '\r', ',', ']']

theorem closes_nil : Closes [] := fun _ h => nomatch h

theorem Closes.eq_nil_or_cons (h : Closes rest) : rest = [] ∨ ∃ c more, rest = c :: more ∧
    (c = ' ' ∨ c = '\n' ∨ c = '\t' ∨ c = '\r' ∨ c = ',' ∨ c = ']') := by
  cases rest with
  | nil => exact .inl rfl
  | cons c more =>
    refine .inr ⟨c, more, rfl, ?_⟩
    simpa only [List.mem_cons, List.not_mem_nil, or_false] using h c rfl

theorem exists_toDigits_eq_cons (n : Nat) :
    ∃ c cs, Nat.toDigits 10 n = c :: cs ∧ c.isDigit = true := by
  obtain ⟨c, cs, hcs⟩ := List.exists_cons_of_ne_nil (Nat.toDigits_ne_nil (b := 10) (n := n))
  exact ⟨c, cs, hcs,
    Nat.isDigit_of_mem_toDigits (by decide) (by decide) (hcs ▸ List.mem_cons_self)⟩

/-- The first digit of a number that is not zero. -/
theorem head?_toDigits_ne (h : 0 < n) : (Nat.toDigits 10 n).head? ≠ some '0' := by
  induction n using Nat.strongRecOn with
  | ind n ih =>
    rcases Nat.lt_or_ge n 10 with hsmall | hlarge
    · rw [Nat.toDigits_of_lt_base hsmall]
      interval_cases n <;> decide
    · rw [Nat.toDigits_of_base_le (by decide) hlarge,
        List.head?_append_of_ne_nil _ Nat.toDigits_ne_nil]
      exact ih (n / 10) (by omega) (by omega)

theorem span_digits (hdigits : ∀ c ∈ cs, Literal.isDigit c = true) (h : Closes rest) :
    (cs ++ rest).span Literal.isDigit = (cs, rest) := by
  have hrest : rest.takeWhile Literal.isDigit = [] ∧ rest.dropWhile Literal.isDigit = rest := by
    obtain rfl | ⟨c, more, rfl, hc⟩ := h.eq_nil_or_cons
    · exact ⟨rfl, rfl⟩
    · rcases hc with rfl | rfl | rfl | rfl | rfl | rfl <;> exact ⟨rfl, rfl⟩
  rw [List.span_eq_takeWhile_dropWhile, List.takeWhile_append_of_pos hdigits,
    List.dropWhile_append_of_pos hdigits, hrest.1, hrest.2, List.append_nil]

/-- A numeral is read whole, as it has no zero in front and no fraction behind it. -/
theorem number?_repr (negative : Bool) (h : Closes rest) :
    number? negative ((Nat.repr n).toList ++ rest) =
      (integer? negative n).map fun x => (x, rest) := by
  have hdigits : ∀ c ∈ Nat.toDigits 10 n, Literal.isDigit c = true := fun c hc =>
    Nat.isDigit_of_mem_toDigits (by decide) (by decide) hc
  have hempty : (Nat.toDigits 10 n).isEmpty = false := by simp [Nat.toDigits_ne_nil]
  have hzero : (decide ((Nat.toDigits 10 n).length > 1) &&
      (Nat.toDigits 10 n).head? == some '0') = false := by
    rcases Nat.eq_zero_or_pos n with rfl | hpos
    · rfl
    · simp [head?_toDigits_ne hpos]
  have hvalue : Literal.digitsNat (Nat.toDigits 10 n) = n := by
    rw [Timestamp.digitsNat_eq_ofDigitChars, Nat.ofDigitChars_toDigits (by decide) (by decide)]
  rw [Nat.toList_repr]
  simp only [number?, span_digits hdigits h, hempty, hzero, hvalue]
  obtain rfl | ⟨c, more, rfl, hc⟩ := h.eq_nil_or_cons
  · rfl
  · rcases hc with rfl | rfl | rfl | rfl | rfl | rfl <;> rfl

theorem skipBlanks_of_not_blank (h : isBlank c = false) : skipBlanks (c :: cs) = c :: cs := by
  rw [skipBlanks, List.dropWhile_cons_of_neg]
  rw [h]
  exact Bool.false_ne_true

theorem skipBlanks_append {blanks : List Char} (h : ∀ c ∈ blanks, isBlank c = true)
    (cs : List Char) : skipBlanks (blanks ++ cs) = skipBlanks cs :=
  List.dropWhile_append_of_pos h

theorem value?_digit (h : c.isDigit = true) (cs : List Char) :
    value? (fuel + 1) depth (c :: cs) = number? false (c :: cs) := by
  obtain ⟨n, hn, rfl⟩ := IsNumeral.exists_digitChar h
  interval_cases n <;> rfl

/-- An integer of at most sixty-four bits. -/
def Fits (i : Int) : Prop := -(2 ^ 63) ≤ i ∧ i < 2 ^ 64

/-- Integers of at most sixty-four bits stay integers. -/
theorem value?_integer {i : Int} (hi : Fits i) (h : Closes rest) :
    value? (fuel + 1) depth ((toString i).toList ++ rest) = some (.integer i, rest) := by
  obtain ⟨hlow, hhigh⟩ := hi
  cases i with
  | ofNat n =>
    have hread : integer? false n = some (.integer n) := by
      have hn : n < UInt64.size := Int.ofNat_lt.mp hhigh
      simp [integer?, hn]
    obtain ⟨c, cs, hcs, hc⟩ := exists_toDigits_eq_cons n
    have hnumber := number?_repr (n := n) false h
    rw [hread, Nat.toList_repr, hcs] at hnumber
    change value? (fuel + 1) depth ((Nat.repr n).toList ++ rest) = _
    rw [Nat.toList_repr, hcs, List.cons_append, value?_digit hc]
    exact hnumber
  | negSucc n =>
    have hread : integer? true (n + 1) = some (.integer (Int.negSucc n)) := by
      have hn : n + 1 < UInt64.size := by simp only [UInt64.size]; omega
      have hpow : ¬ n + 1 > Nat.pow 2 63 := by
        simp only [Nat.pow_eq]
        omega
      simp [integer?, hn, hpow, Int.negSucc_eq]
    have hchars : (toString (Int.negSucc n)).toList = '-' :: (Nat.repr (n + 1)).toList := by
      change ("-" ++ Nat.repr (n + 1)).toList = _
      rw [String.toList_append]
      rfl
    rw [hchars, List.cons_append]
    change number? true ((Nat.repr (n + 1)).toList ++ rest) = _
    rw [number?_repr true h, hread]
    rfl

theorem value?_bool (b : Bool) (rest : List Char) :
    value? (fuel + 1) depth ((if b then "true" else "false").toList ++ rest) =
      some (.bool b, rest) := by
  cases b <;> rfl

/-- Reading goes on behind an escape with the character it stands for. -/
theorem string?_backslash (h : escaped? cs = some (c, rest)) (hlt : rest.length < cs.length) :
    string? read ('\\' :: cs) = string? (c :: read) rest := by
  rw [string?]
  simp only [h, hlt, if_true]

theorem string?_plain (hquote : c ≠ '"') (hbackslash : c ≠ '\\') (h : ¬ c.toNat < 32) :
    string? read (c :: rest) = string? (c :: read) rest := by
  rw [string?]
  · rw [if_neg h]
  · exact hquote
  · simpa using hbackslash

theorem hexUnit?_fourDigits : ∀ n < 32, ∀ rest, hexUnit? (fourDigits n ++ rest) = some (n, rest) := by
  intro n hn rest
  interval_cases n <;> rfl

theorem string?_escape (c : Char) (read rest : List Char) :
    string? read (escape c ++ rest) = string? (c :: read) rest := by
  have hcode : ∀ n, c.toNat = n → Char.ofNat n = c := by
    rintro n rfl
    exact Char.ofNat_toNat c
  unfold escape
  simp only [beq_iff_eq]
  split_ifs with hquote hbackslash hfeed hreturn htab hback hform hcontrol
  · rw [hquote]
    exact string?_backslash rfl (Nat.lt_succ_self _)
  · rw [hbackslash]
    exact string?_backslash rfl (Nat.lt_succ_self _)
  · rw [hfeed]
    exact string?_backslash rfl (Nat.lt_succ_self _)
  · rw [hreturn]
    exact string?_backslash rfl (Nat.lt_succ_self _)
  · rw [htab]
    exact string?_backslash rfl (Nat.lt_succ_self _)
  · rw [← hcode 8 hback]
    exact string?_backslash rfl (Nat.lt_succ_self _)
  · rw [← hcode 12 hform]
    exact string?_backslash rfl (Nat.lt_succ_self _)
  · have hread : escaped? ('u' :: (fourDigits c.toNat ++ rest)) = some (c, rest) := by
      have hsmall : ¬ (0xdc00 ≤ c.toNat ∧ c.toNat ≤ 0xdfff) ∧
          ¬ (0xd800 ≤ c.toNat ∧ c.toNat ≤ 0xdbff) := by omega
      simp only [escaped?, codePoint?, hexUnit?_fourDigits _ hcontrol, Option.bind_eq_bind,
        Option.bind_some, hsmall, if_false, Char.ofNat_toNat]
    rw [List.cons_append, List.cons_append]
    refine string?_backslash hread ?_
    rw [List.length_cons, List.length_append]
    omega
  · exact string?_plain hquote hbackslash hcontrol

theorem string?_escapes (cs read rest : List Char) :
    string? read (cs.flatMap escape ++ '"' :: rest) =
      some (String.ofList (read.reverse ++ cs), rest) := by
  induction cs generalizing read with
  | nil =>
    rw [List.append_nil]
    exact string?.eq_def read ('"' :: rest)
  | cons c cs ih =>
    rw [List.flatMap_cons, List.append_assoc, string?_escape, ih, List.reverse_cons,
      List.append_assoc, List.singleton_append]

/-- A text between quotes is read back, whatever characters are in it. -/
theorem value?_string (s : String) (rest : List Char) :
    value? (fuel + 1) depth (stringChars s ++ rest) = some (.string s, rest) := by
  have hread := string?_escapes s.toList [] rest
  rw [List.reverse_nil, List.nil_append, String.ofList_toList] at hread
  rw [stringChars, List.cons_append, List.append_assoc, List.singleton_append, value?,
    skipBlanks_of_not_blank rfl]
  simp only [hread, Option.map_some]

end Scalars

def Blank (cs : List Char) : Prop := ∀ c ∈ cs, isBlank c = true

theorem blank_nil : Blank [] := List.forall_mem_nil _

mutual

/-- A text spells a document with at most so many levels of arrays. -/
inductive Spells : Nat → Json → List Char → Prop
  | bool (levels : Nat) (b : Bool) :
      Spells levels (.bool b) (if b then "true" else "false").toList
  | integer (levels : Nat) {i : Int} (h : Fits i) : Spells levels (.integer i) (toString i).toList
  | string (levels : Nat) (s : String) : Spells levels (.string s) (stringChars s)
  | empty (levels : Nat) : Spells (levels + 1) (.array []) ['[', ']']
  | array {levels : Nat} {items : List Json} {blanks cs : List Char} (hblanks : Blank blanks)
      (h : SpellsItems levels items cs) : Spells (levels + 1) (.array items) ('[' :: (blanks ++ cs))

/-- A text spells the items of an array up to its end. -/
inductive SpellsItems : Nat → List Json → List Char → Prop
  | last {levels : Nat} {x : Json} {cs after : List Char} (h : Spells levels x cs)
      (hafter : Blank after) : SpellsItems levels [x] (cs ++ (after ++ [']']))
  | more {levels : Nat} {x : Json} {items : List Json} {cs after before rest : List Char}
      (h : Spells levels x cs) (hafter : Blank after) (hbefore : Blank before)
      (hitems : SpellsItems levels items rest) :
      SpellsItems levels (x :: items) (cs ++ (after ++ ',' :: (before ++ rest)))

end

variable {levels fuel depth : Nat} {j x : Json} {items : List Json} {cs rest blanks : List Char}

/-- The first character of a document is neither a blank nor the end of an array. -/
theorem Spells.head (h : Spells levels j cs) :
    ∃ c more, cs = c :: more ∧ isBlank c = false ∧ c ≠ ']' := by
  cases h with
  | bool _ b => cases b <;> exact ⟨_, _, rfl, rfl, by decide⟩
  | @integer _ i _ =>
    cases i with
    | ofNat n =>
      obtain ⟨c, more, hcs, hc⟩ := exists_toDigits_eq_cons n
      refine ⟨c, more, Nat.toList_repr.trans hcs, ?_⟩
      obtain ⟨d, hd, rfl⟩ := IsNumeral.exists_digitChar hc
      interval_cases d <;> decide
    | negSucc n => exact ⟨'-', _, String.toList_append, rfl, by decide⟩
  | string _ s => exact ⟨'"', _, rfl, rfl, by decide⟩
  | empty _ => exact ⟨'[', _, rfl, rfl, by decide⟩
  | array _ _ => exact ⟨'[', _, rfl, rfl, by decide⟩

theorem SpellsItems.head (h : SpellsItems levels items cs) :
    ∃ c more, cs = c :: more ∧ isBlank c = false ∧ c ≠ ']' := by
  cases h with
  | last h _ =>
    obtain ⟨c, more, rfl, hc⟩ := h.head
    exact ⟨c, _, rfl, hc⟩
  | more h _ _ _ =>
    obtain ⟨c, more, rfl, hc⟩ := h.head
    exact ⟨c, _, rfl, hc⟩

theorem value?_blanks (h : Blank blanks) (cs : List Char) :
    value? fuel depth (blanks ++ cs) = value? fuel depth cs := by
  cases fuel with
  | zero => rfl
  | succ fuel => rw [value?, value?, skipBlanks_append h]

theorem items?_blanks (h : Blank blanks) (read : List Json) (cs : List Char) :
    items? fuel depth read (blanks ++ cs) = items? fuel depth read cs := by
  cases fuel with
  | zero => rfl
  | succ fuel => rw [items?, items?, value?_blanks h]

theorem closes_blanks (h : Blank blanks) {c : Char} (hc : c = ',' ∨ c = ']') (rest : List Char) :
    Closes (blanks ++ c :: rest) := by
  intro d hd
  cases blanks with
  | nil =>
    obtain rfl := Option.some.inj hd
    rcases hc with rfl | rfl <;> decide
  | cons b blanks =>
    obtain rfl := Option.some.inj hd
    have hblank := h b List.mem_cons_self
    simp only [isBlank, Bool.or_eq_true, beq_iff_eq] at hblank
    rcases hblank with ((rfl | rfl) | rfl) | rfl <;> decide

/-- Behind an item its comma leads to the next one, and the end of the array ends the reading. -/
theorem items?_step {read : List Json} {after : List Char} (hafter : Blank after)
    (hvalue : value? fuel depth (cs ++ (after ++ ',' :: rest)) =
      some (x, after ++ ',' :: rest)) :
    items? (fuel + 1) depth read (cs ++ (after ++ ',' :: rest)) =
      items? fuel depth (x :: read) rest := by
  rw [items?, hvalue]
  simp only [skipBlanks_append hafter]
  rfl

theorem items?_end {read : List Json} {after : List Char} (hafter : Blank after)
    (hvalue : value? fuel depth (cs ++ (after ++ ']' :: rest)) =
      some (x, after ++ ']' :: rest)) :
    items? (fuel + 1) depth read (cs ++ (after ++ ']' :: rest)) =
      some ((x :: read).reverse, rest) := by
  rw [items?, hvalue]
  simp only [skipBlanks_append hafter]
  rfl

theorem value?_empty (h : 1 < depth) (rest : List Char) :
    value? (fuel + 1) depth ('[' :: ']' :: rest) = some (.array [], rest) := by
  have hdeep : ¬ depth ≤ 1 := Nat.not_le.mpr h
  rw [value?, skipBlanks_of_not_blank rfl]
  simp only [hdeep, if_false]
  rfl

/-- An array with an item in it goes on with that item, one level further down. -/
theorem value?_items (h : 1 < depth) (hblanks : Blank blanks) {c : Char}
    (hblank : isBlank c = false) (hc : c ≠ ']') (cs : List Char) :
    value? (fuel + 1) depth ('[' :: (blanks ++ c :: cs)) =
      (items? fuel (depth - 1) [] (c :: cs)).map fun (xs, rest) => (.array xs, rest) := by
  have hdeep : ¬ depth ≤ 1 := Nat.not_le.mpr h
  rw [value?, skipBlanks_of_not_blank rfl]
  simp only [hdeep, if_false, skipBlanks_append hblanks, skipBlanks_of_not_blank hblank]
  split
  · rename_i heq
    cases heq
    exact absurd rfl hc
  · rfl

/-- What a text spells is read off its front, as long as the levels and the steps last. A step reads
a character at least, so there are enough of them where there are as many as characters. -/
theorem Spells.value?_eq (h : Spells levels j cs) : ∀ (fuel depth : Nat) (rest : List Char),
    levels < depth → cs.length ≤ fuel → Closes rest →
      value? fuel depth (cs ++ rest) = some (j, rest) := by
  have hfuel : ∀ {levels fuel : Nat} {j : Json} {cs : List Char}, Spells levels j cs →
      cs.length ≤ fuel → ∃ m, fuel = m + 1 := by
    intro levels fuel j cs h hle
    obtain ⟨c, more, rfl, _⟩ := h.head
    exact Nat.exists_eq_succ_of_ne_zero (Nat.ne_of_gt (Nat.lt_of_lt_of_le (Nat.succ_pos _) hle))
  induction h using @Spells.rec _ (fun levels items cs _ =>
    ∀ (fuel depth : Nat) (read : List Json) (rest : List Char), levels < depth →
      cs.length ≤ fuel → items? fuel depth read (cs ++ rest) = some (read.reverse ++ items, rest))
    with
  | bool levels b =>
    intro fuel depth rest _ hle _
    obtain ⟨fuel, rfl⟩ := hfuel (.bool levels b) hle
    exact value?_bool b rest
  | integer levels h =>
    intro fuel depth rest _ hle hrest
    obtain ⟨fuel, rfl⟩ := hfuel (.integer levels h) hle
    exact value?_integer h hrest
  | string levels s =>
    intro fuel depth rest _ hle _
    obtain ⟨fuel, rfl⟩ := hfuel (.string levels s) hle
    exact value?_string s rest
  | empty levels =>
    intro fuel depth rest hdepth hle _
    obtain ⟨fuel, rfl⟩ := hfuel (.empty levels) hle
    exact value?_empty (Nat.lt_of_le_of_lt (Nat.succ_pos _) hdepth) rest
  | @array levels items blanks cs hblanks h ih =>
    intro fuel depth rest hdepth hle _
    obtain ⟨fuel, rfl⟩ := hfuel (.array hblanks h) hle
    rw [List.length_cons, List.length_append] at hle
    have hitems := ih fuel (depth - 1) [] rest (by omega) (by omega)
    obtain ⟨c, more, rfl, hblank, hc⟩ := h.head
    rw [List.cons_append] at hitems
    rw [List.cons_append, List.append_assoc, List.cons_append,
      value?_items (by omega) hblanks hblank hc, hitems]
    rfl
  | @last levels x cs after h hafter ih fuel depth read rest hdepth hle =>
    simp only [List.length_append, List.length_singleton] at hle
    obtain ⟨fuel, rfl⟩ := hfuel h (Nat.le_trans (Nat.le_add_right _ _) hle)
    have hvalue := ih fuel depth (after ++ ']' :: rest) hdepth (by omega)
      (closes_blanks hafter (.inr rfl) rest)
    rw [List.append_assoc, List.append_assoc, List.singleton_append, items?_end hafter hvalue,
      List.reverse_cons]
  | @more levels x items cs after before others h hafter hbefore hitems ih ihitems fuel depth read
      rest hdepth hle =>
    simp only [List.length_append, List.length_cons] at hle
    obtain ⟨fuel, rfl⟩ := hfuel h (Nat.le_trans (Nat.le_add_right _ _) hle)
    have hvalue := ih fuel depth (after ++ ',' :: (before ++ (others ++ rest))) hdepth (by omega)
      (closes_blanks hafter (.inl rfl) _)
    have hothers := ihitems fuel depth (x :: read) rest hdepth (by omega)
    rw [List.append_assoc, List.append_assoc, List.cons_append, List.append_assoc,
      items?_step hafter hvalue, items?_blanks hbefore, hothers, List.reverse_cons,
      List.append_assoc, List.singleton_append]

theorem parse?_of_spells (h : Spells levels j cs) (hlevels : levels < maxDepth) :
    parse? (String.ofList cs) = some j := by
  have hread := h.value?_eq (2 * cs.length + 2) maxDepth [] hlevels (by omega) closes_nil
  rw [List.append_nil] at hread
  simp only [parse?, parseWithin?, String.toList_ofList, hread, Option.bind_eq_bind,
    Option.bind_some]
  rfl

/-- The items of an array, without blanks, from the first one on. -/
theorem spellsItems_compact (hx : Spells levels x x.compactChars)
    (hitems : ∀ y ∈ items, Spells levels y y.compactChars) :
    SpellsItems levels (x :: items) (compactItems true (x :: items) ++ [']']) := by
  induction items generalizing x with
  | nil =>
    have hlast := SpellsItems.last hx blank_nil
    simpa only [compactItems, separator, if_true, List.nil_append, List.append_nil] using hlast
  | cons y items ih =>
    obtain ⟨hy, hrest⟩ := List.forall_mem_cons.mp hitems
    have hmore := SpellsItems.more hx blank_nil blank_nil (ih hy hrest)
    simpa only [compactItems, separator, if_true, Bool.false_eq_true, if_false, List.nil_append,
      List.append_assoc, List.singleton_append, List.cons_append] using hmore

theorem blank_newLine (level : Nat) : Blank (newLine level) := by
  intro c hc
  rcases List.mem_cons.mp hc with rfl | hspace
  · rfl
  · rw [List.eq_of_mem_replicate hspace]
    rfl

/-- The items of an array, each on a line of its own, from the first one on. -/
theorem spellsItems_indented (level : Nat) (hx : Spells levels x (x.indentedChars (level + 1)))
    (hitems : ∀ y ∈ items, Spells levels y (y.indentedChars (level + 1))) :
    SpellsItems levels (x :: items) (x.indentedChars (level + 1) ++
      (indentedItems level false items ++ newLine level ++ [']'])) := by
  induction items generalizing x with
  | nil => exact .last hx (blank_newLine level)
  | cons y items ih =>
    obtain ⟨hy, hrest⟩ := List.forall_mem_cons.mp hitems
    have hmore := SpellsItems.more hx blank_nil (blank_newLine (level + 1)) (ih hy hrest)
    simpa only [indentedItems, separator, Bool.false_eq_true, if_false, List.nil_append,
      List.append_assoc, List.singleton_append, List.cons_append] using hmore

end CertAudit.Json
