/- Bytes in armor: their base64, cut into lines in any way, is read back as one block. -/
import CertAudit.Proofs.Bytes
import CertAudit.Proofs.Text.Armor
import CertAudit.Proofs.Text.Base64
import Mathlib.Data.List.Forall2
namespace CertAudit.Armor

def IsLineEnd (ending : Bytes) : Prop := ending = [0x0a] ∨ ending = [0x0d, 0x0a]

def beginLine : Bytes := Bytes.ofString "-----BEGIN CERTIFICATE-----"

def endLine : Bytes := Bytes.ofString "-----END CERTIFICATE-----"

/-- A text is the armor of a certificate's bytes: their base64 in lines that are not empty, between
the line that begins the block and the one that ends it. -/
inductive IsArmor (content : Bytes) : Bytes → Prop
  | mk {ending : Bytes} {body : List Bytes} (ends : IsLineEnd ending)
    (nonempty : ∀ line ∈ body, line ≠ []) (spells : body.flatten = Base64.encode content) :
    IsArmor content ((beginLine :: body ++ [endLine]).flatMap (· ++ ending))

variable {signs text : List Char} {ls front rest body : List Bytes} {b : ArmorBlock}
  {bs : List ArmorBlock} {broken : Bool} {line ending content : Bytes}

section Lines

theorem IsLineEnd.ascii (h : IsLineEnd ending) : Bytes.IsAscii ending := by
  rcases h with rfl | rfl
  · simp [Bytes.IsAscii]
  · simp [Bytes.IsAscii]

theorem IsLineEnd.whiteSpace (h : IsLineEnd ending) :
    ∀ c ∈ Bytes.toChars ending, Unicode.isWhiteSpace c = true := by
  have hfeed : Unicode.isWhiteSpace '\n' = true := by decide
  have hreturn : Unicode.isWhiteSpace '\r' = true := by decide
  rcases h with rfl | rfl
  · simp [Bytes.toChars, hfeed]
  · simp [Bytes.toChars, hfeed, hreturn]

theorem IsLineEnd.text_eq (h : IsLineEnd ending) (hline : Bytes.IsAscii line) :
    Bytes.toString? (line ++ ending) =
      some (String.ofList (Bytes.toChars line ++ Bytes.toChars ending)) := by
  rw [Bytes.toString?_of_isAscii (Bytes.isAscii_append.mpr ⟨hline, h.ascii⟩), Bytes.toChars_append]

theorem Cut.ended {rest : Bytes} (h : Cut rest ls) (ends : IsLineEnd ending) (plain : 0x0a ∉ line) :
    Cut (line ++ ending ++ rest) ((line ++ ending) :: ls) := by
  rcases ends with rfl | rfl
  · rw [List.append_assoc]
    exact .cons plain h
  · have hreturn : 0x0a ∉ line ++ [0x0d] := by simp [plain]
    have hcut : Cut ((line ++ [0x0d]) ++ 0x0a :: rest) _ := .cons hreturn h
    simpa using hcut

theorem Cut.ended_flatMap {rest : Bytes} (h : Cut rest ls) (ends : IsLineEnd ending)
    (plain : ∀ line ∈ body, 0x0a ∉ line) :
    Cut (body.flatMap (· ++ ending) ++ rest) (body.map (· ++ ending) ++ ls) := by
  induction body with
  | nil => exact h
  | cons line body ih =>
    obtain ⟨hline, hbody⟩ := List.forall_mem_cons.mp plain
    have hcut := (ih hbody).ended ends hline
    rwa [List.flatMap_cons, List.append_assoc]

theorem FirstWith.behind (h : FirstWith signs ls [] text rest)
    (hfront : ∀ line ∈ front, Lacks signs line) :
    FirstWith signs (front ++ ls) front text rest := by
  induction front with
  | nil => exact h
  | cons line front ih =>
    obtain ⟨hline, hrest⟩ := List.forall_mem_cons.mp hfront
    exact .later hline (ih hrest)

theorem firstWith_ended (ends : IsLineEnd ending) (hline : Bytes.IsAscii line)
    (h : signs <+: Bytes.toChars line) (rest : List Bytes) :
    FirstWith signs ((line ++ ending) :: rest) [] (Bytes.toChars line ++ Bytes.toChars ending)
      rest := by
  have hbegins : signs <+: (String.ofList (Bytes.toChars line ++ Bytes.toChars ending)).toList := by
    rw [String.toList_ofList]
    exact h.trans (List.prefix_append _ _)
  have hfirst := FirstWith.here (ends.text_eq hline) hbegins rest
  rwa [String.toList_ofList] at hfirst

end Lines

section Body

structure IsBodyLine (line : Bytes) : Prop where
  nonempty : line ≠ []
  signs : ∀ b ∈ line, Base64.IsSign b

theorem IsBodyLine.ascii (h : IsBodyLine line) : Bytes.IsAscii line :=
  fun b hb => (h.signs b hb).lt

theorem IsBodyLine.plain (h : IsBodyLine line) : 0x0a ∉ line :=
  fun hb => (h.signs _ hb).ne_feed rfl

theorem IsBodyLine.lacks_closing (h : IsBodyLine line) (ends : IsLineEnd ending) :
    Lacks closing (line ++ ending) := by
  refine ⟨_, ends.text_eq h.ascii, ?_⟩
  obtain ⟨b, line, rfl⟩ := List.exists_cons_of_ne_nil h.nonempty
  have hhyphen : Char.ofNat b.toNat ≠ '-' := (h.signs b List.mem_cons_self).ne_hyphen
  have hclosing : closing = '-' :: "----END ".toList := by decide
  rw [String.toList_ofList, hclosing]
  intro hprefix
  exact hhyphen (List.cons_prefix_cons.mp hprefix).1.symm

theorem IsBodyLine.trimEnd_eq (h : IsBodyLine line) (ends : IsLineEnd ending) :
    Unicode.trimEnd ((Bytes.toString? (line ++ ending)).getD "").toList = Bytes.toChars line := by
  rw [ends.text_eq h.ascii, Option.getD_some, String.toList_ofList]
  refine trimEnd_append ends.whiteSpace ?_
  intro c hc
  obtain ⟨b, hb, rfl⟩ := List.mem_map.mp (List.mem_of_mem_getLast? hc)
  exact (h.signs b hb).not_whiteSpace

theorem bodySigns_eq (h : ∀ line ∈ body, IsBodyLine line) (ends : IsLineEnd ending) :
    bodySigns (body.map (· ++ ending)) = Bytes.toChars body.flatten := by
  induction body with
  | nil => rfl
  | cons line body ih =>
    obtain ⟨hline, hbody⟩ := List.forall_mem_cons.mp h
    rw [List.flatten_cons, Bytes.toChars_append, ← ih hbody, ← hline.trimEnd_eq ends]
    rfl

theorem contentOf?_eq (h : ∀ line ∈ body, IsBodyLine line) (ends : IsLineEnd ending) :
    contentOf? (body.map (· ++ ending)) = Base64.decodeChain? body.flatten := by
  have hascii : Bytes.IsAscii body.flatten := by
    intro b hb
    obtain ⟨line, hline, hb⟩ := List.mem_flatten.mp hb
    exact (h line hline).ascii b hb
  rw [contentOf?, bodySigns_eq h ends, Bytes.ofString_toChars hascii]

end Body

theorem isBodyLine_of_spells (nonempty : ∀ line ∈ body, line ≠ [])
    (spells : body.flatten = Base64.encode content) : ∀ line ∈ body, IsBodyLine line := by
  intro line hline
  refine ⟨nonempty line hline, ?_⟩
  intro b hb
  have hmem : b ∈ body.flatten := List.mem_flatten_of_mem hline hb
  rw [spells] at hmem
  exact Base64.isSign_of_mem_encode hmem

def certificateBlock (content : Bytes) : ArmorBlock := { label := "CERTIFICATE", content }

theorem wellFormed_armor (ends : IsLineEnd ending) (nonempty : ∀ line ∈ body, line ≠ [])
    (spells : body.flatten = Base64.encode content) (rest : List Bytes) :
    WellFormed (certificateBlock content)
      ((beginLine ++ ending) :: (body.map (· ++ ending) ++ (endLine ++ ending) :: rest)) rest := by
  have hbody := isBodyLine_of_spells nonempty spells
  have hbegin : Bytes.IsAscii beginLine := by decide
  have hend : Bytes.IsAscii endLine := by decide
  have hopening : opening <+: Bytes.toChars beginLine := by decide
  have hclosing : closing <+: Bytes.toChars endLine := by decide
  have hopens := firstWith_ended ends hbegin hopening
    (body.map (· ++ ending) ++ (endLine ++ ending) :: rest)
  have hcloses := firstWith_ended ends hend hclosing rest
  have hlacks : ∀ line ∈ body.map (· ++ ending), Lacks closing line := by
    intro line hline
    obtain ⟨line, hmem, rfl⟩ := List.mem_map.mp hline
    exact (hbody line hmem).lacks_closing ends
  have hlabel : label? (Bytes.toChars beginLine ++ Bytes.toChars ending) = some "CERTIFICATE" := by
    rcases ends with rfl | rfl
    · decide
    · decide
  refine ⟨hopens, hlabel, hcloses.behind hlacks, ?_⟩
  rw [contentOf?_eq hbody ends, spells]
  exact Base64.decodeChain?_encode content

theorem IsArmor.cut {text rest : Bytes} (h : IsArmor content text) (hrest : Cut rest ls) :
    ∃ front, Cut (text ++ rest) (front ++ ls) ∧
      WellFormed (certificateBlock content) (front ++ ls) ls := by
  obtain ⟨ends, nonempty, spells⟩ := h
  rename_i ending body
  refine ⟨(beginLine :: body ++ [endLine]).map (· ++ ending), ?_, ?_⟩
  · refine hrest.ended_flatMap ends ?_
    intro line hline
    rw [List.cons_append, List.mem_cons, List.mem_append, List.mem_singleton] at hline
    rcases hline with rfl | hline | rfl
    · decide
    · exact (isBodyLine_of_spells nonempty spells line hline).plain
    · decide
  · simpa using wellFormed_armor ends nonempty spells ls

theorem IsArmor.layout {text rest : Bytes} (h : IsArmor content text)
    (hrest : Layout rest bs broken) :
    Layout (text ++ rest) (certificateBlock content :: bs) broken := by
  obtain ⟨ls, hcut, hblocks⟩ := hrest
  obtain ⟨front, hwhole, hfirst⟩ := h.cut hcut
  exact ⟨front ++ ls, hwhole, .block hfirst hblocks⟩

/-- Armors one after another are read as one block each. -/
theorem layout_flatten {contents texts : List Bytes} (h : List.Forall₂ IsArmor contents texts) :
    Layout texts.flatten (contents.map certificateBlock) false := by
  induction h with
  | nil => exact ⟨[], .nil, .done (by simp)⟩
  | cons harmor _ ih => exact harmor.layout ih

theorem IsArmor.isArmored_append {text : Bytes} (h : IsArmor content text) (rest : Bytes) :
    isArmored (text ++ rest) = true := by
  -- No more than the line that begins the block is looked at.
  obtain ⟨_, _, _⟩ := h
  rfl

theorem Layout.first?_eq {text : Bytes} (h : Layout text (b :: bs) broken) :
    first? text = some b := by
  obtain ⟨ls, hcut, hblocks⟩ := h
  cases hblocks with
  | block hfirst _ => rw [first?, hcut.lines_eq, hfirst.readFirst_eq]

section Wrapping

/-- Signs in lines of some width, of which the last may be shorter. -/
def wrap (width : Nat) : Bytes → List Bytes
  | [] => []
  | b :: bs => (b :: bs.take (width - 1)) :: wrap width (bs.drop (width - 1))
termination_by bs => bs.length
decreasing_by simp only [List.length_drop, List.length_cons]; omega

theorem flatten_wrap (width : Nat) (bs : Bytes) : (wrap width bs).flatten = bs := by
  fun_induction wrap width bs with
  | case1 => rfl
  | case2 b bs ih => rw [List.flatten_cons, ih, List.cons_append, List.take_append_drop]

theorem ne_nil_of_mem_wrap {width : Nat} {bs : Bytes} (h : line ∈ wrap width bs) : line ≠ [] := by
  fun_induction wrap width bs with
  | case1 => cases h
  | case2 b bs ih =>
    rcases List.mem_cons.mp h with rfl | h
    · exact List.cons_ne_nil _ _
    · exact ih h

def armor (ending : Bytes) (width : Nat) (content : Bytes) : Bytes :=
  (beginLine :: wrap width (Base64.encode content) ++ [endLine]).flatMap (· ++ ending)

theorem isArmor_armor (ends : IsLineEnd ending) (width : Nat) (content : Bytes) :
    IsArmor content (armor ending width content) :=
  .mk ends (fun _ => ne_nil_of_mem_wrap) (flatten_wrap width _)

end Wrapping

end CertAudit.Armor
