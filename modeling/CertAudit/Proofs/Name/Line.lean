/- The one-line form of a name tells its attributes, since a value hides what could be taken for the end
of it, and no type has an equals sign. -/
import CertAudit.Proofs.Name.Attribute
import CertAudit.Proofs.Text.Split
import Mathlib
namespace CertAudit.Name

variable {a b : String × String} {as bs : List (String × String)} {c d : Char}
  {v w rest more : List Char} {n m : Name}

/-- What may follow a value in a line: nothing, or a comma. -/
def EndsValue (rest : List Char) : Prop := ∀ c ∈ rest.head?, c = ','

/-- An escaped character does not look like the end of the value. -/
theorem escape_append_not_endsValue (c : Char) (rest : List Char) :
    ¬ EndsValue (escape c ++ rest) := by
  intro h
  unfold escape at h
  split at h
  · exact absurd (h '\\' rfl) (by decide)
  · rename_i hplain
    have hcomma : c = ',' := h c rfl
    simp [hcomma] at hplain

theorem escape_append_inj (h : escape c ++ rest = escape d ++ more) : c = d ∧ rest = more := by
  unfold escape at h
  split at h <;> split at h
  · simpa using h
  · -- Only an escaped character begins with a backslash.
    rename_i hd
    have hback : '\\' = d := (List.cons.inj h).1
    simp [← hback] at hd
  · rename_i hc _
    have hback : c = '\\' := (List.cons.inj h).1
    simp [hback] at hc
  · simpa using h

/-- A value ends where the first comma stands that is not hidden. -/
theorem value_append_inj (hrest : EndsValue rest) (hmore : EndsValue more)
    (h : v.flatMap escape ++ rest = w.flatMap escape ++ more) : v = w ∧ rest = more := by
  induction v generalizing w with
  | nil =>
    cases w with
    | nil => exact ⟨rfl, h⟩
    | cons d w =>
      rw [List.flatMap_nil, List.nil_append, List.flatMap_cons, List.append_assoc] at h
      rw [h] at hrest
      exact absurd hrest (escape_append_not_endsValue d _)
  | cons c v ih =>
    cases w with
    | nil =>
      rw [List.flatMap_nil, List.nil_append, List.flatMap_cons, List.append_assoc] at h
      rw [← h] at hmore
      exact absurd hmore (escape_append_not_endsValue c _)
    | cons d w =>
      rw [List.flatMap_cons, List.flatMap_cons, List.append_assoc, List.append_assoc] at h
      obtain ⟨rfl, htail⟩ := escape_append_inj h
      obtain ⟨rfl, hends⟩ := ih htail
      exact ⟨rfl, hends⟩

/-- A type ends where the first equals sign stands. -/
theorem type_append_inj {k l : List Char} (hk : '=' ∉ k) (hl : '=' ∉ l)
    (h : k ++ '=' :: rest = l ++ '=' :: more) : k = l ∧ rest = more := by
  have hsplit := congrArg (CharList.split '=') h
  rw [CharList.split_append_cons, CharList.split_append_cons, CharList.split_of_not_mem hk,
    CharList.split_of_not_mem hl] at hsplit
  obtain rfl : k = l := (List.cons.inj hsplit).1
  exact ⟨rfl, (List.cons.inj (List.append_cancel_left h)).2⟩

theorem attribute_append_inj (ha : '=' ∉ a.1.toList) (hb : '=' ∉ b.1.toList)
    (hrest : EndsValue rest) (hmore : EndsValue more)
    (h : attributeChars a ++ rest = attributeChars b ++ more) : a = b ∧ rest = more := by
  have hfront : ∀ (x : String × String) (tail : List Char), attributeChars x ++ tail =
      (x.1.toList ++ [' ']) ++ '=' :: ' ' :: (x.2.toList.flatMap escape ++ tail) := by
    intro x tail
    simp [attributeChars]
  have hblank : ∀ {k : List Char}, '=' ∉ k → '=' ∉ k ++ [' '] := by
    intro k hk
    simp [hk]
  rw [hfront, hfront] at h
  obtain ⟨htype, hvalue⟩ := type_append_inj (hblank ha) (hblank hb) h
  obtain ⟨htext, hends⟩ := value_append_inj hrest hmore (List.cons.inj hvalue).2
  have hkey : a.1 = b.1 := String.toList_inj.mp (List.append_cancel_right htype)
  exact ⟨Prod.ext hkey (String.toList_inj.mp htext), hends⟩

/-- The line behind its first attribute. -/
def tailChars : List (String × String) → List Char
  | [] => []
  | b :: rest => ',' :: ' ' :: oneLineChars (b :: rest)

theorem oneLineChars_cons (a : String × String) (as : List (String × String)) :
    oneLineChars (a :: as) = attributeChars a ++ tailChars as := by
  cases as with
  | nil => exact (List.append_nil _).symm
  | cons b rest => rfl

theorem tailChars_endsValue (as : List (String × String)) : EndsValue (tailChars as) := by
  cases as with
  | nil =>
    intro c hc
    cases hc
  | cons b rest =>
    intro c hc
    exact (Option.some.inj hc).symm

theorem oneLineChars_cons_ne_nil (a : String × String) (as : List (String × String)) :
    oneLineChars (a :: as) ≠ [] := by
  intro h
  rw [oneLineChars_cons, attributeChars] at h
  simp at h

theorem oneLineChars_inj (ha : ∀ a ∈ as, '=' ∉ a.1.toList) (hb : ∀ b ∈ bs, '=' ∉ b.1.toList)
    (h : oneLineChars as = oneLineChars bs) : as = bs := by
  induction as generalizing bs with
  | nil =>
    cases bs with
    | nil => rfl
    | cons b bs => exact absurd h.symm (oneLineChars_cons_ne_nil b bs)
  | cons a as ih =>
    cases bs with
    | nil => exact absurd h (oneLineChars_cons_ne_nil a as)
    | cons b bs =>
      rw [oneLineChars_cons, oneLineChars_cons] at h
      obtain ⟨rfl, htail⟩ := attribute_append_inj (ha a List.mem_cons_self)
        (hb b List.mem_cons_self) (tailChars_endsValue as) (tailChars_endsValue bs) h
      have hlines : oneLineChars as = oneLineChars bs := by
        cases as <;> cases bs
        · rfl
        · cases htail
        · cases htail
        · exact (List.cons.inj (List.cons.inj htail).2).2
      rw [ih (fun x hx => ha x (.tail _ hx)) (fun x hx => hb x (.tail _ hx)) hlines]

/-- No type of the name has a character that the line gives a meaning to. -/
def PlainTypes (n : Name) : Prop :=
  ∀ a ∈ n.attributes, ',' ∉ a.1.toList ∧ '=' ∉ a.1.toList ∧ '\\' ∉ a.1.toList

theorem PlainTypes.oneLine_eq_iff (hn : n.PlainTypes) (hm : m.PlainTypes) :
    n.oneLine = m.oneLine ↔ n.attributes = m.attributes := by
  constructor
  · intro h
    exact oneLineChars_inj (fun a ha => (hn a ha).2.1) (fun a ha => (hm a ha).2.1)
      (String.ofList_injective h)
  · intro h
    rw [oneLine, oneLine, h]

/-- Reading shows a type as a short name or as the form of an identifier. -/
theorem IsRead.plainTypes (h : n.IsRead) : n.PlainTypes := by
  intro a ha
  rw [h.attributes_eq] at ha
  obtain ⟨encoded, _, rfl⟩ := List.mem_map.mp ha
  rcases Identifiers.nameIn_cases Identifiers.attributeNames (Oid.ofContent encoded.type)
    with hin | hform
  · exact Identifiers.attributeNames_plain _ hin
  · have hchars : ∀ c ∈ encoded.shown.1.toList, Oid.isFormChar c = true := by
      intro c hc
      rw [EncodedAttribute.shown, hform] at hc
      exact Oid.isFormChar_of_mem_ofContent hc
    refine ⟨fun hc => ?_, fun hc => ?_, fun hc => ?_⟩ <;> exact absurd (hchars _ hc) (by decide)

/-- Names whose types have no separator are the same in one line only if they have the same
attributes in the same order, and the names that have been read are such names. -/
theorem oneLine_injective :
    (∀ n m : Name, n.PlainTypes → m.PlainTypes →
      (n.oneLine = m.oneLine ↔ n.attributes = m.attributes)) ∧
    ∀ n : Name, n.IsRead → n.PlainTypes :=
  ⟨fun _ _ hn hm => hn.oneLine_eq_iff hm, fun _ h => h.plainTypes⟩

/-- A name with one attribute, whose value looks like the end of it and another attribute. -/
def lookalike : Name := .single [0x55, 4, 3] 0x0c "a, O = b"

/-- A name with two attributes. -/
def twofold : Name := { attributes := [("CN", "a"), ("O", "b")] }

theorem oneLine_injective_lookalike :
    lookalike.PlainTypes ∧ twofold.PlainTypes ∧ lookalike.oneLine ≠ twofold.oneLine := by
  have hread : read lookalike.encoding = some (lookalike, []) := by cbv
  have hplain : lookalike.PlainTypes := oneLine_injective.2 _ ⟨_, _, hread⟩
  have htwofold : twofold.PlainTypes := by
    unfold PlainTypes
    decide
  refine ⟨hplain, htwofold, ?_⟩
  rw [Ne, oneLine_injective.1 _ _ hplain htwofold]
  decide

/-- A type with an equals sign can hide the end of a value. -/
example : oneLine { attributes := [("O = a, CN", "b")] } =
    oneLine { attributes := [("O", "a"), ("CN", "b")] } := by decide

end CertAudit.Name
