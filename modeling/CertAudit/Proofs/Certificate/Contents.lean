/- The undecoded contents of extensions stand in the tree by the arcs of their identifiers, and each
keeps its place whatever identifiers go through it or end above it. -/
import CertAudit.Proofs.Certificate.Views
import CertAudit.Proofs.Tree.Insertion
namespace CertAudit

namespace Oid

/-- A text of digits and points, as dotted forms are. -/
def IsDotted (s : String) : Prop := ∀ c ∈ s.toList, c.isDigit = true ∨ c = '.'

instance : DecidablePred IsDotted := fun s =>
  decidable_of_iff ((s.toList.all fun c => c.isDigit || c == '.') = true) (by simp [IsDotted])

def IsArc (s : String) : Prop := ∀ c ∈ s.toList, c.isDigit = true

theorem IsDotted.isArc {s : String} (h : IsDotted s) : ∀ key ∈ Node.segments s, IsArc key := by
  intro key hkey c hc
  obtain ⟨part, hpart, rfl⟩ := List.mem_map.mp hkey
  rw [String.toList_ofList] at hc
  rcases h c (CharList.mem_of_mem_split hpart hc) with hdigit | rfl
  · exact hdigit
  · exact absurd hc (CharList.not_mem_of_mem_split hpart)

end Oid

namespace CertificateTree

variable {e : Extension} {key q : String} {extensions : List Extension}

/-- What stands beside the content of an extension, by keys. -/
def contentFields : List (String × (Extension → Value)) := [
  ("critical", fun e => .bool e.critical),
  ("name", fun e => .string e.name),
  ("oid", fun e => .string e.oid)]

theorem contentFields_cases {f : String × (Extension → Value)} (hf : f ∈ contentFields) :
    f.1 = "critical" ∨ f.1 = "name" ∨ f.1 = "oid" := by
  have hkey : f.1 ∈ ["critical", "name", "oid"] := List.mem_map_of_mem (f := Prod.fst) hf
  simpa using hkey

theorem contentFields_plain {f : String × (Extension → Value)} (hf : f ∈ contentFields) :
    '.' ∉ f.1.toList := by
  rcases contentFields_cases hf with h | h | h <;> rw [h] <;> decide

theorem contentFields_not_isArc {f : String × (Extension → Value)} (hf : f ∈ contentFields) :
    ¬ Oid.IsArc f.1 := by
  intro h
  rcases contentFields_cases hf with hkey | hkey | hkey <;> rw [hkey] at h
  · exact absurd (h 'c' (by decide)) (by decide)
  · exact absurd (h 'n' (by decide)) (by decide)
  · exact absurd (h 'o' (by decide)) (by decide)

theorem contentNode_eq (e : Extension) :
    contentNode e = (Node.leaf e.oid (.bytes e.content)).withChildren
      (contentFields.map fun f => Node.leaf f.1 (f.2 e)) := rfl

theorem contentNode_ordered (e : Extension) : Table.Ordered (contentNode e).children :=
  Node.withChildren_ordered (n := Node.leaf e.oid (.bytes e.content)) .nil _

theorem contentNode_child?_of_isArc (e : Extension) (h : Oid.IsArc key) :
    (contentNode e).child? key = none := by
  have hnone : (contentFields.map fun f => Node.leaf f.1 (f.2 e)).filter
      (fun n => n.name == key) = [] := by
    rw [List.filter_eq_nil_iff]
    intro n hn hname
    obtain ⟨f, hf, rfl⟩ := List.mem_map.mp hn
    rw [← beq_iff_eq.mp hname] at h
    exact contentFields_not_isArc hf h
  rw [contentNode_eq, Node.child?_withChildren, hnone]
  rfl

theorem contentNode_child? (e : Extension) {f : String × (Extension → Value)}
    (hf : f ∈ contentFields) : (contentNode e).child? f.1 = some (Node.leaf f.1 (f.2 e)) := by
  simp only [contentFields, List.mem_cons, List.not_mem_nil, or_false] at hf
  rcases hf with rfl | rfl | rfl <;> simp [contentNode, Node.child?_withChildren]

/-- Asked below the contents, the last extension with an identifier answers. -/
theorem asked_contentsNode {β : Type} {ask : Node → Option β} {answer : Extension → β}
    (h : Node.Asks Oid.IsArc ask) (hanswer : ∀ e, ask (contentNode e) = some (answer e))
    (hdotted : ∀ e ∈ extensions, Oid.IsDotted e.oid) (hq : Oid.IsDotted q) :
    (Node.descend? (Node.segments q) (contentsNode extensions)).bind ask =
      (extensions.filter fun e => e.oid == q).getLast?.map answer := by
  have hfold := h.descend?_foldl contentNode_ordered (fun e _ => contentNode_child?_of_isArc e)
    hanswer (fun e he => (hdotted e he).isArc) hq.isArc (Node.new "extensions")
  rw [contentsNode, hfold, h.descend?_new, Option.or_none]

end CertificateTree

namespace Certificate

open CertificateTree

variable {c : Certificate} {e : Extension} {q path : String} {v : Value}

/-- The tree shows the content of an extension at its identifier, with the other fields below. -/
structure ShowsContent (c : Certificate) (e : Extension) : Prop where
  content : c.valueAt? ("certificate.extensions." ++ e.oid) = some (some (.bytes e.content))
  critical : c.valueAt? ("certificate.extensions." ++ e.oid ++ ".critical") =
    some (some (.bool e.critical))
  name : c.valueAt? ("certificate.extensions." ++ e.oid ++ ".name") = some (some (.string e.name))
  oid : c.valueAt? ("certificate.extensions." ++ e.oid ++ ".oid") = some (some (.string e.oid))

theorem valueAt?_eq_some_some_iff :
    c.valueAt? path = some (some v) ↔ (c.tree.resolve? path).bind Node.value = some v := by
  rw [valueAt?, Option.map_eq_some_iff, Option.bind_eq_some_iff]

theorem resolve?_contents (c : Certificate) (q : String) :
    c.tree.resolve? ("certificate.extensions." ++ q) =
      Node.descend? (Node.segments q) (contentsNode c.extensions) := by
  have hname : (contentsNode c.extensions).name = "extensions" := by simp [contentsNode]
  have hcontents : c.tree.resolve? "certificate.extensions" = some (contentsNode c.extensions) := by
    have hpath : c.tree.resolve? (Node.childPath rootKey "extensions") = _ :=
      resolve?_viewPath (by decide) c
    rw [certificateNode, Node.insert, Node.child?_setChild, hname, if_pos rfl] at hpath
    exact hpath
  exact Node.resolve?_childPath (by decide) hcontents q

theorem valueAt?_field {key : String} (hkey : "." ++ key = path) (hplain : '.' ∉ key.toList)
    (h : (c.tree.resolve? ("certificate.extensions." ++ q)).bind (fun n => n.child? key) =
      some (Node.leaf key v)) :
    c.valueAt? ("certificate.extensions." ++ q ++ path) = some (some v) := by
  have hne : "certificate.extensions." ++ q ≠ "" := by simp
  have hpath := Node.resolve?_childPath_of_plain hne c.tree hplain
  rw [h, Node.childPath_eq hne, String.append_assoc, hkey] at hpath
  rw [valueAt?, hpath]
  rfl

theorem last_of_split {before after : List Extension} (heq : c.extensions = before ++ e :: after)
    (hafter : ∀ f ∈ after, f.oid ≠ e.oid) :
    (c.extensions.filter fun f => f.oid == e.oid).getLast? = some e := by
  have hnone : after.filter (fun f => f.oid == e.oid) = [] := by
    rw [List.filter_eq_nil_iff]
    intro f hf hoid
    exact hafter f hf (beq_iff_eq.mp hoid)
  rw [heq, List.filter_append, List.filter_cons, if_pos (beq_self_eq_true _), hnone]
  exact List.getLast?_concat

/-- Of the nodes at identifiers those of the extensions have values, namely the content of the last
one with the identifier, and its other fields stand below. -/
theorem tree_contents (hdotted : ∀ e ∈ c.extensions, Oid.IsDotted e.oid) (hq : Oid.IsDotted q) :
    ((∃ v, c.valueAt? ("certificate.extensions." ++ q) = some (some v)) ↔
      ∃ e ∈ c.extensions, e.oid = q) ∧
    ∀ before e after, c.extensions = before ++ e :: after → e.oid = q →
      (∀ f ∈ after, f.oid ≠ q) → c.ShowsContent e := by
  have hcontent : ∀ e, (contentNode e).value = some (.bytes e.content) := fun _ => rfl
  have hvalue := asked_contentsNode (Node.asks_value _) hcontent hdotted hq
  rw [← resolve?_contents] at hvalue
  constructor
  · simp only [valueAt?_eq_some_some_iff, hvalue, Option.map_eq_some_iff]
    constructor
    · rintro ⟨_, e, hlast, _⟩
      obtain ⟨he, hoid⟩ := List.mem_filter.mp (List.mem_of_getLast? hlast)
      exact ⟨e, he, beq_iff_eq.mp hoid⟩
    · rintro ⟨e, he, rfl⟩
      have hmem : e ∈ c.extensions.filter fun f => f.oid == e.oid :=
        List.mem_filter.mpr ⟨he, beq_self_eq_true _⟩
      exact ⟨_, _, List.getLast?_eq_some_getLast (List.ne_nil_of_mem hmem), rfl⟩
  · rintro before e after heq rfl hafter
    have hlast := last_of_split heq hafter
    have hfield : ∀ f ∈ contentFields, ∀ path, "." ++ f.1 = path →
        c.valueAt? ("certificate.extensions." ++ e.oid ++ path) = some (some (f.2 e)) := by
      intro f hf path hpath
      have hasked := asked_contentsNode (Node.asks_child? (contentFields_not_isArc hf))
        (fun e => contentNode_child? e hf) hdotted hq
      rw [← resolve?_contents, hlast] at hasked
      exact valueAt?_field hpath (contentFields_plain hf) hasked
    rw [hlast] at hvalue
    constructor
    · exact valueAt?_eq_some_some_iff.mpr hvalue
    · exact hfield _ (.head _) _ (by decide)
    · exact hfield _ (.tail _ (.head _)) _ (by decide)
    · exact hfield _ (.tail _ (.tail _ (.head _))) _ (by decide)

/-- An identifier that stands twice, around one that it continues. -/
def nestedIdentifiers : Certificate :=
  extended [([0x55, 0x1d, 0x13], [0x30, 0]), ([0x55, 0x1d], [5]),
    ([0x55, 0x1d, 0x13], [0x30, 3, 1, 1, 0xff])]

theorem tree_contents_nestedIdentifiers :
    ofBytes nestedIdentifiers.encoding = .ok nestedIdentifiers ∧
      (∀ e ∈ nestedIdentifiers.extensions, Oid.IsDotted e.oid) ∧
      nestedIdentifiers.valueAt? "certificate.extensions.2.5.29.19" =
        some (some (.bytes [0x30, 3, 1, 1, 0xff])) ∧
      ¬ ∃ v, nestedIdentifiers.valueAt? "certificate.extensions.2.5" = some (some v) := by
  have hread : ofBytes nestedIdentifiers.encoding = .ok nestedIdentifiers := by cbv
  have hdotted : ∀ e ∈ nestedIdentifiers.extensions, Oid.IsDotted e.oid := by decide +kernel
  have hlast := (tree_contents hdotted (q := "2.5.29.19") (by decide)).2
    (nestedIdentifiers.extensions.take 2) _ [] (by rfl) (by decide +kernel) (by simp)
  have hnone := (tree_contents hdotted (q := "2.5") (by decide)).1
  refine ⟨hread, hdotted, hlast.content, ?_⟩
  intro h
  exact absurd (hnone.mp h) (by decide +kernel)

end Certificate
end CertAudit
