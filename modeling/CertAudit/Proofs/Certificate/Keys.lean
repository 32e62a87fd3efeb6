/- The keys in the tree of a certificate that has been read hold no sign of equality and no line
feed: they are names that are known, or identifiers. -/
import CertAudit.Certificate.Tree
import CertAudit.Proofs.Certificate.Identified
import CertAudit.Proofs.Certificate.Tree
import CertAudit.Proofs.Name.Line
import CertAudit.Proofs.Tree.Lines
import Mathlib
namespace CertAudit

open Node (IsOver isPathChar)

theorem Oid.isOver_ofContent (bs : Bytes) : IsOver isPathChar (Oid.ofContent bs) := by
  intro c hc
  have hform := isFormChar_of_mem_ofContent hc
  rw [isPathChar, Bool.and_eq_true, bne_iff_ne, bne_iff_ne]
  constructor
  · rintro rfl
    exact absurd hform (by decide)
  · rintro rfl
    exact absurd hform (by decide)

theorem Identifiers.attributeNames_isOver :
    ∀ entry ∈ attributeNames, IsOver isPathChar entry.2 := by decide

theorem Name.IsRead.isOver_type {n : Name} (h : n.IsRead) :
    ∀ a ∈ n.attributes, IsOver isPathChar a.1 := by
  intro a ha
  rw [h.attributes_eq] at ha
  obtain ⟨encoded, _, rfl⟩ := List.mem_map.mp ha
  rcases Identifiers.nameIn_cases Identifiers.attributeNames (Oid.ofContent encoded.type)
    with hin | hform
  · exact Identifiers.attributeNames_isOver _ hin
  · rw [EncodedAttribute.shown, hform]
    exact Oid.isOver_ofContent encoded.type

theorem ExtensionValue.readers_policies : ∀ r ∈ readers,
    r.1 = Identifiers.certificatePolicies → r.2 = readCertificatePolicies := by
  rw [readers]
  simp only [List.forall_mem_cons, List.not_mem_nil, false_implies, implies_true, and_true,
    true_and]
  refine ⟨?_, ?_, ?_, ?_, ?_, ?_, ?_, ?_, ?_, ?_, ?_, ?_⟩
  all_goals exact fun h => absurd h (by decide)

/-- Policies that have been read are identifiers. -/
theorem ExtensionValue.exists_policies_of_ofContent {oid content : Bytes} {policies : List String}
    (h : ofContent oid content = .certificatePolicies policies) :
    ∃ oids : List Bytes, policies = oids.map Oid.ofContent := by
  rw [ofContent] at h
  split at h
  · rename_i id read hfind
    have hmem := List.mem_of_find?_eq_some hfind
    cases hread : read content with
    | none =>
      rw [hread] at h
      cases h
    | some v =>
      rw [hread, Option.getD_some] at h
      subst h
      have hid := Option.some.inj (readers_give _ hmem content _ hread)
      have hpolicies : read = readCertificatePolicies := readers_policies _ hmem hid.symm
      rw [hpolicies] at hread
      obtain ⟨⟨oids, _⟩, _, hread⟩ := Option.bind_eq_some_iff.mp hread
      cases hread
      exact ⟨oids, rfl⟩
  · cases h

/-- The identifiers of an extension that paths are made of. -/
structure Extension.PathWritten (e : Extension) : Prop where
  oid : IsOver isPathChar e.oid
  policies : ∀ policies, e.value = .certificatePolicies policies →
    ∀ p ∈ policies, IsOver isPathChar p

theorem Extension.pathWritten_of_read {bs rest : Bytes} {e : Extension}
    (h : Extension.read bs = some (e, rest)) : e.PathWritten := by
  simp only [Extension.read, bind, Option.bind_eq_some_iff] at h
  obtain ⟨_, _, ⟨oid, _⟩, _, ⟨content, _⟩, _, h⟩ := h
  cases h
  refine ⟨Oid.isOver_ofContent oid, ?_⟩
  intro policies hpolicies p hp
  obtain ⟨oids, rfl⟩ := ExtensionValue.exists_policies_of_ofContent hpolicies
  obtain ⟨o, _, rfl⟩ := List.mem_map.mp hp
  exact Oid.isOver_ofContent o

namespace CertificateTree

variable {c : Certificate} {n : Node} {key : String} {name : Name} {e : Extension}

theorem coversNames_isPathChar : CoversNames isPathChar := by
  intro c hc
  rw [isPathChar, Bool.and_eq_true, bne_iff_ne, bne_iff_ne]
  constructor
  · rintro rfl
    exact absurd hc (by decide)
  · rintro rfl
    exact absurd hc (by decide)

theorem nameNode_titled (hkey : IsOver isPathChar key)
    (hname : ∀ a ∈ name.attributes, IsOver isPathChar a.1) :
    (nameNode key name).Titled (IsOver isPathChar) := by
  refine (Node.titled_leaf_iff.mpr hkey).withChildren ?_
  intro x hx
  obtain ⟨k, hk, rfl⟩ := List.mem_map.mp hx
  obtain ⟨a, ha, rfl⟩ := List.mem_map.mp (List.mem_eraseDups.mp hk)
  exact Node.titled_leaf_iff.mpr (hname a ha)

theorem viewNodes_titled {extensions : List Extension}
    (h : ∀ e ∈ extensions, e.PathWritten) :
    ∀ n ∈ viewNodes extensions, n.Titled (IsOver isPathChar) := by
  intro n hn
  obtain ⟨e, he, hmap⟩ := List.mem_filterMap.mp hn
  obtain ⟨view, hview, rfl⟩ := Option.map_eq_some_iff.mp hmap
  have htitled : view.Titled (IsOver isPathChar) := by
    refine viewNode?_titled coversNames_isPathChar hview ?_
    intro policies hpolicies o ho k
    exact Node.isOver_of_mem_segments ((h e he).policies policies hpolicies o ho)
  exact htitled.insert (coversNames_isPathChar.leaf (by decide) _)

end CertificateTree

namespace Certificate

open CertificateTree

variable {c : Certificate}

theorem IsRead.isOver_types (h : c.IsRead) :
    ∀ f ∈ names c, ∀ a ∈ f.2.attributes, IsOver isPathChar a.1 := by
  intro f hf
  rcases List.mem_pair.mp hf with rfl | rfl
  · exact Name.IsRead.isOver_type h.exists_names.1
  · exact Name.IsRead.isOver_type h.exists_names.2

theorem IsRead.pathWritten (h : c.IsRead) : ∀ e ∈ c.extensions, e.PathWritten := by
  intro e he
  obtain ⟨start, rest, hread⟩ := h.exists_read e he
  exact Extension.pathWritten_of_read hread

/-- No key in the tree of a certificate that has been read ends a path or a line. -/
theorem IsRead.tree_keyed (h : c.IsRead) : c.tree.Keyed (IsOver isPathChar) := by
  have hfields : ∀ n ∈ fieldNodes c, n.Titled (IsOver isPathChar) := by
    intro n hn
    rcases fieldNodes_titled coversNames_isPathChar c n hn with ⟨htitled, _⟩ | ⟨f, hf, rfl⟩
    · exact htitled
    · refine nameNode_titled ?_ (h.isOver_types f hf)
      rcases List.mem_pair.mp hf with rfl | rfl
      · exact (by decide : IsOver isPathChar "issuer")
      · exact (by decide : IsOver isPathChar "subject")
  have hcontents : (contentsNode c.extensions).Titled (IsOver isPathChar) :=
    contentsNode_titled coversNames_isPathChar fun x hx _ =>
      Node.isOver_of_mem_segments (h.pathWritten x hx).oid
  have hnode : (certificateNode c).Titled (IsOver isPathChar) :=
    ((coversNames_isPathChar.new (by decide)).withChildren
      (List.forall_mem_append.mpr ⟨hfields, viewNodes_titled h.pathWritten⟩)).insert hcontents
  exact (Node.keyed_new "").insert hnode

end Certificate
end CertAudit
