/- The tree of a certificate does not depend on the order of extensions that have different
identifiers and are of different kinds. -/
import CertAudit.Proofs.Certificate.Contents
namespace CertAudit

namespace CertificateTree

variable {n : Node} {extensions reordered : List Extension}

/-- The keys of views, by the identifiers of the values that they show. -/
def viewKeys : List (String × String) := [
  (Identifiers.basicConstraints, "basicConstraints"),
  (Identifiers.keyUsage, "keyUsage"),
  (Identifiers.extendedKeyUsage, "extendedKeyUsage"),
  (Identifiers.subjectAltName, "subjectAltName"),
  (Identifiers.subjectKeyIdentifier, "subjectKeyIdentifier"),
  (Identifiers.authorityKeyIdentifier, "authorityKeyIdentifier"),
  (Identifiers.authorityInfoAccess, "authorityInfoAccess"),
  (Identifiers.crlDistributionPoints, "crlDistributionPoints"),
  (Identifiers.certificatePolicies, "certificatePolicies"),
  (Identifiers.policyMappings, "policyMappings"),
  (Identifiers.policyConstraints, "policyConstraints"),
  (Identifiers.inhibitAnyPolicy, "inhibitAnyPolicy"),
  (Identifiers.nameConstraints, "nameConstraints")]

theorem viewNode?_key {v : ExtensionValue} (h : viewNode? v = some n) :
    ∃ id, v.identifier? = some id ∧ (id, n.name) ∈ viewKeys := by
  cases v with
  | authorityKeyIdentifier id =>
    cases id with
    | none =>
      cases h
      exact ⟨_, rfl, by simp [viewKeys]⟩
    | some id =>
      cases h
      exact ⟨_, rfl, by simp [viewKeys]⟩
  | raw => cases h
  | _ =>
    cases h
    exact ⟨_, rfl, by simp [viewKeys, altNameNode]⟩

/-- No two kinds of values are shown under one key. -/
theorem eq_of_mem_viewKeys {f g : String × String} (hf : f ∈ viewKeys) (hg : g ∈ viewKeys)
    (h : f.2 = g.2) : f = g := by
  have hnodup : (viewKeys.map Prod.snd).Nodup := by decide
  exact List.inj_on_of_nodup_map hnodup hf hg h

theorem viewNodes_names (h : (extensions.filterMap fun e => e.value.identifier?).Nodup) :
    (viewNodes extensions).Pairwise fun n m => n.name ≠ m.name := by
  rw [List.Nodup, List.pairwise_filterMap] at h
  rw [viewNodes, List.pairwise_filterMap]
  apply h.imp
  intro e f hne n hn m hm hname
  obtain ⟨view, hview, rfl⟩ := Option.map_eq_some_iff.mp hn
  obtain ⟨other, hother, rfl⟩ := Option.map_eq_some_iff.mp hm
  obtain ⟨id, hid, hkey⟩ := viewNode?_key hview
  obtain ⟨id', hid', hkey'⟩ := viewNode?_key hother
  have hsame : (id, view.name) = (id', other.name) := eq_of_mem_viewKeys hkey hkey' hname
  exact hne id hid id' hid' (congrArg Prod.fst hsame)

/-- Two extensions whose contents stand at different identifiers. -/
structure Apart (e f : Extension) : Prop where
  ne : e.oid ≠ f.oid
  left : Oid.IsDotted e.oid
  right : Oid.IsDotted f.oid

theorem Apart.symm {e f : Extension} (h : Apart e f) : Apart f e := ⟨h.ne.symm, h.right, h.left⟩

theorem Apart.insertPath_comm {e f : Extension} (h : Apart e f) (hn : n.WellKeyed) :
    (n.insertPath e.oid (contentNode e)).insertPath f.oid (contentNode f) =
      (n.insertPath f.oid (contentNode f)).insertPath e.oid (contentNode e) := by
  refine Node.insertAt_comm hn (contentNode_ordered f) (contentNode_ordered e) ?_ ?_ ?_
  · intro key hkey
    exact contentNode_child?_of_isArc f (h.left.isArc key hkey)
  · intro key hkey
    exact contentNode_child?_of_isArc e (h.right.isArc key hkey)
  · intro heq
    exact h.ne (Node.segments_injective heq).symm

theorem contentsNode_eq_of_perm (hperm : extensions.Perm reordered)
    (hdotted : ∀ e ∈ extensions, Oid.IsDotted e.oid)
    (hoids : (extensions.map Extension.oid).Nodup) :
    contentsNode extensions = contentsNode reordered := by
  have hapart : extensions.Pairwise Apart := by
    rw [List.Nodup, List.pairwise_map] at hoids
    apply hoids.imp_of_mem
    intro e f he hf hne
    exact ⟨hne, hdotted e he, hdotted f hf⟩
  refine Node.foldl_eq_of_perm hperm ?_ Apart.symm ?_ hapart (Node.new_wellKeyed "extensions")
  · intro n e hn
    exact hn.insertPath e.oid (contentNode_wellKeyed e)
  · intro n e f hn h
    exact h.insertPath_comm hn

end CertificateTree

namespace Certificate

open CertificateTree

/-- Extensions that differ in their identifiers and kinds make the same tree in any order. -/
theorem tree_reordered {c : Certificate} {extensions : List Extension}
    (hperm : c.extensions.Perm extensions) (hdotted : ∀ e ∈ c.extensions, Oid.IsDotted e.oid)
    (hoids : (c.extensions.map Extension.oid).Nodup)
    (hkinds : (c.extensions.filterMap fun e => e.value.identifier?).Nodup) :
    ({ c with extensions } : Certificate).tree = c.tree := by
  have hordered : Table.Ordered ((Node.new rootKey).withChildren (fieldNodes c)).children :=
    Node.withChildren_ordered (n := Node.new rootKey) .nil (fieldNodes c)
  have hviews : (Node.new rootKey).withChildren (fieldNodes c ++ viewNodes c.extensions) =
      (Node.new rootKey).withChildren (fieldNodes c ++ viewNodes extensions) := by
    simp only [Node.withChildren, List.foldl_append]
    exact Node.withChildren_eq_of_perm hordered (hperm.filterMap _) (viewNodes_names hkinds)
  have hcontents := contentsNode_eq_of_perm hperm hdotted hoids
  rw [tree, tree, certificateNode, certificateNode, hviews, hcontents]
  rfl

/-- Values of two kinds, at identifiers that continue a third one. -/
def severalKinds : Certificate :=
  extended [([0x55, 0x1d, 0x13], [0x30, 0]), ([0x55, 0x1d], [5]), ([0x55, 0x1d, 0x36], [2, 1, 0])]

theorem tree_reordered_severalKinds :
    ofBytes severalKinds.encoding = .ok severalKinds ∧
      (∀ e ∈ severalKinds.extensions, Oid.IsDotted e.oid) ∧
      (severalKinds.extensions.map Extension.oid).Nodup ∧
      (severalKinds.extensions.filterMap fun e => e.value.identifier?).Nodup ∧
      ({ severalKinds with extensions := severalKinds.extensions.reverse } : Certificate).tree =
        severalKinds.tree := by
  have hread : ofBytes severalKinds.encoding = .ok severalKinds := by cbv
  have hdotted : ∀ e ∈ severalKinds.extensions, Oid.IsDotted e.oid := by decide +kernel
  have hoids : (severalKinds.extensions.map Extension.oid).Nodup := by decide +kernel
  have hkinds : (severalKinds.extensions.filterMap fun e => e.value.identifier?).Nodup := by
    decide +kernel
  have hperm := (List.reverse_perm severalKinds.extensions).symm
  exact ⟨hread, hdotted, hoids, hkinds, tree_reordered hperm hdotted hoids hkinds⟩

end Certificate
end CertAudit
