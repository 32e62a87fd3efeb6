/- The paths of policies in the tree of a certificate. Policies that begin alike share nodes, so
that the arcs a policy begins with have a node too, but no value. -/
import CertAudit.Operator
import CertAudit.Proofs.Certificate.Contents
import CertAudit.Proofs.Tree.Frame
namespace CertAudit

namespace CertificateTree

variable {c : Certificate} {o : String} {policies : List String}

/-- The node of declared policies, with a leaf for each of them. -/
def policiesNode (policies : List String) : Node :=
  policies.foldl (fun n p => n.insertPath p (Node.leaf p (.bool true)))
    (Node.leaf "certificatePolicies" (Value.texts policies))

theorem isSome_descend?_policiesNode (policies : List String) (o : String) :
    (Node.descend? (Node.segments o) (policiesNode policies)).isSome = true ↔
      ∃ policy ∈ policies, Node.segments o <+: Node.segments policy := by
  rw [policiesNode, Node.isSome_descend?_foldl (fun _ => rfl), Node.descend?_segments_leaf]
  simp

theorem value_descend?_policiesNode (policies : List String) (o : String) :
    (Node.descend? (Node.segments o) (policiesNode policies)).bind Node.value =
      if o ∈ policies then some (.bool true) else none := by
  have hordered : ∀ p : String, Table.Ordered (Node.leaf p (.bool true)).children := fun _ => .nil
  have hfree : ∀ p key : String, True → (Node.leaf p (.bool true)).child? key = none :=
    fun _ _ _ => rfl
  have hvalue : ∀ p : String, (Node.leaf p (.bool true)).value = some (.bool true) := fun _ => rfl
  have hlast : (Node.descend? (Node.segments o) (policiesNode policies)).bind Node.value =
      ((policies.filter fun p => p == o).getLast?.map fun _ => Value.bool true).or
        ((Node.descend? (Node.segments o)
          (Node.leaf "certificatePolicies" (Value.texts policies))).bind Node.value) :=
    (Node.asks_value fun _ => True).descend?_foldl hordered hfree hvalue
      (fun _ _ _ _ => trivial) (fun _ _ => trivial) _
  rw [hlast, Node.descend?_segments_leaf, Option.bind_none, Option.or_none]
  by_cases hmem : o ∈ policies
  · have hsame : o ∈ policies.filter fun p => p == o :=
      List.mem_filter.mpr ⟨hmem, beq_self_eq_true o⟩
    rw [if_pos hmem, List.getLast?_eq_some_getLast (List.ne_nil_of_mem hsame), Option.map_some]
  · have hnone : (policies.filter fun p => p == o) = [] := by
      rw [List.filter_eq_nil_iff]
      intro p hp heq
      exact hmem (beq_iff_eq.mp heq ▸ hp)
    rw [if_neg hmem, hnone, List.getLast?_nil, Option.map_none]

/-- The mark of an extension is not on the way to a policy. -/
theorem descend?_marked (ho : Oid.IsDotted o) (n : Node) (e : Extension) :
    Node.descend? (Node.segments o) (marked n e) = Node.descend? (Node.segments o) n := by
  obtain ⟨key, rest, hkeys⟩ := List.exists_cons_of_ne_nil (Node.segments_ne_nil o)
  have hkey : key ≠ "critical" := by
    rintro rfl
    have harc := ho.isArc "critical" (hkeys ▸ List.mem_cons_self)
    exact contentFields_not_isArc (.head _) harc
  rw [hkeys, Node.descend?, marked, Node.insert, Node.child?_setChild, Node.leaf_name, if_neg hkey]
  rfl

theorem resolve?_policyPath (h : c.values ExtensionValue.policies? = [policies])
    (ho : Oid.IsDotted o) : c.tree.resolve? ("certificate.certificatePolicies." ++ o) =
      Node.descend? (Node.segments o) (policiesNode policies) := by
  have hpath : Node.childPath (Node.childPath rootKey "certificatePolicies") o =
      "certificate.certificatePolicies." ++ o := Node.childPath_eq (by decide) o
  have hlast : c.lastValue ExtensionValue.policies? = some policies := by
    rw [Certificate.lastValue, h]
    rfl
  rw [← hpath, Node.resolve?_childPath_eq_bind (by decide), resolve?_viewPath (by decide),
    isView_certificatePolicies.bind_certificateNode c fun _ e => descend?_marked ho _ e, hlast]
  rfl

end CertificateTree

namespace Certificate

open CertificateTree

variable {c : Certificate} {o : String} {policies : List String}

/-- There is a node at a policy if its arcs are those that a declared policy begins with. The
declared policies are those with a value there. -/
theorem present_policyPath (h : c.values ExtensionValue.policies? = [policies])
    (ho : Oid.IsDotted o) (ctx : Context) (operands : List Value) :
    ∃ verdict, Operator.present.evaluate
        (c.tree.resolve? ("certificate.certificatePolicies." ++ o)) ctx operands = .ok verdict ∧
      (verdict = true ↔ ∃ policy ∈ policies, Node.segments o <+: Node.segments policy) ∧
      (c.valueAt? ("certificate.certificatePolicies." ++ o) = some (some (.bool true)) ↔
        o ∈ policies) := by
  rw [valueAt?_eq_some_some_iff, resolve?_policyPath h ho, value_descend?_policiesNode]
  refine ⟨_, rfl, isSome_descend?_policiesNode policies o, ?_⟩
  by_cases hmem : o ∈ policies <;> simp [hmem]

/-- A certificate with a policy and another one that goes on from it. -/
def nestedPolicies : Certificate :=
  extended [([0x55, 0x1d, 0x20],
    [0x30, 13, 0x30, 5, 6, 3, 0x2a, 3, 4, 0x30, 4, 6, 2, 0x2a, 3])]

theorem values_nestedPolicies :
    nestedPolicies.values ExtensionValue.policies? = [["1.2.3.4", "1.2.3"]] := by decide +kernel

theorem present_policyPath_nestedPolicies :
    Operator.present.evaluate (nestedPolicies.tree.resolve? "certificate.certificatePolicies.1.2.3")
        { root := nestedPolicies.tree, now := { seconds := 0 } } [] = .ok true ∧
      nestedPolicies.valueAt? "certificate.certificatePolicies.1.2.3" = some (some (.bool true)) ∧
      Operator.present.evaluate (nestedPolicies.tree.resolve? "certificate.certificatePolicies.1.2.4")
        { root := nestedPolicies.tree, now := { seconds := 0 } } [] = .ok false := by
  have hdotted : ∀ o ∈ ["1.2.3", "1.2.4"], Oid.IsDotted o := by decide
  obtain ⟨verdict, heq, hpresent, hvalue⟩ := present_policyPath values_nestedPolicies
    (hdotted "1.2.3" (.head _)) { root := nestedPolicies.tree, now := { seconds := 0 } } []
  obtain ⟨other, heq', hpresent', _⟩ := present_policyPath values_nestedPolicies
    (hdotted "1.2.4" (.tail _ (.head _))) { root := nestedPolicies.tree, now := { seconds := 0 } } []
  have htrue : verdict = true := hpresent.mpr ⟨"1.2.3", by decide, List.prefix_rfl⟩
  have hfalse : other = false := by
    rw [← Bool.not_eq_true, hpresent']
    decide +kernel
  subst htrue hfalse
  exact ⟨heq, hvalue.mpr (by decide), heq'⟩

/-- What two policies begin with is present, and is no policy that the certificate declares. -/
theorem present_sharedArcs :
    ofBytes nestedPolicies.encoding = .ok nestedPolicies ∧
      nestedPolicies.values ExtensionValue.policies? = [["1.2.3.4", "1.2.3"]] ∧
      (∀ policy ∈ ["1.2.3.4", "1.2.3"], Oid.IsDotted policy) ∧ Oid.IsDotted "1.2" ∧
      Operator.present.evaluate (nestedPolicies.tree.resolve? "certificate.certificatePolicies.1.2")
        { root := nestedPolicies.tree, now := { seconds := 0 } } [] = .ok true ∧
      "1.2" ∉ ["1.2.3.4", "1.2.3"] := by
  have hread : ofBytes nestedPolicies.encoding = .ok nestedPolicies := by cbv
  have hdotted : Oid.IsDotted "1.2" := by decide
  have hsome : (nestedPolicies.tree.resolve? ("certificate.certificatePolicies." ++ "1.2")).isSome =
      true := by
    rw [resolve?_policyPath values_nestedPolicies hdotted, isSome_descend?_policiesNode]
    exact ⟨"1.2.3", by decide, by decide +kernel⟩
  exact ⟨hread, values_nestedPolicies, by decide, hdotted, congrArg Except.ok hsome, by decide⟩

end Certificate
end CertAudit
