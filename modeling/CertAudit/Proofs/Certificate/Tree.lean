/- Every path in the tree of a certificate leads to its node, but for those of attribute types with
a point. -/
import CertAudit.Certificate.Tree
import CertAudit.Proofs.Certificate.Reading
import CertAudit.Proofs.Tree
import Mathlib
namespace CertAudit

open Node (IsOver)

namespace CertificateTree

variable {c : Certificate} {n : Node} {key : String} {name : Name} {e : String × Node}

/-- The names of a certificate, by the keys of their nodes. -/
def names (c : Certificate) : List (String × Name) := [("issuer", c.issuer), ("subject", c.subject)]

/-- A node that may stand in the node of a certificate, and not in the place of a name. -/
structure BesideNames (n : Node) : Prop where
  hangs : n.Hangs
  name : n.name ≠ "issuer" ∧ n.name ≠ "subject"

theorem names_plain {f : String × Name} (hf : f ∈ names c) : '.' ∉ f.1.toList := by
  rcases List.mem_pair.mp hf with rfl | rfl
  · simp
  · simp

theorem BesideNames.ne_of_mem (h : BesideNames n) {f : String × Name} (hf : f ∈ names c) :
    n.name ≠ f.1 := by
  rcases List.mem_pair.mp hf with rfl | rfl
  · exact h.name.1
  · exact h.name.2

theorem eq_of_mem_names {f g : String × Name} (hf : f ∈ names c) (hg : g ∈ names c)
    (h : f.1 = g.1) : f = g := by
  rcases List.mem_pair.mp hf with rfl | rfl <;> rcases List.mem_pair.mp hg with rfl | rfl <;>
    simp_all

@[simp] theorem nameNode_name (key : String) (name : Name) : (nameNode key name).name = key := by
  simp [nameNode]

/-- Characters among which are those of all keys that do not come from a certificate. -/
def CoversNames (p : Char → Bool) : Prop := ∀ c, c.isAlphanum = true → p c = true

theorem coversNames_noPoint : CoversNames (· != '.') := by
  intro c hc
  refine bne_iff_ne.mpr ?_
  rintro rfl
  exact absurd hc (by decide)

section Keys

variable {p : Char → Bool} (hp : CoversNames p)
include hp

theorem CoversNames.isOver (h : IsOver Char.isAlphanum key) : IsOver p key :=
  fun c hc => hp c (h c hc)

theorem CoversNames.leaf (h : IsOver Char.isAlphanum key) (v : Value) :
    (Node.leaf key v).Titled (IsOver p) :=
  Node.titled_leaf_iff.mpr (hp.isOver h)

theorem CoversNames.new (h : IsOver Char.isAlphanum key) : (Node.new key).Titled (IsOver p) :=
  Node.titled_new_iff.mpr (hp.isOver h)

omit hp in
theorem repr_isOver (n : Nat) : IsOver Char.isAlphanum (Nat.repr n) := by
  intro c hc
  rw [Nat.toList_repr] at hc
  have hdigit := Nat.isDigit_of_mem_toDigits (by decide) (by decide) hc
  simp [Char.isAlphanum, hdigit]

theorem numberLeaf_titled (h : IsOver Char.isAlphanum key) (n : Option Nat) :
    ∀ x ∈ numberLeaf key n, x.Titled (IsOver p) := by
  intro x hx
  obtain ⟨n, _, rfl⟩ := Option.map_eq_some_iff.mp (Option.mem_toList.mp hx)
  exact hp.leaf h _

theorem mappingNode_titled (m : PolicyMapping) (i : Nat) :
    (mappingNode m i).Titled (IsOver p) := by
  refine (hp.new (repr_isOver i)).withChildren ?_
  simp only [List.forall_mem_cons, List.not_mem_nil, false_implies, implies_true, and_true]
  exact ⟨hp.leaf (by decide) _, hp.leaf (by decide) _⟩

theorem subtreesNode_titled (h : IsOver Char.isAlphanum key) (subtrees : List NameSubtree) :
    (subtreesNode key subtrees).Titled (IsOver p) := by
  refine (hp.new h).withChildren ?_
  simp only [List.forall_mem_cons, List.not_mem_nil, false_implies, implies_true, and_true]
  exact ⟨hp.leaf (by decide) _, hp.leaf (by decide) _, hp.leaf (by decide) _,
    hp.leaf (by decide) _⟩

theorem altNameNode_titled (names : List AltName) : (altNameNode names).Titled (IsOver p) := by
  refine (hp.leaf (by decide) _).withChildren ?_
  simp only [List.forall_mem_cons, List.not_mem_nil, false_implies, implies_true, and_true]
  exact ⟨hp.leaf (by decide) _, hp.leaf (by decide) _, hp.leaf (by decide) _,
    hp.leaf (by decide) _, hp.leaf (by decide) _⟩

theorem keyNode_titled (a : KeyAlgorithm) : (keyNode a).Titled (IsOver p) := by
  refine (hp.new (by decide)).withChildren ?_
  rw [List.forall_mem_cons, List.forall_mem_append]
  refine ⟨hp.leaf (by decide) _, ?_, ?_⟩
  · intro x hx
    obtain ⟨bits, _, rfl⟩ := Option.map_eq_some_iff.mp (Option.mem_toList.mp hx)
    exact hp.leaf (by decide) _
  · intro x hx
    cases a with
    | rsa bits exponent =>
      rw [List.mem_singleton.mp hx]
      exact hp.leaf (by decide) _
    | ec curve bits =>
      rw [List.mem_singleton.mp hx]
      exact hp.leaf (by decide) _
    | _ => cases hx

/-- The keys below the node of an extension are known ones, and arcs of policies. -/
theorem viewNode?_titled {v : ExtensionValue} (h : viewNode? v = some n)
    (hpolicies : ∀ policies, v = .certificatePolicies policies →
      ∀ o ∈ policies, ∀ k ∈ Node.segments o, IsOver p k) : n.Titled (IsOver p) := by
  cases v with
  | basicConstraints ca pathLength =>
    cases h
    refine (hp.new (by decide)).withChildren ?_
    rw [List.forall_mem_cons]
    exact ⟨hp.leaf (by decide) _, numberLeaf_titled hp (by decide) pathLength⟩
  | keyUsage flags =>
    cases h
    refine (hp.leaf (by decide) _).withChildren ?_
    have hnames : ∀ x ∈ keyUsageNames.zipIdx, IsOver Char.isAlphanum x.1 := by decide
    exact List.forall_mem_map.mpr fun x hx => hp.leaf (hnames x hx) _
  | extendedKeyUsage usages =>
    cases h
    refine (hp.leaf (by decide) _).withChildren ?_
    have hnames : ∀ x ∈ Identifiers.usageFlags, IsOver Char.isAlphanum x.2 := by decide
    exact List.forall_mem_map.mpr fun x hx => hp.leaf (hnames x hx) _
  | subjectAltName names =>
    cases h
    exact altNameNode_titled hp names
  | subjectKeyIdentifier id =>
    cases h
    exact hp.leaf (by decide) _
  | authorityKeyIdentifier id =>
    cases id with
    | none =>
      cases h
      exact hp.new (by decide)
    | some id =>
      cases h
      exact (hp.leaf (by decide) _).insert (hp.leaf (by decide) _)
  | authorityInfoAccess entries =>
    cases h
    refine (hp.new (by decide)).withChildren ?_
    simp only [List.forall_mem_cons, List.not_mem_nil, false_implies, implies_true, and_true]
    exact ⟨hp.leaf (by decide) _, hp.leaf (by decide) _⟩
  | crlDistributionPoints uris =>
    cases h
    exact hp.leaf (by decide) _
  | certificatePolicies policies =>
    cases h
    exact (hp.leaf (by decide) _).foldl_insertPath (hpolicies policies rfl)
      fun o _ => Node.keyed_leaf o _
  | policyMappings mappings =>
    cases h
    refine (hp.leaf (by decide) _).withChildren ?_
    exact List.forall_mem_map.mpr fun m _ => mappingNode_titled hp m.1 m.2
  | policyConstraints requireExplicit inhibitMapping =>
    cases h
    refine (hp.new (by decide)).withChildren ?_
    rw [List.forall_mem_append]
    exact ⟨numberLeaf_titled hp (by decide) _, numberLeaf_titled hp (by decide) _⟩
  | inhibitAnyPolicy skip =>
    cases h
    exact hp.leaf (by decide) _
  | nameConstraints constraints =>
    cases h
    refine (hp.new (by decide)).withChildren ?_
    simp only [List.forall_mem_cons, List.not_mem_nil, false_implies, implies_true, and_true]
    exact ⟨subtreesNode_titled hp (by decide) _, subtreesNode_titled hp (by decide) _⟩
  | raw => cases h

theorem contentNode_keyed (x : Extension) : (contentNode x).Keyed (IsOver p) := by
  refine (Node.keyed_leaf x.oid _).withChildren ?_
  simp only [List.forall_mem_cons, List.not_mem_nil, false_implies, implies_true, and_true]
  exact ⟨hp.leaf (by decide) _, hp.leaf (by decide) _, hp.leaf (by decide) _⟩

theorem contentsNode_titled {extensions : List Extension}
    (h : ∀ x ∈ extensions, ∀ k ∈ Node.segments x.oid, IsOver p k) :
    (contentsNode extensions).Titled (IsOver p) :=
  (hp.new (by decide)).foldl_insertPath h fun x _ => contentNode_keyed hp x

/-- The fields that are no names of holders have known keys. -/
theorem fieldNodes_titled (c : Certificate) : ∀ n ∈ fieldNodes c,
    (n.Titled (IsOver p) ∧ n.name ≠ "issuer" ∧ n.name ≠ "subject") ∨
      ∃ f ∈ names c, n = nameNode f.1 f.2 := by
  have hkey : (keyNode c.publicKey.algorithm).name = "subjectPublicKeyInfo" := by simp [keyNode]
  simp only [fieldNodes, List.forall_mem_cons, List.not_mem_nil, false_implies, implies_true,
    and_true]
  refine ⟨.inl ⟨hp.leaf (by decide) _, by simp⟩, .inl ⟨?_, by simp⟩, .inl ⟨?_, by simp⟩,
    .inr ⟨("issuer", c.issuer), List.mem_cons_self, rfl⟩,
    .inr ⟨("subject", c.subject), List.mem_cons_of_mem _ List.mem_cons_self, rfl⟩,
    .inl ⟨?_, by simp⟩, .inl ⟨keyNode_titled hp _, by simp [hkey]⟩⟩
  · refine (hp.leaf (by decide) _).withChildren ?_
    simp only [List.forall_mem_cons, List.not_mem_nil, false_implies, implies_true, and_true]
    exact ⟨hp.leaf (by decide) _, hp.leaf (by decide) _⟩
  · exact (hp.leaf (by decide) _).insert (hp.leaf (by decide) _)
  · refine (hp.new (by decide)).withChildren ?_
    simp only [List.forall_mem_cons, List.not_mem_nil, false_implies, implies_true, and_true]
    exact ⟨hp.leaf (by decide) _, hp.leaf (by decide) _, hp.leaf (by decide) _⟩

end Keys

theorem isOver_noPoint_of_mem_segments {path : String} (h : key ∈ Node.segments path) :
    IsOver (· != '.') key :=
  Node.isOver_ne_iff.mpr (Node.plain_of_mem_segments h)

/-- The node of an extension does not take the place of a name. -/
theorem viewNode?_name {v : ExtensionValue} (h : viewNode? v = some n) :
    n.name ≠ "issuer" ∧ n.name ≠ "subject" := by
  cases v with
  | authorityKeyIdentifier id => cases id <;> cases h <;> simp
  | raw => cases h
  | _ =>
    cases h
    simp [altNameNode]

theorem viewNodes_besideNames (extensions : List Extension) :
    ∀ n ∈ viewNodes extensions, BesideNames n := by
  intro n hn
  obtain ⟨x, _, hmap⟩ := List.mem_filterMap.mp hn
  obtain ⟨view, hview, rfl⟩ := Option.map_eq_some_iff.mp hmap
  have hname := viewNode?_name hview
  have htitled : view.Titled (IsOver (· != '.')) :=
    viewNode?_titled coversNames_noPoint hview fun _ _ _ _ _ => isOver_noPoint_of_mem_segments
  refine ⟨Node.hangs_iff_titled.mpr ?_, by simpa using hname⟩
  exact htitled.insert (coversNames_noPoint.leaf (by decide) _)

theorem contentNode_wellKeyed (x : Extension) : (contentNode x).WellKeyed :=
  Node.wellKeyed_iff_keyed.mpr (contentNode_keyed coversNames_noPoint x)

theorem contentsNode_besideNames (extensions : List Extension) :
    BesideNames (contentsNode extensions) := by
  refine ⟨Node.hangs_iff_titled.mpr ?_, by simp [contentsNode]⟩
  exact contentsNode_titled coversNames_noPoint fun _ _ _ => isOver_noPoint_of_mem_segments

theorem fieldNodes_cases (c : Certificate) :
    ∀ n ∈ fieldNodes c, BesideNames n ∨ ∃ f ∈ names c, n = nameNode f.1 f.2 := by
  intro n hn
  rcases fieldNodes_titled coversNames_noPoint c n hn with ⟨htitled, hname⟩ | hname
  · exact .inl ⟨Node.hangs_iff_titled.mpr htitled, hname⟩
  · exact .inr hname

theorem certificateNode_ordered (c : Certificate) : Table.Ordered (certificateNode c).children := by
  have hchildren := Node.withChildren_ordered (n := Node.new rootKey) .nil
    (fieldNodes c ++ viewNodes c.extensions)
  exact hchildren.insert _ _

/-- What stands in the node of a certificate. -/
theorem mem_certificateNode (h : e ∈ (certificateNode c).children) :
    '.' ∉ e.1.toList ∧ (e.2.WellKeyed ∨ ∃ f ∈ names c, e = (f.1, nameNode f.1 f.2)) := by
  have hbeside : ∀ n, BesideNames n → e = (n.name, n) →
      '.' ∉ e.1.toList ∧ (e.2.WellKeyed ∨ ∃ f ∈ names c, e = (f.1, nameNode f.1 f.2)) := by
    rintro n hn rfl
    exact ⟨hn.hangs.name, .inl hn.hangs.wellKeyed⟩
  rcases Node.mem_of_mem_insert h with heq | h
  · exact hbeside _ (contentsNode_besideNames c.extensions) heq
  · rcases Node.mem_of_mem_withChildren h with ⟨n, hn, heq⟩ | h
    · rcases List.mem_append.mp hn with hn | hn
      · rcases fieldNodes_cases c n hn with hn | ⟨f, hf, rfl⟩
        · exact hbeside n hn heq
        · rw [nameNode_name] at heq
          subst heq
          exact ⟨names_plain hf, .inr ⟨f, hf, rfl⟩⟩
      · exact hbeside n (viewNodes_besideNames c.extensions n hn) heq
    · cases h

theorem nameNode_mem_fieldNodes {f : String × Name} (hf : f ∈ names c) :
    nameNode f.1 f.2 ∈ fieldNodes c := by
  rcases List.mem_pair.mp hf with rfl | rfl <;> simp [fieldNodes]

/-- Both names of a certificate are found in its node. -/
theorem child?_certificateNode {f : String × Name} (hf : f ∈ names c) :
    (certificateNode c).child? f.1 = some (nameNode f.1 f.2) := by
  have hne : f.1 ≠ (contentsNode c.extensions).name :=
    ((contentsNode_besideNames c.extensions).ne_of_mem hf).symm
  obtain ⟨d, hd, hname, hfound⟩ := Node.exists_child?_withChildren (Node.new rootKey)
    (List.mem_append_left (viewNodes c.extensions) (nameNode_mem_fieldNodes hf))
  rw [nameNode_name] at hname hfound
  rw [certificateNode, Node.insert, Node.child?_setChild, if_neg hne, hfound]
  -- No other child has the key of a name.
  have hcases : BesideNames d ∨ ∃ g ∈ names c, d = nameNode g.1 g.2 :=
    (List.mem_append.mp hd).elim (fieldNodes_cases c d)
      fun hview => .inl (viewNodes_besideNames c.extensions d hview)
  rcases hcases with hbeside | ⟨g, hg, rfl⟩
  · exact absurd hname (hbeside.ne_of_mem hf)
  · rw [nameNode_name] at hname
    rw [eq_of_mem_names hg hf hname]

theorem mem_nameNode (h : e ∈ (nameNode key name).children) :
    ∃ a ∈ name.attributes, ∃ v, e = (a.1, Node.leaf a.1 v) := by
  rcases Node.mem_of_mem_withChildren h with ⟨n, hn, rfl⟩ | h
  · obtain ⟨k, hk, rfl⟩ := List.mem_map.mp hn
    obtain ⟨a, ha, rfl⟩ := List.mem_map.mp (List.mem_eraseDups.mp hk)
    exact ⟨a, ha, _, rfl⟩
  · cases h

theorem nameNode_ordered (key : String) (name : Name) :
    Table.Ordered (nameNode key name).children :=
  Node.withChildren_ordered (n := Node.leaf key (.string name.oneLine)) .nil _

/-- Each attribute type has a child. -/
theorem exists_mem_nameNode {a : String × String} (ha : a ∈ name.attributes) (key : String) :
    ∃ n, (a.1, n) ∈ (nameNode key name).children := by
  have hleaf := List.mem_map_of_mem
    (f := fun k => Node.leaf k (gathered ((name.attributes.filter fun a => a.1 == k).map (·.2))))
    (List.mem_eraseDups.mpr (List.mem_map_of_mem (f := (·.1)) ha))
  obtain ⟨d, _, _, hfound⟩ := Node.exists_child?_withChildren (Node.leaf key (.string name.oneLine))
    hleaf
  exact ⟨d, Node.mem_of_child? hfound⟩

end CertificateTree

namespace Certificate

open CertificateTree

variable {c : Certificate} {path : String}

/-- A path to an attribute type of a name that is itself cut at points. -/
def CutPath (c : Certificate) (path : String) : Prop :=
  ∃ f ∈ names c, ∃ a ∈ f.2.attributes, '.' ∈ a.1.toList ∧
    path = rootKey ++ "." ++ f.1 ++ "." ++ a.1

theorem tree_eq (c : Certificate) :
    c.tree = .mk "" none [(rootKey, certificateNode c)] := by
  have hname : (certificateNode c).name = rootKey := by simp [certificateNode]
  rw [tree, Node.insert, hname]
  rfl

theorem resolve?_rootKey (c : Certificate) : c.tree.resolve? rootKey = some (certificateNode c) := by
  rw [tree_eq, Node.resolve?, if_neg (by decide), Node.segments_of_plain (by decide)]
  rfl

theorem mem_walk_tree {e : String × Node} : e ∈ c.tree.walk ↔
    e = (rootKey, certificateNode c) ∨ e ∈ (certificateNode c).walkFrom rootKey := by
  rw [tree_eq, Node.walk, Node.mem_walkFrom]
  simp [Node.children, Node.childPath]

theorem resolve?_child {e : String × Node} (he : e ∈ (certificateNode c).children) :
    c.tree.resolve? (Node.childPath rootKey e.1) = some e.2 := by
  rw [Node.resolve?_child (by decide) c.resolve?_rootKey (mem_certificateNode he).1]
  exact Node.child?_of_mem (certificateNode_ordered c) he

theorem childPath_name (f : String × Name) (key : String) :
    Node.childPath (Node.childPath rootKey f.1) key = rootKey ++ "." ++ f.1 ++ "." ++ key := by
  have hroot : rootKey ≠ "" := by decide
  rw [Node.childPath_eq (Node.childPath_ne_empty hroot f.1), Node.childPath_eq hroot]

/-- Every listed path leads to the node that it is listed with, unless it is cut. -/
theorem resolve?_of_mem_walk {e : String × Node} (he : e ∈ c.tree.walk)
    (hcut : ¬ c.CutPath e.1) : c.tree.resolve? e.1 = some e.2 := by
  rcases mem_walk_tree.mp he with rfl | he
  · exact c.resolve?_rootKey
  obtain ⟨child, hchild, he⟩ := Node.mem_walkFrom.mp he
  have hpath : Node.childPath rootKey child.1 ≠ "" :=
    Node.childPath_ne_empty (by decide) child.1
  rcases he with rfl | he
  · exact resolve?_child hchild
  rcases (mem_certificateNode hchild).2 with hwell | ⟨f, hf, rfl⟩
  · exact hwell.resolve?_of_mem_walkFrom hpath (resolve?_child hchild) he
  · -- Below a name there are only the leaves of attribute types.
    obtain ⟨g, hg, he⟩ := Node.mem_walkFrom.mp he
    obtain ⟨a, ha, v, rfl⟩ := mem_nameNode hg
    rcases he with rfl | he
    · have hplain : '.' ∉ a.1.toList := fun hpoint =>
        hcut ⟨f, hf, a, ha, hpoint, childPath_name f a.1⟩
      rw [Node.resolve?_child hpath (resolve?_child hchild) hplain]
      exact Node.child?_of_mem (nameNode_ordered f.1 f.2) hg
    · cases he

/-- A cut path is listed, and leads nowhere. -/
theorem CutPath.resolve?_eq_none (h : c.CutPath path) :
    (∃ n, (path, n) ∈ c.tree.walk) ∧ c.tree.resolve? path = none := by
  obtain ⟨f, hf, a, ha, hpoint, rfl⟩ := h
  have hchild : (f.1, nameNode f.1 f.2) ∈ (certificateNode c).children :=
    Node.mem_of_child? (child?_certificateNode hf)
  obtain ⟨n, hn⟩ := exists_mem_nameNode ha f.1
  rw [← childPath_name]
  refine ⟨⟨n, ?_⟩, ?_⟩
  · refine mem_walk_tree.mpr (.inr (Node.mem_walkFrom.mpr ⟨_, hchild, .inr ?_⟩))
    exact Node.mem_walkFrom.mpr ⟨_, hn, .inl rfl⟩
  · have hpath : Node.childPath rootKey f.1 ≠ "" := Node.childPath_ne_empty (by decide) f.1
    have hname : c.tree.resolve? (Node.childPath rootKey f.1) = some (nameNode f.1 f.2) :=
      resolve?_child (e := (f.1, nameNode f.1 f.2)) hchild
    rw [Node.resolve?_childPath hpath hname]
    -- The type is cut in two keys at least, but its node has no children.
    obtain ⟨first, second, parts, hparts⟩ := CharList.split_of_mem hpoint
    rw [Node.segments, hparts, List.map_cons, List.map_cons]
    refine Node.descend?_of_leaves ?_ _ _ _
    intro e he
    obtain ⟨b, _, v, rfl⟩ := mem_nameNode he
    rfl

/-- The listed paths of a tree all lead back to their nodes just where no attribute type of a name
has a point: a path to such a type is listed and leads nowhere. -/
theorem tree_walk_resolves (c : Certificate) :
    ((∀ e ∈ c.tree.walk, c.tree.resolve? e.1 = some e.2) ↔
      ∀ f ∈ names c, ∀ a ∈ f.2.attributes, '.' ∉ a.1.toList) ∧
    (∀ e ∈ c.tree.walk, ¬ c.CutPath e.1 → c.tree.resolve? e.1 = some e.2) ∧
    ∀ path, c.CutPath path → (∃ n, (path, n) ∈ c.tree.walk) ∧ c.tree.resolve? path = none := by
  refine ⟨⟨?_, ?_⟩, fun e he => resolve?_of_mem_walk he, fun path => CutPath.resolve?_eq_none⟩
  · intro hall f hf a ha hpoint
    obtain ⟨⟨n, hn⟩, hnone⟩ := CutPath.resolve?_eq_none ⟨f, hf, a, ha, hpoint, rfl⟩
    rw [hall _ hn] at hnone
    cases hnone
  · intro hplain e he
    refine resolve?_of_mem_walk he ?_
    rintro ⟨f, hf, a, ha, hpoint, _⟩
    exact hplain f hf a ha hpoint

/-- A subject with the identifier of an organization, for which there is no short name. -/
def identifiedOrganization : Certificate :=
  .short 1 (.single [0x55, 4, 3] 0x0c "CA") (.single [0x55, 4, 0x61] 0x0c "NTRDE-HRB1234")

/-- The identifier is listed with a path that leads nowhere. -/
theorem tree_walk_identifiedOrganization :
    ofBytes identifiedOrganization.encoding = .ok identifiedOrganization ∧
      (∃ n, ("certificate.subject.2.5.4.97", n) ∈ identifiedOrganization.tree.walk) ∧
      identifiedOrganization.tree.resolve? "certificate.subject.2.5.4.97" = none := by
  have hread : ofBytes identifiedOrganization.encoding = .ok identifiedOrganization := by cbv
  have hcut : identifiedOrganization.CutPath "certificate.subject.2.5.4.97" := by
    refine ⟨("subject", identifiedOrganization.subject), .tail _ (.head _),
      ("2.5.4.97", "NTRDE-HRB1234"), ?_, ?_, ?_⟩
    · decide +kernel
    · decide
    · decide
  exact ⟨hread, hcut.resolve?_eq_none⟩

end Certificate
end CertAudit
