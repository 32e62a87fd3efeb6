/- The tree of a certificate shows the last extension of a kind, where checks ask for the first. -/
import CertAudit.Proofs.Certificate.Identified
import CertAudit.Proofs.Certificate.Tree
namespace CertAudit

namespace ExtensionValue

def constraints? : ExtensionValue → Option (Bool × Option Nat)
  | .basicConstraints ca pathLength => some (ca, pathLength)
  | _ => none

def keyId? : ExtensionValue → Option Bytes
  | .subjectKeyIdentifier id => some id
  | _ => none

def policies? : ExtensionValue → Option (List String)
  | .certificatePolicies policies => some policies
  | _ => none

def skip? : ExtensionValue → Option Nat
  | .inhibitAnyPolicy skip => some skip
  | _ => none

def names? : ExtensionValue → Option (List AltName)
  | .subjectAltName names => some names
  | _ => none

end ExtensionValue

def AltName.dns? : AltName → Option String
  | .dns s => some s
  | _ => none

namespace Certificate

variable {α : Type}

/-- The answers that the values of extensions give, in their order. -/
def values (c : Certificate) (f : ExtensionValue → Option α) : List α :=
  c.extensions.filterMap fun e => f e.value

def lastValue (c : Certificate) (f : ExtensionValue → Option α) : Option α :=
  (c.values f).getLast?

/-- The value of the node at a path, if there is a node. -/
def valueAt? (c : Certificate) (path : String) : Option (Option Value) :=
  (c.tree.resolve? path).map Node.value

/-- The tree shows these contents of five kinds of extensions, and no node for a missing one. -/
structure Shows (c : Certificate) (basic : Option (Bool × Option Nat)) (id : Option Bytes)
    (oids : Option (List String)) (skip : Option Nat) (names : Option (List AltName)) : Prop where
  basicConstraints : c.valueAt? "certificate.basicConstraints" = basic.map fun _ => none
  ca : c.valueAt? "certificate.basicConstraints.ca" = basic.map fun x => some (.bool x.1)
  pathLenConstraint : c.valueAt? "certificate.basicConstraints.pathLenConstraint" =
    (basic.bind (·.2)).map fun n => some (.ofNat n)
  subjectKeyIdentifier : c.valueAt? "certificate.subjectKeyIdentifier" =
    id.map fun bs => some (.bytes bs)
  certificatePolicies : c.valueAt? "certificate.certificatePolicies" =
    oids.map fun ss => some (.texts ss)
  inhibitAnyPolicy : c.valueAt? "certificate.inhibitAnyPolicy" =
    skip.map fun n => some (.ofNat n)
  subjectAltName : c.valueAt? "certificate.subjectAltName" =
    names.map fun ns => some (.ofNat ns.length)
  dns : c.valueAt? "certificate.subjectAltName.dns" =
    names.map fun ns => some (.texts (ns.filterMap AltName.dns?))

end Certificate

namespace CertificateTree

/-- The keys in the node of a certificate that are not those of views. -/
def fixedKeys : List String := ["extensions", "version", "serialNumber", "signatureAlgorithm",
  "issuer", "subject", "validity", "subjectPublicKeyInfo"]

/-- The views under a key are those of the values of one kind, which one identifier stands for. -/
structure IsView {α : Type} (key id : String) (f : ExtensionValue → Option α) (node : α → Node) :
    Prop where
  plain : '.' ∉ key.toList
  free : key ∉ fixedKeys
  kind : ∀ v, ∀ a ∈ f v, v.identifier? = some id
  views : ∀ v, (viewNode? v).filter (fun n => n.name == key) = (f v).map node

variable {α : Type} {c : Certificate} {f : ExtensionValue → Option α} {node : α → Node}
  {key id path : String}

/-- The view of an extension, with the mark that tells whether that is critical. -/
def marked (view : Node) (e : Extension) : Node :=
  view.insert (Node.leaf "critical" (.bool e.critical))

theorem name_mem_fixedKeys {n : Node} (h : n ∈ fieldNodes c) : n.name ∈ fixedKeys := by
  have hnames : fixedKeys = "extensions" :: (fieldNodes c).map Node.name := by
    simp [fieldNodes, fixedKeys, keyNode]
  rw [hnames]
  exact List.mem_cons_of_mem _ (List.mem_map_of_mem h)

theorem IsView.filter_viewNodes (h : IsView key id f node) (extensions : List Extension) :
    (viewNodes extensions).filter (fun n => n.name == key) =
      extensions.filterMap fun e => (f e.value).map fun a => marked (node a) e := by
  rw [viewNodes, List.filter_filterMap]
  congr 1
  funext e
  rw [Option.filter_map]
  have hview := congrArg (Option.map (marked · e)) (h.views e.value)
  rw [Option.map_map] at hview
  exact hview

theorem IsView.child?_certificateNode (h : IsView key id f node) (c : Certificate) :
    (certificateNode c).child? key =
      (c.extensions.filterMap fun e => (f e.value).map fun a => marked (node a) e).getLast? := by
  have hname : (contentsNode c.extensions).name = "extensions" := by simp [contentsNode]
  have hcontents : key ≠ (contentsNode c.extensions).name := fun heq =>
    h.free (heq ▸ hname ▸ List.mem_cons_self)
  have hfields : (fieldNodes c).filter (fun n => n.name == key) = [] := by
    rw [List.filter_eq_nil_iff]
    intro n hn hkey
    exact h.free (beq_iff_eq.mp hkey ▸ name_mem_fixedKeys hn)
  rw [certificateNode, Node.insert, Node.child?_setChild, if_neg hcontents,
    Node.child?_withChildren, List.filter_append, hfields, h.filter_viewNodes]
  exact Option.or_none

/-- What does not depend on the mark can be asked of the last value. -/
theorem IsView.bind_certificateNode {β : Type} (h : IsView key id f node) (c : Certificate)
    {ask : Node → Option β} (hask : ∀ a e, ask (marked (node a) e) = ask (node a)) :
    ((certificateNode c).child? key).bind ask = (c.lastValue f).bind fun a => ask (node a) := by
  rw [h.child?_certificateNode, Certificate.lastValue, Certificate.values]
  induction c.extensions using List.reverseRecOn with
  | nil => rfl
  | append_singleton rest e ih =>
    rw [List.filterMap_append, List.filterMap_append]
    cases ha : f e.value with
    | none => simpa [ha] using ih
    | some a => simp [ha, hask]

theorem resolve?_viewPath (h : '.' ∉ key.toList) (c : Certificate) :
    c.tree.resolve? (Node.childPath rootKey key) = (certificateNode c).child? key := by
  rw [Node.resolve?_childPath_of_plain (by decide) _ h, c.resolve?_rootKey, Option.bind_some]

theorem IsView.valueAt? (h : IsView key id f node) (c : Certificate) {shown : α → Option Value}
    (hpath : Node.childPath rootKey key = path) (hshown : ∀ a, (node a).value = shown a) :
    c.valueAt? path = (c.lastValue f).map shown := by
  rw [← hpath, Certificate.valueAt?, resolve?_viewPath h.plain, Option.map_eq_bind,
    Option.map_eq_bind, h.bind_certificateNode c fun _ _ => rfl]
  congr 1
  exact funext fun a => congrArg some (hshown a)

theorem IsView.valueAt?_below (h : IsView key id f node) (c : Certificate) (sub : String)
    {shown : α → Option (Option Value)}
    (hpath : Node.childPath (Node.childPath rootKey key) sub = path) (hplain : '.' ∉ sub.toList)
    (hsub : sub ≠ "critical") (hshown : ∀ a, ((node a).child? sub).map Node.value = shown a) :
    c.valueAt? path = (c.lastValue f).bind shown := by
  have hparent : Node.childPath rootKey key ≠ "" := Node.childPath_ne_empty (by decide) key
  have hmarked : ∀ a e, (marked (node a) e).child? sub = (node a).child? sub := by
    intro a e
    rw [marked, Node.insert, Node.child?_setChild]
    exact if_neg hsub
  rw [← hpath, Certificate.valueAt?, Node.resolve?_childPath_of_plain hparent _ hplain,
    resolve?_viewPath h.plain, Option.map_bind,
    h.bind_certificateNode c fun a e => congrArg (Option.map Node.value) (hmarked a e)]
  congr 1
  exact funext hshown

theorem isView_basicConstraints :
    IsView "basicConstraints" Identifiers.basicConstraints ExtensionValue.constraints? fun x =>
      (Node.new "basicConstraints").withChildren
        (Node.leaf "ca" (.bool x.1) :: numberLeaf "pathLenConstraint" x.2) := by
  refine ⟨by decide, by decide, fun v a h => ?_, fun v => ?_⟩
  · cases v <;> cases h
    rfl
  cases v with
  | authorityKeyIdentifier id => cases id <;> simp [viewNode?, ExtensionValue.constraints?]
  | _ => simp [viewNode?, altNameNode, ExtensionValue.constraints?]

theorem isView_subjectKeyIdentifier :
    IsView "subjectKeyIdentifier" Identifiers.subjectKeyIdentifier ExtensionValue.keyId? fun id =>
      Node.leaf "subjectKeyIdentifier" (.bytes id) := by
  refine ⟨by decide, by decide, fun v a h => ?_, fun v => ?_⟩
  · cases v <;> cases h
    rfl
  cases v with
  | authorityKeyIdentifier id => cases id <;> simp [viewNode?, ExtensionValue.keyId?]
  | _ => simp [viewNode?, altNameNode, ExtensionValue.keyId?]

theorem isView_certificatePolicies :
    IsView "certificatePolicies" Identifiers.certificatePolicies ExtensionValue.policies? fun ps =>
      ps.foldl (fun n p => n.insertPath p (Node.leaf p (.bool true)))
        (Node.leaf "certificatePolicies" (Value.texts ps)) := by
  refine ⟨by decide, by decide, fun v a h => ?_, fun v => ?_⟩
  · cases v <;> cases h
    rfl
  cases v with
  | authorityKeyIdentifier id => cases id <;> simp [viewNode?, ExtensionValue.policies?]
  | _ => simp [viewNode?, altNameNode, ExtensionValue.policies?]

theorem isView_inhibitAnyPolicy :
    IsView "inhibitAnyPolicy" Identifiers.inhibitAnyPolicy ExtensionValue.skip? fun skip =>
      Node.leaf "inhibitAnyPolicy" (Value.ofNat skip) := by
  refine ⟨by decide, by decide, fun v a h => ?_, fun v => ?_⟩
  · cases v <;> cases h
    rfl
  cases v with
  | authorityKeyIdentifier id => cases id <;> simp [viewNode?, ExtensionValue.skip?]
  | _ => simp [viewNode?, altNameNode, ExtensionValue.skip?]

theorem isView_subjectAltName :
    IsView "subjectAltName" Identifiers.subjectAltName ExtensionValue.names? altNameNode := by
  refine ⟨by decide, by decide, fun v a h => ?_, fun v => ?_⟩
  · cases v <;> cases h
    rfl
  cases v with
  | authorityKeyIdentifier id => cases id <;> simp [viewNode?, ExtensionValue.names?]
  | _ => simp [viewNode?, altNameNode, ExtensionValue.names?]

end CertificateTree

namespace Certificate

open CertificateTree

variable {c : Certificate} {f : ExtensionValue → Option α} {node : α → Node} {key id : String}

/-- The tree shows the last extension of each kind. -/
theorem shows_last (c : Certificate) :
    c.Shows (c.lastValue ExtensionValue.constraints?) (c.lastValue ExtensionValue.keyId?)
      (c.lastValue ExtensionValue.policies?) (c.lastValue ExtensionValue.skip?)
      (c.lastValue ExtensionValue.names?) where
  basicConstraints := isView_basicConstraints.valueAt? c (by decide) fun _ => by simp
  ca := by
    rw [Option.map_eq_bind]
    refine isView_basicConstraints.valueAt?_below c "ca" (by decide) (by decide) (by decide) ?_
    rintro ⟨ca, pathLength⟩
    cases pathLength <;> simp [Node.child?_withChildren, numberLeaf]
  pathLenConstraint := by
    rw [Option.map_bind]
    refine isView_basicConstraints.valueAt?_below c "pathLenConstraint" (by decide) (by decide)
      (by decide) ?_
    rintro ⟨ca, pathLength⟩
    cases pathLength <;> simp [Node.child?_withChildren, numberLeaf]
  subjectKeyIdentifier := isView_subjectKeyIdentifier.valueAt? c (by decide) fun _ => rfl
  certificatePolicies := isView_certificatePolicies.valueAt? c (by decide) fun _ => by simp
  inhibitAnyPolicy := isView_inhibitAnyPolicy.valueAt? c (by decide) fun _ => rfl
  subjectAltName := isView_subjectAltName.valueAt? c (by decide) fun _ => by simp [altNameNode]
  dns := by
    rw [Option.map_eq_bind]
    refine isView_subjectAltName.valueAt?_below c "dns" (by decide) (by decide) (by decide) ?_
    intro names
    simp only [altNameNode, Node.child?_withChildren]
    rfl

/-- Where no identifier stands twice, the last value of a kind is the first one. -/
theorem IsRead.lastValue_eq (h : c.IsRead) (hnodup : (c.extensions.map Extension.oid).Nodup)
    (hview : IsView key id f node) : c.lastValue f = c.firstValue f := by
  have hpairwise : (c.values f).Pairwise fun _ _ => False := by
    rw [List.Nodup, List.pairwise_map] at hnodup
    rw [values, List.pairwise_filterMap]
    refine hnodup.imp_of_mem ?_
    intro e e' he he' hne a ha a' ha'
    have hid : id = e.oid := h.identified e he id (hview.kind _ a ha)
    have hid' : id = e'.oid := h.identified e' he' id (hview.kind _ a' ha')
    exact hne (hid.symm.trans hid')
  have hfirst : c.firstValue f = (c.values f).head? := List.head?_filterMap.symm
  rw [hfirst, lastValue]
  generalize c.values f = answers at hpairwise
  cases hpairwise with
  | nil => rfl
  | cons hnone _ =>
    rw [List.eq_nil_iff_forall_not_mem.mpr hnone]
    rfl

/-- The tree shows the last extension of each kind, and the checks ask for the first; they agree on
certificates that have been read and have no two extensions with one identifier. -/
theorem shows_values (c : Certificate) :
    c.Shows (c.lastValue ExtensionValue.constraints?) (c.lastValue ExtensionValue.keyId?)
        (c.lastValue ExtensionValue.policies?) (c.lastValue ExtensionValue.skip?)
        (c.lastValue ExtensionValue.names?) ∧
      (c.IsRead → (c.extensions.map Extension.oid).Nodup →
        ∃ names, c.altNames = names.getD [] ∧
          c.Shows c.basicConstraints? c.subjectKeyId? c.policies? c.inhibitAnyPolicy? names) := by
  refine ⟨shows_last c, ?_⟩
  intro hread hnodup
  have hbasic : c.lastValue ExtensionValue.constraints? = c.basicConstraints? :=
    hread.lastValue_eq hnodup isView_basicConstraints
  have hid : c.lastValue ExtensionValue.keyId? = c.subjectKeyId? :=
    hread.lastValue_eq hnodup isView_subjectKeyIdentifier
  have hpolicies : c.lastValue ExtensionValue.policies? = c.policies? :=
    hread.lastValue_eq hnodup isView_certificatePolicies
  have hskip : c.lastValue ExtensionValue.skip? = c.inhibitAnyPolicy? :=
    hread.lastValue_eq hnodup isView_inhibitAnyPolicy
  have hnames : c.altNames = (c.lastValue ExtensionValue.names?).getD [] := by
    rw [hread.lastValue_eq hnodup isView_subjectAltName]
    rfl
  have hshows := shows_last c
  rw [hbasic, hid, hpolicies, hskip] at hshows
  exact ⟨_, hnames, hshows⟩

/-- A certificate of the third version, with the identifiers and the contents of its extensions. Its
encoding fills more than 127 bytes. -/
def extended (extensions : List (Bytes × Bytes)) : Certificate :=
  let name := Name.single [0x55, 4, 3] 0x0c "CA"
  let extension x := Der.shortForm 0x30 (Der.shortForm 0x06 x.1 ++ Der.shortForm 0x04 x.2)
  let body := Der.shortForm 0x30 (Der.shortForm 0xa0 [2, 1, 2] ++ Der.shortForm 0x02 [1] ++
    AlgorithmId.ed25519 ++ name.encoding ++
    Der.shortForm 0x30 (Timestamp.epoch ++ Timestamp.epoch) ++ name.encoding ++
    Der.shortForm 0x30 (AlgorithmId.ed25519 ++ Der.shortForm 0x03 [0]) ++
    Der.shortForm 0xa3 (Der.shortForm 0x30 (extensions.map extension).flatten))
  let signed := body ++ AlgorithmId.ed25519 ++ Der.shortForm 0x03 [0]
  { Certificate.short 1 name name with
    version := 3
    extensions := extensions.map fun x =>
      { oid := Oid.ofContent x.1
        name := Identifiers.nameIn Identifiers.extensionNames (Oid.ofContent x.1)
        critical := false
        content := x.2
        value := ExtensionValue.ofContent x.1 x.2 }
    encoding := 0x30 :: 0x81 :: UInt8.ofNat signed.length :: signed }

/-- An authority below which the policy for all policies is inhibited at once. -/
def soleAuthority : Certificate :=
  extended [([0x55, 0x1d, 0x13], [0x30, 3, 1, 1, 0xff]), ([0x55, 0x1d, 0x36], [2, 1, 0])]

/-- Two extensions that say differently whether the subject is an authority. -/
def doubtfulAuthority : Certificate :=
  extended [([0x55, 0x1d, 0x13], [0x30, 3, 1, 1, 0xff]), ([0x55, 0x1d, 0x13], [0x30, 0])]

theorem shows_values_soleAuthority :
    ofBytes soleAuthority.encoding = .ok soleAuthority ∧
      (soleAuthority.extensions.map Extension.oid).Nodup ∧
      ∃ names, soleAuthority.altNames = names.getD [] ∧
        soleAuthority.Shows (some (true, none)) none none (some 0) names := by
  have hread : ofBytes soleAuthority.encoding = .ok soleAuthority := by cbv
  have hnodup : (soleAuthority.extensions.map Extension.oid).Nodup := by decide +kernel
  have hshows := (shows_values soleAuthority).2 (.of_ofBytes hread) hnodup
  have hbasic : soleAuthority.basicConstraints? = some (true, none) := by decide +kernel
  have hid : soleAuthority.subjectKeyId? = none := by decide +kernel
  have hpolicies : soleAuthority.policies? = none := by decide +kernel
  have hskip : soleAuthority.inhibitAnyPolicy? = some 0 := by decide +kernel
  rw [hbasic, hid, hpolicies, hskip] at hshows
  exact ⟨hread, hnodup, hshows⟩

/-- The checks take the subject for an authority, and the tree shows that it is none. -/
theorem valueAt?_doubtfulAuthority :
    ofBytes doubtfulAuthority.encoding = .ok doubtfulAuthority ∧
      doubtfulAuthority.basicConstraints? = some (true, none) ∧
      doubtfulAuthority.valueAt? "certificate.basicConstraints.ca" = some (some (.bool false)) := by
  have hread : ofBytes doubtfulAuthority.encoding = .ok doubtfulAuthority := by cbv
  have hfirst : doubtfulAuthority.basicConstraints? = some (true, none) := by decide +kernel
  have hlast : doubtfulAuthority.lastValue ExtensionValue.constraints? = some (false, none) := by
    decide +kernel
  refine ⟨hread, hfirst, ?_⟩
  rw [(shows_last doubtfulAuthority).ca, hlast]
  rfl

end Certificate
end CertAudit
