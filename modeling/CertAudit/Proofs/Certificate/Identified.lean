/- The identifier of an extension that has been read tells what kind of value it has. -/
import CertAudit.Proofs.Certificate.Reading
namespace CertAudit

theorem Der.mem_readMany {α : Type} {item : Bytes → Option (α × Bytes)} {bs : Bytes} {x : α}
    (h : x ∈ (readMany item bs).1) : ∃ start rest, item start = some (x, rest) := by
  fun_induction readMany item bs with
  | case1 bs hnone => cases h
  | case2 bs y rest hitem hshorter xs unread hmany ih =>
    rw [hmany] at ih
    rcases List.mem_cons.mp h with rfl | h
    · exact ⟨bs, rest, hitem⟩
    · exact ih h
  | case3 bs y rest hitem hshorter => cases h

theorem Der.mem_of_readSequenceOf {α : Type} {item : Bytes → Option (α × Bytes)} {bs rest : Bytes}
    {xs : List α} (h : readSequenceOf item bs = some (xs, rest)) :
    ∀ x ∈ xs, ∃ start rest, item start = some (x, rest) := by
  intro x hx
  obtain ⟨⟨content, _⟩, _, h⟩ := Option.bind_eq_some_iff.mp h
  obtain ⟨ys, hall, h⟩ := Option.bind_eq_some_iff.mp h
  cases h
  simp only [readAll] at hall
  split at hall
  · rename_i hmany
    cases hall
    exact mem_readMany (by rwa [hmany])
  · cases hall

namespace ExtensionValue

variable {α : Type} {id : String}

/-- The identifier of extensions with values of a kind. -/
def identifier? : ExtensionValue → Option String
  | .basicConstraints .. => some Identifiers.basicConstraints
  | .keyUsage _ => some Identifiers.keyUsage
  | .extendedKeyUsage _ => some Identifiers.extendedKeyUsage
  | .subjectAltName _ => some Identifiers.subjectAltName
  | .subjectKeyIdentifier _ => some Identifiers.subjectKeyIdentifier
  | .authorityKeyIdentifier _ => some Identifiers.authorityKeyIdentifier
  | .authorityInfoAccess _ => some Identifiers.authorityInfoAccess
  | .crlDistributionPoints _ => some Identifiers.crlDistributionPoints
  | .certificatePolicies _ => some Identifiers.certificatePolicies
  | .policyMappings _ => some Identifiers.policyMappings
  | .policyConstraints .. => some Identifiers.policyConstraints
  | .inhibitAnyPolicy _ => some Identifiers.inhibitAnyPolicy
  | .nameConstraints _ => some Identifiers.nameConstraints
  | .raw => none

/-- What is read, if anything is, has values of one kind. -/
def Gives (id : String) (x : Option ExtensionValue) : Prop := ∀ v ∈ x, v.identifier? = some id

theorem gives_none : Gives id none := by
  rintro v ⟨⟩

theorem gives_some {v : ExtensionValue} (h : v.identifier? = some id) : Gives id (some v) := by
  rintro v ⟨⟩
  exact h

theorem gives_map {f : α → ExtensionValue} (h : ∀ a, (f a).identifier? = some id) (x : Option α) :
    Gives id (x.map f) := by
  intro v hv
  obtain ⟨a, _, rfl⟩ := Option.map_eq_some_iff.mp hv
  exact h a

theorem gives_bind {f : α → Option ExtensionValue} (h : ∀ a, Gives id (f a)) (x : Option α) :
    Gives id (x.bind f) := by
  intro v hv
  obtain ⟨a, _, hv⟩ := Option.bind_eq_some_iff.mp hv
  exact h a v hv

theorem readBasicConstraints_gives (bs : Bytes) :
    Gives Identifiers.basicConstraints (readBasicConstraints bs) := by
  refine gives_bind ?_ _
  rintro ⟨items, rest⟩
  dsimp only
  split
  · exact gives_some rfl
  · split
    · exact gives_some rfl
    · exact gives_map (fun _ => rfl) _
  · exact gives_bind (fun _ => gives_bind (fun _ => gives_some rfl) _) _
  · exact gives_none

theorem readKeyUsage_gives (bs : Bytes) : Gives Identifiers.keyUsage (readKeyUsage bs) := by
  refine gives_bind (fun _ => gives_bind (fun _ => ?_) _) _
  dsimp only
  split
  · exact gives_none
  · exact gives_some rfl

theorem readPolicyConstraints_gives (bs : Bytes) :
    Gives Identifiers.policyConstraints (readPolicyConstraints bs) := by
  refine gives_bind (fun _ => ?_) _
  dsimp only
  split
  · exact gives_some rfl
  · exact gives_none

/-- Each reader gives values of the kind of its identifier. -/
theorem readers_give : ∀ r ∈ readers, ∀ bs, Gives r.1 (r.2 bs) := by
  simp only [readers, List.forall_mem_cons]
  refine ⟨readBasicConstraints_gives, readKeyUsage_gives, ?_, ?_, ?_, ?_, ?_, ?_, ?_, ?_,
    readPolicyConstraints_gives, ?_, ?_, by simp⟩
  case refine_9 => exact fun _ => gives_bind (fun _ => gives_bind (fun _ => gives_some rfl) _) _
  all_goals exact fun _ => gives_bind (fun _ => gives_some rfl) _

/-- A value tells the identifier that its content is read by. -/
theorem ofContent_gives (oid content : Bytes) :
    ∀ id ∈ (ofContent oid content).identifier?, id = Oid.ofContent oid := by
  intro id hid
  rw [ofContent] at hid
  split at hid
  · rename_i r read hfind
    have hspells := List.find?_some hfind
    cases hread : read content with
    | none =>
      rw [hread] at hid
      cases hid
    | some v =>
      rw [hread, Option.getD_some] at hid
      have hkind := readers_give _ (List.mem_of_find?_eq_some hfind) content v hread
      rw [hkind, Option.mem_some_iff] at hid
      rw [Oid.spells, Bool.and_eq_true, beq_iff_eq] at hspells
      rw [← hid, hspells.2]
  · cases hid

end ExtensionValue

/-- The value of an extension is of the kind of its identifier, if it is of any. -/
def Extension.Identified (e : Extension) : Prop := ∀ id ∈ e.value.identifier?, id = e.oid

theorem Extension.identified_of_read {bs rest : Bytes} {e : Extension}
    (h : Extension.read bs = some (e, rest)) : e.Identified := by
  simp only [Extension.read, bind, Option.bind_eq_some_iff] at h
  obtain ⟨_, _, ⟨oid, _⟩, _, ⟨content, _⟩, _, h⟩ := h
  cases h
  exact ExtensionValue.ofContent_gives oid content

/-- Each extension behind a tag has been read from somewhere. -/
theorem Extension.exists_read_of_readTagged {tag : Nat} {bs : Bytes}
    {extensions : List Extension} (h : Extension.readTagged tag bs = some extensions) :
    ∀ e ∈ extensions, ∃ start rest, Extension.read start = some (e, rest) := by
  rw [readTagged] at h
  split at h
  · cases h
    simp
  · obtain ⟨⟨header, _, body⟩, _, h⟩ := Option.bind_eq_some_iff.mp h
    dsimp only at h
    split at h
    · cases h
    · obtain ⟨⟨found, rest⟩, hlist, h⟩ := Option.bind_eq_some_iff.mp h
      dsimp only at h
      split at h
      · cases h
        exact Der.mem_of_readSequenceOf hlist
      · cases h

theorem Certificate.IsRead.exists_read {c : Certificate} (h : c.IsRead) :
    ∀ e ∈ c.extensions, ∃ start rest, Extension.read start = some (e, rest) := by
  obtain ⟨bs, body, signed, encoding, hbody, rfl⟩ := h.exists_fields
  simp only [CertificateBody.read, bind, Option.bind_eq_some_iff] at hbody
  obtain ⟨_, _, _, _, _, _, _, _, _, _, _, _, _, _, _, _, _, _, extensions, hextensions, hbody⟩ :=
    hbody
  cases hbody
  exact Extension.exists_read_of_readTagged hextensions

theorem Certificate.IsRead.identified {c : Certificate} (h : c.IsRead) :
    ∀ e ∈ c.extensions, e.Identified := by
  intro e he
  obtain ⟨start, rest, hread⟩ := h.exists_read e he
  exact Extension.identified_of_read hread

end CertAudit
