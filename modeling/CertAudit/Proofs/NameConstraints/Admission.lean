/- The names that the subtrees above a certificate admit, each form of names by the subtrees of its
own form. -/
import CertAudit.Proofs.NameConstraints.Matching
namespace CertAudit.NameConstraints

/-- A name is in a subtree of its own form. Texts count without the case of ASCII letters, and a
URI counts by its host. -/
def Within : AltName → NameSubtree → Prop
  | .dns name, .dns s => HostWithin (lowered name) (lowered s)
  | .email address, .email s => AddressWithin (lowered address) (lowered s)
  | .uri text, .uri s => ∃ host, uriHost? text = some host ∧ HostWithin host (lowered s)
  | .ip address, .ip s => IpWithin address.octets s
  | _, _ => False

/-- A name and a subtree have the same form, which is one of those that are checked. -/
def SameForm : AltName → NameSubtree → Prop
  | .dns _, .dns _ => True
  | .email _, .email _ => True
  | .uri _, .uri _ => True
  | .ip _, .ip _ => True
  | _, _ => False

/-- A name is in no excluded subtree and, where its form has permitted ones, in one of those. -/
def Admitted (permitted excluded : List NameSubtree) (name : AltName) : Prop :=
  (∀ s ∈ excluded, ¬ Within name s) ∧
    ((∃ s ∈ permitted, SameForm name s) → ∃ s ∈ permitted, Within name s)

theorem Within.sameForm {name : AltName} {s : NameSubtree} (h : Within name s) :
    SameForm name s := by
  cases name <;> cases s <;> trivial

/-- Checking against the subtrees of one form is all there is to being admitted. -/
theorem allowed_filterMap_iff {α β : Type} {isIn : α → β → Bool} {select : NameSubtree → Option β}
    {name : AltName} {a : α} (hform : ∀ s, SameForm name s ↔ (select s).isSome = true)
    (hsome : ∀ s b, select s = some b → (isIn a b = true ↔ Within name s))
    (permitted excluded : List NameSubtree) :
    allowed isIn (permitted.filterMap select) (excluded.filterMap select) a = true ↔
      Admitted permitted excluded name := by
  have hany : ∀ subtrees : List NameSubtree, (subtrees.filterMap select).any (isIn a) = true ↔
      ∃ s ∈ subtrees, Within name s := by
    intro subtrees
    rw [List.any_eq_true]
    constructor
    · rintro ⟨b, hb, hin⟩
      obtain ⟨s, hs, hselect⟩ := List.mem_filterMap.mp hb
      exact ⟨s, hs, (hsome s b hselect).mp hin⟩
    · rintro ⟨s, hs, hin⟩
      obtain ⟨b, hselect⟩ := Option.isSome_iff_exists.mp ((hform s).mp hin.sameForm)
      exact ⟨b, List.mem_filterMap.mpr ⟨s, hs, hselect⟩, (hsome s b hselect).mpr hin⟩
  have hempty : (permitted.filterMap select).isEmpty = true ↔
      ¬ ∃ s ∈ permitted, SameForm name s := by
    rw [List.isEmpty_iff, List.filterMap_eq_nil_iff]
    simp only [hform, Option.isSome_iff_ne_none, not_exists, not_and, not_not]
  rw [allowed, Bool.and_eq_true, Bool.not_eq_true', ← Bool.not_eq_true, hany, Bool.or_eq_true,
    hempty, hany, Admitted, imp_iff_not_or]
  simp only [not_exists, not_and]

theorem nameAllowed_iff (permitted excluded : List NameSubtree) (name : AltName) :
    nameAllowed { permitted, excluded } name = true ↔ Admitted permitted excluded name := by
  cases name with
  | dns name =>
    refine allowed_filterMap_iff ?_ ?_ permitted excluded
    · rintro (_ | _ | _ | _ | _) <;> simp [SameForm]
    · rintro (_ | _ | _ | _ | _) b hb <;> cases hb
      exact hostIn_iff
  | email address =>
    refine allowed_filterMap_iff ?_ ?_ permitted excluded
    · rintro (_ | _ | _ | _ | _) <;> simp [SameForm]
    · rintro (_ | _ | _ | _ | _) b hb <;> cases hb
      exact addressIn_iff
  | ip address =>
    refine allowed_filterMap_iff ?_ ?_ permitted excluded
    · rintro (_ | _ | _ | _ | _) <;> simp [SameForm]
    · rintro (_ | _ | _ | _ | _) b hb <;> cases hb
      exact ipIn_iff
  | uri text =>
    cases hhost : uriHost? text with
    | some host =>
      simp only [nameAllowed, hhost]
      refine allowed_filterMap_iff ?_ ?_ permitted excluded
      · rintro (_ | _ | _ | _ | _) <;> simp [SameForm]
      · rintro (_ | _ | _ | _ | _) b hb <;> cases hb
        simp only [Within, hhost, Option.some.injEq, exists_eq_left', hostIn_iff]
    | none =>
      -- No subtree holds a URI without a host, so only having permitted ones can refuse it.
      have hnever : nameAllowed { permitted, excluded } (.uri text) =
          allowed (fun _ _ => false) (uriSubtrees permitted) (uriSubtrees excluded) () := by
        have hany : ∀ l : List (List Char), (l.any fun _ => false) = false := fun l =>
          List.any_eq_false.mpr fun _ _ => Bool.false_ne_true
        simp only [nameAllowed, hhost, allowed, hany, Bool.not_false, Bool.true_and, Bool.or_false]
      rw [hnever]
      refine allowed_filterMap_iff ?_ ?_ permitted excluded
      · rintro (_ | _ | _ | _ | _) <;> simp [SameForm]
      · rintro (_ | _ | _ | _ | _) b hb <;> simp [Within, hhost]
  | directory name => simp [nameAllowed, Admitted, SameForm, Within]
  | other text => simp [nameAllowed, Admitted, SameForm, Within]

/-- The subtrees that a certificate imposes on those below it: only that of an authority does. -/
def imposed (side : NameConstraints → List NameSubtree) (c : Certificate) : List NameSubtree :=
  if c.isAuthority then (c.nameConstraints?.map side).getD [] else []

/-- The certificates above a position of a chain. -/
def above (chain : List ChainEntry) (position : Nat) : List Certificate :=
  (chain.drop (position + 1)).map (·.certificate)

/-- The subtrees that the certificates above a position of a chain impose. -/
def imposedAbove (side : NameConstraints → List NameSubtree) (chain : List ChainEntry)
    (position : Nat) : List NameSubtree :=
  (above chain position).flatMap (imposed side)

theorem gather_cons (c : Certificate) (cas : List Certificate) :
    gather (c :: cas) =
      { permitted := imposed NameConstraints.permitted c ++ (gather cas).permitted
        excluded := imposed NameConstraints.excluded c ++ (gather cas).excluded } := by
  cases hca : c.isAuthority with
  | false => simp [gather, imposed, hca]
  | true =>
    cases hnc : c.nameConstraints? with
    | none => simp [gather, imposed, hca, hnc]
    | some constraints => simp [gather, imposed, hca, hnc]

theorem gather_eq_imposed (cas : List Certificate) :
    gather cas =
      { permitted := cas.flatMap (imposed NameConstraints.permitted)
        excluded := cas.flatMap (imposed NameConstraints.excluded) } := by
  induction cas with
  | nil => rfl
  | cons c cas ih => rw [gather_cons, ih, List.flatMap_cons, List.flatMap_cons]

end CertAudit.NameConstraints
