/- What stands at a path after an insertion there, and what an insertion leaves as it was. -/
import CertAudit.Proofs.Tree.Insertion
namespace CertAudit.Node

variable {n m b x : Node} {before : Option Node} {p q : String} {keys others rest : List String}

/-- The node that an insertion goes on from: the one that stood there, or else a new one. -/
inductive Reached : Option Node → Node → Prop
  | found (n : Node) : Reached (some n) n
  | fresh (key : String) : Reached none (new key)

/-- A node takes over the value of another one, if that has a value, and its children key by key;
the rest is that of the node that stood there before. -/
structure TakesOver (m x : Node) (before : Option Node) : Prop where
  name : ∀ b ∈ before, m.name = b.name
  value : m.value = x.value.or (before.bind Node.value)
  child? : ∀ k, m.child? k = (x.child? k).or (before.bind fun b => b.child? k)

/-- Some keys lead through a child of a node, if that is put below other keys. -/
def LeadsThrough (x : Node) (keys others : List String) : Prop :=
  ∃ k more, others = keys ++ k :: more ∧ (x.child? k).isSome = true

theorem Reached.value (h : Reached before b) : b.value = before.bind Node.value := by
  cases h with
  | found => rfl
  | fresh => rfl

theorem Reached.child? (h : Reached before b) (k : String) :
    b.child? k = before.bind fun b => b.child? k := by
  cases h with
  | found => rfl
  | fresh => rfl

theorem Reached.eq_of_some (h : Reached (some m) b) : b = m := by
  cases h with
  | found => rfl

theorem Reached.overlay (h : Reached before b) (hx : Table.Ordered x.children) :
    (b.overlay x).TakesOver x before where
  name := by
    rintro m rfl
    rw [h.eq_of_some]
    rfl
  value := congrArg x.value.or h.value
  child? := by
    intro k
    rw [child?_overlay hx, h.child?]

theorem descend?_insertAt_cons (key : String) (keys others : List String) (x n : Node) :
    descend? (key :: others) (insertAt (key :: keys) x n) =
      descend? others (insertAt keys x ((n.child? key).getD (new key))) := by
  rw [insertAt, descend?, child?_setChild, if_pos rfl, Option.bind_some]

/-- On its way an insertion goes on from what it reaches. -/
theorem exists_reached (keys rest : List String) (x n : Node) :
    ∃ b, Reached (descend? keys n) b ∧
      descend? keys (insertAt (keys ++ rest) x n) = some (insertAt rest x b) := by
  induction keys generalizing n with
  | nil => exact ⟨n, .found n, rfl⟩
  | cons key keys ih =>
    obtain ⟨b, hreached, hb⟩ := ih ((n.child? key).getD (new key))
    rw [List.cons_append, descend?_insertAt_cons, hb]
    refine ⟨b, ?_, rfl⟩
    rw [descend?]
    cases hchild : n.child? key with
    | some c =>
      rw [hchild] at hreached
      exact hreached
    | none =>
      rw [hchild, Option.getD_none] at hreached
      -- Below a new node nothing is found, and the insertion goes on from new nodes.
      cases keys with
      | nil =>
        rw [hreached.eq_of_some]
        exact .fresh key
      | cons next keys => exact hreached

/-- An insertion leaves alone what is not on its way. -/
theorem descend?_insertAt_of_elsewhere (hx : Table.Ordered x.children)
    (hway : ¬ others <+: keys) (hthrough : ¬ x.LeadsThrough keys others) (n : Node) :
    descend? others (insertAt keys x n) = descend? others n := by
  induction keys generalizing others n with
  | nil =>
    cases others with
    | nil => exact absurd List.nil_prefix hway
    | cons k more =>
      have hnone : x.child? k = none := by
        rw [← Option.not_isSome_iff_eq_none]
        exact fun hsome => hthrough ⟨k, more, rfl, hsome⟩
      rw [insertAt, descend?, child?_overlay hx, hnone, Option.none_or, descend?]
  | cons key keys ih =>
    cases others with
    | nil => exact absurd List.nil_prefix hway
    | cons k more =>
      by_cases hk : k = key
      · subst hk
        have hway' : ¬ more <+: keys := fun h => hway (List.cons_prefix_cons.mpr ⟨rfl, h⟩)
        have hthrough' : ¬ x.LeadsThrough keys more := by
          rintro ⟨l, rest, rfl, hsome⟩
          exact hthrough ⟨l, rest, rfl, hsome⟩
        rw [descend?_insertAt_cons, ih hway' hthrough', descend?]
        cases n.child? k with
        | some c => rfl
        | none =>
          cases more with
          | nil => exact absurd List.nil_prefix hway'
          | cons l rest => rfl
      · rw [insertAt, descend?, child?_setChild, if_neg hk, descend?]

theorem isSome_descend?_insertAt (hx : Table.Ordered x.children)
    (hthrough : ¬ x.LeadsThrough keys others) (n : Node) :
    (descend? others (insertAt keys x n)).isSome = true ↔
      (descend? others n).isSome = true ∨ others <+: keys := by
  by_cases hway : others <+: keys
  · obtain ⟨rest, rfl⟩ := hway
    obtain ⟨b, _, hb⟩ := exists_reached others rest x n
    simp [hb]
  · rw [descend?_insertAt_of_elsewhere hx hway hthrough]
    simp [hway]

section Leaves

variable {α : Type} {path : α → String} {node : α → Node}

theorem not_leadsThrough_of_leaf (h : x.children = []) : ¬ x.LeadsThrough keys others := by
  rintro ⟨k, more, _, hsome⟩
  rw [child?, h] at hsome
  cases hsome

/-- After leaves have been inserted there are the nodes on the ways to them, beside those that have
been there. -/
theorem isSome_descend?_foldl (hleaf : ∀ a, (node a).children = []) (xs : List α) (n : Node) :
    (descend? keys (xs.foldl (fun n a => n.insertPath (path a) (node a)) n)).isSome = true ↔
      (descend? keys n).isSome = true ∨ ∃ a ∈ xs, keys <+: segments (path a) := by
  induction xs generalizing n with
  | nil => simp
  | cons a xs ih =>
    have hordered : Table.Ordered (node a).children := by
      rw [hleaf]
      exact .nil
    rw [List.foldl_cons, ih, insertPath,
      isSome_descend?_insertAt hordered (not_leadsThrough_of_leaf (hleaf a))]
    simp only [List.mem_cons, exists_eq_or_imp, or_assoc]

theorem descend?_segments_leaf (q key : String) (v : Value) :
    descend? (segments q) (leaf key v) = none := by
  obtain ⟨first, rest, hkeys⟩ := List.exists_cons_of_ne_nil (segments_ne_nil q)
  rw [hkeys]
  rfl

end Leaves

/-- An insertion changes no name and no value but those at its end. -/
theorem exists_kept (hx : Table.Ordered x.children) (hne : others ≠ keys)
    (hthrough : ¬ x.LeadsThrough keys others) (h : descend? others n = some m) :
    ∃ m', descend? others (insertAt keys x n) = some m' ∧ m'.name = m.name ∧
      m'.value = m.value := by
  by_cases hway : others <+: keys
  · obtain ⟨rest, rfl⟩ := hway
    obtain ⟨b, hreached, hb⟩ := exists_reached others rest x n
    rw [h] at hreached
    rw [hreached.eq_of_some] at hb
    cases rest with
    | nil => exact absurd (List.append_nil others).symm hne
    | cons k more => exact ⟨_, hb, rfl, rfl⟩
  · exact ⟨m, (descend?_insertAt_of_elsewhere hx hway hthrough n).trans h, rfl, rfl⟩

theorem resolve?_of_ne (hq : q ≠ "") (n : Node) : n.resolve? q = descend? (segments q) n :=
  if_neg hq

/-- At the path of an insertion stands what was there before, overlaid with the given node. Nodes at
other paths keep their names and values, unless they are below a child of the given node, and none
appear that are not on the way. -/
theorem insertPath_overlays (hx : Table.Ordered x.children) (hp : p ≠ "") (n : Node) :
    (∃ m, (n.insertPath p x).resolve? p = some m ∧ m.TakesOver x (n.resolve? p)) ∧
    ∀ q, q ≠ "" → q ≠ p → ¬ x.LeadsThrough (segments p) (segments q) →
      (∀ m, n.resolve? q = some m → ∃ m', (n.insertPath p x).resolve? q = some m' ∧
        m'.name = m.name ∧ m'.value = m.value) ∧
      (((n.insertPath p x).resolve? q).isSome = true ↔
        (n.resolve? q).isSome = true ∨ segments q <+: segments p) := by
  constructor
  · obtain ⟨b, hreached, hb⟩ := exists_reached (segments p) [] x n
    rw [List.append_nil] at hb
    rw [resolve?_of_ne hp, resolve?_of_ne hp]
    exact ⟨b.overlay x, hb, hreached.overlay hx⟩
  · intro q hq hne hthrough
    have hkeys : segments q ≠ segments p := fun h => hne (segments_injective h)
    rw [resolve?_of_ne hq, resolve?_of_ne hq]
    exact ⟨fun m => exists_kept hx hkeys hthrough, isSome_descend?_insertAt hx hthrough n⟩

/-- A node without a value, with a child. -/
def valueless : Node := .mk "c" none [("d", leaf "d" (.bool true))]

/-- The value of an old node stays, its new child is put beside an old one, and the neighbour whose
key goes on is left alone. -/
theorem insertPath_overlays_forkedTree :
    (∃ m, (forkedTree.insertPath "a" valueless).resolve? "a" = some m ∧
      m.value = some (.bool true) ∧ m.child? "b" = some (leaf "b" (.bool false)) ∧
      m.child? "d" = some (leaf "d" (.bool true))) ∧
    ∃ m, (forkedTree.insertPath "a" valueless).resolve? "ab" = some m ∧ m.value = none := by
  have hordered : Table.Ordered valueless.children := List.pairwise_singleton _ _
  obtain ⟨⟨m, hm, htakes⟩, hframe⟩ := insertPath_overlays hordered (by decide : "a" ≠ "") forkedTree
  have hthrough : ¬ valueless.LeadsThrough (segments "a") (segments "ab") := by
    rintro ⟨k, more, heq, _⟩
    cases heq
  obtain ⟨m', hm', _, hvalue⟩ := (hframe "ab" (by decide) (by decide) hthrough).1 (new "ab") rfl
  refine ⟨⟨m, hm, htakes.value, htakes.child? "b", htakes.child? "d"⟩, m', hm', hvalue⟩

end CertAudit.Node
