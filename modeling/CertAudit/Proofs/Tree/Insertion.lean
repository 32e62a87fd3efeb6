/- What an insertion below a node changes, and in which cases the order of two insertions does not
matter. -/
import CertAudit.Proofs.Tree.Addresses
namespace CertAudit.Node

variable {α β : Type} {n m c d x y : Node} {key k : String} {keys others : List String}

theorem child?_overlay (h : Table.Ordered x.children) (n : Node) (k : String) :
    (n.overlay x).child? k = (x.child? k).or (n.child? k) := h.lookup_overlay n.children k

/-- Nodes with their children in order are determined by their fields and what their keys find. -/
theorem eq_of_child? (hn : Table.Ordered n.children) (hm : Table.Ordered m.children)
    (hname : n.name = m.name) (hvalue : n.value = m.value) (h : ∀ k, n.child? k = m.child? k) :
    n = m := by
  cases n with
  | mk name value children =>
    cases m with
    | mk name' value' children' =>
      cases hname
      cases hvalue
      exact congrArg _ (Table.Ordered.eq_of_lookup hn hm h)

section Asking

/-- A question that a new node does not answer, that children under some keys have no part in, and
that an overlaid node answers first. -/
structure Asks (arc : String → Prop) (ask : Node → Option β) : Prop where
  new : ∀ key, ask (new key) = none
  setChild : ∀ n key c, arc key → ask (n.setChild key c) = ask n
  overlay : ∀ n x, Table.Ordered x.children → ask (n.overlay x) = (ask x).or (ask n)

variable {arc : String → Prop} {ask : Node → Option β}

theorem asks_value (arc : String → Prop) : Asks arc Node.value :=
  ⟨fun _ => rfl, fun _ _ _ _ => rfl, fun _ _ _ => rfl⟩

theorem asks_child? (h : ¬ arc k) : Asks arc fun n => n.child? k := by
  refine ⟨fun _ => rfl, ?_, fun n x hx => child?_overlay hx n k⟩
  intro n key c hkey
  have hne : k ≠ key := fun heq => h (heq ▸ hkey)
  rw [child?_setChild, if_neg hne]

theorem Asks.descend?_new (h : Asks arc ask) (key : String) (keys : List String) :
    (descend? keys (Node.new key)).bind ask = none := by
  cases keys with
  | nil => exact h.new key
  | cons next rest => rfl

theorem Asks.descend?_getD (h : Asks arc ask) (n : Node) (key : String) (keys : List String) :
    (descend? keys ((n.child? key).getD (Node.new key))).bind ask =
      (descend? (key :: keys) n).bind ask := by
  rw [descend?]
  cases n.child? key with
  | some c => rfl
  | none => exact h.descend?_new key keys

/-- An insertion changes the answer at its own place only. -/
theorem Asks.descend?_insertAt (h : Asks arc ask) (hx : Table.Ordered x.children)
    (hfree : ∀ key, arc key → x.child? key = none) (hkeys : ∀ key ∈ keys, arc key)
    (hothers : ∀ key ∈ others, arc key) (n : Node) :
    (descend? others (insertAt keys x n)).bind ask =
      if others = keys then (ask x).or ((descend? others n).bind ask)
      else (descend? others n).bind ask := by
  induction keys generalizing others n with
  | nil =>
    cases others with
    | nil => exact h.overlay n x hx
    | cons key rest =>
      rw [if_neg (List.cons_ne_nil key rest), insertAt, descend?, child?_overlay hx,
        hfree key (hothers key List.mem_cons_self)]
      rfl
  | cons key keys ih =>
    have hkey := hkeys key List.mem_cons_self
    cases others with
    | nil =>
      rw [if_neg (List.cons_ne_nil key keys).symm]
      exact h.setChild n key _ hkey
    | cons next rest =>
      rw [insertAt, descend?, child?_setChild]
      by_cases hnext : next = key
      · subst hnext
        have hih := ih (fun k hk => hkeys k (.tail _ hk)) (fun k hk => hothers k (.tail _ hk))
          ((n.child? next).getD (Node.new next))
        rw [if_pos rfl, Option.bind_some, hih, h.descend?_getD]
        simp only [List.cons.injEq, true_and]
      · have hne : ¬ next :: rest = key :: keys := fun heq => hnext (List.cons.inj heq).1
        rw [if_neg hnext, if_neg hne]
        rfl

variable {path : α → String} {node : α → Node} {answer : α → β} {q : String}

/-- After several insertions the last one at a path answers there. -/
theorem Asks.descend?_foldl (h : Asks arc ask) (hnode : ∀ a, Table.Ordered (node a).children)
    (hfree : ∀ a key, arc key → (node a).child? key = none)
    (hanswer : ∀ a, ask (node a) = some (answer a)) {xs : List α}
    (hxs : ∀ a ∈ xs, ∀ key ∈ segments (path a), arc key) (hq : ∀ key ∈ segments q, arc key)
    (n : Node) :
    (descend? (segments q) (xs.foldl (fun n a => n.insertPath (path a) (node a)) n)).bind ask =
      ((xs.filter fun a => path a == q).getLast?.map answer).or
        ((descend? (segments q) n).bind ask) := by
  induction xs using List.reverseRecOn with
  | nil => rfl
  | append_singleton xs a ih =>
    obtain ⟨hxs, ha⟩ := List.forall_mem_append.mp hxs
    rw [List.foldl_append, List.foldl_cons, List.foldl_nil, insertPath,
      h.descend?_insertAt (hnode a) (hfree a) (ha a List.mem_cons_self) hq, ih hxs,
      List.filter_append]
    by_cases hpath : path a = q
    · simp [hpath, hanswer]
    · have hne : segments q ≠ segments (path a) := fun heq => hpath (segments_injective heq).symm
      simp [hpath, hne]

end Asking

section Commuting

theorem setChild_comm (h : Table.Ordered n.children) (hne : key ≠ k) (c d : Node) :
    (n.setChild key c).setChild k d = (n.setChild k d).setChild key c := by
  refine eq_of_child? ((h.insert key c).insert k d) ((h.insert k d).insert key c) rfl rfl ?_
  intro l
  simp only [child?_setChild]
  by_cases hk : l = k
  · rw [if_pos hk, if_pos hk, if_neg (hk ▸ hne.symm)]
  · rw [if_neg hk, if_neg hk]

theorem setChild_setChild (h : Table.Ordered n.children) (key : String) (c d : Node) :
    (n.setChild key c).setChild key d = n.setChild key d := by
  refine eq_of_child? ((h.insert key c).insert key d) (h.insert key d) rfl rfl ?_
  intro l
  simp only [child?_setChild]
  by_cases hl : l = key
  · rw [if_pos hl, if_pos hl]
  · rw [if_neg hl, if_neg hl, if_neg hl]

theorem setChild_overlay (h : Table.Ordered n.children) (hx : Table.Ordered x.children)
    (hfree : x.child? key = none) (c : Node) :
    (n.setChild key c).overlay x = (n.overlay x).setChild key c := by
  have hleft : Table.Ordered ((n.setChild key c).overlay x).children :=
    (h.insert key c).overlay x.children
  have hright : Table.Ordered ((n.overlay x).setChild key c).children :=
    (h.overlay x.children).insert key c
  refine eq_of_child? hleft hright rfl rfl ?_
  intro l
  simp only [child?_overlay hx, child?_setChild]
  by_cases hl : l = key
  · rw [if_pos hl, if_pos hl, hl, hfree]
    rfl
  · rw [if_neg hl, if_neg hl]

theorem insertAt_overlay (h : Table.Ordered n.children) (hx : Table.Ordered x.children)
    (hfree : x.child? key = none) (keys : List String) (y : Node) :
    (insertAt (key :: keys) y n).overlay x = insertAt (key :: keys) y (n.overlay x) := by
  have hchild : (n.overlay x).child? key = n.child? key := by
    rw [child?_overlay hx, hfree]
    rfl
  rw [insertAt, insertAt, hchild]
  exact setChild_overlay h hx hfree _

/-- Insertions in two places can be made in any order, if neither node brings a child that stands
in the way of the other. -/
theorem insertAt_comm (h : n.WellKeyed) (hx : Table.Ordered x.children)
    (hy : Table.Ordered y.children) (hxfree : ∀ key ∈ others, x.child? key = none)
    (hyfree : ∀ key ∈ keys, y.child? key = none) (hne : keys ≠ others) :
    insertAt keys x (insertAt others y n) = insertAt others y (insertAt keys x n) := by
  induction keys generalizing others n with
  | nil =>
    cases others with
    | nil => exact absurd rfl hne
    | cons key rest => exact insertAt_overlay h.ordered hx (hxfree key List.mem_cons_self) rest y
  | cons key keys ih =>
    cases others with
    | nil => exact (insertAt_overlay h.ordered hy (hyfree key List.mem_cons_self) keys x).symm
    | cons next rest =>
      simp only [insertAt, child?_setChild]
      by_cases hnext : next = key
      · -- Below the common child the places still differ.
        subst hnext
        have hbelow : ((n.child? next).getD (Node.new next)).WellKeyed := by
          cases hchild : n.child? next with
          | none => exact new_wellKeyed next
          | some c => exact h.of_mem _ (mem_of_child? hchild)
        have hrest : keys ≠ rest := fun heq => hne (congrArg _ heq)
        simp only [if_true, Option.getD_some, setChild_setChild h.ordered]
        rw [ih hbelow (fun k hk => hxfree k (.tail _ hk)) (fun k hk => hyfree k (.tail _ hk)) hrest]
      · rw [if_neg (Ne.symm hnext), if_neg hnext]
        exact setChild_comm h.ordered hnext _ _

/-- Steps that commute in states of a kind can be made in any order. -/
theorem foldl_eq_of_perm {f : β → α → β} {Good : β → Prop} {Apart : α → α → Prop} {xs ys : List α}
    (hperm : xs.Perm ys) (hgood : ∀ b a, Good b → Good (f b a))
    (hsymm : ∀ {a a'}, Apart a a' → Apart a' a)
    (hcomm : ∀ b a a', Good b → Apart a a' → f (f b a) a' = f (f b a') a)
    (hapart : xs.Pairwise Apart) {b : β} (hb : Good b) : xs.foldl f b = ys.foldl f b := by
  induction hperm generalizing b with
  | nil => rfl
  | cons a _ ih => exact ih hapart.of_cons (hgood b a hb)
  | swap a a' xs =>
    have hpair : Apart a' a := List.rel_of_pairwise_cons hapart List.mem_cons_self
    rw [List.foldl_cons, List.foldl_cons, hcomm b a' a hb hpair]
    rfl
  | trans hfirst _ ih ih' =>
    rw [ih hapart hb]
    exact ih' ((hfirst.pairwise_iff hsymm).mp hapart) hb

variable {cs ds : List Node}

/-- Children with different names can be put in any order. -/
theorem withChildren_eq_of_perm (h : Table.Ordered n.children) (hperm : cs.Perm ds)
    (hnames : cs.Pairwise fun c d => c.name ≠ d.name) : n.withChildren cs = n.withChildren ds := by
  have hgood : ∀ n c : Node, Table.Ordered n.children → Table.Ordered (n.insert c).children :=
    fun n c hn => hn.insert c.name c
  have hcomm : ∀ n c d : Node, Table.Ordered n.children → c.name ≠ d.name →
      (n.insert c).insert d = (n.insert d).insert c :=
    fun n c d hn hne => setChild_comm hn hne c d
  exact foldl_eq_of_perm hperm hgood Ne.symm hcomm hnames h

end Commuting

end CertAudit.Node
