/- In a tree whose keys are not empty and have no points, every node below the root has a path of its
own. Walking lists each of them once and behind its parent, and a path leads to the node that it is
listed with or to none. -/
import CertAudit.Proofs.Tree
import Mathlib.Data.List.Nodup
namespace CertAudit.Node

/-- A key that a path can name. -/
structure PlainKey (key : String) : Prop where
  nonempty : key ≠ ""
  noPoint : '.' ∉ key.toList

/-- The keys are in order all the way down, and paths can name them. -/
inductive Addressable : Node → Prop
  | mk {name : String} {value : Option Value} {children : List (String × Node)}
      (ordered : Table.Ordered children) (plain : ∀ e ∈ children, PlainKey e.1)
      (below : ∀ e ∈ children, Addressable e.2) : Addressable (.mk name value children)

/-- A node stands below another one, and some keys lead down to it. -/
inductive Below : Node → List String → Node → Prop
  | child {n c : Node} {key : String} (h : (key, c) ∈ n.children) : Below n [key] c
  | deeper {n c d : Node} {key : String} {keys : List String} (h : (key, c) ∈ n.children)
      (below : Below c keys d) : Below n (key :: keys) d

/-- The keys that a path names: the empty path names none. -/
def pathKeys (path : String) : List String := if path = "" then [] else segments path

variable {n c : Node} {key path : String} {keys : List String} {e : String × Node}

theorem Addressable.wellKeyed (h : n.Addressable) : n.WellKeyed := by
  induction h with
  | mk ordered plain below ih => exact .mk ordered (fun e he => (plain e he).noPoint) ih

theorem Below.ne_nil (h : n.Below keys c) : keys ≠ [] := by
  cases h with
  | child => exact List.cons_ne_nil _ _
  | deeper => exact List.cons_ne_nil _ _

theorem below_iff_descend? (h : n.WellKeyed) :
    n.Below keys c ↔ keys ≠ [] ∧ descend? keys n = some c := by
  constructor
  · intro hbelow
    refine ⟨hbelow.ne_nil, ?_⟩
    induction hbelow with
    | child hc => rw [descend?, child?_of_mem h.ordered hc, Option.bind_some, descend?]
    | deeper hc _ ih =>
      rw [descend?, child?_of_mem h.ordered hc, Option.bind_some]
      exact ih (h.of_mem _ hc)
  · rintro ⟨hne, hdescend⟩
    induction keys generalizing n with
    | nil => exact absurd rfl hne
    | cons key rest ih =>
      obtain ⟨m, hm, hrest⟩ := Option.bind_eq_some_iff.mp hdescend
      have hmem := mem_of_child? hm
      cases rest with
      | nil =>
        cases hrest
        exact .child hmem
      | cons next rest => exact .deeper hmem (ih (h.of_mem _ hmem) (List.cons_ne_nil _ _) hrest)

theorem resolve?_eq_descend? (n : Node) (path : String) :
    n.resolve? path = descend? (pathKeys path) n := by
  unfold resolve? pathKeys
  split
  · rfl
  · rfl

theorem segments_injective : Function.Injective segments := by
  intro path other h
  have hsplit := List.map_injective_iff.mpr (fun _ _ => String.ofList_inj.mp) h
  exact String.toList_inj.mp (CharList.split_injective '.' hsplit)

theorem pathKeys_of_ne (hpath : path ≠ "") : pathKeys path = segments path := if_neg hpath

theorem pathKeys_injective : Function.Injective pathKeys := by
  intro path other h
  by_cases hpath : path = ""
  · by_cases hother : other = ""
    · rw [hpath, hother]
    · rw [hpath, pathKeys_of_ne hother] at h
      exact absurd h.symm (segments_ne_nil other)
  · by_cases hother : other = ""
    · rw [hother, pathKeys_of_ne hpath] at h
      exact absurd h (segments_ne_nil path)
    · rw [pathKeys_of_ne hpath, pathKeys_of_ne hother] at h
      exact segments_injective h

theorem pathKeys_childPath (hkey : PlainKey key) (path : String) :
    pathKeys (childPath path key) = pathKeys path ++ [key] := by
  by_cases hpath : path = ""
  · rw [hpath, childPath, if_pos rfl, pathKeys_of_ne hkey.nonempty, segments_of_plain hkey.noPoint]
    rfl
  · rw [pathKeys_of_ne (childPath_ne_empty hpath key), pathKeys_of_ne hpath, childPath_eq hpath,
      segments_append, segments_of_plain hkey.noPoint]

theorem pathKeys_childPath_append (hkey : PlainKey key) (path : String) (keys : List String) :
    pathKeys (childPath path key) ++ keys = pathKeys path ++ key :: keys := by
  rw [pathKeys_childPath hkey, List.append_assoc]
  rfl

/-- What is listed stands below, where the rest of its path leads. -/
theorem Addressable.below_of_mem_walkFrom (h : n.Addressable) (he : e ∈ n.walkFrom path) :
    ∃ keys, n.Below keys e.2 ∧ pathKeys e.1 = pathKeys path ++ keys := by
  induction h generalizing path e with
  | @mk name value children ordered plain below ih =>
    obtain ⟨f, hf, he⟩ := mem_walkFrom.mp he
    rcases he with rfl | he
    · exact ⟨[f.1], .child hf, pathKeys_childPath (plain f hf) path⟩
    · obtain ⟨keys, hbelow, hkeys⟩ := ih f hf he
      refine ⟨f.1 :: keys, .deeper hf hbelow, ?_⟩
      rw [hkeys, pathKeys_childPath_append (plain f hf)]

/-- What stands below is listed. -/
theorem Below.exists_mem_walkFrom (hbelow : n.Below keys c) (h : n.Addressable) (path : String) :
    ∃ p, (p, c) ∈ n.walkFrom path ∧ pathKeys p = pathKeys path ++ keys := by
  induction hbelow generalizing path with
  | @child n c key hc =>
    cases h with
    | mk ordered plain below =>
      refine ⟨childPath path key, mem_walkFrom.mpr ⟨_, hc, .inl rfl⟩, ?_⟩
      exact pathKeys_childPath (plain _ hc) path
  | @deeper n c d key keys hc _ ih =>
    cases h with
    | mk ordered plain below =>
      obtain ⟨p, hp, hkeys⟩ := ih (below _ hc) (childPath path key)
      refine ⟨p, mem_walkFrom.mpr ⟨_, hc, .inr hp⟩, ?_⟩
      rw [hkeys, pathKeys_childPath_append (plain _ hc)]

theorem Addressable.mem_walk_iff_below (h : n.Addressable) :
    e ∈ n.walk ↔ n.Below (pathKeys e.1) e.2 := by
  constructor
  · intro he
    obtain ⟨keys, hbelow, hkeys⟩ := h.below_of_mem_walkFrom he
    rw [hkeys]
    exact hbelow
  · intro hbelow
    obtain ⟨p, hp, hkeys⟩ := hbelow.exists_mem_walkFrom h ""
    obtain rfl : p = e.1 := pathKeys_injective hkeys
    exact hp

theorem Addressable.path_ne_empty (h : n.Addressable) (he : e ∈ n.walk) : e.1 ≠ "" := by
  intro hempty
  exact (h.mem_walk_iff_below.mp he).ne_nil (if_pos hempty)

/-- A path leads below the root just where it is listed. -/
theorem Addressable.resolve?_eq_some_iff (h : n.Addressable) (hpath : path ≠ "") :
    n.resolve? path = some c ↔ (path, c) ∈ n.walk := by
  rw [h.mem_walk_iff_below, below_iff_descend? h.wellKeyed, resolve?_eq_descend?]
  refine (and_iff_right ?_).symm
  rw [pathKeys_of_ne hpath]
  exact segments_ne_nil path

theorem walkChildren_eq_flatMap (path : String) (cs : List (String × Node)) :
    walkChildren path cs = cs.flatMap fun f =>
      (childPath path f.1, f.2) :: f.2.walkFrom (childPath path f.1) := by
  induction cs with
  | nil => rfl
  | cons f rest ih => rw [walkChildren, ih, List.flatMap_cons, List.cons_append]

/-- The paths of the nodes below one child are not those below another one. -/
theorem Addressable.nodup_walkFrom (h : n.Addressable) (path : String) :
    ((n.walkFrom path).map Prod.fst).Nodup := by
  induction h generalizing path with
  | @mk name value children ordered plain below ih =>
    -- Behind the keys of the common path, each path goes on with the key of its child.
    have hkeys : ∀ f ∈ children, ∀ p ∈ ((childPath path f.1, f.2) ::
        f.2.walkFrom (childPath path f.1)).map Prod.fst,
          ∃ more, pathKeys p = pathKeys path ++ f.1 :: more := by
      intro f hf p hp
      rcases List.mem_cons.mp hp with rfl | hp
      · exact ⟨[], pathKeys_childPath (plain f hf) path⟩
      · obtain ⟨e, he, rfl⟩ := List.mem_map.mp hp
        obtain ⟨more, _, hmore⟩ := (below f hf).below_of_mem_walkFrom he
        exact ⟨more, by rw [hmore, pathKeys_childPath_append (plain f hf)]⟩
    rw [walkFrom, walkChildren_eq_flatMap, List.map_flatMap, List.nodup_flatMap]
    constructor
    · intro f hf
      refine List.nodup_cons.mpr ⟨?_, ih f hf _⟩
      intro hp
      obtain ⟨e, he, heq⟩ := List.mem_map.mp hp
      obtain ⟨more, hbelow, hmore⟩ := (below f hf).below_of_mem_walkFrom he
      rw [heq] at hmore
      exact hbelow.ne_nil (List.self_eq_append_right.mp hmore)
    · refine ordered.imp_of_mem ?_
      intro f g hf hg hlt
      refine List.disjoint_left.mpr fun p hpf hpg => ?_
      obtain ⟨more, hmore⟩ := hkeys f hf p hpf
      obtain ⟨other, hother⟩ := hkeys g hg p hpg
      rw [hmore] at hother
      have hsame : f.1 = g.1 := (List.cons.inj (List.append_cancel_left hother)).1
      exact absurd hsame (ne_of_lt hlt)

/-- An entry of two lists in a row is one of the first or one of the second. -/
theorem append_eq_append_cons {α : Type} {xs ys before after : List α} {x : α}
    (h : xs ++ ys = before ++ x :: after) :
    (∃ more, xs = before ++ x :: more) ∨ ∃ more, before = xs ++ more ∧ ys = more ++ x :: after := by
  rcases List.append_eq_append_iff.mp h with ⟨more, hbefore, hys⟩ | ⟨more, hxs, hafter⟩
  · exact .inr ⟨more, hbefore, hys⟩
  · rcases List.cons_eq_append_iff.mp hafter with ⟨rfl, hys⟩ | ⟨rest, rfl, _⟩
    · exact .inr ⟨[], by rw [hxs, List.append_nil, List.append_nil], hys⟩
    · exact .inl ⟨rest, hxs⟩

/-- An entry hangs directly below the node whose path is given, or below an entry before it. -/
theorem Addressable.parent_before (h : n.Addressable) {before after : List (String × Node)}
    (hwalk : n.walkFrom path = before ++ e :: after) :
    (∃ key, (key, e.2) ∈ n.children ∧ e.1 = childPath path key) ∨
      ∃ parent ∈ before, ∃ key, (key, e.2) ∈ parent.2.children ∧
        e.1 = childPath parent.1 key := by
  induction h generalizing path before after e with
  | @mk name value children ordered plain below ih =>
    rw [walkFrom] at hwalk
    clear ordered plain below
    -- The children come one after another, each in front of what is below it.
    induction children generalizing before with
    | nil => simp [walkChildren] at hwalk
    | cons f rest ihrest =>
      rw [walkChildren] at hwalk
      rcases List.cons_eq_append_iff.mp hwalk with ⟨rfl, heq⟩ | ⟨before, rfl, heq⟩
      · cases heq
        exact .inl ⟨f.1, List.mem_cons_self, rfl⟩
      · rcases append_eq_append_cons heq with ⟨more, hf⟩ | ⟨more, rfl, hrest⟩
        · rcases ih f List.mem_cons_self hf with ⟨key, hkey, hpath⟩ | ⟨parent, hparent, hkey⟩
          · exact .inr ⟨_, List.mem_cons_self, key, hkey, hpath⟩
          · exact .inr ⟨parent, .tail _ hparent, hkey⟩
        · rcases ihrest (fun g hg => ih g (List.mem_cons_of_mem f hg)) hrest with
            ⟨key, hkey, hpath⟩ | ⟨parent, hparent, hkey⟩
          · exact .inl ⟨key, List.mem_cons_of_mem f hkey, hpath⟩
          · exact .inr ⟨parent, .tail _ (List.mem_append_right _ hparent), hkey⟩

theorem resolve?_append {p q : String} (hp : p ≠ "") (hq : q ≠ "") (n : Node) :
    n.resolve? (p ++ "." ++ q) = (n.resolve? p).bind fun m => m.resolve? q := by
  have h := resolve?_childPath_eq_bind hp n q
  rw [childPath_eq hp] at h
  rw [h]
  congr 1
  funext m
  rw [resolve?, if_neg hq]

/-- The addresses below a tree are the paths that walking lists, each once and behind that of its
parent, and resolving a path follows its address, one part after the other. -/
theorem walk_addresses (h : n.Addressable) :
    (∀ keys c, n.Below keys c →
      ∃! i : Nat, ∃ path, n.walk[i]? = some (path, c) ∧ segments path = keys) ∧
    (∀ e ∈ n.walk, n.Below (segments e.1) e.2) ∧
    (n.walk.map Prod.fst).Nodup ∧
    (∀ path c, path ≠ "" → (n.resolve? path = some c ↔ (path, c) ∈ n.walk)) ∧
    (∀ before e after, n.walk = before ++ e :: after → e ∈ n.children ∨ ∃ parent ∈ before, ∃ key,
      (key, e.2) ∈ parent.2.children ∧ e.1 = parent.1 ++ "." ++ key) ∧
    ∀ p q, p ≠ "" → q ≠ "" →
      n.resolve? (p ++ "." ++ q) = (n.resolve? p).bind fun m => m.resolve? q := by
  have hsegments : ∀ e ∈ n.walk, n.Below (segments e.1) e.2 := by
    intro e he
    rw [← pathKeys_of_ne (h.path_ne_empty he)]
    exact h.mem_walk_iff_below.mp he
  have hnodup : (n.walk.map Prod.fst).Nodup := h.nodup_walkFrom ""
  refine ⟨?_, hsegments, hnodup, fun path c => h.resolve?_eq_some_iff, ?_,
    fun p q hp hq => resolve?_append hp hq n⟩
  · intro keys c hbelow
    obtain ⟨path, hmem, hkeys⟩ := hbelow.exists_mem_walkFrom h ""
    obtain ⟨i, hi⟩ := List.mem_iff_getElem?.mp hmem
    have hpath : segments path = keys := by
      rw [← pathKeys_of_ne (h.path_ne_empty hmem), hkeys]
      rfl
    refine ⟨i, ⟨path, hi, hpath⟩, ?_⟩
    rintro j ⟨other, hj, hother⟩
    obtain rfl : other = path := segments_injective (hother.trans hpath.symm)
    have hlt : j < (n.walk.map Prod.fst).length := by
      rw [List.length_map]
      exact (List.getElem?_eq_some_iff.mp hj).1
    refine (List.getElem?_inj hlt hnodup).mp ?_
    rw [List.getElem?_map, List.getElem?_map, hj]
    exact congrArg _ hi.symm
  · intro before e after hwalk
    rcases h.parent_before hwalk with ⟨key, hkey, hpath⟩ | ⟨parent, hparent, key, hkey, hpath⟩
    · have heq : e = (key, e.2) := Prod.ext hpath rfl
      exact .inl (heq ▸ hkey)
    · have hlisted : parent ∈ n.walk := hwalk ▸ List.mem_append_left _ hparent
      rw [childPath_eq (h.path_ne_empty hlisted)] at hpath
      exact .inr ⟨parent, hparent, key, hkey, hpath⟩

/-- A node with a child and a neighbour whose key goes on where its own ends. -/
def forkedTree : Node :=
  .mk "" none [("a", .mk "a" (some (.bool true)) [("b", leaf "b" (.bool false))]), ("ab", new "ab")]

theorem forkedTree_addressable : forkedTree.Addressable := by
  have hplain : ∀ key ∈ ["a", "ab", "b"], PlainKey key := by
    intro key hkey
    simp only [List.mem_cons, List.not_mem_nil, or_false] at hkey
    rcases hkey with rfl | rfl | rfl
    all_goals exact ⟨by decide, by decide⟩
  have hnone : ∀ name value, (Node.mk name value []).Addressable :=
    fun _ _ => .mk .nil (by simp) (by simp)
  refine .mk ?_ ?_ ?_
  · refine .cons ?_ (List.pairwise_singleton _ _)
    simp only [List.forall_mem_singleton]
    decide
  · simp [hplain]
  · simp only [List.forall_mem_cons]
    refine ⟨.mk (List.pairwise_singleton _ _) ?_ ?_, hnone _ _, by simp⟩
    · simp [hplain]
    · simp only [List.forall_mem_singleton]
      exact hnone _ _

theorem walk_addresses_forkedTree :
    (∃! i : Nat, ∃ path, forkedTree.walk[i]? = some (path, leaf "b" (.bool false)) ∧
      segments path = ["a", "b"]) ∧
    forkedTree.resolve? "a.b" = some (leaf "b" (.bool false)) := by
  obtain ⟨honce, _, _, hresolve, _⟩ := walk_addresses forkedTree_addressable
  have hbelow : forkedTree.Below ["a", "b"] (leaf "b" (.bool false)) :=
    .deeper List.mem_cons_self (.child List.mem_cons_self)
  refine ⟨honce _ _ hbelow, (hresolve "a.b" _ (by decide)).mpr ?_⟩
  exact .tail _ (.head _)

end CertAudit.Node
