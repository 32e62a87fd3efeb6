/- Walking a tree lists its nodes with paths that lead back to them, as long as no key has a point. -/
import CertAudit.Proofs.Table
import CertAudit.Proofs.Text.Split
import CertAudit.Tree
import Mathlib.Data.List.Induction
namespace CertAudit.Node

/-- A text in characters of a kind. -/
def IsOver (p : Char → Bool) (s : String) : Prop := ∀ c ∈ s.toList, p c = true

instance (p : Char → Bool) (s : String) : Decidable (IsOver p s) :=
  decidable_of_iff (s.toList.all p = true) List.all_eq_true

/-- The keys are in order all the way down, and of a kind. -/
inductive Keyed (P : String → Prop) : Node → Prop
  | mk {name : String} {value : Option Value} {children : List (String × Node)}
      (ordered : Table.Ordered children) (keys : ∀ e ∈ children, P e.1)
      (below : ∀ e ∈ children, Keyed P e.2) : Keyed P (.mk name value children)

/-- A node whose own name is a key of that kind as well. -/
structure Titled (P : String → Prop) (n : Node) : Prop where
  name : P n.name
  keyed : n.Keyed P

/-- The keys are in order all the way down, and none has a point. -/
inductive WellKeyed : Node → Prop
  | mk {name : String} {value : Option Value} {children : List (String × Node)}
      (ordered : Table.Ordered children) (plain : ∀ e ∈ children, '.' ∉ e.1.toList)
      (wellKeyed : ∀ e ∈ children, WellKeyed e.2) : WellKeyed (.mk name value children)

/-- A node that may stand under its own name. -/
structure Hangs (n : Node) : Prop where
  name : '.' ∉ n.name.toList
  wellKeyed : n.WellKeyed

variable {P : String → Prop} {p : Char → Bool} {n c other root : Node} {key path : String}
  {keys : List String} {cs : List Node} {e : String × Node}

theorem WellKeyed.ordered (h : n.WellKeyed) : Table.Ordered n.children := by
  cases h with
  | mk ordered _ _ => exact ordered

theorem WellKeyed.plain (h : n.WellKeyed) : ∀ e ∈ n.children, '.' ∉ e.1.toList := by
  cases h with
  | mk _ plain _ => exact plain

theorem WellKeyed.of_mem (h : n.WellKeyed) : ∀ e ∈ n.children, e.2.WellKeyed := by
  cases h with
  | mk _ _ wellKeyed => exact wellKeyed

theorem Keyed.ordered (h : n.Keyed P) : Table.Ordered n.children := by
  cases h with
  | mk ordered _ _ => exact ordered

theorem Keyed.ofKey (h : n.Keyed P) : ∀ e ∈ n.children, P e.1 := by
  cases h with
  | mk _ keys _ => exact keys

theorem Keyed.of_mem (h : n.Keyed P) : ∀ e ∈ n.children, e.2.Keyed P := by
  cases h with
  | mk _ _ below => exact below

theorem keyed_new (key : String) : (new key).Keyed P := .mk .nil (by simp) (by simp)

theorem keyed_leaf (key : String) (v : Value) : (leaf key v).Keyed P :=
  .mk .nil (by simp) (by simp)

theorem isOver_ne_iff {c : Char} {s : String} : IsOver (· != c) s ↔ c ∉ s.toList := by
  constructor
  · intro h hmem
    exact bne_iff_ne.mp (h c hmem) rfl
  · intro h d hd
    refine bne_iff_ne.mpr ?_
    rintro rfl
    exact h hd

theorem wellKeyed_iff_keyed : n.WellKeyed ↔ n.Keyed (IsOver (· != '.')) := by
  constructor
  · intro h
    induction h with
    | mk ordered plain _ ih => exact .mk ordered (fun e he => isOver_ne_iff.mpr (plain e he)) ih
  · intro h
    induction h with
    | mk ordered keys _ ih => exact .mk ordered (fun e he => isOver_ne_iff.mp (keys e he)) ih

theorem hangs_iff_titled : n.Hangs ↔ n.Titled (IsOver (· != '.')) := by
  constructor
  · intro h
    exact ⟨isOver_ne_iff.mpr h.name, wellKeyed_iff_keyed.mp h.wellKeyed⟩
  · intro h
    exact ⟨isOver_ne_iff.mp h.name, wellKeyed_iff_keyed.mpr h.keyed⟩

theorem new_wellKeyed (key : String) : (new key).WellKeyed := wellKeyed_iff_keyed.mpr (keyed_new key)

theorem child?_setChild (n : Node) (key k : String) (c : Node) :
    (n.setChild key c).child? k = if k = key then some c else n.child? k :=
  Table.lookup_insert key k c n.children

theorem mem_of_child? {k : String} (h : n.child? k = some c) : (k, c) ∈ n.children := by
  obtain ⟨before, after, heq, _⟩ := List.lookup_eq_some_iff.mp h
  exact heq ▸ List.mem_append_right before List.mem_cons_self

theorem child?_of_mem (h : Table.Ordered n.children) (he : e ∈ n.children) :
    n.child? e.1 = some e.2 := h.lookup_eq_some_iff.mpr he

theorem Keyed.setChild (h : n.Keyed P) (hkey : P key) (hc : c.Keyed P) :
    (n.setChild key c).Keyed P := by
  refine .mk (h.ordered.insert key c) ?_ ?_
  · intro e he
    rcases Table.mem_of_mem_insert he with rfl | he
    · exact hkey
    · exact h.ofKey e he
  · intro e he
    rcases Table.mem_of_mem_insert he with rfl | he
    · exact hc
    · exact h.of_mem e he

theorem Keyed.insert (h : n.Keyed P) (hc : c.Titled P) : (n.insert c).Keyed P :=
  h.setChild hc.name hc.keyed

theorem Keyed.withChildren (h : n.Keyed P) (hcs : ∀ c ∈ cs, c.Titled P) :
    (n.withChildren cs).Keyed P := by
  induction cs generalizing n with
  | nil => exact h
  | cons c rest ih =>
    exact ih (h.insert (hcs c List.mem_cons_self)) fun d hd => hcs d (List.mem_cons_of_mem c hd)

@[simp] theorem new_name (key : String) : (new key).name = key := rfl

@[simp] theorem leaf_name (key : String) (v : Value) : (leaf key v).name = key := rfl

@[simp] theorem new_value (key : String) : (new key).value = none := rfl

@[simp] theorem leaf_value (key : String) (v : Value) : (leaf key v).value = some v := rfl

@[simp] theorem new_child? (key k : String) : (new key).child? k = none := rfl

@[simp] theorem insert_name (n c : Node) : (n.insert c).name = n.name := rfl

@[simp] theorem withChildren_name (n : Node) (cs : List Node) : (n.withChildren cs).name = n.name := by
  induction cs generalizing n with
  | nil => rfl
  | cons c rest ih => exact ih (n.insert c)

@[simp] theorem withChildren_value (n : Node) (cs : List Node) :
    (n.withChildren cs).value = n.value := by
  induction cs generalizing n with
  | nil => rfl
  | cons c rest ih => exact ih (n.insert c)

theorem withChildren_concat (n : Node) (cs : List Node) (c : Node) :
    n.withChildren (cs ++ [c]) = (n.withChildren cs).insert c := by
  rw [withChildren, List.foldl_append]
  rfl

theorem withChildren_ordered (h : Table.Ordered n.children) (cs : List Node) :
    Table.Ordered (n.withChildren cs).children := by
  induction cs generalizing n with
  | nil => exact h
  | cons c rest ih => exact ih (h.insert c.name c)

theorem mem_of_mem_insert (h : e ∈ (n.insert c).children) : e = (c.name, c) ∨ e ∈ n.children :=
  Table.mem_of_mem_insert h

theorem mem_of_mem_withChildren (h : e ∈ (n.withChildren cs).children) :
    (∃ c ∈ cs, e = (c.name, c)) ∨ e ∈ n.children := by
  induction cs generalizing n with
  | nil => exact .inr h
  | cons c rest ih =>
    rcases ih h with ⟨d, hd, rfl⟩ | hinsert
    · exact .inl ⟨d, List.mem_cons_of_mem c hd, rfl⟩
    · rcases mem_of_mem_insert hinsert with rfl | he
      · exact .inl ⟨c, List.mem_cons_self, rfl⟩
      · exact .inr he

/-- Of children with one name the last one stays. -/
theorem child?_withChildren (n : Node) (cs : List Node) (k : String) :
    (n.withChildren cs).child? k = ((cs.filter fun c => c.name == k).getLast?).or (n.child? k) := by
  induction cs using List.reverseRecOn with
  | nil => rfl
  | append_singleton cs d ih =>
    rw [withChildren_concat, Node.insert, child?_setChild, List.filter_append]
    by_cases hk : k = d.name
    · simp [hk]
    · simp [hk, Ne.symm hk, ih]

/-- Under the name of one of some children stands one of them. -/
theorem exists_child?_withChildren (n : Node) (h : c ∈ cs) :
    ∃ d ∈ cs, d.name = c.name ∧ (n.withChildren cs).child? c.name = some d := by
  have hsame : c ∈ cs.filter fun d => d.name == c.name :=
    List.mem_filter.mpr ⟨h, beq_self_eq_true c.name⟩
  obtain ⟨d, hlast⟩ : ∃ d, (cs.filter fun d => d.name == c.name).getLast? = some d :=
    ⟨_, List.getLast?_eq_some_getLast (List.ne_nil_of_mem hsame)⟩
  obtain ⟨hd, hname⟩ := List.mem_filter.mp (List.mem_of_getLast? hlast)
  refine ⟨d, hd, beq_iff_eq.mp hname, ?_⟩
  rw [child?_withChildren, hlast]
  rfl

@[simp] theorem titled_new_iff : (new key).Titled P ↔ P key :=
  ⟨Titled.name, fun h => ⟨h, keyed_new key⟩⟩

@[simp] theorem titled_leaf_iff {v : Value} : (leaf key v).Titled P ↔ P key :=
  ⟨Titled.name, fun h => ⟨h, keyed_leaf key v⟩⟩

theorem Titled.insert (h : n.Titled P) (hc : c.Titled P) : (n.insert c).Titled P :=
  ⟨h.name, h.keyed.insert hc⟩

theorem Titled.withChildren (h : n.Titled P) (hcs : ∀ c ∈ cs, c.Titled P) :
    (n.withChildren cs).Titled P :=
  ⟨(withChildren_name n cs).symm ▸ h.name, h.keyed.withChildren hcs⟩

theorem Keyed.overlay (h : n.Keyed P) (hother : other.Keyed P) : (n.overlay other).Keyed P := by
  refine .mk (h.ordered.overlay other.children) ?_ ?_
  · intro e he
    exact (Table.mem_of_mem_overlay he).elim (hother.ofKey e) (h.ofKey e)
  · intro e he
    exact (Table.mem_of_mem_overlay he).elim (hother.of_mem e) (h.of_mem e)

theorem Keyed.insertAt (h : n.Keyed P) (hkeys : ∀ k ∈ keys, P k) (hother : other.Keyed P) :
    (insertAt keys other n).Keyed P := by
  induction keys generalizing n with
  | nil => exact h.overlay hother
  | cons key rest ih =>
    refine h.setChild (hkeys key List.mem_cons_self) (ih ?_ fun k hk => hkeys k (.tail _ hk))
    cases hchild : n.child? key with
    | none => exact keyed_new key
    | some c => exact h.of_mem _ (mem_of_child? hchild)

theorem plain_of_mem_segments (h : key ∈ segments path) : '.' ∉ key.toList := by
  obtain ⟨part, hpart, rfl⟩ := List.mem_map.mp h
  rw [String.toList_ofList]
  exact CharList.not_mem_of_mem_split hpart

theorem WellKeyed.insertPath (h : n.WellKeyed) (path : String) (hother : other.WellKeyed) :
    (n.insertPath path other).WellKeyed := by
  rw [wellKeyed_iff_keyed] at h hother ⊢
  exact h.insertAt (fun _ hk => isOver_ne_iff.mpr (plain_of_mem_segments hk)) hother

@[simp] theorem insertPath_name (n : Node) (path : String) (other : Node) :
    (n.insertPath path other).name = n.name := by
  rw [Node.insertPath]
  cases segments path <;> rfl

theorem segments_ne_nil (path : String) : segments path ≠ [] :=
  mt List.map_eq_nil_iff.mp (CharList.split_ne_nil '.' path.toList)

@[simp] theorem insertPath_value (n : Node) (path : String) (other : Node) :
    (n.insertPath path other).value = n.value := by
  rw [Node.insertPath]
  cases hkeys : segments path with
  | nil => exact absurd hkeys (segments_ne_nil path)
  | cons key rest => rfl

section Paths

variable {α : Type} {path : α → String} {node : α → Node}

@[simp] theorem foldl_insertPath_name (xs : List α) (n : Node) :
    (xs.foldl (fun n x => n.insertPath (path x) (node x)) n).name = n.name := by
  induction xs generalizing n with
  | nil => rfl
  | cons x rest ih => exact (ih _).trans (insertPath_name n (path x) (node x))

@[simp] theorem foldl_insertPath_value (xs : List α) (n : Node) :
    (xs.foldl (fun n x => n.insertPath (path x) (node x)) n).value = n.value := by
  induction xs generalizing n with
  | nil => rfl
  | cons x rest ih => exact (ih _).trans (insertPath_value n (path x) (node x))

theorem Titled.foldl_insertPath {xs : List α} (h : n.Titled P)
    (hpath : ∀ x ∈ xs, ∀ k ∈ segments (path x), P k) (hnode : ∀ x ∈ xs, (node x).Keyed P) :
    (xs.foldl (fun n x => n.insertPath (path x) (node x)) n).Titled P := by
  induction xs generalizing n with
  | nil => exact h
  | cons x rest ih =>
    refine ih ⟨?_, ?_⟩ (fun y hy => hpath y (.tail _ hy)) fun y hy => hnode y (.tail _ hy)
    · exact (insertPath_name n (path x) (node x)).symm ▸ h.name
    · exact h.keyed.insertAt (hpath x List.mem_cons_self) (hnode x List.mem_cons_self)

end Paths

theorem segments_of_plain (h : '.' ∉ key.toList) : segments key = [key] := by
  rw [segments, CharList.split_of_not_mem h, List.map_singleton, String.ofList_toList]

theorem segments_append (path key : String) :
    segments (path ++ "." ++ key) = segments path ++ segments key := by
  have hchars : (path ++ "." ++ key).toList = path.toList ++ '.' :: key.toList := by simp
  rw [segments, hchars, CharList.split_append_cons, List.map_append]
  rfl

theorem descend?_append (keys more : List String) (n : Node) :
    descend? (keys ++ more) n = (descend? keys n).bind (descend? more) := by
  induction keys generalizing n with
  | nil => rfl
  | cons key rest ih =>
    simp only [List.cons_append, descend?, Option.bind_assoc]
    congr 1
    exact funext ih

theorem childPath_eq (hpath : path ≠ "") (key : String) :
    childPath path key = path ++ "." ++ key := if_neg hpath

theorem childPath_ne_empty (hpath : path ≠ "") (key : String) : childPath path key ≠ "" := by
  rw [childPath_eq hpath]
  simp

/-- Below a path other than that of the root, the keys are followed from its node. -/
theorem resolve?_childPath_eq_bind (hpath : path ≠ "") (root : Node) (key : String) :
    root.resolve? (childPath path key) = (root.resolve? path).bind (descend? (segments key)) := by
  rw [resolve?, if_neg (childPath_ne_empty hpath key), childPath_eq hpath, segments_append,
    descend?_append, resolve?, if_neg hpath]

theorem resolve?_childPath (hpath : path ≠ "") (hn : root.resolve? path = some n) (key : String) :
    root.resolve? (childPath path key) = descend? (segments key) n := by
  rw [resolve?_childPath_eq_bind hpath, hn, Option.bind_some]

theorem resolve?_child (hpath : path ≠ "") (hn : root.resolve? path = some n)
    (hkey : '.' ∉ key.toList) : root.resolve? (childPath path key) = n.child? key := by
  rw [resolve?_childPath hpath hn, segments_of_plain hkey]
  simp [descend?]

theorem resolve?_childPath_of_plain (hpath : path ≠ "") (root : Node) (hkey : '.' ∉ key.toList) :
    root.resolve? (childPath path key) = (root.resolve? path).bind fun n => n.child? key := by
  rw [resolve?_childPath_eq_bind hpath, segments_of_plain hkey]
  congr 1
  funext n
  simp [descend?]

theorem mem_walkChildren {children : List (String × Node)} :
    e ∈ walkChildren path children ↔ ∃ f ∈ children,
      e = (childPath path f.1, f.2) ∨ e ∈ f.2.walkFrom (childPath path f.1) := by
  induction children with
  | nil => simp [walkChildren]
  | cons f rest ih =>
    obtain ⟨key, c⟩ := f
    simp only [walkChildren, List.mem_cons, List.mem_append, ih, exists_eq_or_imp, or_assoc]

/-- A node is listed below another one as a child of it, or below a child. -/
theorem mem_walkFrom : e ∈ n.walkFrom path ↔ ∃ f ∈ n.children,
    e = (childPath path f.1, f.2) ∨ e ∈ f.2.walkFrom (childPath path f.1) := by
  cases n with
  | mk name value children =>
    rw [walkFrom]
    exact mem_walkChildren

/-- The paths below a node are what its keys make of the path to begin with. -/
theorem Keyed.of_mem_walkFrom {Q : String → Prop} (h : n.Keyed P)
    (hstep : ∀ path key, Q path → P key → Q (childPath path key)) (hpath : Q path)
    (he : e ∈ n.walkFrom path) : Q e.1 := by
  induction h generalizing path e with
  | @mk name value children ordered keys below ih =>
    obtain ⟨f, hf, he⟩ := mem_walkFrom.mp he
    have hchild := hstep path f.1 hpath (keys f hf)
    rcases he with rfl | he
    · exact hchild
    · exact ih f hf hchild he

theorem isOver_of_mem_segments (h : IsOver p path) (hkey : key ∈ segments path) :
    IsOver p key := by
  obtain ⟨part, hpart, rfl⟩ := List.mem_map.mp hkey
  rw [IsOver, String.toList_ofList]
  exact fun c hc => h c (CharList.mem_of_mem_split hpart hc)

theorem isOver_childPath (hpoint : p '.' = true) (hpath : IsOver p path) (hkey : IsOver p key) :
    IsOver p (childPath path key) := by
  unfold childPath
  split
  · exact hkey
  · have hchars : (path ++ "." ++ key).toList = path.toList ++ '.' :: key.toList := by simp
    rw [IsOver, hchars, List.forall_mem_append, List.forall_mem_cons]
    exact ⟨hpath, hpoint, hkey⟩

/-- The paths of the nodes below one lead to them, if its own path leads to it. -/
theorem WellKeyed.resolve?_of_mem_walkFrom (h : n.WellKeyed) (hpath : path ≠ "")
    (hn : root.resolve? path = some n) (he : e ∈ n.walkFrom path) :
    root.resolve? e.1 = some e.2 := by
  -- Each level makes the path longer, and it has to lead to the node of that level.
  induction h generalizing path e with
  | @mk name value children ordered plain wellKeyed ih =>
    obtain ⟨f, hf, he⟩ := mem_walkFrom.mp he
    have hchild : root.resolve? (childPath path f.1) = some f.2 := by
      rw [resolve?_child hpath hn (plain f hf)]
      exact child?_of_mem ordered hf
    rcases he with rfl | he
    · exact hchild
    · exact ih f hf (childPath_ne_empty hpath f.1) hchild he

/-- Nothing is two keys below a node all of whose children are leaves. -/
theorem descend?_of_leaves (h : ∀ e ∈ n.children, e.2.children = []) (first second : String)
    (keys : List String) : descend? (first :: second :: keys) n = none := by
  rw [descend?]
  cases hchild : n.child? first with
  | none => rfl
  | some c =>
    rw [Option.bind_some, descend?, child?, h _ (mem_of_child? hchild)]
    rfl

end CertAudit.Node
