/- Walks from issuer to issuer. A walk follows the links it stands on, never comes to a place twice,
and ends only where it has to, so no path up the issuers from the same start is longer. The first of
the longest among the walks from all places is chosen. -/
import CertAudit.Chain
import Mathlib.Data.List.Chain
import Mathlib.Data.List.Induction
namespace CertAudit.Chain

/-- The certificate at one place is not self-issued, and at the other place is the first whose
subject it names as its issuer. -/
def IssuedBy (links : List Link) (i j : Nat) : Prop :=
  ∃ child parent, links[i]? = some child ∧ links[j]? = some parent ∧
    child.selfIssued = false ∧ child.issuer = parent.subject ∧
    ∀ k other, k < j → links[k]? = some other → other.subject ≠ child.issuer

/-- A path up the issuers that repeats no place and fits the depth. -/
structure IssuerPath (links : List Link) (places : List Nat) : Prop where
  within : ∀ i ∈ places, i < links.length
  linked : places.IsChain (IssuedBy links)
  nodup : places.Nodup
  length_le : places.length ≤ maxDepth

/-- Why a path need not go on from a place: it has the full depth, it stands at a self-issued
certificate or at one whose issuer is absent, or the issuer is on it already. -/
def EndsAt (links : List Link) (places : List Nat) (i : Nat) : Prop :=
  places.length = maxDepth ∨
  (∃ l, links[i]? = some l ∧
    (l.selfIssued = true ∨ ∀ other ∈ links, other.subject ≠ l.issuer)) ∨
  ∃ j ∈ places, IssuedBy links i j

variable {links : List Link}

theorem issuer?_eq_some_iff {i j : Nat} : issuer? links i = some j ↔ IssuedBy links i j := by
  unfold issuer? IssuedBy
  cases hi : links[i]? with
  | none => simp
  | some child =>
    cases hself : child.selfIssued with
    | true => simp [hself]
    | false =>
      simp only [hself, Bool.false_eq_true, if_false, List.findIdx?_eq_some_iff_getElem, beq_iff_eq]
      constructor
      · rintro ⟨hj, hsubject, hfirst⟩
        refine ⟨child, links[j], rfl, List.getElem?_eq_getElem hj, hself, hsubject.symm, ?_⟩
        intro k other hk hother
        obtain ⟨hlt, rfl⟩ := List.getElem?_eq_some_iff.mp hother
        exact hfirst k hk
      · rintro ⟨_, parent, hchild, hparent, _, hissuer, hfirst⟩
        obtain rfl := Option.some.inj hchild
        obtain ⟨hj, rfl⟩ := List.getElem?_eq_some_iff.mp hparent
        refine ⟨hj, hissuer.symm, ?_⟩
        intro k hk
        exact hfirst k _ hk (List.getElem?_eq_getElem (Nat.lt_trans hk hj))

theorem IssuedBy.lt_length {i j : Nat} (h : IssuedBy links i j) : j < links.length := by
  obtain ⟨_, _, _, hparent, _⟩ := h
  exact (List.getElem?_eq_some_iff.mp hparent).1

theorem issuer?_eq_none {i : Nat} {l : Link} (hl : links[i]? = some l)
    (h : issuer? links i = none) :
    l.selfIssued = true ∨ ∀ other ∈ links, other.subject ≠ l.issuer := by
  simp only [issuer?, hl] at h
  split at h
  · rename_i hself
    exact .inl hself
  · refine .inr fun other hother => ?_
    simpa using List.findIdx?_eq_none_iff.mp h other hother

/-- All that one step of a walk can do: stop for want of an issuer, stop at one that has been seen,
or go on to it. -/
theorem issuers_succ_cases (links : List Link) (fuel : Nat) (seen : List Nat) (i : Nat) :
    (issuer? links i = none ∧ issuers links (fuel + 1) seen i = []) ∨
    (∃ j, issuer? links i = some j ∧ j ∈ seen ∧ issuers links (fuel + 1) seen i = []) ∨
    (∃ j, issuer? links i = some j ∧ j ∉ seen ∧
      issuers links (fuel + 1) seen i = j :: issuers links fuel (j :: seen) j) := by
  cases h : issuer? links i with
  | none => exact .inl ⟨rfl, by simp only [issuers, h]⟩
  | some j =>
    by_cases hseen : j ∈ seen
    · refine .inr (.inl ⟨j, rfl, hseen, ?_⟩)
      simp only [issuers, h, List.contains_iff_mem.mpr hseen, if_true]
    · refine .inr (.inr ⟨j, rfl, hseen, ?_⟩)
      simp only [issuers, h, List.contains_iff_mem, hseen, if_false]

theorem issuers_length_le (fuel : Nat) (seen : List Nat) (i : Nat) :
    (issuers links fuel seen i).length ≤ fuel := by
  induction fuel generalizing seen i with
  | zero => exact Nat.le_refl 0
  | succ fuel ih =>
    obtain ⟨_, hstop⟩ | ⟨_, _, _, hstop⟩ | ⟨j, _, _, hgo⟩ := issuers_succ_cases links fuel seen i
    · simp only [hstop, List.length_nil, Nat.zero_le]
    · simp only [hstop, List.length_nil, Nat.zero_le]
    · simp only [hgo, List.length_cons]
      exact Nat.succ_le_succ (ih (j :: seen) j)

theorem issuers_linked (fuel : Nat) (seen : List Nat) (i : Nat) :
    (i :: issuers links fuel seen i).IsChain fun i j => issuer? links i = some j := by
  induction fuel generalizing seen i with
  | zero => exact List.isChain_singleton i
  | succ fuel ih =>
    obtain ⟨_, hstop⟩ | ⟨_, _, _, hstop⟩ | ⟨j, hj, _, hgo⟩ := issuers_succ_cases links fuel seen i
    · simp only [hstop, List.isChain_singleton]
    · simp only [hstop, List.isChain_singleton]
    · rw [hgo]
      exact List.isChain_cons_cons.mpr ⟨hj, ih (j :: seen) j⟩

theorem mem_issuers {fuel : Nat} {seen : List Nat} {i j : Nat}
    (h : j ∈ issuers links fuel seen i) : j < links.length ∧ j ∉ seen := by
  induction fuel generalizing seen i with
  | zero => cases h
  | succ fuel ih =>
    obtain ⟨_, hstop⟩ | ⟨_, _, _, hstop⟩ | ⟨k, hk, hnew, hgo⟩ :=
      issuers_succ_cases links fuel seen i
    · rw [hstop] at h
      cases h
    · rw [hstop] at h
      cases h
    · rw [hgo] at h
      rcases List.mem_cons.mp h with rfl | hlater
      · exact ⟨(issuer?_eq_some_iff.mp hk).lt_length, hnew⟩
      · obtain ⟨hlt, hfresh⟩ := ih hlater
        exact ⟨hlt, fun hseen => hfresh (List.mem_cons_of_mem k hseen)⟩

theorem issuers_nodup (fuel : Nat) (seen : List Nat) (i : Nat) :
    (issuers links fuel seen i).Nodup := by
  induction fuel generalizing seen i with
  | zero => exact List.nodup_nil
  | succ fuel ih =>
    obtain ⟨_, hstop⟩ | ⟨_, _, _, hstop⟩ | ⟨j, _, _, hgo⟩ := issuers_succ_cases links fuel seen i
    · simp only [hstop, List.nodup_nil]
    · simp only [hstop, List.nodup_nil]
    · rw [hgo]
      exact List.nodup_cons.mpr ⟨fun h => (mem_issuers h).2 List.mem_cons_self, ih (j :: seen) j⟩

/-- A walk that has steps left ends where there is no issuer, or one it has been at. -/
theorem issuers_end {fuel : Nat} {seen : List Nat} {i last : Nat}
    (hlast : (i :: issuers links fuel seen i).getLast? = some last) :
    (issuers links fuel seen i).length = fuel ∨ issuer? links last = none ∨
      ∃ j, issuer? links last = some j ∧ (j ∈ seen ∨ j ∈ issuers links fuel seen i) := by
  induction fuel generalizing seen i with
  | zero => exact .inl rfl
  | succ fuel ih =>
    obtain ⟨hi, hstop⟩ | ⟨j, hi, hj, hstop⟩ | ⟨j, _, _, hgo⟩ :=
      issuers_succ_cases links fuel seen i
    · rw [hstop] at hlast
      obtain rfl : i = last := Option.some.inj hlast
      exact .inr (.inl hi)
    · rw [hstop] at hlast
      obtain rfl : i = last := Option.some.inj hlast
      exact .inr (.inr ⟨j, hi, .inl hj⟩)
    · rw [hgo, List.getLast?_cons_cons] at hlast
      rw [hgo]
      rcases ih hlast with hfull | hnone | ⟨k, hk, hmem⟩
      · exact .inl (congrArg Nat.succ hfull)
      · exact .inr (.inl hnone)
      · refine .inr (.inr ⟨k, hk, ?_⟩)
        rcases hmem with hseen | hlater
        · rcases List.mem_cons.mp hseen with rfl | hold
          · exact .inr List.mem_cons_self
          · exact .inl hold
        · exact .inr (List.mem_cons_of_mem j hlater)

/-- The links leave no choice, so a path from the same place runs along the walk. -/
theorem length_le_issuers {fuel : Nat} {seen rest : List Nat} {i : Nat}
    (hlinked : (i :: rest).IsChain fun i j => issuer? links i = some j) (hnodup : rest.Nodup)
    (hfresh : ∀ j ∈ rest, j ∉ seen) (hfuel : rest.length ≤ fuel) :
    rest.length ≤ (issuers links fuel seen i).length := by
  induction rest generalizing fuel seen i with
  | nil => exact Nat.zero_le _
  | cons j rest ih =>
    obtain ⟨hi, hrest⟩ := List.isChain_cons_cons.mp hlinked
    obtain ⟨hj, hnodup⟩ := List.nodup_cons.mp hnodup
    cases fuel with
    | zero => exact absurd hfuel (Nat.not_succ_le_zero _)
    | succ fuel =>
      have hnew : j ∉ seen := hfresh j List.mem_cons_self
      have hgo : issuers links (fuel + 1) seen i = j :: issuers links fuel (j :: seen) j := by
        simp only [issuers, hi, List.contains_iff_mem, hnew, if_false]
      rw [hgo]
      -- What has been seen grows by the place just left, which the path does not come back to.
      refine Nat.succ_le_succ (ih hrest hnodup ?_ (Nat.le_of_succ_le_succ hfuel))
      intro k hk hmem
      rcases List.mem_cons.mp hmem with rfl | hseen
      · exact hj hk
      · exact hfresh k (List.mem_cons_of_mem j hk) hseen

/-- A place that is alone has no other to go to. -/
theorem walk_of_length_eq_one (h : links.length = 1) : walk links 0 = [0] := by
  have hnone : issuers links (maxDepth - 1) [0] 0 = [] := by
    refine List.eq_nil_iff_forall_not_mem.mpr ?_
    intro j hj
    obtain ⟨hlt, hfresh⟩ := mem_issuers hj
    obtain rfl : j = 0 := by omega
    exact hfresh List.mem_cons_self
  rw [walk, hnone]

theorem walk_issuerPath {start : Nat} (h : start < links.length) :
    IssuerPath links (walk links start) := by
  refine ⟨?_, ?_, ?_, ?_⟩
  · intro i hi
    rcases List.mem_cons.mp hi with rfl | hlater
    · exact h
    · exact (mem_issuers hlater).1
  · exact (issuers_linked _ _ _).imp fun _ _ => issuer?_eq_some_iff.mp
  · exact List.nodup_cons.mpr
      ⟨fun hmem => (mem_issuers hmem).2 List.mem_cons_self, issuers_nodup _ _ _⟩
  · exact Nat.succ_le_succ (issuers_length_le (maxDepth - 1) [start] start)

theorem walk_endsAt {start last : Nat} (h : start < links.length)
    (hlast : (walk links start).getLast? = some last) : EndsAt links (walk links start) last := by
  have hlt := (walk_issuerPath h).within last (List.mem_of_getLast? hlast)
  rcases issuers_end hlast with hfull | hnone | ⟨j, hj, hmem⟩
  · exact .inl (congrArg Nat.succ hfull)
  · have hl := List.getElem?_eq_getElem hlt
    exact .inr (.inl ⟨_, hl, issuer?_eq_none hl hnone⟩)
  · refine .inr (.inr ⟨j, ?_, issuer?_eq_some_iff.mp hj⟩)
    simpa only [walk, List.mem_cons, List.not_mem_nil, or_false] using hmem

theorem IssuerPath.length_le_walk {start : Nat} {rest : List Nat}
    (h : IssuerPath links (start :: rest)) :
    (start :: rest).length ≤ (walk links start).length := by
  obtain ⟨hstart, hnodup⟩ := List.nodup_cons.mp h.nodup
  have hlinked := h.linked.imp fun _ _ => issuer?_eq_some_iff.mpr
  refine Nat.succ_le_succ (length_le_issuers hlinked hnodup ?_ ?_)
  · intro j hj hmem
    exact hstart (List.mem_singleton.mp hmem ▸ hj)
  · exact Nat.le_of_succ_le_succ h.length_le

/-- At a place in a list of walks stands the longest, and all before it are shorter. -/
structure FirstLongest (walks : List (List Nat)) (m : Nat) : Prop where
  here : walks[m]? = some (longest walks)
  length_le : ∀ w ∈ walks, w.length ≤ (longest walks).length
  before_lt : ∀ k w, k < m → walks[k]? = some w → w.length < (longest walks).length

theorem longest_append_of_lt {walks : List (List Nat)} {w : List Nat}
    (h : (longest walks).length < w.length) : longest (walks ++ [w]) = w := by
  rw [longest, List.foldl_append]
  exact if_pos h

theorem longest_append_of_le {walks : List (List Nat)} {w : List Nat}
    (h : w.length ≤ (longest walks).length) : longest (walks ++ [w]) = longest walks := by
  rw [longest, List.foldl_append]
  exact if_neg (Nat.not_lt.mpr h)

/-- A later walk takes over only by being longer. -/
theorem exists_firstLongest {walks : List (List Nat)} (hne : walks ≠ [])
    (hwalks : ∀ w ∈ walks, w ≠ []) : ∃ m, FirstLongest walks m := by
  -- The fold compares the last walk last, so the induction takes walks off the end.
  induction walks using List.reverseRecOn with
  | nil => exact absurd rfl hne
  | append_singleton walks w ih =>
    have hlast : (walks ++ [w])[walks.length]? = some w := List.getElem?_concat_length
    have hinit : ∀ k v, k < walks.length → (walks ++ [w])[k]? = some v → v ∈ walks := by
      intro k v hk hv
      rw [List.getElem?_append_left hk] at hv
      exact List.mem_of_getElem? hv
    rcases Nat.lt_or_ge (longest walks).length w.length with hlonger | hshorter
    · have heq : longest (walks ++ [w]) = w := longest_append_of_lt hlonger
      have hle : ∀ v ∈ walks, v.length ≤ (longest walks).length := by
        by_cases hnil : walks = []
        · simp only [hnil, List.not_mem_nil, false_implies, implies_true]
        · obtain ⟨_, hm⟩ := ih hnil fun v hv => hwalks v (List.mem_append_left [w] hv)
          exact hm.length_le
      refine ⟨walks.length, ?_, ?_, ?_⟩
      · rw [heq, hlast]
      · intro v hv
        rw [heq]
        rcases List.mem_append.mp hv with hold | hnew
        · exact Nat.le_of_lt (Nat.lt_of_le_of_lt (hle v hold) hlonger)
        · rw [List.mem_singleton.mp hnew]
      · intro k v hk hv
        rw [heq]
        exact Nat.lt_of_le_of_lt (hle v (hinit k v hk hv)) hlonger
    · have heq : longest (walks ++ [w]) = longest walks := longest_append_of_le hshorter
      have hnil : walks ≠ [] := by
        rintro rfl
        have hw := hwalks w List.mem_cons_self
        exact absurd (List.length_pos_iff.mpr hw) (Nat.not_lt.mpr hshorter)
      obtain ⟨m, hm⟩ := ih hnil fun v hv => hwalks v (List.mem_append_left [w] hv)
      have hlt : m < walks.length := (List.getElem?_eq_some_iff.mp hm.here).1
      refine ⟨m, ?_, ?_, ?_⟩
      · rw [heq, List.getElem?_append_left hlt]
        exact hm.here
      · intro v hv
        rw [heq]
        rcases List.mem_append.mp hv with hold | hnew
        · exact hm.length_le v hold
        · rw [List.mem_singleton.mp hnew]
          exact hshorter
      · intro k v hk hv
        rw [heq]
        rw [List.getElem?_append_left (Nat.lt_trans hk hlt)] at hv
        exact hm.before_lt k v hk hv

/-- The chosen walk starts at the first place from which a longest walk starts. -/
structure BestStart (links : List Link) (start : Nat) : Prop where
  within : start < links.length
  order_eq : order links = walk links start
  length_le : ∀ s, s < links.length → (walk links s).length ≤ (walk links start).length
  before_lt : ∀ s, s < start → (walk links s).length < (walk links start).length

theorem exists_bestStart {links : List Link} (hne : links ≠ []) : ∃ start, BestStart links start := by
  have hpos : 0 < links.length := List.length_pos_iff.mpr hne
  have hsome : (List.range links.length).map (walk links) ≠ [] := by
    rw [← List.length_pos_iff, List.length_map, List.length_range]
    exact hpos
  have hwalks : ∀ w ∈ (List.range links.length).map (walk links), w ≠ [] := by
    intro w hw
    obtain ⟨s, _, rfl⟩ := List.mem_map.mp hw
    exact List.cons_ne_nil s _
  obtain ⟨m, hm⟩ := exists_firstLongest hsome hwalks
  obtain ⟨s, hs, hwalk⟩ : ∃ s, (List.range links.length)[m]? = some s ∧
      walk links s = longest ((List.range links.length).map (walk links)) := by
    simpa only [List.getElem?_map, Option.map_eq_some_iff] using hm.here
  obtain ⟨hlt, hms⟩ := List.getElem?_eq_some_iff.mp hs
  rw [List.getElem_range] at hms
  rw [List.length_range] at hlt
  subst hms
  refine ⟨m, hlt, hwalk.symm, ?_, ?_⟩
  · intro s hs
    rw [hwalk]
    exact hm.length_le _ (List.mem_map_of_mem (List.mem_range.mpr hs))
  · intro s hs
    rw [hwalk]
    refine hm.before_lt s _ hs ?_
    simp only [List.getElem?_map, List.getElem?_range (Nat.lt_trans hs hlt), Option.map_some]

end CertAudit.Chain
