/- The chain that is built from some certificates is the longest path up the issuers, and what is
left over is all the rest. -/
import CertAudit.Proofs.Certificate
import CertAudit.Proofs.Chain.Placement
namespace CertAudit.Chain

variable {links : List Link} {entries : List ChainEntry} {places : List Nat}

/-- What linking looks at of some entries. -/
def linksOf (entries : List ChainEntry) : List Link :=
  entries.map fun e => Link.ofCertificate e.certificate

theorem linksOf_length (entries : List ChainEntry) : (linksOf entries).length = entries.length :=
  List.length_map _

theorem linksOf_getElem? {i : Nat} {e : ChainEntry} (h : entries[i]? = some e) :
    (linksOf entries)[i]? = some (Link.ofCertificate e.certificate) := by
  rw [linksOf, List.getElem?_map, h]
  rfl

theorem IssuerPath.within_entries (h : IssuerPath (linksOf entries) places) :
    ∀ i ∈ places, i < entries.length := by
  simpa only [linksOf_length] using h.within

/-- Building a chain succeeds: the entries along the best walk, and those outside it. -/
theorem exists_assemble_eq (hne : entries ≠ []) :
    ∃ start, BestStart (linksOf entries) start ∧
      assemble entries = .ok (along (walk (linksOf entries) start) entries,
        outside (walk (linksOf entries) start) entries) := by
  have hlinks : linksOf entries ≠ [] := mt List.map_eq_nil_iff.mp hne
  obtain ⟨start, hbest⟩ := exists_bestStart hlinks
  have horder : order (entries.map fun e => Link.ofCertificate e.certificate) =
      walk (linksOf entries) start := hbest.order_eq
  have hempty : entries.isEmpty = false := by simpa using hne
  refine ⟨start, hbest, ?_⟩
  simp only [assemble, hempty, horder, walk, List.isEmpty_cons, Bool.false_eq_true, if_false]

theorem assemble_singleton (e : ChainEntry) : assemble [e] = .ok ([place 1 0 e], []) := by
  obtain ⟨start, hbest, heq⟩ := exists_assemble_eq (List.cons_ne_nil e [])
  obtain rfl : start = 0 := Nat.lt_one_iff.mp hbest.within
  rw [heq, walk_of_length_eq_one rfl]
  rfl

/-- Only the last certificate of a path can be self-issued. -/
theorem IssuerPath.last_of_selfIssued (h : IssuerPath links places) {k i : Nat} {l : Link}
    (hk : places[k]? = some i) (hl : links[i]? = some l) (hself : l.selfIssued = true) :
    k + 1 = places.length := by
  obtain ⟨hlt, rfl⟩ := List.getElem?_eq_some_iff.mp hk
  rcases Nat.lt_or_ge (k + 1) places.length with hnext | hlast
  · obtain ⟨child, _, hchild, _, hnot, _⟩ := List.isChain_iff_getElem.mp h.linked k hnext
    obtain rfl := Option.some.inj (hl.symm.trans hchild)
    rw [hself] at hnot
    cases hnot
  · omega

theorem along_length (h : ∀ i ∈ places, i < entries.length) :
    (along places entries).length = places.length := by
  have hmap := congrArg List.length (map_unplaced_along places entries)
  have hpick := congrArg List.length (map_some_pick h)
  simp only [List.length_map] at hmap hpick
  rw [hmap, hpick]

/-- An entry of a chain has its index as position, and the part that its names and its index
give it. -/
theorem along_entry (h : IssuerPath (linksOf entries) places) {k : Nat} {e : ChainEntry}
    (he : (along places entries)[k]? = some e) :
    e.position = k ∧ (e.certificate.isSelfIssued = true → k + 1 = places.length) ∧
      e.role = if e.certificate.isSelfIssued then .root
        else if k = 0 then .leaf else .intermediate := by
  have hwithin := h.within_entries
  obtain ⟨i, given, hi, hentry, rfl⟩ := eq_place_of_along hwithin he
  have hlast : given.certificate.isSelfIssued = true → k + 1 = places.length :=
    h.last_of_selfIssued hi (linksOf_getElem? hentry)
  refine ⟨rfl, hlast, ?_⟩
  change roleAt k places.length given.certificate.isSelfIssued = if given.certificate.isSelfIssued
    then .root else if k = 0 then .leaf else .intermediate
  cases hself : given.certificate.isSelfIssued with
  | true => simp [roleAt, hlast hself]
  | false => simp [roleAt]

/-- Each entry of a chain but the last names the next one as its issuer. -/
theorem along_linked (h : IssuerPath (linksOf entries) places) :
    (along places entries).IsChain fun child parent =>
      child.certificate.isSelfIssued = false ∧
      child.certificate.issuerLine = parent.certificate.subjectLine := by
  have hwithin := h.within_entries
  have hget : ∀ (k : Nat) (e : ChainEntry), (along places entries)[k]? = some e →
      ∃ i, places[k]? = some i ∧
        (linksOf entries)[i]? = some (Link.ofCertificate e.certificate) := by
    intro k e he
    obtain ⟨i, given, hi, hentry, rfl⟩ := eq_place_of_along hwithin he
    have hlink := linksOf_getElem? hentry
    exact ⟨i, hi, hlink⟩
  refine List.isChain_iff_getElem.mpr fun k hk => ?_
  obtain ⟨i, hi, hchild⟩ := hget k _ (List.getElem?_eq_getElem (Nat.lt_of_succ_lt hk))
  obtain ⟨j, hj, hparent⟩ := hget (k + 1) _ (List.getElem?_eq_getElem hk)
  obtain ⟨hlt, rfl⟩ := List.getElem?_eq_some_iff.mp hi
  obtain ⟨hlt', rfl⟩ := List.getElem?_eq_some_iff.mp hj
  obtain ⟨child, parent, hchild', hparent', hself, hissuer, _⟩ :=
    List.isChain_iff_getElem.mp h.linked k hlt'
  obtain rfl := Option.some.inj (hchild.symm.trans hchild')
  obtain rfl := Option.some.inj (hparent.symm.trans hparent')
  exact ⟨hself, hissuer⟩

/-- Every certificate ends up either in the chain or in the remainder, once, and gets the position
and the part that belong to it there. -/
theorem assemble_partition (hne : entries ≠ []) :
    ∃ chain rest, assemble entries = .ok (chain, rest) ∧ chain ≠ [] ∧
      ((chain ++ rest).map ChainEntry.unplaced).Perm (entries.map ChainEntry.unplaced) ∧
      (rest.map ChainEntry.unplaced).Sublist (entries.map ChainEntry.unplaced) ∧
      (∀ k e, chain[k]? = some e → e.position = k ∧
        (e.certificate.isSelfIssued = true → k + 1 = chain.length) ∧
        e.role = if e.certificate.isSelfIssued then .root
          else if k = 0 then .leaf else .intermediate) ∧
      ∀ e ∈ rest, e.position = 0 ∧
        e.role = if e.certificate.isSelfIssued then .root else .leaf := by
  obtain ⟨start, hbest, heq⟩ := exists_assemble_eq hne
  have hpath := walk_issuerPath hbest.within
  have hwithin := hpath.within_entries
  have hlength := along_length hwithin
  refine ⟨_, _, heq, ?_, along_append_outside_perm hpath.nodup hwithin, outside_sublist _ _, ?_,
    fun e he => mem_outside he⟩
  · rw [← List.length_pos_iff, hlength]
    exact Nat.succ_pos _
  · intro k e he
    rw [hlength]
    exact along_entry hpath he

/-- Two certificates that name each other, a copy of the first, and a root of its own. -/
def crossSigned : List ChainEntry := [
  { certificate := .plain "east" "west" [] },
  { certificate := .plain "west" "east" [] },
  { certificate := .plain "east" "west" [] },
  { certificate := .plain "root" "root" [] }]

theorem assemble_partition_crossSigned :
    crossSigned ≠ [] ∧
      ∃ chain rest, assemble crossSigned = .ok (chain, rest) ∧ chain.length + rest.length = 4 := by
  have hne : crossSigned ≠ [] := List.cons_ne_nil _ _
  obtain ⟨chain, rest, heq, _, hperm, _⟩ := assemble_partition hne
  refine ⟨hne, chain, rest, heq, ?_⟩
  have hlength := hperm.length_eq
  simp only [List.length_map, List.length_append] at hlength
  exact hlength

/-- The chain runs along a path up the issuers that ends only where it has to. No path is longer,
and of those as long none starts at an earlier certificate. -/
theorem assemble_longest (hne : entries ≠ []) :
    ∃ chain rest start above, assemble entries = .ok (chain, rest) ∧ chain.length ≤ maxDepth ∧
      (chain.IsChain fun child parent => child.certificate.isSelfIssued = false ∧
        child.certificate.issuerLine = parent.certificate.subjectLine) ∧
      chain.map (fun e => some e.unplaced) =
        (start :: above).map (fun i => entries[i]?.map ChainEntry.unplaced) ∧
      IssuerPath (linksOf entries) (start :: above) ∧
      (∀ last, (start :: above).getLast? = some last →
        EndsAt (linksOf entries) (start :: above) last) ∧
      ∀ s other, IssuerPath (linksOf entries) (s :: other) →
        (s :: other).length ≤ (start :: above).length ∧
        ((s :: other).length = (start :: above).length → start ≤ s) := by
  obtain ⟨start, hbest, heq⟩ := exists_assemble_eq hne
  have hpath := walk_issuerPath hbest.within
  have hwithin := hpath.within_entries
  refine ⟨_, _, start, issuers (linksOf entries) (maxDepth - 1) [start] start, heq, ?_,
    along_linked hpath, ?_, hpath, fun last => walk_endsAt hbest.within, ?_⟩
  · rw [along_length hwithin]
    exact hpath.length_le
  · have hmap := congrArg (List.map some) (map_unplaced_along (walk (linksOf entries) start) entries)
    have hpick := congrArg (List.map (Option.map ChainEntry.unplaced)) (map_some_pick hwithin)
    simp only [List.map_map, Function.comp_def, Option.map_some] at hmap hpick
    rw [hmap, hpick]
    rfl
  · intro s other hother
    have hs := hother.within s List.mem_cons_self
    have hle := hother.length_le_walk
    refine ⟨Nat.le_trans hle (hbest.length_le s hs), ?_⟩
    intro hsame
    refine Nat.le_of_not_lt fun hlt => ?_
    have hshorter := hbest.before_lt s hlt
    rw [hsame] at hle
    exact absurd hle (Nat.not_le.mpr hshorter)

/-- The copy starts a longer path than what it is a copy of. -/
theorem assemble_longest_crossSigned :
    crossSigned ≠ [] ∧ ∃ chain rest, assemble crossSigned = .ok (chain, rest) ∧ 3 ≤ chain.length := by
  have hne : crossSigned ≠ [] := List.cons_ne_nil _ _
  have hup : IssuedBy (linksOf crossSigned) 2 1 := issuer?_eq_some_iff.mp (by decide +kernel)
  have hback : IssuedBy (linksOf crossSigned) 1 0 := issuer?_eq_some_iff.mp (by decide +kernel)
  have hpath : IssuerPath (linksOf crossSigned) [2, 1, 0] := by
    refine ⟨by decide, ?_, by decide, by decide⟩
    exact List.isChain_cons_cons.mpr ⟨hup, List.isChain_cons_cons.mpr
      ⟨hback, List.isChain_singleton 0⟩⟩
  obtain ⟨chain, rest, start, above, heq, _, _, hmap, _, _, hmax⟩ := assemble_longest hne
  refine ⟨hne, chain, rest, heq, ?_⟩
  have hlength := congrArg List.length hmap
  simp only [List.length_map] at hlength
  rw [hlength]
  exact (hmax 2 [1, 0] hpath).1

end CertAudit.Chain
