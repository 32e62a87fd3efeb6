/- Entries that run up the issuers already, no two with one subject, are their own chain. A chain that
was built is such a run, so to build it again changes nothing. -/
import CertAudit.Proofs.Chain.Renumbering
import Mathlib.Data.List.Perm.Subperm
namespace CertAudit.Chain

/-- Each entry is issued by the next, subjects differ, and all of it fits the depth. Where the issuer
of the last one stands does not count. -/
structure Run (entries : List ChainEntry) : Prop where
  linked : entries.IsChain fun child parent => child.certificate.isSelfIssued = false ∧
    child.certificate.issuerLine = parent.certificate.subjectLine
  subjects : (entries.map fun e => e.certificate.subjectLine).Nodup
  length_le : entries.length ≤ maxDepth

variable {links : List Link} {entries chain again : List ChainEntry} {places : List Nat}

/-- The links leave no choice, so paths from one place differ in their lengths only. -/
theorem eq_of_linked {start : Nat} {rest rest' : List Nat}
    (h : (start :: rest).IsChain (IssuedBy links)) (h' : (start :: rest').IsChain (IssuedBy links))
    (hlength : rest.length = rest'.length) : rest = rest' := by
  induction rest generalizing start rest' with
  | nil => exact (List.length_eq_zero_iff.mp hlength.symm).symm
  | cons j rest ih =>
    obtain ⟨j', rest', rfl⟩ := List.exists_cons_of_length_eq_add_one hlength.symm
    obtain ⟨hj, hrest⟩ := List.isChain_cons_cons.mp h
    obtain ⟨hj', hrest'⟩ := List.isChain_cons_cons.mp h'
    obtain rfl : j = j' := Option.some.inj
      ((issuer?_eq_some_iff.mpr hj).symm.trans (issuer?_eq_some_iff.mpr hj'))
    rw [ih hrest hrest' (Nat.succ.inj hlength)]

/-- No path is longer than there are entries. -/
theorem IssuerPath.length_le_entries (h : IssuerPath (linksOf entries) places) :
    places.length ≤ entries.length := by
  have hsubset : places ⊆ List.range entries.length := fun i hi =>
    List.mem_range.mpr (h.within_entries i hi)
  simpa only [List.length_range] using (List.subperm_of_subset h.nodup hsubset).length_le

namespace Run

/-- The subject that is looked for stands nowhere else. -/
theorem issuedBy (h : Run entries) {k : Nat} (hk : k + 1 < entries.length) :
    IssuedBy (linksOf entries) k (k + 1) := by
  obtain ⟨hself, hissuer⟩ := List.isChain_iff_getElem.mp h.linked k hk
  have hchild := List.getElem?_eq_getElem (Nat.lt_of_succ_lt hk)
  have hparent := List.getElem?_eq_getElem hk
  have hunique : Renumbered entries entries := ⟨.refl entries, h.subjects⟩
  refine ⟨_, _, linksOf_getElem? hchild, linksOf_getElem? hparent, hself, hissuer, ?_⟩
  intro i other hi hother hsubject
  have hentry := List.getElem?_eq_getElem (Nat.lt_trans hi hk)
  obtain rfl := Option.some.inj ((linksOf_getElem? hentry).symm.trans hother)
  exact Nat.ne_of_lt hi (hunique.place_unique hentry hparent (hsubject.trans hissuer))

theorem issuerPath (h : Run entries) :
    IssuerPath (linksOf entries) (List.range entries.length) := by
  refine ⟨?_, ?_, List.nodup_range, ?_⟩
  · simp only [linksOf_length, List.mem_range, imp_self, implies_true]
  · refine List.isChain_iff_getElem.mpr fun k hk => ?_
    rw [List.length_range] at hk
    simpa only [List.getElem_range] using h.issuedBy hk
  · rw [List.length_range]
    exact h.length_le

/-- The walk from the first entry takes them all, as it is no shorter than the path through them. -/
theorem walk_eq (h : Run entries) (hne : entries ≠ []) :
    walk (linksOf entries) 0 = List.range entries.length := by
  obtain ⟨n, hn⟩ := Nat.exists_eq_succ_of_ne_zero (mt List.length_eq_zero_iff.mp hne)
  have hpath := h.issuerPath
  rw [hn, List.range_succ_eq_map] at hpath ⊢
  have hstart : 0 < (linksOf entries).length := by
    rw [linksOf_length, hn]
    exact Nat.succ_pos n
  have hwalk := walk_issuerPath hstart
  have hge := hwalk.length_le_entries
  have hle := hpath.length_le_walk
  simp only [walk, hn, List.length_cons, List.length_map, List.length_range] at hge hle
  have hlength : (issuers (linksOf entries) (maxDepth - 1) [0] 0).length =
      ((List.range n).map Nat.succ).length := by
    rw [List.length_map, List.length_range]
    omega
  exact congrArg (0 :: ·) (eq_of_linked hwalk.linked hpath.linked hlength)

/-- Entries of a run make up one chain in their order, with none left over. -/
theorem assemble_eq (h : Run entries) (hne : entries ≠ []) :
    assemble entries = .ok (along (List.range entries.length) entries, []) := by
  obtain ⟨start, hbest, heq⟩ := exists_assemble_eq hne
  have hwalk := h.walk_eq hne
  -- A later start would have to start a longer walk, but the first one takes all entries.
  obtain rfl : start = 0 := by
    refine Nat.eq_zero_of_not_pos fun hlater => ?_
    have hshorter := hbest.before_lt 0 hlater
    rw [hwalk, List.length_range] at hshorter
    exact absurd (walk_issuerPath hbest.within).length_le_entries (Nat.not_le.mpr hshorter)
  have hnone : ((List.range entries.length).filter fun i =>
      !(List.range entries.length).contains i) = [] := by
    refine List.filter_eq_nil_iff.mpr fun i hi => ?_
    simp only [List.contains_iff_mem.mpr hi, Bool.not_true, Bool.false_eq_true, not_false_eq_true]
  rw [heq, hwalk, outside_eq_pick, hnone]
  rfl

/-- Where the entries of a run stood before does not count. -/
theorem of_unplaced (h : Run chain)
    (hsame : again.map ChainEntry.unplaced = chain.map ChainEntry.unplaced) : Run again := by
  have hsubjects : again.map (fun e => e.certificate.subjectLine) =
      chain.map fun e => e.certificate.subjectLine := by
    have hmap := congrArg (List.map fun e : ChainEntry => e.certificate.subjectLine) hsame
    rwa [List.map_map, List.map_map] at hmap
  have hlength : again.length = chain.length := by
    simpa only [List.length_map] using congrArg List.length hsame
  refine ⟨?_, hsubjects ▸ h.subjects, hlength ▸ h.length_le⟩
  have hlinked := (List.isChain_map ChainEntry.unplaced (R := fun child parent : ChainEntry =>
    child.certificate.isSelfIssued = false ∧
      child.certificate.issuerLine = parent.certificate.subjectLine)).mpr h.linked
  rw [← hsame] at hlinked
  exact (List.isChain_map ChainEntry.unplaced).mp hlinked

end Run

/-- A chain from certificates with different subjects is a run. -/
theorem run_along (hsubjects : (entries.map fun e => e.certificate.subjectLine).Nodup)
    (h : IssuerPath (linksOf entries) places) : Run (along places entries) where
  linked := along_linked h
  subjects := by
    have hperm := (along_append_outside_perm h.nodup h.within_entries).map
      fun e => e.certificate.subjectLine
    simp only [List.map_map, List.map_append] at hperm
    exact (List.nodup_append.mp (hperm.nodup_iff.mpr hsubjects)).1
  length_le := by
    rw [along_length h.within_entries]
    exact h.length_le

/-- The entries of a chain, taken in their order, are put where they stand in the chain. -/
theorem along_range (hwithin : ∀ i ∈ places, i < entries.length)
    (hsame : again.map ChainEntry.unplaced = (along places entries).map ChainEntry.unplaced) :
    along (List.range again.length) again = along places entries := by
  have hplace : ∀ (n : Nat) (given : List ChainEntry),
      (given.zipIdx.map fun x => place n x.2 x.1) =
        (given.map ChainEntry.unplaced).zipIdx.map fun x => place n x.2 x.1 := by
    intro n given
    rw [List.zipIdx_map, List.map_map]
    rfl
  have hlength : again.length = places.length := by
    have hmap := congrArg List.length hsame
    rwa [List.length_map, List.length_map, along_length hwithin] at hmap
  rw [along_eq_pick, along_eq_pick, pick_range, List.length_range, hlength, hplace, hsame,
    map_unplaced_along, ← hplace]

/-- A chain that is built from certificates with different subjects comes out again when it is built
from its own certificates, whatever places these had, and none of them is left over. -/
theorem assemble_again (hne : entries ≠ [])
    (hsubjects : (entries.map fun e => e.certificate.subjectLine).Nodup) :
    ∃ chain rest, assemble entries = .ok (chain, rest) ∧
      ∀ again, again.map ChainEntry.unplaced = chain.map ChainEntry.unplaced →
        assemble again = .ok (chain, []) := by
  obtain ⟨start, hbest, heq⟩ := exists_assemble_eq hne
  have hpath := walk_issuerPath hbest.within
  refine ⟨_, _, heq, fun again hsame => ?_⟩
  have hagain : again ≠ [] := by
    rintro rfl
    have hnil := congrArg List.length hsame
    rw [List.length_map, List.length_map, along_length hpath.within_entries] at hnil
    exact absurd hnil (Nat.succ_ne_zero _).symm
  rw [((run_along hsubjects hpath).of_unplaced hsame).assemble_eq hagain,
    along_range hpath.within_entries hsame]

/-- The chain ends where two certificates name each other. -/
theorem assemble_again_belowCycle :
    belowCycle ≠ [] ∧ (belowCycle.map fun e => e.certificate.subjectLine).Nodup ∧
      ∃ chain rest, assemble belowCycle = .ok (chain, rest) ∧ chain.length = 3 ∧
        assemble chain = .ok (chain, []) := by
  have hne : belowCycle ≠ [] := List.cons_ne_nil _ _
  have hsubjects : (belowCycle.map fun e => e.certificate.subjectLine).Nodup := by decide
  obtain ⟨chain, rest, heq, hagain⟩ := assemble_again hne hsubjects
  obtain ⟨parts, hparts, hlength⟩ : ∃ parts, assemble belowCycle = .ok parts ∧
      parts.1.length = 3 := ⟨_, rfl, rfl⟩
  cases hparts.symm.trans heq
  exact ⟨hne, hsubjects, chain, rest, heq, hlength, hagain chain rfl⟩

end CertAudit.Chain
