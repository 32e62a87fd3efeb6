/- Certificates in another order. As long as their subjects differ, walks up the issuers run through
the same certificates, so the chain stays the same if only one certificate starts a longest walk. -/
import CertAudit.Proofs.Chain.Assembly
namespace CertAudit.Chain

/-- One list holds at one place what another list holds at another place. -/
def Same (entries entries' : List ChainEntry) (i i' : Nat) : Prop :=
  ∃ e, entries[i]? = some e ∧ entries'[i']? = some e

/-- The same entries in another order, no two with one subject. -/
structure Renumbered (entries entries' : List ChainEntry) : Prop where
  perm : entries.Perm entries'
  subjects : (entries.map fun e => e.certificate.subjectLine).Nodup

variable {entries entries' : List ChainEntry} {i i' j j' : Nat}

theorem Same.symm (h : Same entries entries' i i') : Same entries' entries i' i := by
  obtain ⟨e, hi, hi'⟩ := h
  exact ⟨e, hi', hi⟩

theorem Same.lt_length (h : Same entries entries' i i') : i < entries.length := by
  obtain ⟨_, hi, _⟩ := h
  exact (List.getElem?_eq_some_iff.mp hi).1

namespace Renumbered

theorem symm (h : Renumbered entries entries') : Renumbered entries' entries :=
  ⟨h.perm.symm, (h.perm.map _).nodup_iff.mp h.subjects⟩

theorem exists_same (h : Renumbered entries entries') (hi : i < entries.length) :
    ∃ i', Same entries entries' i i' := by
  have hmem : entries[i] ∈ entries' := h.perm.mem_iff.mp (List.getElem_mem hi)
  obtain ⟨i', hi'⟩ := List.mem_iff_getElem?.mp hmem
  exact ⟨i', entries[i], List.getElem?_eq_getElem hi, hi'⟩

/-- An entry is told by its subject. -/
theorem place_unique (h : Renumbered entries entries') {e other : ChainEntry}
    (hi : entries[i]? = some e) (hj : entries[j]? = some other)
    (hsubject : e.certificate.subjectLine = other.certificate.subjectLine) : i = j := by
  refine (List.getElem?_inj ?_ h.subjects).mp ?_
  · rw [List.length_map]
    exact (List.getElem?_eq_some_iff.mp hi).1
  · simp only [List.getElem?_map, hi, hj, Option.map_some, hsubject]

theorem same_iff (h : Renumbered entries entries') (hi : Same entries entries' i i')
    (hj : Same entries entries' j j') : i = j ↔ i' = j' := by
  obtain ⟨e, hi, hi'⟩ := hi
  obtain ⟨other, hj, hj'⟩ := hj
  constructor
  · rintro rfl
    obtain rfl : e = other := Option.some.inj (hi.symm.trans hj)
    exact h.symm.place_unique hi' hj' rfl
  · rintro rfl
    obtain rfl : e = other := Option.some.inj (hi'.symm.trans hj')
    exact h.place_unique hi hj rfl

theorem mem_iff (h : Renumbered entries entries') {places places' : List Nat}
    (hplaces : List.Forall₂ (Same entries entries') places places')
    (hj : Same entries entries' j j') : j ∈ places ↔ j' ∈ places' := by
  induction hplaces with
  | nil => simp
  | cons hi _ ih => simp only [List.mem_cons, h.same_iff hj hi, ih]

/-- The issuer is the one certificate with the subject that is looked for, wherever it stands. -/
theorem exists_issuer (h : Renumbered entries entries') (hi : Same entries entries' i i')
    (hj : issuer? (linksOf entries) i = some j) :
    ∃ j', issuer? (linksOf entries') i' = some j' ∧ Same entries entries' j j' := by
  obtain ⟨e, hi, hi'⟩ := hi
  have hissued := issuer?_eq_some_iff.mp hj
  have hlt : j < entries.length := by simpa only [linksOf_length] using hissued.lt_length
  obtain ⟨child, parent, hchild, hparent, hself, hissuer, _⟩ := hissued
  obtain rfl := Option.some.inj ((linksOf_getElem? hi).symm.trans hchild)
  obtain ⟨j', issuer, hat, hat'⟩ := h.exists_same hlt
  obtain rfl := Option.some.inj ((linksOf_getElem? hat).symm.trans hparent)
  refine ⟨j', issuer?_eq_some_iff.mpr ?_, issuer, hat, hat'⟩
  refine ⟨_, _, linksOf_getElem? hi', linksOf_getElem? hat', hself, hissuer, ?_⟩
  intro k other hk hother hsubject
  have hk' : k < entries'.length := by
    simpa only [linksOf_length] using (List.getElem?_eq_some_iff.mp hother).1
  have hk'' := List.getElem?_eq_getElem hk'
  obtain rfl := Option.some.inj ((linksOf_getElem? hk'').symm.trans hother)
  obtain rfl := h.symm.place_unique hk'' hat' (hsubject.trans hissuer)
  exact Nat.lt_irrefl _ hk

theorem issuer?_eq_none (h : Renumbered entries entries') (hi : Same entries entries' i i')
    (hnone : issuer? (linksOf entries) i = none) : issuer? (linksOf entries') i' = none := by
  cases hissuer : issuer? (linksOf entries') i' with
  | none => rfl
  | some j' =>
    obtain ⟨j, hj, _⟩ := h.symm.exists_issuer hi.symm hissuer
    cases hnone.symm.trans hj

/-- From the same certificate, with the same ones seen before, the way up the issuers is the
same. -/
theorem issuers_same (h : Renumbered entries entries') {fuel : Nat} {seen seen' : List Nat}
    (hseen : List.Forall₂ (Same entries entries') seen seen') (hi : Same entries entries' i i') :
    List.Forall₂ (Same entries entries') (issuers (linksOf entries) fuel seen i)
      (issuers (linksOf entries') fuel seen' i') := by
  induction fuel generalizing seen seen' i i' with
  | zero => exact .nil
  | succ fuel ih =>
    obtain ⟨hnone, hstop⟩ | ⟨j, hj, hmem, hstop⟩ | ⟨j, hj, hnew, hgo⟩ :=
      issuers_succ_cases (linksOf entries) fuel seen i
    · have hnone' := h.issuer?_eq_none hi hnone
      rw [hstop, issuers, hnone']
      exact .nil
    · obtain ⟨j', hj', hsame⟩ := h.exists_issuer hi hj
      have hmem' := (h.mem_iff hseen hsame).mp hmem
      rw [hstop, issuers, hj']
      simp only [List.contains_iff_mem.mpr hmem', if_true]
      exact .nil
    · obtain ⟨j', hj', hsame⟩ := h.exists_issuer hi hj
      have hnew' := mt (h.mem_iff hseen hsame).mpr hnew
      rw [hgo, issuers, hj']
      simp only [List.contains_iff_mem, hnew', if_false]
      exact .cons hsame (ih (.cons hsame hseen) hsame)

theorem walk_same (h : Renumbered entries entries') (hi : Same entries entries' i i') :
    List.Forall₂ (Same entries entries') (walk (linksOf entries) i)
      (walk (linksOf entries') i') :=
  .cons hi (h.issuers_same (.cons hi .nil) hi)

end Renumbered

theorem pick_eq_of_same {places places' : List Nat}
    (h : List.Forall₂ (Same entries entries') places places') :
    pick entries places = pick entries' places' := by
  induction h with
  | nil => rfl
  | cons hi _ ih =>
    obtain ⟨e, hi, hi'⟩ := hi
    simpa only [pick, List.filterMap_cons, hi, hi', List.cons.injEq, true_and] using ih

theorem along_eq_of_same {places places' : List Nat}
    (h : List.Forall₂ (Same entries entries') places places') :
    along places entries = along places' entries' := by
  rw [along_eq_pick, along_eq_pick, pick_eq_of_same h, h.length_eq]

/-- Outside places that hold the same entries there are the same entries too. -/
theorem outside_perm_of_same (h : entries.Perm entries') {places places' : List Nat}
    (hplaces : IssuerPath (linksOf entries) places)
    (hplaces' : IssuerPath (linksOf entries') places')
    (hsame : List.Forall₂ (Same entries entries') places places') :
    (outside places entries).Perm (outside places' entries') := by
  have hall := pick_append_pick_perm hplaces.nodup hplaces.within_entries
  have hall' := pick_append_pick_perm hplaces'.nodup hplaces'.within_entries
  rw [← pick_eq_of_same hsame] at hall'
  have hrest := (List.perm_append_left_iff _).mp ((hall.trans h).trans hall'.symm)
  rw [outside_eq_pick, outside_eq_pick]
  exact hrest.map _

/-- A place from which a longest path up the issuers starts. -/
def LongestStart (links : List Link) (s : Nat) : Prop :=
  ∃ above, IssuerPath links (s :: above) ∧
    ∀ t other, IssuerPath links (t :: other) → (t :: other).length ≤ (s :: above).length

theorem longestStart_iff {links : List Link} {s : Nat} :
    LongestStart links s ↔ s < links.length ∧
      ∀ t, t < links.length → (walk links t).length ≤ (walk links s).length := by
  constructor
  · rintro ⟨above, hpath, hmax⟩
    refine ⟨hpath.within s List.mem_cons_self, ?_⟩
    intro t ht
    exact Nat.le_trans (hmax t _ (walk_issuerPath ht)) hpath.length_le_walk
  · rintro ⟨hs, hmax⟩
    refine ⟨_, walk_issuerPath hs, ?_⟩
    intro t other hother
    have ht := hother.within t List.mem_cons_self
    exact Nat.le_trans hother.length_le_walk (hmax t ht)

theorem BestStart.longestStart {links : List Link} {s : Nat} (h : BestStart links s) :
    LongestStart links s :=
  longestStart_iff.mpr ⟨h.within, h.length_le⟩

/-- Longest paths start at the same certificates, wherever these stand. -/
theorem Renumbered.longestStart (h : Renumbered entries entries')
    (hi : Same entries entries' i i') (hlongest : LongestStart (linksOf entries') i') :
    LongestStart (linksOf entries) i := by
  obtain ⟨_, hmax⟩ := longestStart_iff.mp hlongest
  refine longestStart_iff.mpr ⟨?_, ?_⟩
  · rw [linksOf_length]
    exact hi.lt_length
  · intro t ht
    rw [linksOf_length] at ht
    obtain ⟨t', hsame⟩ := h.exists_same ht
    rw [(h.walk_same hsame).length_eq, (h.walk_same hi).length_eq]
    refine hmax t' ?_
    rw [linksOf_length]
    exact hsame.symm.lt_length

/-- If subjects differ and only one certificate starts a longest path, the chain does not depend on
the order of the certificates, and what is left over is the same up to its order. -/
theorem assemble_reordered (h : entries.Perm entries')
    (hsubjects : (entries.map fun e => e.certificate.subjectLine).Nodup)
    (hunique : ∃! s, LongestStart (linksOf entries) s) :
    ∃ chain rest rest', assemble entries = .ok (chain, rest) ∧
      assemble entries' = .ok (chain, rest') ∧ rest.Perm rest' := by
  have hrenumbered : Renumbered entries entries' := ⟨h, hsubjects⟩
  have hne : entries ≠ [] := by
    rintro rfl
    obtain ⟨s, hs, _⟩ := hunique
    exact absurd (longestStart_iff.mp hs).1 (Nat.not_lt_zero s)
  have hne' : entries' ≠ [] := by
    rintro rfl
    exact hne h.eq_nil
  obtain ⟨start, hbest, heq⟩ := exists_assemble_eq hne
  obtain ⟨start', hbest', heq'⟩ := exists_assemble_eq hne'
  have hstart' : start' < entries'.length := by simpa only [linksOf_length] using hbest'.within
  obtain ⟨s, hsame⟩ := hrenumbered.symm.exists_same hstart'
  -- The start in the new order is a longest start in the old one, where there is only one.
  have hlongest := hrenumbered.longestStart hsame.symm hbest'.longestStart
  obtain rfl := hunique.unique hlongest hbest.longestStart
  have hwalk := hrenumbered.walk_same hsame.symm
  refine ⟨_, _, _, heq, ?_, outside_perm_of_same h (walk_issuerPath hbest.within)
    (walk_issuerPath hbest'.within) hwalk⟩
  rw [heq', along_eq_of_same hwalk]

/-- A certificate below two that name each other, and a root of its own. -/
def belowCycle : List ChainEntry := [
  { certificate := .plain "east" "west" [] },
  { certificate := .plain "leaf" "east" [] },
  { certificate := .plain "west" "east" [] },
  { certificate := .plain "root" "root" [] }]

theorem belowCycle_longestStart : ∃! s, LongestStart (linksOf belowCycle) s := by
  have hwalks : ∀ s, s < 4 → ((∀ t, t < 4 → (walk (linksOf belowCycle) t).length ≤
      (walk (linksOf belowCycle) s).length) ↔ s = 1) := by
    decide +kernel
  refine ⟨1, longestStart_iff.mpr ⟨by decide, (hwalks 1 (by decide)).mpr rfl⟩, ?_⟩
  intro s hs
  obtain ⟨hlt, hmax⟩ := longestStart_iff.mp hs
  exact (hwalks s hlt).mp hmax

theorem assemble_reordered_belowCycle :
    ∃ chain rest rest', assemble belowCycle = .ok (chain, rest) ∧
      assemble belowCycle.reverse = .ok (chain, rest') ∧ rest.Perm rest' ∧ chain.length = 3 := by
  obtain ⟨chain, rest, rest', heq, heq', hperm⟩ := assemble_reordered
    (List.reverse_perm belowCycle).symm (by decide) belowCycle_longestStart
  obtain ⟨parts, hparts, hlength⟩ : ∃ parts, assemble belowCycle = .ok parts ∧
      parts.1.length = 3 := ⟨_, rfl, rfl⟩
  cases hparts.symm.trans heq
  exact ⟨chain, rest, rest', heq, heq', hperm, hlength⟩

end CertAudit.Chain
