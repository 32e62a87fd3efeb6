/- The mappings of a certificate in another order: what becomes valid stays the same as long as no
two of them that lead on from one another change places. -/
import CertAudit.Proofs.PolicyGraph.Step
import Mathlib.Data.List.Perm.Basic
namespace CertAudit.PolicyGraph

/-- One mapping makes valid what another maps further, over three policies. -/
structure Chains (a b : PolicyMapping) : Prop where
  meets : a.subjectPolicy = b.issuerPolicy
  enters : a.issuerPolicy ≠ a.subjectPolicy
  leaves : b.issuerPolicy ≠ b.subjectPolicy
  apart : a.issuerPolicy ≠ b.subjectPolicy

/-- The same mappings, any two that chain in the same order. -/
structure KeepsChains (ms ns : List PolicyMapping) : Prop where
  perm : ns.Perm ms
  order : ∀ a b, Chains a b →
    ns.filter (fun m => m = a ∨ m = b) = ms.filter (fun m => m = a ∨ m = b)

variable {valid valid' : PolicySet} {a b m m₀ : PolicyMapping}
  {ms ns front back : List PolicyMapping}
  {p : String}

theorem applyMappings_cons (valid : PolicySet) (m : PolicyMapping) (ms : List PolicyMapping) :
    applyMappings valid (m :: ms) = applyMappings (applyMappings valid [m]) ms := rfl

theorem mem_applyMappings_singleton :
    p ∈ applyMappings valid [m] ↔
      p ∈ valid ∨ (m.issuerPolicy ∈ valid ∧ p = m.subjectPolicy) := by
  simp only [applyMappings, List.foldl_cons, List.foldl_nil]
  split
  · rename_i hissuer
    simp [List.contains_iff_mem.mp hissuer]
  · rename_i hissuer
    simp [mt List.contains_iff_mem.mpr hissuer]

/-- Mappings do not see the order of a set. -/
theorem mem_applyMappings_congr (h : ∀ p, p ∈ valid' ↔ p ∈ valid) (ms : List PolicyMapping)
    (p : String) : p ∈ applyMappings valid' ms ↔ p ∈ applyMappings valid ms := by
  induction ms generalizing valid valid' with
  | nil => exact h p
  | cons m ms ih =>
    rw [applyMappings_cons, applyMappings_cons valid]
    apply ih
    intro q
    rw [mem_applyMappings_singleton, mem_applyMappings_singleton, h, h]

theorem mem_applyMappings_pair :
    p ∈ applyMappings valid [a, b] ↔
      p ∈ valid ∨ (a.issuerPolicy ∈ valid ∧ p = a.subjectPolicy) ∨
        (b.issuerPolicy ∈ valid ∧ p = b.subjectPolicy) ∨
        (a.issuerPolicy ∈ valid ∧ a.subjectPolicy = b.issuerPolicy ∧ p = b.subjectPolicy) := by
  rw [applyMappings_cons, mem_applyMappings_singleton, mem_applyMappings_singleton,
    mem_applyMappings_singleton, @eq_comm _ b.issuerPolicy]
  tauto

/-- The one policy that an order of two mappings may add and the other may not is at the end of a
chain. -/
theorem mem_applyMappings_pair_of_not_chains (h : ¬ Chains a b)
    (hp : p ∈ applyMappings valid [a, b]) : p ∈ applyMappings valid [b, a] := by
  rw [mem_applyMappings_pair] at hp ⊢
  rcases hp with hp | ⟨ha, hp⟩ | ⟨hb, hp⟩ | ⟨ha, hmeets, hp⟩
  · exact .inl hp
  · exact .inr (.inr (.inl ⟨ha, hp⟩))
  · exact .inr (.inl ⟨hb, hp⟩)
  · by_cases henters : a.issuerPolicy = a.subjectPolicy
    · exact .inr (.inl ⟨by rwa [← hmeets, ← henters], hp⟩)
    by_cases hleaves : b.issuerPolicy = b.subjectPolicy
    · exact .inr (.inr (.inl ⟨ha, by rw [hp, ← hleaves, hmeets]⟩))
    by_cases hapart : a.issuerPolicy = b.subjectPolicy
    · exact .inl (by rwa [hp, ← hapart])
    · exact absurd ⟨hmeets, henters, hleaves, hapart⟩ h

theorem mem_applyMappings_swap (hab : ¬ Chains a b) (hba : ¬ Chains b a) :
    p ∈ applyMappings valid [a, b] ↔ p ∈ applyMappings valid [b, a] :=
  ⟨mem_applyMappings_pair_of_not_chains hab, mem_applyMappings_pair_of_not_chains hba⟩

/-- A mapping may be brought to the front past others that it does not chain with. -/
theorem mem_applyMappings_bubble (h : ∀ m ∈ front, ¬ Chains a m ∧ ¬ Chains m a) :
    p ∈ applyMappings valid (front ++ a :: back) ↔
      p ∈ applyMappings valid (a :: (front ++ back)) := by
  induction front generalizing valid with
  | nil => rfl
  | cons m front ih =>
    obtain ⟨ham, hma⟩ := h m List.mem_cons_self
    have hrest : p ∈ applyMappings valid (m :: (front ++ a :: back)) ↔
        p ∈ applyMappings (applyMappings valid [m, a]) (front ++ back) :=
      ih fun n hn => h n (List.mem_cons_of_mem m hn)
    have hswap : p ∈ applyMappings (applyMappings valid [m, a]) (front ++ back) ↔
        p ∈ applyMappings (applyMappings valid [a, m]) (front ++ back) :=
      mem_applyMappings_congr (fun _ => mem_applyMappings_swap hma ham) _ p
    exact hrest.trans hswap

/-- What stands before the first mapping of a list does not chain with it. -/
theorem KeepsChains.not_chains (h : KeepsChains (a :: ms) (front ++ a :: back)) (ha : a ∉ front) :
    ∀ m ∈ front, ¬ Chains a m ∧ ¬ Chains m a := by
  intro m hm
  have hfirst : ∀ q : PolicyMapping → Bool, q a = true → q m = true →
      (front ++ a :: back).filter q ≠ (a :: ms).filter q := by
    intro q hqa hqm heq
    obtain ⟨x, rest, hx⟩ := List.exists_cons_of_ne_nil
      (List.ne_nil_of_mem (List.mem_filter.mpr ⟨hm, hqm⟩))
    rw [List.filter_append, hx, List.filter_cons_of_pos hqa, List.filter_cons_of_pos hqa] at heq
    have hmem : x ∈ front := (List.mem_filter.mp (hx ▸ List.mem_cons_self)).1
    exact ha ((List.cons.inj heq).1 ▸ hmem)
  refine ⟨fun hchain => ?_, fun hchain => ?_⟩
  · exact hfirst _ (by simp) (by simp) (h.order a m hchain)
  · exact hfirst _ (by simp) (by simp) (h.order m a hchain)

/-- Of two mappings that chain, only the one at hand may stand among mappings that it does not chain
with. -/
theorem filter_pair_eq_nil (hfront : ∀ m ∈ front, ¬ Chains m₀ m ∧ ¬ Chains m m₀) (hm₀ : m₀ ∉ front)
    (hchain : Chains a b) (hpair : m₀ = a ∨ m₀ = b) :
    front.filter (fun m => m = a ∨ m = b) = [] := by
  rw [List.filter_eq_nil_iff]
  intro m hm hab
  have hne : m ≠ m₀ := fun heq => hm₀ (heq ▸ hm)
  rcases hpair with rfl | rfl
  · exact (hfront m hm).1 ((of_decide_eq_true hab).resolve_left hne ▸ hchain)
  · exact (hfront m hm).2 ((of_decide_eq_true hab).resolve_right hne ▸ hchain)

/-- A mapping may stand anywhere among mappings that it does not chain with. -/
theorem keepsChains_middle (hfront : ∀ m ∈ front, ¬ Chains m₀ m ∧ ¬ Chains m m₀)
    (hm₀ : m₀ ∉ front) (back : List PolicyMapping) :
    KeepsChains (m₀ :: (front ++ back)) (front ++ m₀ :: back) := by
  refine ⟨List.perm_middle, ?_⟩
  intro a b hchain
  by_cases hpair : m₀ = a ∨ m₀ = b
  · have hnone := filter_pair_eq_nil hfront hm₀ hchain hpair
    rw [List.filter_append, hnone, List.filter_cons_of_pos (by simpa using hpair),
      List.filter_cons_of_pos (by simpa using hpair), List.filter_append, hnone, List.nil_append,
      List.nil_append]
  · rw [List.filter_append, List.filter_cons_of_neg (by simpa using hpair),
      List.filter_cons_of_neg (by simpa using hpair), List.filter_append]

theorem KeepsChains.tail (h : KeepsChains (m₀ :: ms) (front ++ m₀ :: back)) (hm₀ : m₀ ∉ front) :
    KeepsChains ms (front ++ back) := by
  refine ⟨List.Perm.cons_inv (List.perm_middle.symm.trans h.perm), ?_⟩
  intro a b hchain
  have horder := (keepsChains_middle (h.not_chains hm₀) hm₀ back).order a b hchain
  rw [h.order a b hchain] at horder
  by_cases hpair : m₀ = a ∨ m₀ = b
  · rw [List.filter_cons_of_pos (by simpa using hpair),
      List.filter_cons_of_pos (by simpa using hpair)] at horder
    exact (List.cons.inj horder).2.symm
  · rw [List.filter_cons_of_neg (by simpa using hpair),
      List.filter_cons_of_neg (by simpa using hpair)] at horder
    exact horder.symm

theorem KeepsChains.mem_applyMappings (h : KeepsChains ms ns) :
    p ∈ applyMappings valid ns ↔ p ∈ applyMappings valid ms := by
  -- The first mapping is brought to the front of the other list, past what it does not chain with.
  induction ms generalizing ns valid with
  | nil => rw [h.perm.eq_nil]
  | cons a ms ih =>
    obtain ⟨front, back, rfl, ha⟩ :=
      List.eq_append_cons_of_mem (h.perm.mem_iff.mpr List.mem_cons_self)
    rw [mem_applyMappings_bubble (h.not_chains ha), applyMappings_cons, applyMappings_cons valid]
    exact ih (h.tail ha)

/-- Two mappings that chain add more one after the other than in the other order. -/
theorem Chains.mem_applyMappings (h : Chains a b) :
    b.subjectPolicy ∈ applyMappings [a.issuerPolicy] [a, b] ∧
      b.subjectPolicy ∉ applyMappings [a.issuerPolicy] [b, a] := by
  obtain ⟨hmeets, henters, hleaves, hapart⟩ := h
  constructor
  · exact mem_applyMappings_pair.mpr (.inr (.inr (.inr ⟨List.mem_singleton_self _, hmeets, rfl⟩)))
  · have hissuer : b.issuerPolicy ≠ a.issuerPolicy := hmeets ▸ henters.symm
    rw [mem_applyMappings_pair]
    simp [hmeets, hissuer, hleaves.symm, hapart.symm]

end CertAudit.PolicyGraph
