/- What one certificate does to the policies that are valid above it, which stay a set: none comes
twice. -/
import CertAudit.Operator.PolicyGraph
import Mathlib.Data.List.Nodup
namespace CertAudit.PolicyGraph

open Identifiers (anyPolicy)

@[simp] theorem mem_add {policies : PolicySet} {p q : String} :
    q ∈ add policies p ↔ q ∈ policies ∨ q = p := by
  unfold add
  split
  · rename_i hp
    have hmem : p ∈ policies := by simpa using hp
    constructor
    · exact .inl
    · rintro (h | rfl)
      · exact h
      · exact hmem
  · simp only [List.mem_append, List.mem_singleton]

theorem add_nodup {policies : PolicySet} (h : policies.Nodup) (p : String) :
    (add policies p).Nodup := by
  unfold add
  split
  · exact h
  · rename_i hp
    have hnot : p ∉ policies := by simpa using hp
    refine List.nodup_append.mpr ⟨h, List.nodup_singleton p, ?_⟩
    intro q hq r hr
    rw [List.mem_singleton.mp hr]
    exact fun same => hnot (same ▸ hq)

@[simp] theorem mem_foldl_add {others kept : PolicySet} {p : String} :
    p ∈ others.foldl add kept ↔ p ∈ kept ∨ p ∈ others := by
  induction others generalizing kept with
  | nil => simp only [List.foldl_nil, List.not_mem_nil, or_false]
  | cons q others ih => simp only [List.foldl_cons, ih, mem_add, List.mem_cons, or_assoc]

theorem foldl_add_nodup {kept : PolicySet} (h : kept.Nodup) (others : PolicySet) :
    (others.foldl add kept).Nodup := by
  induction others generalizing kept with
  | nil => exact h
  | cons q others ih => exact ih (add_nodup h q)

/-- Agreement of two sets. The policy for all policies stays exactly where it is declared. -/
theorem mem_intersect {valid declared : PolicySet} {p : String} :
    p ∈ intersect valid declared ↔
      (p ∈ declared ∧ (anyPolicy ∈ valid ∨ p ∈ valid)) ∨
      (p ∈ valid ∧ (anyPolicy ∈ declared ∨ p ∈ declared)) ∨
      (p = anyPolicy ∧ anyPolicy ∈ declared) := by
  unfold intersect
  by_cases hany : anyPolicy ∈ declared
  · simp [hany, or_assoc]
  · simp [hany]

theorem intersect_nodup {declared : PolicySet} (h : declared.Nodup) (valid : PolicySet) :
    (intersect valid declared).Nodup := by
  have both := foldl_add_nodup (h.filter fun p => valid.contains anyPolicy || valid.contains p)
    (valid.filter fun p => declared.contains anyPolicy || declared.contains p)
  simp only [intersect]
  split
  · exact add_nodup both anyPolicy
  · exact both

theorem anyPolicy_mem_narrow {valid declared : PolicySet} :
    anyPolicy ∈ narrow valid declared ↔ anyPolicy ∈ declared := by
  unfold narrow
  split
  · rename_i hempty
    simp [List.isEmpty_iff.mp hempty]
  · split
    · rfl
    · rw [mem_intersect]
      constructor
      · rintro (⟨h, _⟩ | ⟨_, h | h⟩ | ⟨_, h⟩) <;> exact h
      · exact fun h => .inr (.inr ⟨rfl, h⟩)

/-- A policy of its own stays valid by being declared, or under a declared wildcard; it becomes
valid where a wildcard was valid above. -/
theorem mem_narrow_of_ne {valid declared : PolicySet} {p : String} (hp : p ≠ anyPolicy) :
    p ∈ narrow valid declared ↔
      (p ∈ declared ∧ anyPolicy ∈ valid) ∨
      (p ∈ valid ∧ (p ∈ declared ∨ anyPolicy ∈ declared)) := by
  unfold narrow
  split
  · rename_i hempty
    simp [List.isEmpty_iff.mp hempty]
  · split
    · rename_i hvalid
      simp [hvalid, hp]
    · rw [mem_intersect]
      simp only [hp, false_and, or_false]
      constructor
      · rintro (⟨hd, h | h⟩ | ⟨hv, h | h⟩)
        · exact .inl ⟨hd, h⟩
        · exact .inr ⟨h, .inl hd⟩
        · exact .inr ⟨hv, .inr h⟩
        · exact .inr ⟨hv, .inl h⟩
      · rintro (⟨hd, h⟩ | ⟨hv, h | h⟩)
        · exact .inl ⟨hd, .inl h⟩
        · exact .inr ⟨hv, .inr h⟩
        · exact .inr ⟨hv, .inl h⟩

theorem narrow_nodup {declared : PolicySet} (h : declared.Nodup) (valid : PolicySet) :
    (narrow valid declared).Nodup := by
  unfold narrow
  split
  · exact List.nodup_nil
  · split
    · exact h
    · exact intersect_nodup h valid

theorem applyMappings_nodup {valid : PolicySet} (h : valid.Nodup) (mappings : List PolicyMapping) :
    (applyMappings valid mappings).Nodup := by
  induction mappings generalizing valid with
  | nil => exact h
  | cons m mappings ih =>
    simp only [applyMappings, List.foldl_cons] at ih ⊢
    split
    · exact ih (add_nodup h m.subjectPolicy)
    · exact ih h

theorem eraseDups_nodup (policies : List String) : policies.eraseDups.Nodup := by
  match policies with
  | [] => exact List.nodup_nil
  | p :: rest =>
    rw [List.eraseDups_cons]
    refine List.nodup_cons.mpr ⟨?_, eraseDups_nodup _⟩
    simp [List.mem_eraseDups]
termination_by policies.length
decreasing_by
  exact Nat.lt_succ_of_le (List.length_filter_le _ _)

theorem declaredAt_nodup (s : State) (step : Nat) (c : Certificate) :
    (declaredAt s step c).Nodup := by
  simp only [declaredAt]
  split
  · exact (eraseDups_nodup _).filter _
  · exact eraseDups_nodup _

theorem advance_nodup (s : State) (step : Nat) (c : Certificate) :
    (advance s step c).valid.Nodup := by
  have hnarrow := narrow_nodup (declaredAt_nodup s step c) s.valid
  simp only [advance]
  split
  · exact hnarrow
  · exact applyMappings_nodup hnarrow c.policyMappings

theorem run_nodup {s : State} (h : s.valid.Nodup) (step : Nat) (path : List Certificate) :
    (run s step path).valid.Nodup := by
  induction path generalizing s step with
  | nil => exact h
  | cons c path ih => exact ih (advance_nodup s step c) (step + 1)

theorem process_nodup (path : List Certificate) : (process path).1.Nodup := by
  have hrun : (run {} 0 path).valid.Nodup := run_nodup (List.nodup_singleton anyPolicy) 0 path
  simp only [process]
  split
  · exact hrun.filter _
  · exact hrun

end CertAudit.PolicyGraph
