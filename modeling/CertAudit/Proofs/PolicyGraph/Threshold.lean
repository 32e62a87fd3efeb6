/- Constraints of the first certificate that declares them, and the steps at which they are in
force. -/
import CertAudit.Operator.PolicyGraph
import Mathlib.Data.List.Induction
namespace CertAudit.PolicyGraph

/-- After how many certificates explicit policies are required, if a certificate says so. -/
def explicitSkip? (c : Certificate) : Option Nat := c.policyConstraints?.bind Prod.fst

/-- After how many certificates mappings are inhibited, if a certificate says so. -/
def mappingSkip? (c : Certificate) : Option Nat := c.policyConstraints?.bind Prod.snd

/-- The first declaration on a path: its step, and the number of certificates that it skips. -/
structure FirstDeclared (declares : Certificate → Option Nat) (path : List Certificate)
    (step skip : Nat) : Prop where
  here : path[step]?.bind declares = some skip
  none_above : ∀ i, i < step → path[i]?.bind declares = none

/-- A constraint is in force at a step: its first declaration was made and skips no longer. -/
def InForce (declares : Certificate → Option Nat) (path : List Certificate) (step : Nat) : Prop :=
  ∃ s v, FirstDeclared declares path s v ∧ s + 1 + v ≤ step

variable {declares : Certificate → Option Nat} {path : List Certificate}

theorem FirstDeclared.unique {s v t w : Nat} (h : FirstDeclared declares path s v)
    (h' : FirstDeclared declares path t w) : s = t ∧ v = w := by
  rcases Nat.lt_trichotomy s t with hlt | rfl | hlt
  · exact absurd (h.here.symm.trans (h'.none_above s hlt)) (by simp)
  · exact ⟨rfl, Option.some.inj (h.here.symm.trans h'.here)⟩
  · exact absurd (h'.here.symm.trans (h.none_above t hlt)) (by simp)

theorem FirstDeclared.lt_length {s v : Nat} (h : FirstDeclared declares path s v) :
    s < path.length := by
  rcases Nat.lt_or_ge s path.length with hlt | hge
  · exact hlt
  · have hnone := h.here
    rw [List.getElem?_eq_none hge] at hnone
    cases hnone

/-- A declaration counts for the part of the path that reaches beyond its step. -/
theorem firstDeclared_take {k s v : Nat} :
    FirstDeclared declares (path.take k) s v ↔ s < k ∧ FirstDeclared declares path s v := by
  constructor
  · intro h
    have hs : s < k := by
      have hlt := h.lt_length
      rw [List.length_take] at hlt
      omega
    refine ⟨hs, ?_, ?_⟩
    · simpa only [List.getElem?_take_of_lt hs] using h.here
    · intro i hi
      simpa only [List.getElem?_take_of_lt (Nat.lt_trans hi hs)] using h.none_above i hi
  · rintro ⟨hs, h⟩
    refine ⟨?_, ?_⟩
    · simpa only [List.getElem?_take_of_lt hs] using h.here
    · intro i hi
      simpa only [List.getElem?_take_of_lt (Nat.lt_trans hi hs)] using h.none_above i hi

theorem inForce_take {k : Nat} : InForce declares (path.take k) k ↔ InForce declares path k := by
  constructor
  · rintro ⟨s, v, h, hle⟩
    exact ⟨s, v, (firstDeclared_take.mp h).2, hle⟩
  · rintro ⟨s, v, h, hle⟩
    exact ⟨s, v, firstDeclared_take.mpr ⟨by omega, h⟩, hle⟩

/-- What a recorded threshold says of the certificates seen so far. -/
def Records (declares : Certificate → Option Nat) (path : List Certificate) : Option Nat → Prop
  | none => ∀ i : Nat, path[i]?.bind declares = none
  | some t => ∃ s v, FirstDeclared declares path s v ∧ t = s + 1 + v

theorem Records.isActive_iff {found : Option Nat} (h : Records declares path found) (k : Nat) :
    isActive found k = true ↔ InForce declares path k := by
  cases found with
  | none =>
    simp only [isActive, Bool.false_eq_true, false_iff]
    rintro ⟨s, v, hs, _⟩
    exact absurd (hs.here.symm.trans (h s)) (by simp)
  | some t =>
    obtain ⟨s, v, hs, rfl⟩ := h
    simp only [isActive, decide_eq_true_eq]
    constructor
    · exact fun hle => ⟨s, v, hs, hle⟩
    · rintro ⟨s', v', hs', hle⟩
      obtain ⟨rfl, rfl⟩ := hs.unique hs'
      exact hle

theorem Records.threshold {found : Option Nat} (h : Records declares path found)
    (c : Certificate) :
    Records declares (path ++ [c]) (threshold found path.length (declares c)) := by
  have hlast : (path ++ [c])[path.length]? = some c := by simp
  have hinit : ∀ i, i < path.length → (path ++ [c])[i]? = path[i]? := fun i hi =>
    List.getElem?_append_left hi
  cases found with
  | some t =>
    -- An earlier declaration stays the first one.
    obtain ⟨s, v, hs, rfl⟩ := h
    have hlt := hs.lt_length
    refine ⟨s, v, ⟨?_, ?_⟩, rfl⟩
    · rw [hinit s hlt]
      exact hs.here
    · intro i hi
      rw [hinit i (Nat.lt_trans hi hlt)]
      exact hs.none_above i hi
  | none =>
    have habove : ∀ i, i < path.length → (path ++ [c])[i]?.bind declares = none := by
      intro i hi
      rw [hinit i hi]
      exact h i
    cases hc : declares c with
    | some v => exact ⟨path.length, v, ⟨by rw [hlast]; exact hc, habove⟩, rfl⟩
    | none =>
      intro i
      rcases Nat.lt_trichotomy i path.length with hlt | rfl | hgt
      · exact habove i hlt
      · rw [hlast]
        exact hc
      · rw [List.getElem?_eq_none (by simp; omega)]
        rfl

theorem run_append (s : State) (step : Nat) (xs ys : List Certificate) :
    run s step (xs ++ ys) = run (run s step xs) (step + xs.length) ys := by
  induction xs generalizing s step with
  | nil => rfl
  | cons c xs ih =>
    simp only [List.cons_append, run, List.length_cons]
    rw [ih]
    congr 1
    omega

/-- A field of the state that holds the threshold of one kind of declaration. -/
structure Tracks (field : State → Option Nat) (declares : Certificate → Option Nat) : Prop where
  initial : field {} = none
  advance : ∀ s step c, field (advance s step c) = threshold (field s) step (declares c)

theorem tracks_explicit : Tracks State.requireExplicit explicitSkip? := by
  refine ⟨rfl, fun s step c => ?_⟩
  cases h : c.policyConstraints? with
  | none => simp [PolicyGraph.advance, explicitSkip?, h]
  | some skips => simp [PolicyGraph.advance, explicitSkip?, h]

theorem tracks_mapping : Tracks State.inhibitMapping mappingSkip? := by
  refine ⟨rfl, fun s step c => ?_⟩
  cases h : c.policyConstraints? with
  | none => simp [PolicyGraph.advance, mappingSkip?, h]
  | some skips => simp [PolicyGraph.advance, mappingSkip?, h]

theorem tracks_any : Tracks State.inhibitAny Certificate.inhibitAnyPolicy? :=
  ⟨rfl, fun _ _ _ => rfl⟩

theorem Tracks.records {field : State → Option Nat} (h : Tracks field declares)
    (path : List Certificate) : Records declares path (field (run {} 0 path)) := by
  induction path using List.reverseRecOn with
  | nil =>
    simp only [run, h.initial]
    intro i
    rfl
  | append_singleton path c ih =>
    rw [run_append]
    simp only [run, h.advance, Nat.zero_add]
    exact ih.threshold c

/-- Before step `k` the state knows which constraints are in force there. -/
theorem Tracks.isActive_take {field : State → Option Nat} (h : Tracks field declares) (k : Nat) :
    isActive (field (run {} 0 (path.take k))) k = true ↔ InForce declares path k :=
  ((h.records (path.take k)).isActive_iff k).trans inForce_take

end CertAudit.PolicyGraph
