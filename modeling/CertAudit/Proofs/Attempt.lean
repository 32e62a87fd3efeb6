/- Attempts of which each may fail, one after another and in lists. -/
import Mathlib.Data.List.Forall2
namespace CertAudit

variable {ε α β : Type} {xs : List α} {ys : List β} {f : α → Except ε β}

theorem bind_eq_ok_iff {x : Except ε α} {y : β} : x >>= f = .ok y ↔ ∃ a, x = .ok a ∧ f a = .ok y := by
  cases x with
  | error fault => simp [bind, Except.bind]
  | ok a => simp [bind, Except.bind]

theorem mapM_eq_ok_iff : xs.mapM f = .ok ys ↔ List.Forall₂ (fun x y => f x = .ok y) xs ys := by
  induction xs generalizing ys with
  | nil => simp [pure, Except.pure, eq_comm]
  | cons x xs ih =>
    rw [List.mapM_cons, List.forall₂_cons_left_iff, bind_eq_ok_iff]
    simp only [bind_eq_ok_iff, ih, pure, Except.pure, Except.ok.injEq]
    constructor
    · rintro ⟨y, hy, ys, hys, rfl⟩
      exact ⟨y, ys, hy, hys, rfl⟩
    · rintro ⟨y, ys, hy, hys, rfl⟩
      exact ⟨y, hy, ys, hys, rfl⟩

theorem mapM_eq_some_iff {f : α → Option β} :
    xs.mapM f = some ys ↔ List.Forall₂ (fun x y => f x = some y) xs ys := by
  induction xs generalizing ys with
  | nil => simp [eq_comm]
  | cons x xs ih =>
    simp only [List.mapM_cons, List.forall₂_cons_left_iff, ← ih, Option.bind_eq_bind,
      Option.bind_eq_some_iff, Option.pure_def, Option.some.injEq]
    constructor
    · rintro ⟨y, hy, ys, hys, rfl⟩
      exact ⟨y, ys, hy, hys, rfl⟩
    · rintro ⟨y, ys, hy, hys, rfl⟩
      exact ⟨y, hy, ys, hys, rfl⟩

/-- What every step of a fold asks of its item holds of all items if no step fails. -/
theorem forall_of_foldlM_eq_some {step : β → α → Option β} {P : α → Prop} {b b' : β}
    (hstep : ∀ b x b', step b x = some b' → P x) (h : xs.foldlM step b = some b') :
    ∀ x ∈ xs, P x := by
  induction xs generalizing b with
  | nil => exact fun _ hx => absurd hx List.not_mem_nil
  | cons x xs ih =>
    rw [List.foldlM_cons] at h
    obtain ⟨next, hnext, h⟩ := Option.bind_eq_some_iff.mp h
    exact List.forall_mem_cons.mpr ⟨hstep b x next hnext, ih h⟩

theorem exists_forall₂_iff {R : α → β → Prop} :
    (∃ ys, List.Forall₂ R xs ys) ↔ ∀ x ∈ xs, ∃ y, R x y := by
  induction xs with
  | nil => simp
  | cons x xs ih =>
    rw [List.forall_mem_cons, ← ih]
    constructor
    · rintro ⟨_, hxs⟩
      obtain ⟨y, ys, hy, hys, _⟩ := List.forall₂_cons_left_iff.mp hxs
      exact ⟨⟨y, hy⟩, ys, hys⟩
    · rintro ⟨⟨y, hy⟩, ys, hys⟩
      exact ⟨y :: ys, .cons hy hys⟩

/-- What some things give in turn, joined. -/
def Gathers (R : α → List β → Prop) (xs : List α) (ys : List β) : Prop :=
  ∃ parts, List.Forall₂ R xs parts ∧ parts.flatten = ys

theorem exists_gathers_iff {R : α → List β → Prop} :
    (∃ ys, Gathers R xs ys) ↔ ∀ x ∈ xs, ∃ part, R x part := by
  rw [← exists_forall₂_iff]
  constructor
  · rintro ⟨_, parts, hparts, _⟩
    exact ⟨parts, hparts⟩
  · rintro ⟨parts, hparts⟩
    exact ⟨_, parts, hparts, rfl⟩

theorem Gathers.unique {R : α → List β → Prop} {ys' : List β} (hR : Relator.RightUnique R)
    (h : Gathers R xs ys) (h' : Gathers R xs ys') : ys = ys' := by
  obtain ⟨parts, hparts, rfl⟩ := h
  obtain ⟨parts', hparts', rfl⟩ := h'
  rw [List.right_unique_forall₂' hR hparts hparts']

end CertAudit
