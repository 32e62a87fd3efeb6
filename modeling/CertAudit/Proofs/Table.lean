/- Tables stay in order, and a key finds the entry that was put under it last. -/
import CertAudit.Table
import Mathlib.Data.String.Basic
namespace CertAudit.Table

variable {α : Type} {t base entries : List (String × α)} {key k : String} {x y : α}
  {e : String × α}

/-- The keys are in increasing order. -/
def Ordered (t : List (String × α)) : Prop := t.Pairwise fun e f => e.1 < f.1

theorem mem_of_mem_insert (h : e ∈ insert key x t) : e = (key, x) ∨ e ∈ t := by
  induction t with
  | nil => exact .inl (List.mem_singleton.mp h)
  | cons f rest ih =>
    simp only [insert] at h
    split at h
    · exact List.mem_cons.mp h
    · split at h
      · rename_i heq
        rw [← heq] at h
        exact (List.mem_cons.mp h).imp_right (List.mem_cons_of_mem f)
      · rcases List.mem_cons.mp h with rfl | h
        · exact .inr List.mem_cons_self
        · exact (ih h).imp_right (List.mem_cons_of_mem f)

theorem Ordered.insert (h : Ordered t) (key : String) (x : α) : Ordered (insert key x t) := by
  induction h with
  | nil => exact List.pairwise_singleton _ _
  | @cons f rest hfirst hrest ih =>
    simp only [Table.insert]
    split
    · rename_i hlt
      refine .cons ?_ (.cons hfirst hrest)
      intro e he
      rcases List.mem_cons.mp he with rfl | he
      · exact hlt
      · exact lt_trans hlt (hfirst e he)
    · split
      · exact .cons hfirst hrest
      · rename_i hle hne
        refine .cons ?_ ih
        intro e he
        rcases mem_of_mem_insert he with rfl | he
        · exact lt_of_le_of_ne (not_lt.mp hle) (Ne.symm hne)
        · exact hfirst e he

theorem lookup_cons (k : String) (e : String × α) (t : List (String × α)) :
    (e :: t).lookup k = if k = e.1 then some e.2 else t.lookup k := by
  rw [List.lookup_cons]
  cases hk : k == e.1 with
  | true => rw [if_pos (beq_iff_eq.mp hk)]
  | false => rw [if_neg (beq_eq_false_iff_ne.mp hk)]

theorem lookup_insert (key k : String) (x : α) (t : List (String × α)) :
    (insert key x t).lookup k = if k = key then some x else t.lookup k := by
  induction t with
  | nil => rw [insert, lookup_cons]
  | cons f rest ih =>
    simp only [insert]
    split
    · rw [lookup_cons]
    · split
      · rename_i heq
        subst heq
        rw [lookup_cons, lookup_cons]
        split <;> rfl
      · rename_i hne
        rw [lookup_cons, ih, lookup_cons]
        split
        · rename_i hk
          rw [if_neg (hk ▸ Ne.symm hne)]
        · rfl

theorem Ordered.lookup_eq_some_iff (h : Ordered t) : t.lookup k = some x ↔ (k, x) ∈ t := by
  induction h with
  | nil => simp
  | @cons f rest hfirst hrest ih =>
    rw [lookup_cons, List.mem_cons, ← ih, Prod.ext_iff]
    split
    · rename_i hk
      subst hk
      have hnone : rest.lookup f.1 ≠ some x := fun hsome =>
        lt_irrefl f.1 (hfirst (f.1, x) (ih.mp hsome))
      simp only [hnone, or_false, true_and, Option.some.injEq, eq_comm]
    · rename_i hk
      simp only [hk, false_and, false_or]

theorem Ordered.nodup (h : Ordered t) : t.Nodup := by
  apply h.imp
  intro e f hlt heq
  exact absurd (congrArg Prod.fst heq) (ne_of_lt hlt)

/-- A table in order is determined by what its keys find. -/
theorem Ordered.eq_of_lookup {s t : List (String × α)} (hs : Ordered s) (ht : Ordered t)
    (h : ∀ k, s.lookup k = t.lookup k) : s = t := by
  have hmem : ∀ e : String × α, e ∈ s ↔ e ∈ t := by
    intro e
    rw [← hs.lookup_eq_some_iff, ← ht.lookup_eq_some_iff, h]
  have hperm : s.Perm t := (List.perm_ext_iff_of_nodup hs.nodup ht.nodup).mpr hmem
  apply hperm.eq_of_pairwise ?_ hs ht
  intro e f _ _ hlt hgt
  exact absurd hlt (lt_asymm hgt)

theorem Ordered.lookup_overlay (h : Ordered entries) (base : List (String × α)) (k : String) :
    (overlay entries base).lookup k = (entries.lookup k).or (base.lookup k) := by
  induction h generalizing base with
  | nil => rfl
  | @cons e rest hfirst hrest ih =>
    have hstep : (overlay (e :: rest) base).lookup k =
        (rest.lookup k).or ((Table.insert e.1 e.2 base).lookup k) := ih _
    rw [hstep, lookup_insert, lookup_cons]
    by_cases hk : k = e.1
    · have hnone : rest.lookup k = none := by
        rw [List.lookup_eq_none_iff]
        intro f hf
        rw [hk]
        exact bne_iff_ne.mpr (ne_of_lt (hfirst f hf))
      rw [if_pos hk, if_pos hk, hnone]
      rfl
    · rw [if_neg hk, if_neg hk]

theorem Ordered.overlay (h : Ordered base) (entries : List (String × α)) :
    Ordered (overlay entries base) := by
  induction entries generalizing base with
  | nil => exact h
  | cons e rest ih => exact ih (h.insert e.1 e.2)

theorem mem_of_mem_overlay (h : e ∈ overlay entries base) : e ∈ entries ∨ e ∈ base := by
  induction entries generalizing base with
  | nil => exact .inr h
  | cons f rest ih =>
    rcases ih h with hrest | hinsert
    · exact .inl (List.mem_cons_of_mem f hrest)
    · rcases mem_of_mem_insert hinsert with rfl | hbase
      · exact .inl List.mem_cons_self
      · exact .inr hbase

end CertAudit.Table
