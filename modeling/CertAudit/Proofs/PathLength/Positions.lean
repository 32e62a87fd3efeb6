/- What the length of paths says at each position of a chain. The authorities between the start of
the chain and a certificate count, and for the certificate under test the start counts as well. -/
import CertAudit.Proofs.PathLength.Budget
import Mathlib.Order.Interval.Finset.Nat
namespace CertAudit.PathLength

/-- The positions from one up to another at which a chain has an authority. -/
def authoritiesAt (chain : List ChainEntry) (first limit : Nat) : Finset Nat :=
  (Finset.Ico first limit).filter fun k => (chain[k]?).any (·.certificate.isAuthority) = true

/-- From a position upward every certificate allows the authorities between it and the start. -/
def KeptFrom (chain : List ChainEntry) (p : Nat) : Prop :=
  ∀ i other, p ≤ i → chain[i]? = some other →
    Covers other.certificate.pathLength? (authoritiesAt chain 1 i).card

variable {entries chain rest : List ChainEntry} {ctx : Context} {p q : Nat} {e first : ChainEntry}

theorem KeptFrom.mono (h : KeptFrom chain p) (hpq : p ≤ q) : KeptFrom chain q :=
  fun i other hi hother => h i other (Nat.le_trans hpq hi) hother

theorem authoritiesAt_succ (chain : List ChainEntry) {k n : Nat} (hkn : k ≤ n) :
    (authoritiesAt chain k (n + 1)).card = (authoritiesAt chain k n).card +
      if (chain[n]?).any (·.certificate.isAuthority) = true then 1 else 0 := by
  have hnew : n ∉ authoritiesAt chain k n := by simp [authoritiesAt]
  rw [authoritiesAt, Nat.Ico_succ_right_eq_insert_Ico hkn, Finset.filter_insert]
  split
  · exact Finset.card_insert_of_notMem hnew
  · rfl

theorem authorityCount_eq_card (chain : List ChainEntry) (k n : Nat) :
    Operator.authorityCount ((chain.take n).drop k) = (authoritiesAt chain k n).card := by
  induction n with
  | zero => simp [Operator.authorityCount, authoritiesAt]
  | succ n ih =>
    rcases Nat.lt_or_ge n k with hlt | hkn
    · have hnone : (chain.take (n + 1)).drop k = [] := by
        rw [List.drop_eq_nil_iff, List.length_take]
        omega
      have hempty : Finset.Ico k (n + 1) = ∅ := Finset.Ico_eq_empty_of_le hlt
      simp only [hnone, hempty, Operator.authorityCount, authoritiesAt, List.filter_nil,
        List.length_nil, Finset.filter_empty, Finset.card_empty]
    · rw [authoritiesAt_succ chain hkn, ← ih]
      cases hn : chain[n]? with
      | none =>
        have hend := List.getElem?_eq_none_iff.mp hn
        rw [List.take_of_length_le hend, List.take_of_length_le (Nat.le_succ_of_le hend)]
        rfl
      | some e =>
        obtain ⟨hlt, _⟩ := List.getElem?_eq_some_iff.mp hn
        rw [List.take_add_one, hn, List.drop_append_of_le_length]
        · exact authorityCount_concat _ e
        · rw [List.length_take]
          omega

theorem authoritiesAt_zero_self (chain : List ChainEntry) : authoritiesAt chain 0 0 = ∅ := rfl

/-- Where no authority stands at the start, it makes no difference to leave the start out. -/
theorem authoritiesAt_zero_eq
    (hfirst : ∀ first, chain[0]? = some first → first.certificate.isAuthority = false) (n : Nat) :
    authoritiesAt chain 0 n = authoritiesAt chain 1 n := by
  ext k
  simp only [authoritiesAt, Finset.mem_filter, Finset.mem_Ico, Option.any_eq_true]
  constructor
  · rintro ⟨⟨_, hk⟩, e, he, hauthority⟩
    refine ⟨⟨?_, hk⟩, e, he, hauthority⟩
    rcases Nat.eq_zero_or_pos k with rfl | hpos
    · rw [hfirst e he] at hauthority
      cases hauthority
    · exact hpos
  · rintro ⟨⟨_, hk⟩, hauthority⟩
    exact ⟨⟨Nat.zero_le k, hk⟩, hauthority⟩

theorem judgePathLength_root (hplaced : ctx.Placed p e) (hrole : e.role = .root) :
    Operator.judgePathLength ctx = true := by
  simp only [Operator.judgePathLength, hplaced.entry, hplaced.chain_isEmpty, hrole,
    Bool.false_eq_true, if_false, if_true]

theorem judgePathLength_iff_keptFrom (hplaced : ctx.Placed p e) (hrole : e.role ≠ .root) :
    Operator.judgePathLength ctx = true ↔ KeptFrom ctx.chain p ∧
      Covers e.certificate.pathLength? (authoritiesAt ctx.chain 0 p).card := by
  rw [judgePathLength_iff hplaced hrole, ← authorityCount_eq_card, List.drop_zero]
  simp only [KeptFrom, ← authorityCount_eq_card]

/-- Below a root the lengths of paths have to be kept to from the certificate under test upward,
and its own length also with the start of the chain. A verdict holds further up as far as it does
not fail there by that. -/
theorem pathLenValid_positions (h : Chain.assemble entries = .ok (chain, rest))
    (hchain : ctx.chain = chain) (hentry : ctx.entry = some e) (he : chain[p]? = some e)
    (hrole : e.role ≠ .root) (target : Option Node) (operands : List Value) :
    ∃ verdict, Operator.pathLenValid.evaluate target ctx operands = .ok verdict ∧
      (verdict = true ↔ KeptFrom chain p ∧
        Covers e.certificate.pathLength? (authoritiesAt chain 0 p).card) ∧
      (p = 0 ∨ (∀ first, chain[0]? = some first → first.certificate.isAuthority = false) →
        (verdict = true ↔ KeptFrom chain p)) ∧
      (verdict = true → ∀ q higher above, p ≤ q → above.chain = chain →
        above.entry = some higher → chain[q]? = some higher →
          (Operator.pathLenValid.evaluate target above operands = .ok true ↔
            higher.role = .root ∨
              Covers higher.certificate.pathLength? (authoritiesAt chain 0 q).card)) := by
  subst hchain
  have hplaced := Audit.placed_of_getElem? h rfl hentry he
  have hverdict := judgePathLength_iff_keptFrom hplaced hrole
  refine ⟨_, rfl, hverdict, ?_, ?_⟩
  · intro hstart
    rw [hverdict]
    refine and_iff_left_of_imp fun hkept => ?_
    rcases hstart with rfl | hfirst
    · rw [authoritiesAt_zero_self]
      exact covers_zero _
    · rw [authoritiesAt_zero_eq hfirst]
      exact hkept p e (Nat.le_refl p) he
  · intro hpass q higher above hpq hchain habove hhigher
    obtain ⟨hkept, _⟩ := hverdict.mp hpass
    have hplaced' := Audit.placed_of_getElem? h hchain habove hhigher
    change Except.ok (Operator.judgePathLength above) = .ok true ↔ _
    rw [Except.ok.injEq]
    by_cases hroot : higher.role = .root
    · simp only [judgePathLength_root hplaced' hroot, hroot, true_or]
    · rw [judgePathLength_iff_keptFrom hplaced' hroot, hchain]
      simp only [hkept.mono hpq, hroot, true_and, false_or]

/-- What passes at the start passes at the authority above it, too. -/
theorem pathLenValid_positions_stackedChain :
    Operator.pathLenValid.evaluate none (stackedContext 1) [] = .ok true ∧
      ∀ lower, (stackedChain 1)[1]? = some lower → Operator.pathLenValid.evaluate none
        (Audit.contextOf { seconds := 0 } [] [] (stackedChain 1) lower) [] = .ok true := by
  have hpass : Operator.pathLenValid.evaluate none (stackedContext 1) [] = .ok true := rfl
  have hchain : (stackedContext 1).chain = stackedChain 1 := rfl
  refine ⟨hpass, ?_⟩
  intro lower hlower
  obtain ⟨verdict, heq, _, _, habove⟩ := pathLenValid_positions (assemble_stackedChain 1) hchain
    rfl (p := 0) rfl (by decide) none []
  obtain rfl : true = verdict := Except.ok.inj (hpass.symm.trans heq)
  refine (habove rfl 1 lower _ (Nat.zero_le 1) rfl rfl hlower).mpr (.inr ?_)
  cases hlower
  have hnone : (authoritiesAt (stackedChain 1) 0 1).card = 0 := by decide
  rw [hnone]
  exact covers_zero _

/-- A chain that starts with an authority below one that allows no other. -/
def authorityFirst : List ChainEntry := [
  { certificate := .plain "lower" "upper" [.basicConstraints true none] },
  { certificate := .plain "upper" "root" [.basicConstraints true (some 0)]
    position := 1
    role := .intermediate },
  { certificate := .plain "root" "root" [.basicConstraints true none]
    position := 2
    role := .root }]

/-- No authority stands between the start and the certificates above it, but the upper authority
fails, though the start passes. -/
theorem pathLenValid_authorityFirst :
    Chain.assemble (authorityFirst.map ChainEntry.unplaced) = .ok (authorityFirst, []) ∧
      KeptFrom authorityFirst 1 ∧
      ∀ lower upper, authorityFirst[0]? = some lower → authorityFirst[1]? = some upper →
        Operator.pathLenValid.evaluate none
          (Audit.contextOf { seconds := 0 } [] [] authorityFirst lower) [] = .ok true ∧
        upper.role ≠ .root ∧ Operator.pathLenValid.evaluate none
          (Audit.contextOf { seconds := 0 } [] [] authorityFirst upper) [] = .ok false := by
  refine ⟨rfl, ?_, ?_⟩
  · intro i other hi hother
    rcases i with _ | _ | _ | i
    · cases hi
    · have hnone : (authoritiesAt authorityFirst 1 1).card = 0 := by decide
      rw [hnone]
      exact covers_zero _
    · cases hother
      exact covers_none _
    · cases hother
  · intro lower upper hlower hupper
    cases hlower
    cases hupper
    exact ⟨rfl, by decide, rfl⟩

end CertAudit.PathLength
