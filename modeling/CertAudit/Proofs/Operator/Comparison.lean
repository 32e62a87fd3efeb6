/- Integers are equated as integers, but ordered and looked up as doubles. All verdicts on two integers
fit together unless both become one double. -/
import CertAudit.Operator
import CertAudit.Proofs.Number.Rounding
namespace CertAudit

variable {v w : Value} {a b : ℤ}

namespace Binary64

/-- Different integers with the same nearest double. -/
def Merged (a b : ℤ) : Prop := a ≠ b ∧ ∃ q, RoundsTo a q ∧ RoundsTo b q

theorem merged_iff (ha : a.natAbs < 2 ^ 64) (hb : b.natAbs < 2 ^ 64) :
    Merged a b ↔ a ≠ b ∧ nearest a = nearest b := by
  refine and_congr_right fun _ => ⟨?_, ?_⟩
  · rintro ⟨q, hp, hq⟩
    have hsame := ((nearest_roundsTo ha).unique hp).trans ((nearest_roundsTo hb).unique hq).symm
    exact_mod_cast hsame
  · intro h
    exact ⟨nearest a, nearest_roundsTo ha, h ▸ nearest_roundsTo hb⟩

theorem not_merged_of_le (ha : a.natAbs ≤ 2 ^ 53) (hb : b.natAbs ≤ 2 ^ 53) : ¬ Merged a b := by
  rw [merged_iff (ha.trans_lt (by decide)) (hb.trans_lt (by decide)), nearest_of_le ha,
    nearest_of_le hb]
  rintro ⟨hne, heq⟩
  exact hne heq

theorem ofNat_eq_ofInt (n : ℕ) : ofNat n = ofInt n := by
  rw [ofNat, ofInt, Int.natAbs_natCast, decide_eq_false (by omega)]

end Binary64

namespace Value

open Binary64 (nearest)

/-- The integer that a value stands for. -/
def integer? : Value → Option ℤ
  | .int i => some i.toInt
  | .uint n => some n.toNat
  | _ => none

theorem natAbs_lt_of_integer? (h : v.integer? = some a) : a.natAbs < 2 ^ 64 := by
  cases v with
  | int i =>
    cases h
    have := i.toInt_lt
    have := i.le_toInt
    omega
  | uint n =>
    cases h
    have := n.toNat_lt
    omega
  | _ => cases h

theorem number?_of_integer? (h : v.integer? = some a) : v.number? = some (.ofInt a) := by
  cases v with
  | int i =>
    cases h
    rfl
  | uint n =>
    cases h
    exact congrArg some (Binary64.ofNat_eq_ofInt n.toNat)
  | _ => cases h

theorem equals_of_integer? (hv : v.integer? = some a) (hw : w.integer? = some b) :
    v.equals w = decide (a = b) := by
  cases v with
  | int i =>
    cases hv
    cases w with
    | int j =>
      cases hw
      exact (decide_eq_decide.mpr Int64.toInt_inj).symm
    | uint m =>
      cases hw
      rfl
    | _ => cases hw
  | uint n =>
    cases hv
    cases w with
    | int j =>
      cases hw
      rfl
    | uint m =>
      cases hw
      exact (decide_eq_decide.mpr (Int.natCast_inj.trans UInt64.toNat_inj)).symm
    | _ => cases hw
  | _ => cases hv

theorem alike_of_integer? (hv : v.integer? = some a) (hw : w.integer? = some b) :
    v.alike w = decide (nearest a = nearest b) := by
  rw [alike, equals_of_integer? hv hw, number?_of_integer? hv, number?_of_integer? hw]
  simp only [Binary64.equal_ofInt (natAbs_lt_of_integer? hv) (natAbs_lt_of_integer? hw)]
  rw [← Bool.decide_or, decide_eq_decide, or_iff_right_of_imp]
  rintro rfl
  rfl

end Value

namespace Operator

open Binary64

/-- What the operators find that order a value and an operand, equate them or look one up. -/
structure Verdicts where
  greater : Bool
  equal : Bool
  less : Bool
  atLeast : Bool
  atMost : Bool
  member : Bool
deriving DecidableEq

namespace Verdicts

/-- One of three holds, and the others follow from it. -/
structure Fit (o : Verdicts) : Prop where
  one : [o.greater, o.equal, o.less].count true = 1
  atLeast : o.atLeast = (o.greater || o.equal)
  atMost : o.atMost = (o.less || o.equal)
  member : o.member = o.equal

theorem fit_iff (o : Verdicts) :
    o.Fit ↔ [o.greater, o.equal, o.less].count true = 1 ∧ o.atLeast = (o.greater || o.equal) ∧
      o.atMost = (o.less || o.equal) ∧ o.member = o.equal := by
  constructor
  · rintro ⟨hone, hatLeast, hatMost, hmember⟩
    exact ⟨hone, hatLeast, hatMost, hmember⟩
  · rintro ⟨hone, hatLeast, hatMost, hmember⟩
    exact ⟨hone, hatLeast, hatMost, hmember⟩

instance (o : Verdicts) : Decidable o.Fit := decidable_of_iff _ o.fit_iff.symm

/-- Neither above nor below nor equal, but all that allows for equality. -/
def merged : Verdicts where
  greater := false
  equal := false
  less := false
  atLeast := true
  atMost := true
  member := true

def ofIntegers (a b : ℤ) : Verdicts where
  greater := decide (nearest b < nearest a)
  equal := decide (a = b)
  less := decide (nearest a < nearest b)
  atLeast := decide (nearest b ≤ nearest a)
  atMost := decide (nearest a ≤ nearest b)
  member := decide (nearest a = nearest b)

theorem ofIntegers_self (a : ℤ) : ofIntegers a a = { merged with equal := true } := by
  simp [ofIntegers, merged]

theorem ofIntegers_of_eq (hne : a ≠ b) (h : nearest a = nearest b) : ofIntegers a b = merged := by
  simp [ofIntegers, merged, hne, h]

theorem ofIntegers_of_lt (h : nearest a < nearest b) :
    ofIntegers a b = ⟨false, false, true, false, true, false⟩ := by
  have hne : a ≠ b := by
    rintro rfl
    exact lt_irrefl _ h
  simp [ofIntegers, hne, h, h.le, h.ne, h.le.not_gt]

theorem ofIntegers_of_gt (h : nearest b < nearest a) :
    ofIntegers a b = ⟨true, false, false, true, false, false⟩ := by
  have hne : a ≠ b := by
    rintro rfl
    exact lt_irrefl _ h
  simp [ofIntegers, hne, h, h.le, h.ne', h.le.not_gt]

theorem ofIntegers_fit (h : a ≠ b → nearest a ≠ nearest b) : (ofIntegers a b).Fit := by
  by_cases hab : a = b
  · rw [hab, ofIntegers_self]
    decide
  · rcases lt_or_gt_of_ne (h hab) with hlt | hgt
    · rw [ofIntegers_of_lt hlt]
      decide
    · rw [ofIntegers_of_gt hgt]
      decide

end Verdicts

def verdicts (target : Option Node) (ctx : Context) (operands : List Value) :
    Except OperatorFault Verdicts := do
  let greater ← gt.evaluate target ctx operands
  let equal ← eq.evaluate target ctx operands
  let less ← lt.evaluate target ctx operands
  let atLeast ← gte.evaluate target ctx operands
  let atMost ← lte.evaluate target ctx operands
  let member ← isIn.evaluate target ctx operands
  return { greater, equal, less, atLeast, atMost, member }

variable {n : Node}

theorem judgeNumber_of_integer? (o : Operator) (test : Binary64 → Binary64 → Bool)
    (hn : n.value = some v) (hv : v.integer? = some a) (hw : w.integer? = some b) :
    judgeNumber o test (some n) [w] = .ok (test (.ofInt a) (.ofInt b)) := by
  simp only [judgeNumber, single, numeric, hn, Value.number?_of_integer? hv,
    Value.number?_of_integer? hw, bind, Except.bind]

theorem verdicts_of_integer? (hn : n.value = some v) (hv : v.integer? = some a)
    (hw : w.integer? = some b) (ctx : Context) :
    verdicts (some n) ctx [w] = .ok (.ofIntegers a b) := by
  have ha := Value.natAbs_lt_of_integer? hv
  have hb := Value.natAbs_lt_of_integer? hw
  simp only [verdicts, evaluate, judgeNumber_of_integer? _ _ hn hv hw, judgeEqual, judgeMember, hn,
    List.isEmpty_cons, List.any_cons, List.any_nil, Value.equals_of_integer? hv hw,
    Value.alike_of_integer? hv hw, below_ofInt hb ha, below_ofInt ha hb, atMost_ofInt hb ha,
    atMost_ofInt ha hb, Bool.or_false, Bool.bne_false]
  rfl

/-- The verdicts on two integers fit together unless these are different and one double is the nearest
to both. Then they are neither ordered nor equal, but allowed to be. No verdict reverses the order. -/
theorem verdicts_fit (n : Node) (ctx : Context) (v w : Value) (a b : ℤ) (hn : n.value = some v)
    (hv : v.integer? = some a) (hw : w.integer? = some b) :
    ∃ o, verdicts (some n) ctx [w] = .ok o ∧ (o.Fit ↔ ¬ Merged a b) ∧
      (Merged a b → o = .merged) ∧ (o.greater = true → b < a) ∧ (o.less = true → a < b) ∧
      (o.equal = true ↔ a = b) ∧ (a.natAbs ≤ 2 ^ 53 → b.natAbs ≤ 2 ^ 53 → o.Fit) := by
  have ha := Value.natAbs_lt_of_integer? hv
  have hb := Value.natAbs_lt_of_integer? hw
  have hmerged : Merged a b → Verdicts.ofIntegers a b = .merged := by
    intro h
    obtain ⟨hne, hsame⟩ := (merged_iff ha hb).mp h
    exact Verdicts.ofIntegers_of_eq hne hsame
  have hfit : (Verdicts.ofIntegers a b).Fit ↔ ¬ Merged a b := by
    constructor
    · intro h hab
      rw [hmerged hab] at h
      exact absurd h (by decide)
    · intro h
      exact Verdicts.ofIntegers_fit fun hne hsame => h ((merged_iff ha hb).mpr ⟨hne, hsame⟩)
  refine ⟨_, verdicts_of_integer? hn hv hw ctx, hfit, hmerged, ?_, ?_, decide_eq_true_iff, ?_⟩
  · intro h
    exact lt_of_not_ge fun hle => absurd (nearest_mono ha hb hle) (not_le.mpr (of_decide_eq_true h))
  · intro h
    exact lt_of_not_ge fun hle => absurd (nearest_mono hb ha hle) (not_le.mpr (of_decide_eq_true h))
  · intro hsmall hsmall'
    exact hfit.mpr (not_merged_of_le hsmall hsmall')

theorem verdicts_fit_doubles :
    ∃ o, verdicts (some (.leaf "size" (.int 9007199254740994)))
        { root := Node.new "", now := { seconds := 0 } } [.uint 9007199254740996] = .ok o ∧
      ¬ Merged 9007199254740994 9007199254740996 ∧ o.Fit := by
  have hmerged : ¬ Merged 9007199254740994 9007199254740996 := by
    rw [merged_iff (by decide) (by decide)]
    decide +kernel
  obtain ⟨o, ho, hfit, -⟩ := verdicts_fit (.leaf "size" (.int 9007199254740994))
    { root := Node.new "", now := { seconds := 0 } } _ (.uint 9007199254740996)
    9007199254740994 9007199254740996 rfl rfl rfl
  exact ⟨o, ho, hmerged, hfit.mpr hmerged⟩

/-- An integer that no double has is neither above its predecessor nor equal to it. -/
theorem verdicts_unfit :
    verdicts (some (.leaf "size" (.int 9007199254740993)))
        { root := Node.new "", now := { seconds := 0 } } [.int 9007199254740992] = .ok .merged ∧
      ¬ Verdicts.merged.Fit := by
  have hsame : nearest 9007199254740993 = nearest 9007199254740992 := by decide +kernel
  refine ⟨?_, by decide⟩
  rw [verdicts_of_integer? (a := 9007199254740993) (b := 9007199254740992) rfl rfl rfl,
    Verdicts.ofIntegers_of_eq (by decide) hsame]

end Operator
end CertAudit
