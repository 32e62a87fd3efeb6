/- What operators say of a target that is not there. -/
import CertAudit.Operator
import Mathlib.Logic.Basic
namespace CertAudit.Operator

variable {o : Operator} {ctx : Context} {operands : List Value} {fault : OperatorFault}

/-- Whether an operator wants something of its target. To be empty is to want nothing. -/
def wantsTarget : Operator → Bool
  | .eq | .neq | .matching | .gt | .gte | .lt | .lte | .isIn | .notIn | .contains | .minLength
  | .maxLength | .notEmpty | .regex | .notRegex | .before | .after | .isCritical | .notCritical
  | .positive | .present => true
  | _ => false

/-- The operators on keys look at the certificate and not at the target, and want operands to
compare its key with. -/
inductive LacksOperands : Operator → List Value → OperatorFault → Prop
  | algorithm : LacksOperands keyAlgorithm [] (.arity keyAlgorithm "at least 1" 0)
  | count {operands : List Value} (h : operands.length ≠ 1) :
    LacksOperands minKeySize operands (.arity minKeySize "exactly 1" operands.length)
  | number {v : Value} (h : v.number? = none) :
    LacksOperands minKeySize [v] (.notNumeric minKeySize v.display)

theorem evaluate_none_of_wantsTarget (h : o.wantsTarget = true) :
    o.evaluate none ctx operands = .ok false := by
  cases o with
  | eq | neq | matching | gt | gte | lt | lte | isIn | notIn | contains | minLength | maxLength
  | notEmpty | regex | notRegex | before | after | isCritical | notCritical | positive
  | present => rfl
  | isEmpty | signedBy | issuedBy | akiMatchesSki | pathLenValid | nameConstraintsValid
  | certificatePolicyValid | crlValid | crlNotExpired | crlSignedBy | notRevoked | ocspValid
  | ocspNotExpired | ocspSignedBy | notRevokedOcsp | ocspGood | keyAlgorithm | minKeySize
  | noUnknownCriticalExtensions => cases h

theorem evaluate_eq_of_not_wantsTarget (h : o.wantsTarget = false) (hne : o ≠ isEmpty)
    (target : Option Node) : o.evaluate target ctx operands = o.evaluate none ctx operands := by
  cases o with
  | eq | neq | matching | gt | gte | lt | lte | isIn | notIn | contains | minLength | maxLength
  | notEmpty | regex | notRegex | before | after | isCritical | notCritical | positive
  | present => cases h
  | isEmpty => exact absurd rfl hne
  | signedBy | issuedBy | akiMatchesSki | pathLenValid | nameConstraintsValid
  | certificatePolicyValid | crlValid | crlNotExpired | crlSignedBy | notRevoked | ocspValid
  | ocspNotExpired | ocspSignedBy | notRevokedOcsp | ocspGood | keyAlgorithm | minKeySize
  | noUnknownCriticalExtensions => rfl

theorem judgeKeyAlgorithm_eq_error_iff :
    judgeKeyAlgorithm ctx operands = .error fault ↔ LacksOperands keyAlgorithm operands fault := by
  constructor
  · intro h
    cases operands with
    | nil =>
      cases h
      exact .algorithm
    | cons v rest =>
      simp only [judgeKeyAlgorithm, List.isEmpty_cons, Bool.false_eq_true, if_false] at h
      split at h <;> cases h
  · rintro ⟨⟩
    rfl

theorem exists_judgeKeySize_eq_ok {v : Value} {least : Binary64} (h : v.number? = some least)
    (ctx : Context) : ∃ verdict, judgeKeySize ctx [v] = .ok verdict := by
  simp only [judgeKeySize, single, numeric, h, bind, Except.bind]
  split
  · exact ⟨_, rfl⟩
  · exact ⟨_, rfl⟩

theorem single_eq_error (h : operands.length ≠ 1) :
    o.single operands = .error (.arity o "exactly 1" operands.length) := by
  match operands, h with
  | [], _ => rfl
  | _ :: _ :: _, _ => rfl

theorem judgeKeySize_eq_error_iff :
    judgeKeySize ctx operands = .error fault ↔ LacksOperands minKeySize operands fault := by
  have hcount : ∀ {operands : List Value}, operands.length ≠ 1 → judgeKeySize ctx operands =
      .error (.arity minKeySize "exactly 1" operands.length) := by
    intro operands h
    rw [judgeKeySize, single_eq_error h]
    rfl
  have hnumber : ∀ {v : Value}, v.number? = none →
      judgeKeySize ctx [v] = .error (.notNumeric minKeySize v.display) := by
    intro v h
    simp only [judgeKeySize, single, numeric, h, bind, Except.bind]
  constructor
  · intro h
    -- The count is checked before the number, so each fault is the first that there is.
    by_cases hlength : operands.length = 1
    · obtain ⟨v, rfl⟩ := List.length_eq_one_iff.mp hlength
      cases hv : v.number? with
      | none =>
        rw [hnumber hv] at h
        cases h
        exact .number hv
      | some least =>
        obtain ⟨verdict, hverdict⟩ := exists_judgeKeySize_eq_ok hv ctx
        rw [hverdict] at h
        cases h
    · rw [hcount hlength] at h
      cases h
      exact .count hlength
  · intro h
    cases h with
    | count h => exact hcount h
    | number h => exact hnumber h

theorem evaluate_none_eq_error_iff :
    o.evaluate none ctx operands = .error fault ↔ LacksOperands o operands fault := by
  cases o with
  | keyAlgorithm => exact judgeKeyAlgorithm_eq_error_iff
  | minKeySize => exact judgeKeySize_eq_error_iff
  | eq | neq | matching | gt | gte | lt | lte | isIn | notIn | contains | minLength | maxLength
  | notEmpty | regex | notRegex | before | after | isCritical | notCritical | positive
  | present | isEmpty | signedBy | issuedBy | akiMatchesSki | pathLenValid | nameConstraintsValid
  | certificatePolicyValid | crlValid | crlNotExpired | crlSignedBy | notRevoked | ocspValid
  | ocspNotExpired | ocspSignedBy | notRevokedOcsp | ocspGood | noUnknownCriticalExtensions =>
    constructor
    · intro h
      cases h
    · intro h
      cases h

theorem LacksOperands.not_wantsTarget (h : LacksOperands o operands fault) :
    o.wantsTarget = false ∧ o ≠ isEmpty := by
  cases h with
  | algorithm => exact ⟨rfl, by decide⟩
  | count | number => exact ⟨rfl, by decide⟩

/-- A target that is not there is no fault: whoever wants something of it says no, and the few
faults there are lie in the operands, whatever the target. -/
theorem evaluate_none (o : Operator) (ctx : Context) (operands : List Value) :
    (o.wantsTarget = true → o.evaluate none ctx operands = .ok false) ∧
      (∀ fault, o.evaluate none ctx operands = .error fault ↔ LacksOperands o operands fault) ∧
      ∀ fault, LacksOperands o operands fault →
        ∀ target, o.evaluate target ctx operands = .error fault := by
  refine ⟨evaluate_none_of_wantsTarget, fun fault => evaluate_none_eq_error_iff, ?_⟩
  intro fault h target
  obtain ⟨hwants, hne⟩ := h.not_wantsTarget
  rw [evaluate_eq_of_not_wantsTarget hwants hne target]
  exact evaluate_none_eq_error_iff.mpr h

/-- Of a size that is no number, and of no algorithms at all, the operators on keys say that they
cannot be judged, and of a size that is missing from the tree they say no. -/
theorem evaluate_none_unusable :
    LacksOperands minKeySize [.string "big"] (.notNumeric minKeySize "big") ∧
      minKeySize.evaluate none { root := .new "", now := { seconds := 0 } } [.string "big"] =
        .error (.notNumeric minKeySize "big") ∧
      gte.evaluate none { root := .new "", now := { seconds := 0 } } [.string "big"] =
        .ok false := by
  have hlacks : LacksOperands minKeySize [.string "big"] (.notNumeric minKeySize "big") :=
    .number rfl
  refine ⟨hlacks, ((evaluate_none minKeySize _ _).2.1 _).mpr hlacks, ?_⟩
  exact (evaluate_none gte _ _).1 rfl

/-- So not every operator takes a missing target without a fault. -/
theorem evaluate_none_faulty :
    ¬ ∀ (o : Operator) (ctx : Context) (operands : List Value),
      (∀ fault, o.evaluate none ctx operands ≠ .error fault) ∧
        (o.wantsTarget = true → o.evaluate none ctx operands = .ok false) := by
  intro h
  exact (h keyAlgorithm { root := .new "", now := { seconds := 0 } } []).1
    (.arity keyAlgorithm "at least 1" 0) rfl

end CertAudit.Operator
