/- The operators of rules, their names, and what can go wrong with them. -/
import CertAudit.Failure
namespace CertAudit

/-- An operator. -/
inductive Operator
  | eq
  | neq
  | matching
  | gt
  | gte
  | lt
  | lte
  | isIn
  | notIn
  | contains
  | minLength
  | maxLength
  | isEmpty
  | notEmpty
  | regex
  | notRegex
  | before
  | after
  | isCritical
  | notCritical
  | positive
  | present
  | signedBy
  | issuedBy
  | akiMatchesSki
  | pathLenValid
  | nameConstraintsValid
  | certificatePolicyValid
  | crlValid
  | crlNotExpired
  | crlSignedBy
  | notRevoked
  | ocspValid
  | ocspNotExpired
  | ocspSignedBy
  | notRevokedOcsp
  | ocspGood
  | keyAlgorithm
  | minKeySize
  | noUnknownCriticalExtensions
deriving Repr, DecidableEq

namespace Operator

/-- The name of an operator in rules. -/
def name : Operator → String
  | .eq => "eq"
  | .neq => "neq"
  | .matching => "matches"
  | .gt => "gt"
  | .gte => "gte"
  | .lt => "lt"
  | .lte => "lte"
  | .isIn => "in"
  | .notIn => "notIn"
  | .contains => "contains"
  | .minLength => "minLength"
  | .maxLength => "maxLength"
  | .isEmpty => "isEmpty"
  | .notEmpty => "notEmpty"
  | .regex => "regex"
  | .notRegex => "notRegex"
  | .before => "before"
  | .after => "after"
  | .isCritical => "isCritical"
  | .notCritical => "notCritical"
  | .positive => "positive"
  | .present => "present"
  | .signedBy => "signedBy"
  | .issuedBy => "issuedBy"
  | .akiMatchesSki => "akiMatchesSki"
  | .pathLenValid => "pathLenValid"
  | .nameConstraintsValid => "nameConstraintsValid"
  | .certificatePolicyValid => "certificatePolicyValid"
  | .crlValid => "crlValid"
  | .crlNotExpired => "crlNotExpired"
  | .crlSignedBy => "crlSignedBy"
  | .notRevoked => "notRevoked"
  | .ocspValid => "ocspValid"
  | .ocspNotExpired => "ocspNotExpired"
  | .ocspSignedBy => "ocspSignedBy"
  | .notRevokedOcsp => "notRevokedOCSP"
  | .ocspGood => "ocspGood"
  | .keyAlgorithm => "keyAlgorithm"
  | .minKeySize => "minKeySize"
  | .noUnknownCriticalExtensions => "noUnknownCriticalExtensions"

/-- All operators. -/
def all : List Operator := [.eq, .neq, .matching, .gt, .gte, .lt, .lte, .isIn, .notIn, .contains,
  .minLength, .maxLength, .isEmpty, .notEmpty, .regex, .notRegex, .before, .after, .isCritical,
  .notCritical, .positive, .present, .signedBy, .issuedBy, .akiMatchesSki, .pathLenValid,
  .nameConstraintsValid, .certificatePolicyValid, .crlValid, .crlNotExpired, .crlSignedBy,
  .notRevoked, .ocspValid, .ocspNotExpired, .ocspSignedBy, .notRevokedOcsp, .ocspGood,
  .keyAlgorithm, .minKeySize, .noUnknownCriticalExtensions]

/-- The operator with a name. -/
def ofName? (name : String) : Option Operator := all.find? fun o => o.name == name

end Operator

/-- Why an operator gives no verdict. -/
inductive OperatorFault
  | unknown (name : String)
  | arity (operator : Operator) (expected : String) (found : Nat)
  | notNumeric (operator : Operator) (value : String)
  | pattern (operator : Operator) (source : String)
  | timestamp (operator : Operator) (value : String)
  | shape (operator : Operator) (found : String)
  | operand (operator : Operator) (reason : String)
deriving Repr, DecidableEq

/-- The words for an operator that gives no verdict. -/
def OperatorFault.message : OperatorFault → String
  | .unknown name => "unknown operator: " ++ name
  | .arity o expected found =>
    o.name ++ ": expected " ++ expected ++ " operand(s), got " ++ Nat.repr found
  | .notNumeric o value => o.name ++ ": not a number: " ++ value
  | .pattern o source =>
    o.name ++ ": invalid pattern " ++ Quoted.quote source ++ ": " ++ someDetail
  | .timestamp o value => o.name ++ ": cannot parse timestamp " ++ Quoted.quote value
  | .shape o found => o.name ++ ": unsupported value shape: " ++ found
  | .operand o reason => o.name ++ ": " ++ reason

end CertAudit
