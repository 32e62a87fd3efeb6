/- Causes of failure and the messages that tell them. -/
import CertAudit.Text.Quoted
namespace CertAudit

/-- Stands in a message for a detail that no rule fixes. -/
def someDetail : String := "*"

/-- Why a certificate, or the time to judge it at, is refused. -/
inductive CertificateFault
  | empty
  | version (number : Nat)
  | evaluationTime (seconds : Int)
deriving Repr, DecidableEq

/-- The words for a refused certificate. -/
def CertificateFault.message : CertificateFault → String
  | .empty => "empty input"
  | .version n => "unsupported X.509 version " ++ Nat.repr n ++ " (expected v1, v2, or v3)"
  | .evaluationTime t => "invalid evaluation time " ++ toString t ++ ": " ++ someDetail

/-- Why armored text is refused. -/
inductive ArmorFault
  | unreadable
  | label (found : String)
  | certificates
  | lists
  | noCertificates
  | noLists
deriving Repr, DecidableEq

/-- The words for refused armored text. -/
def ArmorFault.message : ArmorFault → String
  | .unreadable => "Parsing " ++ someDetail
  | .label found => "expected CERTIFICATE, got " ++ found
  | .certificates => "failed to parse PEM: " ++ someDetail
  | .lists => "failed to parse CRL PEM: " ++ someDetail
  | .noCertificates => "no certificates found in PEM input"
  | .noLists => "no CRLs found in PEM input"

/-- Why a status response is refused. -/
inductive ResponseFault
  | truncated
  | expected (what : String)
  | responseType (oid : String)
  | timeEncoding
  | time (text : String)
deriving Repr, DecidableEq

/-- The words for a refused status response. -/
def ResponseFault.message : ResponseFault → String
  | .truncated => someDetail
  | .expected what => "expected " ++ what
  | .responseType oid => "unsupported response type " ++ oid
  | .timeEncoding => "non-ASCII time"
  | .time text => "bad GeneralizedTime " ++ Quoted.quote text ++ ": " ++ someDetail

/-- Why revocation data is refused. -/
inductive RevocationFault
  | list
  | response (fault : ResponseFault)
deriving Repr, DecidableEq

/-- The words for refused revocation data. -/
def RevocationFault.message : RevocationFault → String
  | .list => "invalid CRL: " ++ someDetail
  | .response fault => "invalid OCSP response: " ++ fault.message

/-- Why policies are refused. -/
inductive PolicyFault
  | emptyId
  | emptyRuleId (policy : String)
  | noOperator (policy rule : String)
  | duplicateRule (policy rule : String)
  | document (path : String)
  | directory (path : String)
deriving Repr, DecidableEq

/-- The words for refused policies. -/
def PolicyFault.message : PolicyFault → String
  | .emptyId => "policy with empty id"
  | .emptyRuleId policy => "policy " ++ policy ++ ": rule with empty id"
  | .noOperator policy rule => "policy " ++ policy ++ ": rule " ++ rule ++ " has no operator"
  | .duplicateRule policy rule => "policy " ++ policy ++ ": duplicate rule id " ++ rule
  | .document path => path ++ ": " ++ someDetail
  | .directory path => "IO error for operation on " ++ path ++ ": " ++ someDetail

/-- Why an input cannot be used. -/
inductive Failure
  | certificate (fault : CertificateFault)
  | armor (fault : ArmorFault)
  | encoding
  | revocation (fault : RevocationFault)
  | policy (fault : PolicyFault)
  | noCertificates
  | chainNotBuilt
  | io
  | json
  | yaml
deriving Repr, DecidableEq

/-- The words for an input that cannot be used. -/
def Failure.message : Failure → String
  | .certificate fault => "Failed to parse certificate: " ++ fault.message
  | .armor fault => "Invalid PEM format: " ++ fault.message
  | .encoding => "Invalid DER format: " ++ someDetail
  | .revocation fault => "Invalid revocation data: " ++ fault.message
  | .policy fault => "Invalid policy document: " ++ fault.message
  | .noCertificates => "no certificates provided"
  | .chainNotBuilt => "could not build chain"
  | .io => "IO error: " ++ someDetail
  | .json => "JSON serialization error: " ++ someDetail
  | .yaml => "YAML error: " ++ someDetail

end CertAudit
