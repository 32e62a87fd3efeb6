/- Operators that look at revocation lists and at answers of status services. -/
import CertAudit.Context
namespace CertAudit.Operator

/-- Whether there are lists and all of them pass a test. -/
def judgeLists (test : RevocationList → Bool) (ctx : Context) : Bool :=
  !ctx.lists.isEmpty && ctx.lists.all test

/-- Whether every list is signed by a certificate of the chain that has the name of its issuer. -/
def judgeListSigners (ctx : Context) : Bool :=
  !ctx.chain.isEmpty && judgeLists (fun l =>
    (ctx.chain.filter fun e => e.certificate.subjectLine == l.issuer.oneLine).any
      fun e => l.isSignedBy e.certificate) ctx

/-- Whether no list that covers the certificate names it. -/
def judgeNotListed (ctx : Context) : Bool :=
  match ctx.certificate? with
  | none => false
  | some c => (ctx.lists.filter fun l => l.covers c).all fun l => (l.find? c.serial).isNone

/-- Whether there are answers and all of them pass a test. -/
def judgeResponses (test : StatusResponse → Bool) (ctx : Context) : Bool :=
  !ctx.responses.isEmpty && ctx.responses.all test

/-- Whether every answer is signed on behalf of a certificate of the chain. -/
def judgeResponseSigners (ctx : Context) : Bool :=
  !ctx.chain.isEmpty && judgeResponses (fun r =>
    ctx.chain.any fun e => r.isSignedBy e.certificate) ctx

/-- All that answers say of a certificate. -/
def statuses (ctx : Context) (c : Certificate) : List CertificateStatus :=
  ((ctx.responses.flatMap (·.responses)).filter fun r => r.isAbout c).map (·.status)

/-- Whether a status is that of a revoked certificate. -/
def isRevoked : CertificateStatus → Bool
  | .revoked .. => true
  | _ => false

/-- Whether no answer says that the certificate is revoked. -/
def judgeNotRevoked (ctx : Context) : Bool :=
  match ctx.certificate? with
  | none => false
  | some c => !(statuses ctx c).any isRevoked

/-- Goes through statuses up to the first one that is revoked. Whether one has been good is
remembered. -/
def goodAmong (seen : Bool) : List CertificateStatus → Bool
  | [] => seen
  | .good :: rest => goodAmong true rest
  | .revoked .. :: _ => false
  | .unknown :: rest => goodAmong seen rest

/-- Whether an answer says that the certificate is good, and none that it is revoked. -/
def judgeGood (ctx : Context) : Bool :=
  match ctx.certificate? with
  | none => false
  | some c => goodAmong false (statuses ctx c)

end CertAudit.Operator
