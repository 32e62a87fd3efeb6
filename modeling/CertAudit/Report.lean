/- Auditing certificates under policies, and the report of it. -/
import CertAudit.Policy
namespace CertAudit

/-- How a certificate fared. -/
structure CertificateReport where
  file : Option String
  subject : String
  hash : String
  position : Nat
  role : ChainRole
  verdict : Verdict
  policies : List PolicyResult
deriving Repr, DecidableEq

/-- How all certificates fared at some time. -/
structure Report where
  evaluatedAt : Timestamp
  verdict : Verdict
  certificates : List CertificateReport
deriving Repr, DecidableEq

namespace Report

/-- Whether nothing failed. -/
def passed (r : Report) : Bool := r.verdict == .pass

/-- The number of failed policies, counted once for each certificate. -/
def failedPolicies (r : Report) : Nat :=
  ((r.certificates.flatMap (·.policies)).filter fun p => p.verdict == .fail).length

end Report

/-- How to audit: the operators there are, the time if not the present, and whether certificates
outside the chain are audited on their own. -/
structure AuditOptions where
  registry : Registry := .full
  atTime : Option Int := none
  allowPartial : Bool := false

namespace Audit

/-- The context of an entry of a chain. -/
def contextOf (now : Timestamp) (lists : List RevocationList) (responses : List StatusResponse)
    (chain : List ChainEntry) (e : ChainEntry) : Context :=
  { root := e.certificate.tree, now, entry := some e, chain, lists, responses }

/-- How one entry fares in its context. -/
def certificateReport (registry : Registry) (policies : List Policy) (e : ChainEntry)
    (ctx : Context) : CertificateReport :=
  let results := policies.map (Policy.evaluate registry ctx)
  { file := e.file
    subject := e.certificate.subjectLine
    hash := e.hash
    position := e.position
    role := e.role
    verdict := .ofFailed (results.any fun p => p.verdict == .fail)
    policies := results }

/-- How the entries of a chain fare. -/
def chainReports (registry : Registry) (policies : List Policy) (now : Timestamp)
    (lists : List RevocationList) (responses : List StatusResponse) (chain : List ChainEntry) :
    List CertificateReport :=
  chain.map fun e =>
    certificateReport registry policies e (contextOf now lists responses chain e)

/-- The time to judge at. -/
def evaluationTime (options : AuditOptions) (present : Timestamp) : Except Failure Timestamp :=
  match options.atTime with
  | none => .ok present
  | some t =>
    match Timestamp.ofUnix? t with
    | some time => .ok time
    | none => .error (.certificate (.evaluationTime t))

/-- Audits certificates: their longest chain and, if wanted, each certificate outside it. -/
def run (options : AuditOptions) (present : Timestamp) (entries : List ChainEntry)
    (policies : List Policy) (lists : List RevocationList) (responses : List StatusResponse) :
    Except Failure Report := do
  let now ← evaluationTime options present
  let (chain, remainder) ← Chain.assemble entries
  let audit := chainReports options.registry policies now lists responses
  let extra := if options.allowPartial then remainder.flatMap fun e => audit [e] else []
  let certificates := audit chain ++ extra
  .ok { evaluatedAt := now
        verdict := .ofFailed (certificates.any fun c => c.verdict != .pass)
        certificates }

end Audit
end CertAudit
