/- What a rule is judged by: a tree, the time, the certificate under test, its chain, and what is
known of revocations. -/
import CertAudit.Chain
import CertAudit.Certificate.Tree
import CertAudit.Revocation.Response
namespace CertAudit

/-- What a rule is judged by. -/
structure Context where
  root : Node
  now : Timestamp
  entry : Option ChainEntry := none
  chain : List ChainEntry := []
  lists : List RevocationList := []
  responses : List StatusResponse := []

namespace Context

/-- The part in its chain of the certificate under test. -/
def role? (ctx : Context) : Option ChainRole := ctx.entry.map (·.role)

/-- The certificate under test. -/
def certificate? (ctx : Context) : Option Certificate := ctx.entry.map (·.certificate)

/-- The issuer of the certificate under test: the next one in the chain, or a root itself. -/
def issuer? (ctx : Context) : Option Certificate :=
  match ctx.entry with
  | none => none
  | some e =>
    if ctx.chain.isEmpty then none
    else if e.role = .root then some e.certificate
    else (ctx.chain[e.position + 1]?).map (·.certificate)

end Context
end CertAudit
