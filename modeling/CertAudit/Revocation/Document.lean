/- Revocation lists and answers of status services as JSON documents. -/
import CertAudit.Certificate.Document
import CertAudit.Revocation.Response
namespace CertAudit

/-- A revoked certificate as a document. -/
def RevokedEntry.toJson (e : RevokedEntry) : Json :=
  .object [("serial", .bytes e.serial), ("revocation_date", .time e.date),
    ("reason", .optional .string e.reason)]

/-- The members of the document of a list. -/
def RevocationList.members (l : RevocationList) : List (String × Json) := [
  ("issuer", l.issuer.toJson),
  ("this_update", .time l.thisUpdate),
  ("next_update", .optional .time l.nextUpdate),
  ("revoked", .array (l.revoked.map RevokedEntry.toJson)),
  ("signature_algorithm_oid", .string l.signatureAlgorithmOid)]

/-- The status of an answer as a document. -/
def ResponseStatus.toJson : ResponseStatus → Json
  | .successful => .string "successful"
  | .malformedRequest => .string "malformedRequest"
  | .internalError => .string "internalError"
  | .tryLater => .string "tryLater"
  | .sigRequired => .string "sigRequired"
  | .unauthorized => .string "unauthorized"
  | .other code => .object [("other", .nat code)]

/-- Who answers as a document. -/
def Responder.toJson : Responder → Json
  | .name n => .tagged "ByName" n.toJson
  | .key hash => .tagged "ByKey" (.bytes hash)

/-- What is known of a certificate as a document. -/
def CertificateStatus.toJson : CertificateStatus → Json
  | .good => .object [("status", .string "good")]
  | .revoked t reason =>
    .object [("status", .string "revoked"), ("time", .time t), ("reason", .optional .string reason)]
  | .unknown => .object [("status", .string "unknown")]

/-- The answer about one certificate as a document. -/
def SingleResponse.toJson (r : SingleResponse) : Json :=
  .object [("hash_algorithm", .string r.hashAlgorithm),
    ("issuer_name_hash", .bytes r.issuerNameHash), ("issuer_key_hash", .bytes r.issuerKeyHash),
    ("serial", .bytes r.serial), ("status", r.status.toJson),
    ("this_update", .time r.thisUpdate), ("next_update", .optional .time r.nextUpdate)]

/-- The members of the document of an answer. -/
def StatusResponse.members (r : StatusResponse) : List (String × Json) := [
  ("status", r.status.toJson),
  ("responder", .optional Responder.toJson r.responder),
  ("produced_at", .optional .time r.producedAt),
  ("responses", .array (r.responses.map SingleResponse.toJson)),
  ("signature_algorithm_oid", .optional .string r.signatureAlgorithmOid)]

end CertAudit
