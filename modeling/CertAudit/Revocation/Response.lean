/- Answers of status services about single certificates. -/
import CertAudit.Revocation.List
import CertAudit.Time.Reader
namespace CertAudit

/-- How a service dealt with a request. -/
inductive ResponseStatus
  | successful
  | malformedRequest
  | internalError
  | tryLater
  | sigRequired
  | unauthorized
  | other (code : Nat)
deriving Repr, DecidableEq

/-- The status with a code. -/
def ResponseStatus.ofCode : Nat → ResponseStatus
  | 0 => .successful
  | 1 => .malformedRequest
  | 2 => .internalError
  | 3 => .tryLater
  | 5 => .sigRequired
  | 6 => .unauthorized
  | n => .other n

/-- Who answers: a subject, or the holder of a key with some hash. -/
inductive Responder
  | name (name : Name)
  | key (hash : Bytes)
deriving Repr, DecidableEq

/-- What is known of a certificate. -/
inductive CertificateStatus
  | good
  | revoked (time : Timestamp) (reason : Option String)
  | unknown
deriving Repr, DecidableEq

/-- The answer about one certificate. -/
structure SingleResponse where
  hashAlgorithm : String
  issuerNameHash : Bytes
  issuerKeyHash : Bytes
  serial : Bytes
  status : CertificateStatus
  thisUpdate : Timestamp
  nextUpdate : Option Timestamp
deriving Repr, DecidableEq

/-- The digest algorithms that answers identify issuers with. -/
def digestAlgorithm? (oid : String) : Option DigestAlgorithm :=
  [(Identifiers.digestSha1, DigestAlgorithm.sha1), (Identifiers.digestSha256, .sha256),
    (Identifiers.digestSha384, .sha384), (Identifiers.digestSha512, .sha512)].lookup oid

namespace SingleResponse

/-- Whether the answer is about a certificate: by the serial number and, where it can be
computed, by the hash of the issuer's name. -/
def isAbout (r : SingleResponse) (c : Certificate) : Bool :=
  if r.serial != Bytes.stripLeadingZeros c.serial then false
  else
    match digestAlgorithm? r.hashAlgorithm with
    | some algorithm =>
      c.issuer.encoding.isEmpty ||
        Digest.compute algorithm c.issuer.encoding == r.issuerNameHash
    | none => true

/-- Whether newer information is due. -/
def isExpired (r : SingleResponse) (now : Timestamp) : Bool := isPast r.nextUpdate now

/-- Whether the answer has been issued and newer information is not due. -/
def isCurrent (r : SingleResponse) (now : Timestamp) : Bool :=
  r.thisUpdate.notAfter now && !r.isExpired now

end SingleResponse

/-- The answer of a service. The certificates that come with it may vouch for its signature. -/
structure StatusResponse where
  status : ResponseStatus
  responder : Option Responder := none
  producedAt : Option Timestamp := none
  responses : List SingleResponse := []
  certificates : List Certificate := []
  signatureAlgorithmOid : Option String := none
  signatureAlgorithm : Bytes := []
  signature : Bytes := []
  body : Bytes := []
deriving DecidableEq

/-- The algorithm that an encoding names; its identifier may have any tag. -/
def AlgorithmId.ofEncoding? (bs : Bytes) : Option AlgorithmId := do
  let (e, _) ← Der.read bs
  let (oid, rest) ← Der.read e.content
  some { oid := oid.content, parameters := (Der.read rest).map (·.1) }

namespace StatusResponse

/-- Whether the service answered the request. -/
def isSuccessful (r : StatusResponse) : Bool := r.status == .successful

/-- The answer about a certificate. -/
def find? (r : StatusResponse) (c : Certificate) : Option SingleResponse :=
  r.responses.find? fun s => s.isAbout c

/-- Whether the key of a certificate made the signature. -/
def isSignedDirectlyBy (r : StatusResponse) (signer : Certificate) : Bool :=
  match AlgorithmId.ofEncoding? r.signatureAlgorithm with
  | none => false
  | some algorithm => signer.signed { body := r.body, algorithm, signature := r.signature }

/-- Whether the signature is made with the key of a certificate, or with the key of a certificate
that comes with the answer and is signed with that key. -/
def isSignedBy (r : StatusResponse) (signer : Certificate) : Bool :=
  if !r.isSuccessful || r.signature.isEmpty then false
  else
    r.isSignedDirectlyBy signer ||
      r.certificates.any fun c => c.isSignedBy signer && r.isSignedDirectlyBy c

end StatusResponse

namespace ResponseReader

/-- Reads one element and the bytes behind it. -/
def next (bs : Bytes) : Except ResponseFault (Der.Element × Bytes) :=
  match Der.read bs with
  | some (e, rest) => .ok (e, rest)
  | none => .error .truncated

/-- Reads an element with a universal tag. -/
def expect (tag : Nat) (what : String) (bs : Bytes) :
    Except ResponseFault (Der.Element × Bytes) := do
  let (e, rest) ← next bs
  if e.tagClass = .universal ∧ e.tag = tag then .ok (e, rest) else .error (.expected what)

/-- Whether an element has a context tag. -/
def isContext (e : Der.Element) (tag : Nat) : Bool := e.tagClass == .context && e.tag == tag

/-- The text before the first point. -/
def beforePoint (cs : List Char) : List Char := cs.takeWhile (· != '.')

/-- The text without one closing `Z`. -/
def dropZulu (cs : List Char) : List Char :=
  if cs.getLast? == some 'Z' then cs.dropLast else cs

/-- The instant of a time; fractions of a second do not count. -/
def time (content : Bytes) : Except ResponseFault Timestamp :=
  match Bytes.toString? content with
  | none => .error .timeEncoding
  | some text =>
    let cs := dropZulu text.toList
    match Timestamp.ofCompact? (beforePoint cs) with
    | some t => .ok t
    | none => .error (.time (String.ofList cs))

/-- Reads a time. -/
def readTime (what : String) (bs : Bytes) : Except ResponseFault (Bytes × Bytes) := do
  let (e, rest) ← expect Der.Tag.generalizedTime what bs
  .ok (e.content, rest)

/-- The reason of a revocation, if a readable one comes next. -/
def reason? (bs : Bytes) : Option String :=
  match next bs with
  | .ok (e, _) =>
    if isContext e 0 then
      match expect Der.Tag.enumerated "revocationReason" e.content with
      | .ok (code, _) => code.content.getLast?.map fun b => Revocation.reasonName b.toNat
      | .error _ => none
    else none
  | .error _ => none

/-- What an element says of a certificate. -/
def status (e : Der.Element) : Except ResponseFault CertificateStatus :=
  if isContext e 0 then .ok .good
  else if isContext e 1 then do
    let (content, rest) ← readTime "revocationTime" e.content
    let reason := reason? rest
    let t ← time content
    .ok (.revoked t reason)
  else .ok .unknown

/-- The last announced next update among the fields that end an answer. -/
def nextUpdate (found : Option Timestamp) (bs : Bytes) :
    Except ResponseFault (Option Timestamp) :=
  if bs.isEmpty then .ok found
  else
    match next bs with
    | .error fault => .error fault
    | .ok (e, rest) =>
      if rest.length < bs.length then
        if isContext e 0 then
          match readTime "nextUpdate" e.content with
          | .error fault => .error fault
          | .ok (content, _) =>
            match time content with
            | .error fault => .error fault
            | .ok t => nextUpdate (some t) rest
        else nextUpdate found rest
      else .error .truncated
termination_by bs.length

/-- The fields of the answer about one certificate. -/
def single (bs : Bytes) : Except ResponseFault SingleResponse := do
  let (id, rest) ← expect Der.Tag.sequence "CertID" bs
  let (algorithm, idRest) ← expect Der.Tag.sequence "hashAlgorithm" id.content
  let (oid, _) ← expect Der.Tag.oid "hash algorithm OID" algorithm.content
  let (nameHash, idRest) ← expect Der.Tag.octetString "issuerNameHash" idRest
  let (keyHash, idRest) ← expect Der.Tag.octetString "issuerKeyHash" idRest
  let (serial, _) ← expect Der.Tag.integer "serialNumber" idRest
  let (statusField, rest) ← next rest
  let status ← status statusField
  let (content, rest) ← readTime "thisUpdate" rest
  let thisUpdate ← time content
  let nextUpdate ← nextUpdate none rest
  .ok {
    hashAlgorithm := Oid.ofContent oid.content
    issuerNameHash := nameHash.content
    issuerKeyHash := keyHash.content
    serial := Bytes.stripLeadingZeros serial.content
    status, thisUpdate, nextUpdate }

/-- The answers about single certificates up to the end of the bytes. -/
def singles (bs : Bytes) : Except ResponseFault (List SingleResponse) :=
  if bs.isEmpty then .ok []
  else
    match expect Der.Tag.sequence "SingleResponse" bs with
    | .error fault => .error fault
    | .ok (e, rest) =>
      if rest.length < bs.length then
        match single e.content with
        | .error fault => .error fault
        | .ok r =>
          match singles rest with
          | .error fault => .error fault
          | .ok rs => .ok (r :: rs)
      else .error .truncated
termination_by bs.length

/-- Who answers. A name that cannot be read is left out. -/
def responder (e : Der.Element) : Except ResponseFault (Option Responder) :=
  if isContext e 1 then .ok ((Name.read e.content).map fun (n, _) => .name n)
  else if isContext e 2 then do
    let (key, _) ← expect Der.Tag.octetString "responder key hash" e.content
    .ok (some (.key key.content))
  else .error (.expected "responderID")

/-- Who answers, when, and about which certificates. -/
def data (bs : Bytes) :
    Except ResponseFault (Option Responder × Timestamp × List SingleResponse) := do
  let (first, rest) ← next bs
  let (field, rest) ← if isContext first 0 then next rest else .ok (first, rest)
  let responder ← responder field
  let (content, rest) ← readTime "producedAt" rest
  let producedAt ← time content
  let (list, _) ← expect Der.Tag.sequence "responses" rest
  let responses ← singles list.content
  .ok (responder, producedAt, responses)

/-- The certificates up to the end of the bytes, without those that cannot be read. -/
def certificates (bs : Bytes) : Except ResponseFault (List Certificate) :=
  if bs.isEmpty then .ok []
  else
    match next bs with
    | .error fault => .error fault
    | .ok (_, rest) =>
      if rest.length < bs.length then
        match certificates rest with
        | .error fault => .error fault
        | .ok cs =>
          match Certificate.ofEncoding (bs.take (bs.length - rest.length)) with
          | .ok c => .ok (c :: cs)
          | .error _ => .ok cs
      else .error .truncated
termination_by bs.length

/-- The certificates that may come with an answer. -/
def attached (bs : Bytes) : Except ResponseFault (List Certificate) :=
  if bs.isEmpty then .ok []
  else do
    let (e, _) ← next bs
    if isContext e 0 then
      let (list, _) ← expect Der.Tag.sequence "certs" e.content
      certificates list.content
    else .ok []

/-- What has been read off the front of some bytes, up to the rest. -/
def taken (bs rest : Bytes) : Bytes := bs.take (bs.length - rest.length)

/-- A signed answer. -/
def basic (bs : Bytes) : Except ResponseFault StatusResponse := do
  let (outer, _) ← expect Der.Tag.sequence "BasicOCSPResponse" bs
  let (body, afterBody) ← next outer.content
  let (algorithm, afterAlgorithm) ← next afterBody
  let (signature, rest) ← expect Der.Tag.bitString "signature" afterAlgorithm
  let certificates ← attached rest
  let (responder, producedAt, responses) ← data body.content
  .ok {
    status := .successful
    responder, responses, certificates
    producedAt := some producedAt
    signatureAlgorithmOid :=
      (Der.read algorithm.content).map fun (oid, _) => Oid.ofContent oid.content
    signatureAlgorithm := taken afterBody afterAlgorithm
    signature := signature.content.drop 1
    body := taken outer.content afterBody }

/-- The answer of a service. Only a successful one holds more than a status. -/
def response (bs : Bytes) : Except ResponseFault StatusResponse := do
  let (outer, _) ← expect Der.Tag.sequence "OCSPResponse" bs
  let (code, rest) ← expect Der.Tag.enumerated "responseStatus" outer.content
  let status := ResponseStatus.ofCode (code.content.getLastD 0).toNat
  if status ≠ .successful ∨ rest.isEmpty then .ok { status }
  else
    let (tagged, _) ← next rest
    if !isContext tagged 0 then .error (.expected "responseBytes")
    else
      let (content, _) ← expect Der.Tag.sequence "ResponseBytes" tagged.content
      let (type, rest) ← expect Der.Tag.oid "responseType" content.content
      let (payload, _) ← expect Der.Tag.octetString "response" rest
      let oid := Oid.ofContent type.content
      if oid ≠ Identifiers.ocspBasic then .error (.responseType oid)
      else basic payload.content

end ResponseReader

namespace StatusResponse

/-- The answer in an encoding or, failing that, in the base64 text of one. -/
def ofBytes (bs : Bytes) : Except Failure StatusResponse :=
  let fail := fun (fault : ResponseFault) => Failure.revocation (.response fault)
  match ResponseReader.response bs with
  | .ok r => .ok r
  | .error fault =>
    match Base64.decodeBody? bs with
    | some decoded => (ResponseReader.response decoded).mapError fail
    | none => .error (fail fault)

end StatusResponse
end CertAudit
