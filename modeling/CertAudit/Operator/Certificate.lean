/- Operators that look at the certificate under test and at its chain. -/
import CertAudit.Operator.Value
namespace CertAudit.Operator

/-- Whether a text names a kind of key. A kind that is not known has no name. -/
def namesKey (a : KeyAlgorithm) (s : String) : Bool :=
  match a with
  | .unknown _ => false
  | .ec curve bits =>
    equalsIgnoringCase s (KeyAlgorithm.ec curve bits).name || equalsIgnoringCase s "ECDSA"
  | a => equalsIgnoringCase s a.name

/-- Whether the key of the certificate is of one of the kinds that operands name. -/
def judgeKeyAlgorithm (ctx : Context) (operands : List Value) : Judgement :=
  if operands.isEmpty then .error (.arity keyAlgorithm "at least 1" 0)
  else
    match ctx.certificate? with
    | none => .ok false
    | some c => .ok ((Value.itemTexts operands).any (namesKey c.publicKey.algorithm))

/-- Whether the key of the certificate has at least the number of bits that the operand names. -/
def judgeKeySize (ctx : Context) (operands : List Value) : Judgement := do
  let v ← minKeySize.single operands
  let least ← minKeySize.numeric (some v)
  match ctx.certificate?.bind fun c => c.publicKey.algorithm.keySize? with
  | none => .ok false
  | some bits => .ok (least.atMost (Binary64.ofNat bits))

/-- Whether every critical extension of the certificate is understood. -/
def judgeCriticalExtensions (ctx : Context) : Bool :=
  match ctx.certificate? with
  | none => false
  | some c =>
    c.extensions.all fun e => !e.critical || Identifiers.understoodExtensions.contains e.oid

/-- Judges the certificate together with its issuer. -/
def withIssuer (test : Certificate → Certificate → Bool) (ctx : Context) : Bool :=
  match ctx.certificate?, ctx.issuer? with
  | some c, some issuer => test c issuer
  | _, _ => false

/-- Whether the key that the certificate says it is signed with is that of its issuer. -/
def judgeKeyIds (ctx : Context) : Bool :=
  match ctx.certificate? with
  | none => false
  | some c =>
    !ctx.chain.isEmpty &&
      match c.authorityKeyId? with
      | none => true
      | some id =>
        match ctx.issuer? with
        | none => false
        | some issuer =>
          match issuer.subjectKeyId? with
          | some other => other == id
          | none => true

/-- The number of authorities among some entries. -/
def authorityCount (entries : List ChainEntry) : Nat :=
  (entries.filter fun e => e.certificate.isAuthority).length

/-- Whether a certificate allows as many authorities below it as there are. -/
def allowsBelow (c : Certificate) (authorities : Nat) : Bool :=
  match c.pathLength? with
  | some most => authorities ≤ most
  | none => true

/-- Whether every certificate from the one under test upward allows the authorities between it
and the start of the chain, and the one under test those below it. -/
def judgePathLength (ctx : Context) : Bool :=
  match ctx.entry with
  | none => false
  | some e =>
    if ctx.chain.isEmpty then false
    else if e.role = .root then true
    else
      (ctx.chain.zipIdx.drop e.position).all (fun (other, i) =>
        allowsBelow other.certificate (authorityCount ((ctx.chain.take i).drop 1))) &&
      allowsBelow e.certificate (authorityCount (ctx.chain.take e.position))

end CertAudit.Operator
