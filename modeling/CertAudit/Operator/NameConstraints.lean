/- Checking alternative names against the subtrees that authorities above allow and forbid. All
subtrees above a certificate apply together. -/
import CertAudit.Context
import CertAudit.Text.Split
namespace CertAudit.NameConstraints

/-- The largest product of names and subtrees that is checked. -/
def maxWork : Nat := 65536

/-- The characters of a text, ASCII letters in lower case. -/
def lowered (s : String) : List Char := s.toList.map Char.toLower

/-- Whether a host is in the subtree of a domain. An empty domain holds every host, one behind a
point only the hosts below it. -/
def hostIn (host domain : List Char) : Bool :=
  match domain with
  | [] => true
  | '.' :: _ => domain.isSuffixOf host
  | _ => host == domain || ('.' :: domain).isSuffixOf host

/-- What follows the last occurrence of a character, where there is one. -/
def afterLast? (sep : Char) (cs : List Char) : Option (List Char) :=
  if cs.contains sep then (CharList.split sep cs).getLast? else none

/-- Whether a mail address is in a subtree: that of an address, or that of a domain. -/
def addressIn (address subtree : List Char) : Bool :=
  if subtree.contains '@' then address == subtree
  else match afterLast? '@' address with
    | some host => hostIn host subtree
    | none => false

/-- What follows `://`. -/
def afterScheme? : List Char → Option (List Char)
  | ':' :: '/' :: '/' :: rest => some rest
  | _ :: rest => afterScheme? rest
  | [] => none

/-- Whether a character ends the authority of a URI. -/
def endsAuthority (c : Char) : Bool := c == '/' || c == '?' || c == '#'

/-- The host of a URI in lower case, if it names one. -/
def uriHost? (uri : String) : Option (List Char) := do
  let rest ← afterScheme? uri.toList
  let authority := rest.takeWhile fun c => !endsAuthority c
  let hostPort := (afterLast? '@' authority).getD authority
  let host := match hostPort with
    | '[' :: bracketed => bracketed.takeWhile (· != ']')
    | _ => hostPort.takeWhile (· != ':')
  if host.isEmpty then none else some (host.map Char.toLower)

/-- Whether an address is in a subtree: it agrees with the base where the mask has ones. -/
def ipIn (address addressAndMask : Bytes) : Bool :=
  let base := addressAndMask.take address.length
  let mask := addressAndMask.drop address.length
  addressAndMask.length == 2 * address.length &&
    (address.length == 4 || address.length == 16) &&
    (address.zip (base.zip mask)).all fun (a, b, m) => a &&& m == b &&& m

/-- Whether a name is in no forbidden subtree and, where some are allowed, in one of those. -/
def allowed {α β : Type} (isIn : α → β → Bool) (permitted excluded : List β) (name : α) : Bool :=
  !excluded.any (isIn name) && (permitted.isEmpty || permitted.any (isIn name))

/-- The subtrees of hosts. -/
def dnsSubtrees (subtrees : List NameSubtree) : List (List Char) :=
  subtrees.filterMap fun
    | .dns s => some (lowered s)
    | _ => none

/-- The subtrees of mail addresses. -/
def emailSubtrees (subtrees : List NameSubtree) : List (List Char) :=
  subtrees.filterMap fun
    | .email s => some (lowered s)
    | _ => none

/-- The subtrees of hosts of URIs. -/
def uriSubtrees (subtrees : List NameSubtree) : List (List Char) :=
  subtrees.filterMap fun
    | .uri s => some (lowered s)
    | _ => none

/-- The subtrees of addresses. -/
def ipSubtrees (subtrees : List NameSubtree) : List Bytes :=
  subtrees.filterMap fun
    | .ip bs => some bs
    | _ => none

/-- The number of subtrees of a form that is checked. -/
def checkedCount (subtrees : List NameSubtree) : Nat :=
  (subtrees.filter fun
    | .other _ => false
    | _ => true).length

/-- Whether an alternative name is allowed. A URI without a host is in no subtree. -/
def nameAllowed (c : NameConstraints) : AltName → Bool
  | .dns s => allowed hostIn (dnsSubtrees c.permitted) (dnsSubtrees c.excluded) (lowered s)
  | .email s => allowed addressIn (emailSubtrees c.permitted) (emailSubtrees c.excluded) (lowered s)
  | .uri s =>
    match uriHost? s with
    | some host => allowed hostIn (uriSubtrees c.permitted) (uriSubtrees c.excluded) host
    | none => (uriSubtrees c.permitted).isEmpty
  | .ip a => allowed ipIn (ipSubtrees c.permitted) (ipSubtrees c.excluded) a.octets
  | .directory _ => true
  | .other _ => true

/-- The subtrees of all authorities among some certificates. -/
def gather (cas : List Certificate) : NameConstraints :=
  let found := (cas.filter Certificate.isAuthority).filterMap Certificate.nameConstraints?
  { permitted := found.flatMap (·.permitted), excluded := found.flatMap (·.excluded) }

/-- Whether all names are allowed, and the check is within bounds. -/
def namesAllowed (c : NameConstraints) (names : List AltName) : Bool :=
  names.length * (checkedCount c.permitted + checkedCount c.excluded) ≤ maxWork &&
    names.all (nameAllowed c)

/-- Whether the names of the certificate under test are allowed by the authorities above it. -/
def judge (ctx : Context) : Bool :=
  match ctx.entry with
  | none => false
  | some e =>
    !ctx.chain.isEmpty &&
      namesAllowed (gather ((ctx.chain.drop (e.position + 1)).map (·.certificate)))
        e.certificate.altNames

end CertAudit.NameConstraints
