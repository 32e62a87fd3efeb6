/- Object identifiers in dotted decimal. -/
import CertAudit.Der.Element
import CertAudit.Text.Hex
namespace CertAudit.Oid

/-- The arcs that seven bits a byte spell, a clear high bit ending each; bytes at the end without
one spell an arc too. -/
def arcs : Nat → Bytes → List Nat
  | _, [] => []
  | n, [b] => [(n * 128 + b.toNat % 128) % UInt64.size]
  | n, b :: rest =>
    let n := (n * 128 + b.toNat % 128) % UInt64.size
    if b.toNat < 128 then n :: arcs 0 rest else arcs n rest

/-- Whether every arc that ends is at most nine bytes long, of which `n` have been read. -/
def arcsFit : Nat → Bytes → Bool
  | _, [] => true
  | n, b :: rest => if b.toNat < 128 then n < 9 && arcsFit 0 rest else arcsFit (n + 1) rest

/-- Numbers with dots between them. -/
def dotted (ns : List Nat) : String := ".".intercalate (ns.map Nat.repr)

/-- Bytes in lowercase hexadecimal with blanks between them. -/
def spaced (bs : Bytes) : String := " ".intercalate (bs.map fun b => Hex.lower [b])

/-- The dotted form of the content of an identifier: the first byte holds two arcs, a lone zero
byte one. Bytes stand for an identifier with an arc that is too long. -/
def ofContent : Bytes → String
  | [] => ""
  | [0] => "0"
  | b :: rest =>
    if arcsFit 0 rest then dotted (b.toNat / 40 :: b.toNat % 40 :: arcs 0 rest)
    else spaced (b :: rest)

/-- Whether no arc begins with a byte that adds nothing to it and the last byte ends an arc, so
that the dotted form has no other spelling. `start` tells whether an arc begins. -/
def isPlainFrom : Bool → Bytes → Bool
  | start, [] => start
  | start, b :: rest => !(start && b == 0x80) && isPlainFrom (b.toNat < 128) rest

/-- Whether a content is the one spelling of its dotted form. -/
def isPlain : Bytes → Bool
  | [] => false
  | _ :: rest => isPlainFrom true rest

/-- Whether a content is the spelling of a dotted form. -/
def spells (content : Bytes) (dotted : String) : Bool :=
  isPlain content && ofContent content == dotted

/-- Reads an identifier and the bytes behind it. Any primitive element is taken for one. -/
def read (bs : Bytes) : Option (Bytes × Bytes) := do
  let (e, rest) ← Der.read bs
  if e.constructed then none else some (e.content, rest)

end CertAudit.Oid
