/- The size of an RSA key is the number of bits of its modulus, and rules judge the key by it. -/
import CertAudit.Proofs.Bytes.BitLength
import CertAudit.Proofs.Der.Encoding
import CertAudit.Proofs.Operator.Comparison
namespace CertAudit

variable {modulus exponent bits : Bytes} {n e : ℕ}

namespace EncodedKey

/-- The bits of a key are a sequence that begins with two integers of given contents. All that comes
behind these in the sequence can be read, and what comes behind the sequence does not count. -/
inductive HoldsRsa (modulus exponent : Bytes) : Bytes → Prop
  | intro {first second more sequence : Bytes} {others : List Der.Element} (rest : Bytes)
      (hfirst : Der.Spells 0x02 modulus first) (hsecond : Der.Spells 0x02 exponent second)
      (hmore : Der.readAll (Der.readChecked (Der.maxDepth - 1)) more = some others)
      (hsequence : Der.Spells 0x30 (first ++ (second ++ more)) sequence) :
      HoldsRsa modulus exponent (sequence ++ rest)

theorem HoldsRsa.exists_readElements (h : HoldsRsa modulus exponent bits) :
    ∃ others rest, Der.readElements bits =
      some (Der.elementOf 0x02 modulus :: Der.elementOf 0x02 exponent :: others, rest) := by
  cases h with
  | intro rest hfirst hsecond hmore hsequence =>
    rename_i first second more sequence others
    have hdepth : 0 < Der.maxDepth - 1 := by decide
    refine ⟨others, rest, ?_⟩
    rw [hsequence.readElements,
      Der.readAll_append (hfirst.readChecked_integer hdepth _) hfirst.ne_nil,
      Der.readAll_append (hsecond.readChecked_integer hdepth _) hsecond.ne_nil, hmore]
    rfl

theorem HoldsRsa.exists_read (h : HoldsRsa modulus exponent bits) :
    ∃ content rest, Der.read bits = some (Der.elementOf 0x30 content, rest) := by
  cases h with
  | intro rest _ _ _ hsequence => exact ⟨_, rest, hsequence.read (by decide) rest⟩

theorem rsaParameters?_of_holdsRsa (hkey : HoldsRsa modulus exponent bits)
    (hmodulus : Der.signedValue modulus = n) (hlength : modulus.length < 2 ^ 28)
    (hexponent : Der.signedValue exponent = e) (he : e < 2 ^ 64) :
    rsaParameters? bits = some (n.size, e) := by
  obtain ⟨content, rest, hread⟩ := hkey.exists_read
  obtain ⟨others, rest', helements⟩ := hkey.exists_readElements
  have hclass : (Der.elementOf 0x30 content).tagClass = .universal := rfl
  have hinteger : (Der.elementOf 0x02 modulus).integer? = some (n : ℤ) := congrArg some hmodulus
  have hsize := Bytes.toNat_bitLength_bigEndian (Der.lt_of_signedValue hmodulus) hlength
  simp only [rsaParameters?, hread, bind, Option.bind_some, hclass, ne_eq, not_true, if_false,
    helements, hinteger, Der.number?_elementOf hexponent he, Int.natAbs_natCast, hsize]

end EncodedKey

namespace Operator

variable {ctx : Context} {c : Certificate} {v : Value} {k : ℤ} {size : ℕ}

theorem judgeKeySize_of_integer? (hc : ctx.certificate? = some c)
    (hsize : c.publicKey.algorithm.keySize? = some size) (hsmall : size < 2 ^ 53)
    (hv : v.integer? = some k) : judgeKeySize ctx [v] = .ok (decide (k ≤ size)) := by
  have hk : k.natAbs < 2 ^ 64 := Value.natAbs_lt_of_integer? hv
  have hb : (size : ℤ).natAbs < 2 ^ 53 := by rwa [Int.natAbs_natCast]
  -- Sizes are small enough for the order of the nearest doubles to be that of the integers.
  have hatMost : (Binary64.ofInt k).atMost (Binary64.ofNat size) = decide (k ≤ size) := by
    rw [Binary64.ofNat_eq_ofInt, Binary64.atMost_ofInt hk (hb.trans (by decide)),
      decide_eq_decide]
    exact Binary64.nearest_le_iff hk hb
  simp only [judgeKeySize, single, numeric, Value.number?_of_integer? hv, hc, Option.bind_some,
    hsize, hatMost, bind, Except.bind]

end Operator

namespace EncodedKey

/-- The size of an RSA key is the number of bits of its modulus, zero for zero, whatever zeros stand
in front of it. The key is large enough for an integer just where the modulus has as many bits. -/
theorem keySize_modulus (body : CertificateBody) (signed : SignedBytes) (encoding : Bytes)
    (hrsa : Oid.ofContent body.key.algorithm.oid = Identifiers.rsaEncryption)
    (hkey : HoldsRsa modulus exponent body.key.bits)
    (hmodulus : Der.signedValue modulus = n) (hlength : modulus.length < 2 ^ 28)
    (hexponent : Der.signedValue exponent = e) (he : e < 2 ^ 64) :
    rsaParameters? body.key.bits = some (n.size, e) ∧
    ∀ (target : Option Node) (ctx : Context) (v : Value) (k : ℤ),
      ctx.certificate? = some (Certificate.ofParts body signed encoding) → v.integer? = some k →
        Operator.minKeySize.evaluate target ctx [v] = .ok (decide (k ≤ n.size)) := by
  have hparameters := rsaParameters?_of_holdsRsa hkey hmodulus hlength hexponent he
  refine ⟨hparameters, ?_⟩
  intro target ctx v k hc hv
  have hsize : (Certificate.ofParts body signed encoding).publicKey.algorithm.keySize? =
      some n.size := by
    simp only [Certificate.ofParts, kind, hrsa, if_true, hparameters]
    rfl
  have hsmall : n.size ≤ 8 * modulus.length := by
    rw [Nat.size_le, Nat.pow_mul]
    exact Der.lt_of_signedValue hmodulus
  exact Operator.judgeKeySize_of_integer? hc hsize (by omega) hv

/-- The modulus 32769 behind three zeros and the exponent 65537. The length of the sequence could be
shorter, and a byte stands behind it. -/
def paddedKey : Bytes :=
  [0x30, 0x82, 0x00, 0x0c, 0x02, 0x05, 0x00, 0x00, 0x00, 0x80, 0x01, 0x02, 0x03, 0x01, 0x00, 0x01,
    0xff]

/-- The fields of a certificate with the padded key, and nothing else of note. -/
def paddedBody : CertificateBody :=
  { version := 2
    serial := [1]
    issuer := { attributes := [] }
    notBefore := { seconds := 0 }
    notAfter := { seconds := 0 }
    subject := { attributes := [] }
    key :=
      { algorithm := { oid := [0x2a, 0x86, 0x48, 0x86, 0xf7, 0x0d, 0x01, 0x01, 0x01] }
        bits := paddedKey }
    extensions := [] }

def paddedSignature : SignedBytes := { body := [], algorithm := { oid := [] }, signature := [] }

def paddedContext : Context :=
  { root := Node.new ""
    now := { seconds := 0 }
    entry := some { certificate := .ofParts paddedBody paddedSignature [] } }

theorem holdsRsa_paddedKey :
    HoldsRsa [0x00, 0x00, 0x00, 0x80, 0x01] [0x01, 0x00, 0x01] paddedKey := by
  have hmodulus : Der.Spells 0x02 [0x00, 0x00, 0x00, 0x80, 0x01]
      [0x02, 0x05, 0x00, 0x00, 0x00, 0x80, 0x01] := .intro (.short (by decide))
  have hexponent : Der.Spells 0x02 [0x01, 0x00, 0x01] [0x02, 0x03, 0x01, 0x00, 0x01] :=
    .intro (.short (by decide))
  have hlength : Der.SpellsLength 12 [0x82, 0x00, 0x0c] :=
    .long (List.cons_ne_nil 0x00 [0x0c]) (by decide) (by decide) (by decide)
  exact .intro [0xff] hmodulus hexponent (Der.readAll_nil _) (.intro hlength)

theorem keySize_modulus_padded :
    HoldsRsa [0x00, 0x00, 0x00, 0x80, 0x01] [0x01, 0x00, 0x01] paddedBody.key.bits ∧
    rsaParameters? paddedBody.key.bits = some (16, 65537) ∧
    Operator.minKeySize.evaluate none paddedContext [.int 16] = .ok true ∧
    Operator.minKeySize.evaluate none paddedContext [.uint 17] = .ok false := by
  have hrsa : Oid.ofContent paddedBody.key.algorithm.oid = Identifiers.rsaEncryption := by
    decide +kernel
  have hsize : Nat.size 32769 = 16 := by decide +kernel
  obtain ⟨hparameters, hjudged⟩ := keySize_modulus paddedBody paddedSignature [] hrsa
    holdsRsa_paddedKey (n := 32769) (e := 65537) (by decide) (by decide) (by decide) (by decide)
  rw [hsize] at hparameters hjudged
  exact ⟨holdsRsa_paddedKey, hparameters, hjudged none paddedContext (.int 16) 16 rfl rfl,
    hjudged none paddedContext (.uint 17) 17 rfl rfl⟩

end EncodedKey
end CertAudit
