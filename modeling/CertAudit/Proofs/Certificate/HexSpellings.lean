/- Serial numbers and key identifiers equal the texts that spell them in hexadecimal, and no others. -/
import CertAudit.Proofs.Certificate.SerialNumber
import CertAudit.Proofs.Operator.Equality
import CertAudit.Proofs.Text.Hex
namespace CertAudit

namespace Value

theorem bytes_equals_string (b : Bytes) (s : String) :
    (bytes b).equals (.string s) = decide (Hex.Spelling b s) := by
  rw [Bool.eq_iff_iff, decide_eq_true_iff]
  exact Hex.spells_iff

theorem string_equals_bytes (b : Bytes) (s : String) :
    (string s).equals (.bytes b) = decide (Hex.Spelling b s) := by
  rw [equals_comm, bytes_equals_string]

end Value

namespace Operator

/-- Texts are compared with a node as with a byte string: as operands, and as other nodes on either
side. -/
structure ComparesHex (target : Option Node) (b : Bytes) : Prop where
  eq : ∀ (ctx : Context) (s : String),
    eq.evaluate target ctx [.string s] = .ok (decide (Hex.Spelling b s))
  matching : ∀ (ctx : Context) (path s : String),
    (ctx.root.resolve? path).bind Node.value = some (.string s) →
      matching.evaluate target ctx [.string path] = .ok (decide (Hex.Spelling b s))
  matched : ∀ (ctx : Context) (path s : String) (source : Node),
    ctx.root.resolve? path = target → source.value = some (.string s) →
      Operator.matching.evaluate (some source) ctx [.string path] =
        .ok (decide (Hex.Spelling b s))

theorem comparesHex {target : Option Node} {b : Bytes}
    (h : target.bind Node.value = some (.bytes b)) : ComparesHex target b := by
  constructor
  · intro ctx s
    obtain ⟨n, rfl, hn⟩ := Option.bind_eq_some_iff.mp h
    simp only [evaluate, judgeEqual, hn, Value.bytes_equals_string, Bool.bne_false]
  · intro ctx path s hs
    rw [evaluate_matching, h, hs, bothEqual, Value.bytes_equals_string]
  · intro ctx path s source hpath hs
    rw [evaluate_matching, hpath, h, Option.bind_some, hs, bothEqual, Value.string_equals_bytes]

end Operator

namespace ExtensionValue

def authorityKeyId? : ExtensionValue → Option (Option Bytes)
  | .authorityKeyIdentifier id => some id
  | _ => none

end ExtensionValue

namespace CertificateTree

theorem isView_authorityKeyIdentifier :
    IsView "authorityKeyIdentifier" Identifiers.authorityKeyIdentifier
      ExtensionValue.authorityKeyId? fun id =>
        match id with
        | none => Node.new "authorityKeyIdentifier"
        | some id =>
          (Node.leaf "authorityKeyIdentifier" (.bytes id)).insert
            (Node.leaf "keyIdentifier" (.bytes id)) := by
  refine ⟨by decide, by decide, fun v a h => ?_, fun v => ?_⟩
  · cases v <;> cases h
    rfl
  cases v with
  | authorityKeyIdentifier id => cases id <;> simp [viewNode?, ExtensionValue.authorityKeyId?]
  | _ => simp [viewNode?, altNameNode, ExtensionValue.authorityKeyId?]

end CertificateTree

namespace Certificate

open CertificateTree

variable {c : Certificate} {id : Bytes}

theorem valueAt?_authorityKeyIdentifier (c : Certificate) :
    c.valueAt? "certificate.authorityKeyIdentifier" =
        (c.lastValue ExtensionValue.authorityKeyId?).map (·.map Value.bytes) ∧
      c.valueAt? "certificate.authorityKeyIdentifier.keyIdentifier" =
        (c.lastValue ExtensionValue.authorityKeyId?).bind (·.map fun id => some (.bytes id)) := by
  constructor
  · refine isView_authorityKeyIdentifier.valueAt? c (by decide) ?_
    intro id
    cases id <;> rfl
  · refine isView_authorityKeyIdentifier.valueAt?_below c "keyIdentifier" (by decide) (by decide)
      (by decide) ?_
    intro id
    cases id <;> rfl

/-- A byte string equals the texts that give its lowercase spelling without their colons and capitals,
each of which spells no other one, and so do serial numbers and key identifiers. -/
theorem equals_spelling :
    (∀ b c : Bytes, ((Value.bytes b).equals (.string (Hex.colonUpper c)) = true ↔ b = c) ∧
      ((Value.string (Hex.colonUpper c)).equals (.bytes b) = true ↔ b = c)) ∧
    (∀ (b : Bytes) (s : String),
      ((Value.bytes b).equals (.string s) = true ↔
        String.ofList ((s.toList.filter (· != ':')).map Char.toLower) = Hex.lower b) ∧
      ((Value.bytes b).equals (.string s) = true ↔ Hex.Spelling b s) ∧
      (Value.string s).equals (.bytes b) = (Value.bytes b).equals (.string s)) ∧
    (∀ (b c : Bytes) (s : String), (Value.bytes b).equals (.string s) = true →
      (Value.bytes c).equals (.string s) = true → b = c) ∧
    (∀ (target : Option Node) (b : Bytes), target.bind Node.value = some (.bytes b) →
      Operator.ComparesHex target b) ∧
    ∀ c : Certificate,
      Operator.ComparesHex (c.tree.resolve? "certificate.serialNumber") c.serial ∧
      (∀ id, c.lastValue ExtensionValue.keyId? = some id →
        Operator.ComparesHex (c.tree.resolve? "certificate.subjectKeyIdentifier") id) ∧
      ∀ id, c.lastValue ExtensionValue.authorityKeyId? = some (some id) →
        Operator.ComparesHex (c.tree.resolve? "certificate.authorityKeyIdentifier") id ∧
        Operator.ComparesHex (c.tree.resolve? "certificate.authorityKeyIdentifier.keyIdentifier")
          id := by
  refine ⟨?_, ?_, ?_, ?_, ?_⟩
  · intro b c
    rw [Value.string_equals_bytes, Value.bytes_equals_string, decide_eq_true_iff]
    exact ⟨Hex.spelling_colonUpper_iff, Hex.spelling_colonUpper_iff⟩
  · intro b s
    rw [Value.string_equals_bytes, Value.bytes_equals_string, decide_eq_true_iff]
    refine ⟨?_, Iff.rfl, rfl⟩
    rw [Hex.lower, String.ofList_inj, Hex.map_toLower_eq_iff]
    exact Iff.rfl
  · intro b c s hb hc
    rw [Value.bytes_equals_string, decide_eq_true_iff] at hb hc
    exact hb.unique hc
  · intro target b h
    exact Operator.comparesHex h
  · intro c
    refine ⟨?_, ?_, ?_⟩
    · exact Operator.comparesHex (bind_value_of_valueAt? c.showsSerial.number)
    · intro id hid
      have hvalue := (shows_last c).subjectKeyIdentifier
      rw [hid] at hvalue
      exact Operator.comparesHex (bind_value_of_valueAt? hvalue)
    · intro id hid
      obtain ⟨hvalue, hbelow⟩ := valueAt?_authorityKeyIdentifier c
      rw [hid] at hvalue hbelow
      exact ⟨Operator.comparesHex (bind_value_of_valueAt? hvalue),
        Operator.comparesHex (bind_value_of_valueAt? hbelow)⟩

/-- A key that is its own authority. -/
def identifiedKey : Certificate :=
  extended [([0x55, 0x1d, 0x0e], [4, 2, 0xab, 0xcd]),
    ([0x55, 0x1d, 0x23], [0x30, 4, 0x80, 2, 0xab, 0xcd])]

theorem equals_spelling_identifiedKey :
    let ctx : Context := { root := identifiedKey.tree, now := { seconds := 0 } }
    ofBytes identifiedKey.encoding = .ok identifiedKey ∧
      Operator.eq.evaluate (ctx.root.resolve? "certificate.subjectKeyIdentifier") ctx
        [.string "a:bC:D"] = .ok true ∧
      Operator.eq.evaluate
        (ctx.root.resolve? "certificate.authorityKeyIdentifier.keyIdentifier") ctx
        [.string "abce"] = .ok false ∧
      Operator.matching.evaluate (ctx.root.resolve? "certificate.serialNumber") ctx
        [.string "certificate.serialNumber.hex"] = .ok true := by
  intro ctx
  have hread : ofBytes identifiedKey.encoding = .ok identifiedKey := by cbv
  have hsubject : identifiedKey.lastValue ExtensionValue.keyId? = some [0xab, 0xcd] := by
    decide +kernel
  have hauthority : identifiedKey.lastValue ExtensionValue.authorityKeyId? =
      some (some [0xab, 0xcd]) := by
    decide +kernel
  obtain ⟨hserial, hkey, hissuer⟩ := equals_spelling.2.2.2.2 identifiedKey
  refine ⟨hread, ?_, ?_, ?_⟩
  · rw [(hkey _ hsubject).eq]
    rfl
  · rw [(hissuer _ hauthority).2.eq]
    rfl
  · rw [hserial.matching ctx _ _ (bind_value_of_valueAt? identifiedKey.showsSerial.hex)]
    rfl

end Certificate
end CertAudit
