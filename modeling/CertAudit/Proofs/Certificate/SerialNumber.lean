/- The tree shows a serial number as bytes, in hexadecimal and in decimal, and to be positive means
the same of the bytes and of the decimal numeral. -/
import CertAudit.Operator
import CertAudit.Proofs.Bytes.Shortest
import CertAudit.Proofs.Certificate.Views
import CertAudit.Proofs.Number.Digits
namespace CertAudit

namespace Bytes

theorem any_ne_zero (bs : Bytes) : bs.any (· != 0) = decide (0 < bs.toNat) := by
  induction bs with
  | nil => rfl
  | cons b rest ih =>
    rw [List.any_cons, ih, toNat_cons, Bool.eq_iff_iff]
    have hpow : 0 < 256 ^ rest.length := Nat.pow_pos (by decide)
    have hb : (b != 0) = true ↔ 0 < b.toNat := by
      rw [bne_iff_ne, Nat.pos_iff_ne_zero]
      exact not_congr UInt8.toNat_inj.symm
    simp only [Bool.or_eq_true, hb, decide_eq_true_iff, Nat.add_pos_iff_pos_or_pos,
      Nat.mul_pos_iff_of_pos_right hpow]

end Bytes

namespace Unicode

theorem isWhiteSpace_of_isDigit {c : Char} (h : c.isDigit = true) : isWhiteSpace c = false := by
  have hsigns : ∀ n < 10, isWhiteSpace n.digitChar = false := by decide
  obtain ⟨n, hn, rfl⟩ := IsNumeral.exists_digitChar h
  exact hsigns n hn

theorem dropWhile_isWhiteSpace {cs : List Char} (h : ∀ c ∈ cs, c.isDigit = true) :
    cs.dropWhile isWhiteSpace = cs := by
  cases cs with
  | nil => rfl
  | cons c rest =>
    apply List.dropWhile_cons_of_neg
    rw [isWhiteSpace_of_isDigit (h c List.mem_cons_self)]
    exact Bool.false_ne_true

theorem trim_of_isDigit {s : String} (h : ∀ c ∈ s.toList, c.isDigit = true) : trim s = s := by
  have hback : ∀ c ∈ s.toList.reverse, c.isDigit = true := fun c hc => h c (List.mem_reverse.mp hc)
  rw [trim, dropWhile_isWhiteSpace h, dropWhile_isWhiteSpace hback, List.reverse_reverse,
    String.ofList_toList]

end Unicode

namespace Operator

variable {s : String} {n : Nat}

theorem isDigit_eq (c : Char) : Literal.isDigit c = c.isDigit := by
  rw [Bool.eq_iff_iff, Char.isDigit_iff_toNat, Literal.isDigit, Bool.and_eq_true,
    decide_eq_true_iff, decide_eq_true_iff]
  rfl

theorem isPositiveNumeral_of_digits {cs : List Char} (hs : s.toList = cs) (hne : cs ≠ [])
    (h : ∀ c ∈ cs, c.isDigit = true) : isPositiveNumeral s = cs.any (· != '0') := by
  obtain ⟨c, rest, rfl⟩ := List.exists_cons_of_ne_nil hne
  -- A digit is no sign, so that all of the text counts.
  have hplus : ∀ cs, c :: rest = '+' :: cs → False := by
    rintro cs ⟨⟩
    exact absurd (h '+' List.mem_cons_self) (by decide)
  have hall : (c :: rest).all Literal.isDigit = true := by
    rw [List.all_eq_true]
    intro d hd
    rw [isDigit_eq, h d hd]
  simp only [isPositiveNumeral, hs, hall, List.isEmpty_cons, Bool.not_false, Bool.and_self, if_true]

/-- A numeral without leading zeros has another sign than zero just where its integer is above it. -/
theorem isPositiveNumeral_eq (h : IsNumeral s n) : isPositiveNumeral s = decide (0 < n) := by
  rw [isPositiveNumeral_of_digits rfl h.nonempty h.digits]
  obtain ⟨c, rest, hs⟩ := List.exists_cons_of_ne_nil h.nonempty
  by_cases hc : c = '0'
  · have hzero : s = "0" := h.leading (by rw [hs, hc]; rfl)
    have hn : n = 0 := by
      rw [← h.value, hzero]
      rfl
    rw [hzero, hn]
    rfl
  · have hn : n ≠ 0 := by
      rintro rfl
      have hrepr := congrArg String.toList h.eq_repr
      rw [hs, Nat.toList_repr] at hrepr
      exact hc (List.cons.inj hrepr).1
    rw [decide_eq_true (Nat.pos_of_ne_zero hn), hs, List.any_cons]
    simp [hc]

end Operator

namespace CertificateTree

variable {c : Certificate} {n : Node} {key : String}

/-- The view of an extension takes the place of no other field. -/
theorem viewNode?_free {v : ExtensionValue} (h : viewNode? v = some n) : n.name ∉ fixedKeys := by
  cases v with
  | authorityKeyIdentifier id => cases id <;> cases h <;> simp [fixedKeys]
  | raw => cases h
  | _ =>
    cases h
    simp [altNameNode, fixedKeys]

theorem viewNodes_free (extensions : List Extension) :
    ∀ n ∈ viewNodes extensions, n.name ∉ fixedKeys := by
  intro n hn
  obtain ⟨x, _, hmap⟩ := List.mem_filterMap.mp hn
  obtain ⟨view, hview, rfl⟩ := Option.map_eq_some_iff.mp hmap
  rw [Node.insert_name]
  exact viewNode?_free hview

/-- Under the key of a field stands the field. -/
theorem child?_certificateNode_of_field (hkey : key ∈ fixedKeys) (hne : key ≠ "extensions") :
    (certificateNode c).child? key =
      ((fieldNodes c).filter fun n => n.name == key).getLast? := by
  have hname : (contentsNode c.extensions).name = "extensions" := by simp [contentsNode]
  have hviews : (viewNodes c.extensions).filter (fun n => n.name == key) = [] := by
    rw [List.filter_eq_nil_iff]
    intro n hn heq
    exact viewNodes_free c.extensions n hn (beq_iff_eq.mp heq ▸ hkey)
  rw [certificateNode, Node.insert, Node.child?_setChild, hname, if_neg hne,
    Node.child?_withChildren, List.filter_append, hviews, List.append_nil, Node.new_child?,
    Option.or_none]

end CertificateTree

namespace Certificate

open CertificateTree

variable {c : Certificate} {key path : String} {v : Option Value}

/-- The tree shows the serial number in three forms. -/
structure ShowsSerial (c : Certificate) : Prop where
  number : c.valueAt? "certificate.serialNumber" = some (some (.bytes c.serial))
  hex : c.valueAt? "certificate.serialNumber.hex" = some (some (.string (Hex.colonUpper c.serial)))
  decimal : c.valueAt? "certificate.serialNumber.decimal" =
    some (some (.string c.serial.toDecimal))

theorem child?_serialNumber (c : Certificate) : (certificateNode c).child? "serialNumber" =
    some ((Node.leaf "serialNumber" (.bytes c.serial)).withChildren [
      Node.leaf "hex" (.string c.serialHex),
      Node.leaf "decimal" (.string (Bytes.toDecimal c.serial))]) := by
  rw [child?_certificateNode_of_field (by decide) (by decide)]
  simp [fieldNodes, keyNode]

theorem resolve?_serialPath (c : Certificate) :
    c.tree.resolve? (Node.childPath rootKey "serialNumber") =
      (certificateNode c).child? "serialNumber" :=
  resolve?_viewPath (by decide) c

theorem resolve?_serialNumber (c : Certificate) (hkey : '.' ∉ key.toList) :
    c.tree.resolve? (Node.childPath (Node.childPath rootKey "serialNumber") key) =
      ((certificateNode c).child? "serialNumber").bind fun n => n.child? key := by
  rw [Node.resolve?_childPath_of_plain (by decide) _ hkey, resolve?_serialPath]

theorem showsSerial (c : Certificate) : c.ShowsSerial := by
  have hhex : Node.childPath (Node.childPath rootKey "serialNumber") "hex" =
    "certificate.serialNumber.hex" := by decide
  have hdecimal : Node.childPath (Node.childPath rootKey "serialNumber") "decimal" =
    "certificate.serialNumber.decimal" := by decide
  constructor
  · have hnumber := c.resolve?_serialPath
    rw [child?_serialNumber] at hnumber
    exact congrArg (Option.map Node.value) hnumber
  · rw [valueAt?, ← hhex, resolve?_serialNumber c (by decide), child?_serialNumber,
      Option.bind_some, Node.child?_withChildren]
    rfl
  · rw [valueAt?, ← hdecimal, resolve?_serialNumber c (by decide), child?_serialNumber,
      Option.bind_some, Node.child?_withChildren]
    rfl

theorem bind_value_of_valueAt? (h : c.valueAt? path = some v) :
    (c.tree.resolve? path).bind Node.value = v := by
  obtain ⟨n, hn, rfl⟩ := Option.map_eq_some_iff.mp h
  rw [hn, Option.bind_some]

/-- No byte string is too long for its decimal numeral, which no other integer has, and both forms of a
serial number are positive or none is. -/
theorem serialNumber_numeral :
    (∀ bs : Bytes, Digits.OverflowFree bs ∧ IsNumeral bs.toDecimal bs.toNat) ∧
    (∀ bs : Bytes, bs.toDecimal = Nat.repr bs.toNat) ∧
    (∀ a b : Bytes, a.toDecimal = b.toDecimal ↔ a.toNat = b.toNat) ∧
    ∀ (c : Certificate) (ctx : Context) (operands : List Value),
      c.ShowsSerial ∧
      Operator.positive.evaluate (c.tree.resolve? "certificate.serialNumber") ctx operands =
        .ok (decide (0 < c.serial.toNat)) ∧
      Operator.positive.evaluate (c.tree.resolve? "certificate.serialNumber.decimal") ctx operands =
        .ok (decide (0 < c.serial.toNat)) := by
  refine ⟨?_, ?_, ?_, ?_⟩
  · intro bs
    exact ⟨Digits.overflowFree bs, bs.toDecimal_isNumeral⟩
  · intro bs
    exact bs.toDecimal_isNumeral.eq_repr
  · intro a b
    exact Bytes.toDecimal_eq_iff
  · intro c ctx operands
    have hshows := c.showsSerial
    have hnumeral := c.serial.toDecimal_isNumeral
    refine ⟨hshows, ?_, ?_⟩
    · simp only [Operator.evaluate, Operator.judgePositive, bind_value_of_valueAt? hshows.number,
        Operator.isPositiveValue, Bytes.any_ne_zero]
    · simp only [Operator.evaluate, Operator.judgePositive, bind_value_of_valueAt? hshows.decimal,
        Operator.isPositiveValue, Unicode.trim_of_isDigit hnumeral.digits,
        Operator.isPositiveNumeral_eq hnumeral]

end Certificate
end CertAudit
