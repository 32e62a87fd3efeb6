/- Equality across kinds does not depend on the order of two values, so that a rule may match either
node with the other. -/
import CertAudit.Operator
import CertAudit.Proofs.Number.Binary64
import Mathlib
namespace CertAudit

namespace Timestamp

theorem sameInstant_self (t : Timestamp) : t.sameInstant t = true := by
  simp [sameInstant]

theorem sameInstant_comm (s t : Timestamp) : s.sameInstant t = t.sameInstant s := by
  rw [sameInstant, sameInstant, Bool.beq_comm (a := s.seconds), Bool.beq_comm (a := s.nanos)]

end Timestamp

namespace Value

variable {v w : Value} {items : List Value}

/-- No double is in a value, however deep. -/
inductive Floatless : Value → Prop
  | bool (b : Bool) : Floatless (.bool b)
  | int (i : Int64) : Floatless (.int i)
  | uint (n : UInt64) : Floatless (.uint n)
  | bytes (bs : Bytes) : Floatless (.bytes bs)
  | string (s : String) : Floatless (.string s)
  | time (t : Timestamp) : Floatless (.time t)
  | list {items : List Value} (h : ∀ v ∈ items, Floatless v) : Floatless (.list items)

theorem itemsEqual_self (h : ∀ v ∈ items, v.equals v = true) : itemsEqual items items = true := by
  induction items with
  | nil => rfl
  | cons v rest ih =>
    obtain ⟨hv, hrest⟩ := List.forall_mem_cons.mp h
    rw [itemsEqual, hv, ih hrest]
    rfl

/-- Only an undefined double differs from itself. -/
theorem Floatless.equals_self (h : v.Floatless) : v.equals v = true := by
  induction h with
  | bool b => exact beq_self_eq_true b
  | int i => exact beq_self_eq_true i
  | uint n => exact beq_self_eq_true n
  | bytes bs => exact beq_self_eq_true bs
  | string s => exact beq_self_eq_true s
  | time t => exact t.sameInstant_self
  | list _ ih => exact itemsEqual_self ih

example : (Value.float .nan).equals (.float .nan) = false := by decide

mutual

theorem equals_comm (v w : Value) : v.equals w = w.equals v := by
  cases v with
  | list vs =>
    cases w with
    | list ws => exact itemsEqual_comm vs ws
    | _ => rfl
  | bool p =>
    cases w with
    | bool q => exact Bool.beq_comm
    | _ => rfl
  | int i =>
    cases w with
    | int j => exact Bool.beq_comm
    | uint m => exact Bool.beq_comm
    | float y => exact Binary64.equal_comm _ y
    | _ => rfl
  | uint n =>
    cases w with
    | int j => exact Bool.beq_comm
    | uint m => exact Bool.beq_comm
    | float y => exact Binary64.equal_comm _ y
    | _ => rfl
  | float x =>
    cases w with
    | int j => exact Binary64.equal_comm x _
    | uint m => exact Binary64.equal_comm x _
    | float y => exact Binary64.equal_comm x y
    | _ => rfl
  | bytes bs =>
    cases w with
    | bytes cs => exact Bool.beq_comm
    | _ => rfl
  | string s =>
    cases w with
    | string t => exact Bool.beq_comm
    | _ => rfl
  | time s =>
    cases w with
    | time t => exact s.sameInstant_comm t
    | _ => rfl

theorem itemsEqual_comm (vs ws : List Value) : itemsEqual vs ws = itemsEqual ws vs := by
  cases vs with
  | nil => cases ws <;> rfl
  | cons v vs =>
    cases ws with
    | nil => rfl
    | cons w ws => rw [itemsEqual, itemsEqual, equals_comm v w, itemsEqual_comm vs ws]

end

theorem alike_of_equals (h : v.equals w = true) : v.alike w = true := by
  rw [alike, h, Bool.true_or]

end Value

namespace Operator

variable {ctx : Context} {target : Option Node} {p q : String}

/-- Whether two values that may be missing are there and equal. -/
def bothEqual : Option Value → Option Value → Bool
  | some v, some w => v.equals w
  | _, _ => false

theorem bothEqual_comm (v w : Option Value) : bothEqual v w = bothEqual w v := by
  cases v with
  | none => cases w <;> rfl
  | some v =>
    cases w with
    | none => rfl
    | some w => exact v.equals_comm w

/-- With one path, matching never fails: what is missing on either side is not equal. -/
theorem evaluate_matching (target : Option Node) (ctx : Context) (path : String) :
    matching.evaluate target ctx [.string path] =
      .ok (bothEqual (target.bind Node.value) ((ctx.root.resolve? path).bind Node.value)) := by
  cases target with
  | none => rfl
  | some n =>
    simp only [evaluate, judgeMatching, single, bind, Except.bind, Option.bind_some]
    cases n.value with
    | none => rfl
    | some v => cases (ctx.root.resolve? path).bind Node.value <;> rfl

/-- Equality across kinds is reflexive where there is no double, symmetric, and finer than being alike;
two paths match in either order. -/
theorem matching_comm :
    (∀ v : Value, v.Floatless → v.equals v = true) ∧
    (∀ v w : Value, v.equals w = w.equals v) ∧
    (∀ v w : Value, v.equals w = true → v.alike w = true) ∧
    ∀ (ctx : Context) (p q : String),
      matching.evaluate (ctx.root.resolve? p) ctx [.string q] =
        matching.evaluate (ctx.root.resolve? q) ctx [.string p] := by
  refine ⟨?_, ?_, ?_, ?_⟩
  · intro v h
    exact h.equals_self
  · intro v w
    exact v.equals_comm w
  · intro v w h
    exact Value.alike_of_equals h
  · intro ctx p q
    rw [evaluate_matching, evaluate_matching, bothEqual_comm]

/-- A number and bytes in lists, and the same in another integer type and as a text. -/
def numbered : Value := .list [.uint 5, .list [.bytes [0xab, 0xcd], .bool true]]

def spelledOut : Value := .list [.int 5, .list [.string "ab:CD", .bool true]]

theorem matching_comm_numbered :
    let root := (Node.new "").withChildren [.leaf "shown" numbered, .leaf "named" spelledOut]
    let ctx : Context := { root, now := { seconds := 0 } }
    numbered.Floatless ∧ numbered.equals numbered = true ∧
      matching.evaluate (root.resolve? "shown") ctx [.string "named"] = .ok true ∧
      matching.evaluate (root.resolve? "named") ctx [.string "shown"] = .ok true := by
  intro root ctx
  have hinner : ∀ v ∈ [Value.bytes [0xab, 0xcd], .bool true], v.Floatless := by
    simp only [List.forall_mem_cons]
    exact ⟨.bytes _, .bool _, fun v hv => absurd hv List.not_mem_nil⟩
  have hfloatless : numbered.Floatless := by
    refine .list ?_
    simp only [List.forall_mem_cons]
    exact ⟨.uint 5, .list hinner, fun v hv => absurd hv List.not_mem_nil⟩
  have hmatching : matching.evaluate (root.resolve? "shown") ctx [.string "named"] = .ok true := by
    cbv
  obtain ⟨hself, -, -, hcomm⟩ := matching_comm
  exact ⟨hfloatless, hself numbered hfloatless, hmatching,
    (hcomm ctx "named" "shown").trans hmatching⟩

end Operator
end CertAudit
