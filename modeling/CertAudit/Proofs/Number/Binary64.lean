/- Comparing doubles both ways round. -/
import CertAudit.Number.Binary64
import Mathlib.Order.Compare
import Mathlib.Algebra.Order.Ring.Int
namespace CertAudit.Binary64

variable {x y : Binary64}

theorem compareScaled_swap (s : Bool) (m : Nat) (e : Int) (t : Bool) (n : Nat) (f : Int) :
    (compareScaled s m e t n f).swap = compareScaled t n f s m e := by
  simp only [compareScaled, min_comm e f]
  exact Std.OrientedCmp.eq_swap.symm

theorem compare?_swap (x y : Binary64) : (compare? x y).map Ordering.swap = compare? y x := by
  cases x with
  | nan => cases y <;> rfl
  | infinity s =>
    cases y with
    | nan => rfl
    | infinity t => cases s <;> cases t <;> rfl
    | finite t n f => cases s <;> rfl
  | finite s m e =>
    cases y with
    | nan => rfl
    | infinity t => cases t <;> rfl
    | finite t n f => exact congrArg some (compareScaled_swap s m e t n f)

theorem equal_comm (x y : Binary64) : x.equal y = y.equal x := by
  rw [equal, equal, ← compare?_swap x y]
  cases compare? x y with
  | none => rfl
  | some order => cases order <;> rfl

end CertAudit.Binary64
