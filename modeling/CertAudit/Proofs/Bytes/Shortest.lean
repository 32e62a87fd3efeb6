/- The shortest byte string that spells an integer. -/
import CertAudit.Proofs.Bytes
import Mathlib.Data.Nat.Log
import Mathlib.Tactic.Ring
namespace CertAudit.Bytes

variable {n width : Nat}

theorem ofNat_succ (width n : Nat) :
    ofNat (width + 1) n = UInt8.ofNat (n / 256 ^ width) :: ofNat width n := by
  simp only [ofNat, List.range_succ, List.reverse_append, List.reverse_singleton,
    List.singleton_append, List.map_cons, Nat.pow_eq]

theorem ofNat_length (width n : Nat) : (ofNat width n).length = width := by
  simp [ofNat]

theorem foldl_append_byte (bs : Bytes) (n : Nat) :
    bs.foldl (fun n b => n * 256 + b.toNat) n = n * 256 ^ bs.length + toNat bs := by
  induction bs generalizing n with
  | nil => simp [toNat]
  | cons b bs ih =>
    simp only [toNat, List.foldl_cons, List.length_cons]
    rw [ih, ih (0 * 256 + b.toNat), Nat.pow_succ]
    ring

theorem toNat_cons (b : UInt8) (bs : Bytes) :
    toNat (b :: bs) = b.toNat * 256 ^ bs.length + toNat bs := by
  rw [toNat, List.foldl_cons, foldl_append_byte, Nat.zero_mul, Nat.zero_add]

/-- Bytes enough for an integer spell it. -/
theorem toNat_ofNat (h : n < 256 ^ width) : toNat (ofNat width n) = n := by
  have hmod : toNat (ofNat width n) = n % 256 ^ width := by
    clear h
    induction width with
    | zero => simp [ofNat, toNat, Nat.mod_one]
    | succ width ih =>
      have hbyte : (UInt8.ofNat (n / 256 ^ width)).toNat = n / 256 ^ width % 256 :=
        UInt8.toNat_ofNat'
      rw [ofNat_succ, toNat_cons, ofNat_length, ih, hbyte, Nat.pow_succ, Nat.mod_mul,
        Nat.mul_comm, Nat.add_comm]
  rw [hmod, Nat.mod_eq_of_lt h]

/-- The bytes of an integer, none of them superfluous; at least one. -/
def shortest (n : Nat) : Bytes := ofNat (Nat.log 256 n + 1) n

theorem shortest_length (n : Nat) : (shortest n).length = Nat.log 256 n + 1 := ofNat_length _ _

theorem shortest_ne_nil (n : Nat) : shortest n ≠ [] := by
  rw [← List.length_pos_iff, shortest_length]
  exact Nat.succ_pos _

theorem toNat_shortest (n : Nat) : toNat (shortest n) = n :=
  toNat_ofNat (Nat.lt_pow_succ_log_self (by decide) n)

theorem shortest_length_le (hn : n < 256 ^ width) (hwidth : 0 < width) :
    (shortest n).length ≤ width := by
  rw [shortest_length]
  exact Nat.log_lt_of_lt_pow' hwidth.ne' hn

/-- The first byte of an integer but zero is not superfluous. -/
theorem exists_shortest_eq_cons (hn : n ≠ 0) : ∃ b rest, b ≠ 0 ∧ shortest n = b :: rest := by
  have hpos : 0 < n / 256 ^ Nat.log 256 n :=
    Nat.div_pos (Nat.pow_log_le_self 256 hn) (Nat.pow_pos (by decide))
  have hbyte : n / 256 ^ Nat.log 256 n < 256 := by
    rw [Nat.div_lt_iff_lt_mul (Nat.pow_pos (by decide)), Nat.mul_comm, ← Nat.pow_succ]
    exact Nat.lt_pow_succ_log_self (by decide) n
  refine ⟨UInt8.ofNat (n / 256 ^ Nat.log 256 n), ofNat (Nat.log 256 n) n, ?_, ofNat_succ _ _⟩
  intro hzero
  have h := congrArg UInt8.toNat hzero
  rw [UInt8.toNat_ofNat', Nat.mod_eq_of_lt hbyte] at h
  exact absurd h hpos.ne'

theorem shortest_zero : shortest 0 = [0] := by
  simp [shortest, ofNat]

theorem stripLeadingZeros_shortest (n : Nat) : stripLeadingZeros (shortest n) = shortest n := by
  rcases Decidable.eq_or_ne n 0 with rfl | hn
  · rw [shortest_zero]
    rfl
  · obtain ⟨b, rest, hb, h⟩ := exists_shortest_eq_cons hn
    rw [h, stripLeadingZeros_of_head hb]

theorem stripLeadingZeros_zero_cons {bs : Bytes} (h : bs ≠ []) :
    stripLeadingZeros (0 :: bs) = stripLeadingZeros bs := by
  obtain ⟨b, bs, rfl⟩ := List.exists_cons_of_ne_nil h
  simp only [stripLeadingZeros, List.dropWhile_cons, BEq.rfl, if_true, List.length_cons,
    Nat.add_sub_cancel, List.drop_succ_cons]

/-- A zero in front of a byte string without leading zeros is all that is dropped. -/
theorem stripLeadingZeros_zero_cons_shortest (n : Nat) :
    stripLeadingZeros (0 :: shortest n) = shortest n := by
  rw [stripLeadingZeros_zero_cons (shortest_ne_nil n), stripLeadingZeros_shortest]

theorem toNat_lt (bs : Bytes) : toNat bs < 256 ^ bs.length := by
  induction bs with
  | nil => exact Nat.one_pos
  | cons b bs ih =>
    have hbyte : b.toNat + 1 ≤ 256 := b.toNat_lt
    rw [toNat_cons, List.length_cons, Nat.pow_succ']
    calc b.toNat * 256 ^ bs.length + toNat bs
        < b.toNat * 256 ^ bs.length + 256 ^ bs.length := Nat.add_lt_add_left ih _
      _ = (b.toNat + 1) * 256 ^ bs.length := by ring
      _ ≤ 256 * 256 ^ bs.length := Nat.mul_le_mul_right _ hbyte

/-- Among byte strings of one length, each integer has one spelling. -/
theorem eq_of_toNat_eq {a b : Bytes} (hlength : a.length = b.length) (h : toNat a = toNat b) :
    a = b := by
  induction a generalizing b with
  | nil => exact (List.eq_nil_of_length_eq_zero hlength.symm).symm
  | cons x a ih =>
    obtain ⟨y, b, rfl⟩ := List.exists_cons_of_length_eq_add_one hlength.symm
    have htail : a.length = b.length := Nat.succ.inj hlength
    have hpos : 0 < 256 ^ b.length := Nat.pow_pos (by decide)
    have ha : toNat a < 256 ^ b.length := htail ▸ toNat_lt a
    rw [toNat_cons, toNat_cons, htail] at h
    have hfirst : x.toNat = y.toNat := by
      have hdiv := congrArg (· / 256 ^ b.length) h
      simpa [Nat.mul_comm _ (256 ^ b.length), Nat.mul_add_div hpos, Nat.div_eq_of_lt ha,
        Nat.div_eq_of_lt (toNat_lt b)] using hdiv
    rw [hfirst] at h
    rw [UInt8.toNat_inj.mp hfirst, ih htail (Nat.add_left_cancel h)]

/-- A byte string that begins with another byte than zero is as short as its integer allows. -/
theorem shortest_toNat {b : UInt8} (hb : b ≠ 0) (bs : Bytes) :
    shortest (toNat (b :: bs)) = b :: bs := by
  have hpos : 1 ≤ b.toNat := Nat.one_le_iff_ne_zero.mpr fun h => hb (UInt8.toNat_inj.mp h)
  have hlog : Nat.log 256 (toNat (b :: bs)) = bs.length := by
    refine Nat.log_eq_of_pow_le_of_lt_pow ?_ (toNat_lt (b :: bs))
    rw [toNat_cons]
    calc 256 ^ bs.length ≤ b.toNat * 256 ^ bs.length := Nat.le_mul_of_pos_left _ hpos
      _ ≤ b.toNat * 256 ^ bs.length + toNat bs := Nat.le_add_right _ _
  refine eq_of_toNat_eq ?_ (toNat_shortest _)
  rw [shortest_length, hlog, List.length_cons]

theorem stripLeadingZeros_eq_shortest {bs : Bytes} (h : bs ≠ []) :
    stripLeadingZeros bs = shortest (toNat bs) := by
  induction bs with
  | nil => exact absurd rfl h
  | cons b bs ih =>
    by_cases hb : b = 0
    · subst hb
      rw [toNat_cons, UInt8.toNat_zero, Nat.zero_mul, Nat.zero_add]
      rcases Decidable.eq_or_ne bs [] with rfl | hbs
      · exact shortest_zero.symm
      · rw [stripLeadingZeros_zero_cons hbs, ih hbs]
    · rw [stripLeadingZeros_of_head hb, shortest_toNat hb]

/-- Without leading zeros, byte strings are the same just where they spell the same integer. -/
theorem stripLeadingZeros_eq_iff {a b : Bytes} (ha : a ≠ []) (hb : b ≠ []) :
    stripLeadingZeros a = stripLeadingZeros b ↔ toNat a = toNat b := by
  rw [stripLeadingZeros_eq_shortest ha, stripLeadingZeros_eq_shortest hb]
  constructor
  · intro h
    rw [← toNat_shortest (toNat a), h, toNat_shortest]
  · intro h
    rw [h]

end CertAudit.Bytes
