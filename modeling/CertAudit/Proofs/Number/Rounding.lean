/- An integer becomes the double nearest to it, the even one of two, which is an integer again. -/
import CertAudit.Proofs.Number.Binary64
import Mathlib.Algebra.Order.Field.Power
import Mathlib.Algebra.Order.Ring.Rat
import Mathlib.Algebra.Ring.Int.Parity
import Mathlib.Tactic.Linarith
import Mathlib.Tactic.NormNum
import Mathlib.Tactic.Positivity
import Mathlib.Tactic.Ring
namespace CertAudit.Binary64

variable {x y : Binary64} {a b : ℤ} {p q r : ℚ} {n num den : ℕ}

/-- The value of a significand and an exponent with a sign. -/
def scaled (negative : Bool) (significand : ℕ) (exponent : ℤ) : ℚ :=
  (if negative then -(significand : ℚ) else significand) * 2 ^ exponent

def value? : Binary64 → Option ℚ
  | .finite s m e => some (scaled s m e)
  | _ => none

/-- A value that a double has. -/
def IsDouble (q : ℚ) : Prop :=
  ∃ m e : ℤ, |m| < 2 ^ 53 ∧ -1074 ≤ e ∧ e ≤ 971 ∧ q = m * 2 ^ e

/-- A value that a double of full precision has with a last bit of zero. -/
def EndsEven (q : ℚ) : Prop :=
  ∃ m e : ℤ, 2 ^ 52 ≤ |m| ∧ |m| < 2 ^ 53 ∧ -1074 ≤ e ∧ e ≤ 971 ∧ Even m ∧ q = m * 2 ^ e

/-- No double is nearer to the one value than the other, and this one is even if another is as near. -/
structure RoundsTo (p q : ℚ) : Prop where
  double : IsDouble q
  nearest : ∀ r, IsDouble r → |p - q| ≤ |p - r|
  even : ∀ r, IsDouble r → r ≠ q → |p - q| = |p - r| → EndsEven q

theorem IsDouble.neg (h : IsDouble q) : IsDouble (-q) := by
  obtain ⟨m, e, hm, hlow, hhigh, rfl⟩ := h
  refine ⟨-m, e, ?_, hlow, hhigh, ?_⟩
  · rwa [abs_neg]
  · push_cast
    ring

theorem EndsEven.neg (h : EndsEven q) : EndsEven (-q) := by
  obtain ⟨m, e, hfull, hm, hlow, hhigh, heven, rfl⟩ := h
  refine ⟨-m, e, ?_, ?_, hlow, hhigh, heven.neg, ?_⟩
  · rwa [abs_neg]
  · rwa [abs_neg]
  · push_cast
    ring

theorem RoundsTo.neg (h : RoundsTo p q) : RoundsTo (-p) (-q) := by
  have hdistance : ∀ s : ℚ, |-p - s| = |p - -s| := by
    intro s
    rw [← abs_neg]
    congr 1
    ring
  refine ⟨h.double.neg, ?_, ?_⟩
  · intro r hr
    rw [hdistance, hdistance, neg_neg]
    exact h.nearest (-r) hr.neg
  · intro r hr hne hsame
    rw [hdistance, hdistance, neg_neg] at hsame
    exact (h.even (-r) hr.neg (fun heq => hne (by rw [← heq, neg_neg])) hsame).neg

theorem RoundsTo.mono {p' q' : ℚ} (h : RoundsTo p q) (h' : RoundsTo p' q') (hlt : p < p') :
    q ≤ q' := by
  by_contra hle
  have hpos : 0 < q - q' := sub_pos.mpr (not_le.mp hle)
  have hlow : (p - q) ^ 2 ≤ (p - q') ^ 2 := sq_le_sq.mpr (h.nearest q' h'.double)
  have hhigh : (p' - q') ^ 2 ≤ (p' - q) ^ 2 := sq_le_sq.mpr (h'.nearest q h.double)
  -- The one lies above the middle of both doubles, the other below it.
  have hmiddle : 0 ≤ (q - q') * (p - p') := by linarith [hlow, hhigh]
  exact absurd hmiddle (not_le.mpr (mul_neg_of_pos_of_neg hpos (sub_neg.mpr hlt)))

theorem IsDouble.roundsTo (h : IsDouble p) : RoundsTo p p := by
  refine ⟨h, ?_, ?_⟩
  · intro r _
    rw [sub_self, abs_zero]
    exact abs_nonneg _
  · intro r _ hne hsame
    rw [sub_self, abs_zero, eq_comm, abs_eq_zero, sub_eq_zero] at hsame
    exact absurd hsame.symm hne

theorem EndsEven.isDouble_beside (h : EndsEven q) :
    ∃ m e : ℤ, Even m ∧ q = m * 2 ^ e ∧ IsDouble (q + 2 ^ e) ∧ IsDouble (q - 2 ^ e) := by
  obtain ⟨m, e, -, hm, hlow, hhigh, heven, rfl⟩ := h
  obtain ⟨t, rfl⟩ := heven
  rw [abs_lt] at hm
  refine ⟨t + t, e, ⟨t, rfl⟩, rfl, ⟨t + t + 1, e, ?_, hlow, hhigh, ?_⟩,
    ⟨t + t - 1, e, ?_, hlow, hhigh, ?_⟩⟩
  · rw [abs_lt]
    omega
  · push_cast
    ring
  · rw [abs_lt]
    omega
  · push_cast
    ring

/-- Two even multiples of a power of two are further apart than the power. -/
theorem lt_sub_of_even {m n e : ℤ} (hm : Even m) (hn : Even n)
    (h : (m : ℚ) * 2 ^ e < n * 2 ^ e) : (2 : ℚ) ^ e < n * 2 ^ e - m * 2 ^ e := by
  have hpos : (0 : ℚ) < 2 ^ e := zpow_pos (by norm_num) e
  have hlt : m < n := by exact_mod_cast (mul_lt_mul_iff_left₀ hpos).mp h
  obtain ⟨s, rfl⟩ := hm
  obtain ⟨t, rfl⟩ := hn
  have hapart : (1 : ℚ) < ((t + t) - (s + s) : ℤ) := by exact_mod_cast (by omega : (1 : ℤ) < _)
  calc (2 : ℚ) ^ e = 1 * 2 ^ e := (one_mul _).symm
    _ < ((t + t) - (s + s) : ℤ) * 2 ^ e := (mul_lt_mul_iff_left₀ hpos).mpr hapart
    _ = (t + t : ℤ) * 2 ^ e - (s + s : ℤ) * 2 ^ e := by
      push_cast
      ring

theorem EndsEven.exists_isDouble_between (hq : EndsEven q) (hr : EndsEven r) (h : q < r) :
    ∃ s, IsDouble s ∧ q < s ∧ s < r := by
  obtain ⟨m, e, hm, rfl, hnext, -⟩ := hq.isDouble_beside
  obtain ⟨n, f, hn, rfl, -, hprevious⟩ := hr.isDouble_beside
  have hpos : ∀ d : ℤ, (0 : ℚ) < 2 ^ d := fun d => zpow_pos (by norm_num) d
  -- A multiple of the coarser power is an even one of the finer.
  rcases le_total e f with hle | hle
  · obtain ⟨d, rfl⟩ := Int.le.dest hle
    have hfine : (n : ℚ) * 2 ^ (e + d) = (n * 2 ^ d : ℤ) * 2 ^ e := by
      rw [zpow_add₀ (by norm_num), zpow_natCast]
      push_cast
      ring
    refine ⟨_, hnext, lt_add_of_pos_right _ (hpos e), ?_⟩
    rw [hfine] at h ⊢
    linarith [lt_sub_of_even hm (hn.mul_right _) h]
  · obtain ⟨d, rfl⟩ := Int.le.dest hle
    have hfine : (m : ℚ) * 2 ^ (f + d) = (m * 2 ^ d : ℤ) * 2 ^ f := by
      rw [zpow_add₀ (by norm_num), zpow_natCast]
      push_cast
      ring
    refine ⟨_, hprevious, ?_, sub_lt_self _ (hpos f)⟩
    rw [hfine] at h ⊢
    linarith [lt_sub_of_even (hm.mul_right _) hn h]

theorem RoundsTo.le_of_same (h : RoundsTo p q) (h' : RoundsTo p r) : r ≤ q := by
  by_contra hle
  have hlt : q < r := not_le.mp hle
  have hsame : |p - q| = |p - r| := le_antisymm (h.nearest r h'.double) (h'.nearest q h.double)
  obtain ⟨s, hs, hqs, hsr⟩ := (h.even r h'.double hlt.ne' hsame).exists_isDouble_between
    (h'.even q h.double hlt.ne hsame.symm) hlt
  -- A double between both is nearer than either.
  rcases abs_eq_abs.mp hsame with heq | heq
  · linarith
  · have hnear : |p - s| < |p - q| := by
      rw [abs_of_pos (show 0 < p - q by linarith), abs_lt]
      constructor <;> linarith
    exact absurd (h.nearest s hs) (not_le.mpr hnear)

theorem RoundsTo.unique (h : RoundsTo p q) (h' : RoundsTo p r) : q = r :=
  le_antisymm (h'.le_of_same h) (h.le_of_same h')

theorem RoundsTo.eq_of_isDouble (h : RoundsTo p q) (hp : IsDouble p) : q = p := by
  have hzero := h.nearest p hp
  rw [sub_self, abs_zero, abs_nonpos_iff, sub_eq_zero] at hzero
  exact hzero.symm

theorem roundQuotient_cases (num den : ℕ) :
    (roundQuotient num den = num / den ∧
      (2 * (num % den) < den ∨ 2 * (num % den) = den ∧ num / den % 2 = 0)) ∨
    (roundQuotient num den = num / den + 1 ∧
      (den < 2 * (num % den) ∨ 2 * (num % den) = den ∧ num / den % 2 = 1)) := by
  rw [roundQuotient]
  split
  · rename_i h
    exact .inl ⟨rfl, h⟩
  · rename_i h
    refine .inr ⟨rfl, ?_⟩
    omega

/-- The rounded quotient is off by half the divisor at most, and even where it is off by half. -/
theorem roundQuotient_error (hden : 0 < den) :
    2 * |(num : ℤ) - roundQuotient num den * den| ≤ den ∧
      (2 * |(num : ℤ) - roundQuotient num den * den| = den → Even (roundQuotient num den)) := by
  have hsplit := Nat.div_add_mod num den
  have hmod := Nat.mod_lt num hden
  have hcases := roundQuotient_cases num den
  generalize roundQuotient num den = m at hcases ⊢
  generalize num / den = t at hsplit hcases
  generalize num % den = s at hsplit hcases hmod
  rcases hcases with ⟨rfl, hr⟩ | ⟨rfl, hr⟩
  · have herror : (num : ℤ) - m * den = s := by
      rw [← hsplit]
      push_cast
      ring
    rw [herror, abs_of_nonneg (Int.natCast_nonneg s), Nat.even_iff]
    omega
  · have herror : (num : ℤ) - (t + 1 : ℕ) * den = -(den - s) := by
      rw [← hsplit]
      push_cast
      ring
    rw [herror, abs_neg, abs_of_nonneg (by omega), Nat.even_iff]
    omega

/-- No multiple of the divisor is nearer, and if another one is as near, the quotient is even. -/
theorem roundQuotient_nearest (hden : 0 < den) (t : ℤ) (ht : t ≠ roundQuotient num den) :
    |(num : ℤ) - roundQuotient num den * den| ≤ |(num : ℤ) - t * den| ∧
      (|(num : ℤ) - roundQuotient num den * den| = |(num : ℤ) - t * den| →
        Even (roundQuotient num den)) := by
  obtain ⟨herror, heven⟩ := @roundQuotient_error num den hden
  generalize roundQuotient num den = m at ht herror heven ⊢
  have hapart : (den : ℤ) ≤ |(num - m * den : ℤ) - (num - t * den)| := by
    have hproduct : (num - m * den : ℤ) - (num - t * den) = (t - m) * den := by ring
    rw [hproduct, abs_mul, abs_of_nonneg (Int.natCast_nonneg den)]
    exact le_mul_of_one_le_left (Int.natCast_nonneg den) (Int.one_le_abs (sub_ne_zero.mpr ht))
  have htriangle := abs_sub (num - m * den : ℤ) (num - t * den)
  constructor
  · omega
  · intro h
    exact heven (by omega)

/-- The distance between neighbouring doubles at an integer, but at least one. -/
def spacing (n : ℕ) : ℕ := 2 ^ (n.log2 - 52)

def nearestNat (n : ℕ) : ℕ := roundQuotient n (spacing n) * spacing n

/-- The double nearest to an integer, as an integer. -/
def nearest (a : ℤ) : ℤ := a.sign * nearestNat a.natAbs

theorem spacing_pos (n : ℕ) : 0 < spacing n := Nat.two_pow_pos _

theorem roundQuotient_one (n : ℕ) : roundQuotient n 1 = n := by
  simp [roundQuotient, Nat.mod_one]

theorem nearestNat_of_lt (h : n < 2 ^ 53) : nearestNat n = n := by
  have hlog : n.log2 - 52 = 0 := by
    rcases Nat.eq_zero_or_pos n with rfl | hpos
    · rfl
    · have := (Nat.log2_lt hpos.ne').mpr h
      omega
  rw [nearestNat, spacing, hlog, Nat.pow_zero, roundQuotient_one, Nat.mul_one]

theorem quotient_bounds (h : 2 ^ 52 ≤ n) : 2 ^ 52 ≤ n / spacing n ∧ n / spacing n < 2 ^ 53 := by
  have hne : n ≠ 0 := (lt_of_lt_of_le (by decide) h).ne'
  have hlog : 52 ≤ n.log2 := (Nat.le_log2 hne).mpr h
  have hsplit : 2 ^ 52 * spacing n = 2 ^ n.log2 := by
    rw [spacing, ← Nat.pow_add]
    congr 1
    omega
  constructor
  · rw [Nat.le_div_iff_mul_le (spacing_pos n), hsplit]
    exact Nat.log2_self_le hne
  · rw [Nat.div_lt_iff_lt_mul (spacing_pos n), Nat.pow_succ', Nat.mul_assoc, hsplit, ← Nat.pow_succ']
    exact Nat.lt_log2_self

theorem significand_bounds (h : 2 ^ 52 ≤ n) :
    2 ^ 52 ≤ roundQuotient n (spacing n) ∧ roundQuotient n (spacing n) ≤ 2 ^ 53 := by
  obtain ⟨hlow, hhigh⟩ := quotient_bounds h
  rcases roundQuotient_cases n (spacing n) with ⟨hq, _⟩ | ⟨hq, _⟩
  · omega
  · omega

/-- Rounding may give a significand one bit more; half of it with the next exponent is as even. -/
theorem exists_significand {m k : ℕ} (hm : m ≤ 2 ^ 53) (hk : k ≤ 970) :
    ∃ t e : ℤ, |t| < 2 ^ 53 ∧ -1074 ≤ e ∧ e ≤ 971 ∧ ((m * 2 ^ k : ℕ) : ℚ) = t * 2 ^ e ∧
      (2 ^ 52 ≤ m → 2 ^ 52 ≤ |t|) ∧ (Even m → Even t) := by
  rcases hm.lt_or_eq with hlt | rfl
  · refine ⟨m, k, ?_, by omega, by omega, ?_, ?_, fun h => by exact_mod_cast h⟩
    · rw [Nat.abs_cast]
      exact_mod_cast hlt
    · push_cast
      rw [zpow_natCast]
    · intro hlow
      rw [Nat.abs_cast]
      exact_mod_cast hlow
  · refine ⟨2 ^ 52, k + 1, by norm_num, by omega, by omega, ?_, fun _ => by norm_num,
      fun _ => by decide⟩
    push_cast
    rw [zpow_add_one₀ (by norm_num), zpow_natCast]
    ring

theorem isDouble_of_le {m k : ℕ} (hm : m ≤ 2 ^ 53) (hk : k ≤ 970) :
    IsDouble ((m * 2 ^ k : ℕ) : ℚ) := by
  obtain ⟨t, e, ht, hlow, hhigh, hvalue, -⟩ := exists_significand hm hk
  exact ⟨t, e, ht, hlow, hhigh, hvalue⟩

theorem endsEven_of_even {m k : ℕ} (hfull : 2 ^ 52 ≤ m) (hm : m ≤ 2 ^ 53) (hk : k ≤ 970)
    (h : Even m) : EndsEven ((m * 2 ^ k : ℕ) : ℚ) := by
  obtain ⟨t, e, ht, hlow, hhigh, hvalue, hfullt, heven⟩ := exists_significand hm hk
  exact ⟨t, e, hfullt hfull, ht, hlow, hhigh, heven h, hvalue⟩

/-- A double is a multiple of a power of two, or below what the power makes a full significand. -/
theorem IsDouble.cases (h : IsDouble q) (k : ℕ) :
    (∃ t : ℤ, q = t * 2 ^ (k + 1)) ∨ |q| < 2 ^ (53 + k) := by
  obtain ⟨m, e, hm, -, -, rfl⟩ := h
  by_cases he : (k : ℤ) + 1 ≤ e
  · obtain ⟨d, rfl⟩ := Int.le.dest he
    refine .inl ⟨m * 2 ^ d, ?_⟩
    have hexponent : (k : ℤ) + 1 = (k + 1 : ℕ) := by
      push_cast
      rfl
    rw [zpow_add₀ (by norm_num), hexponent, zpow_natCast, zpow_natCast]
    push_cast
    ring
  · refine .inr ?_
    have hm : (|m| : ℚ) < 2 ^ 53 := by exact_mod_cast hm
    have hpow : (2 : ℚ) ^ e ≤ 2 ^ k := by
      rw [← zpow_natCast]
      exact zpow_le_zpow_right₀ (by norm_num) (by omega)
    rw [abs_mul, abs_of_pos (zpow_pos (by norm_num) e : (0 : ℚ) < 2 ^ e), pow_add]
    exact mul_lt_mul hm hpow (zpow_pos (by norm_num) e) (by positivity)

theorem nearestNat_eq {k : ℕ} (hk : n.log2 = 53 + k) :
    nearestNat n = roundQuotient n (spacing n) * 2 ^ (k + 1) ∧ spacing n = 2 ^ (k + 1) := by
  have hspacing : spacing n = 2 ^ (k + 1) := by
    rw [spacing, hk]
    congr 1
    omega
  exact ⟨by rw [nearestNat, hspacing], hspacing⟩

theorem nearestNat_cast {k : ℕ} (hk : n.log2 = 53 + k) :
    (nearestNat n : ℚ) = (roundQuotient n (spacing n) : ℤ) * 2 ^ (k + 1) := by
  rw [(nearestNat_eq hk).1]
  push_cast
  rfl

theorem nearestNat_apart_multiple {k : ℕ} (hk : n.log2 = 53 + k) (t : ℤ)
    (ht : t ≠ roundQuotient n (spacing n)) :
    |(n : ℚ) - nearestNat n| ≤ |(n : ℚ) - t * 2 ^ (k + 1)| ∧
      (|(n : ℚ) - nearestNat n| = |(n : ℚ) - t * 2 ^ (k + 1)| →
        Even (roundQuotient n (spacing n))) := by
  have hcast : ∀ t : ℤ, |(n : ℚ) - t * 2 ^ (k + 1)| = (|(n : ℤ) - t * spacing n| : ℤ) := by
    intro t
    rw [(nearestNat_eq hk).2]
    push_cast
    rfl
  obtain ⟨hle, heven⟩ := roundQuotient_nearest (spacing_pos n) t ht
  rw [nearestNat_cast hk, hcast, hcast]
  refine ⟨by exact_mod_cast hle, ?_⟩
  intro h
  exact heven (by exact_mod_cast h)

/-- The least multiple with a full significand is nearer than all that is below it. -/
theorem nearestNat_apart_below {k : ℕ} (hk : n.log2 = 53 + k) (hq : |q| < 2 ^ (53 + k)) :
    |(n : ℚ) - nearestNat n| < |(n : ℚ) - q| := by
  have hpos : n ≠ 0 := by
    rintro rfl
    have hzero : (0 : ℕ).log2 = 0 := rfl
    omega
  have hlow : (2 : ℚ) ^ (53 + k) ≤ n := by
    rw [← hk]
    exact_mod_cast Nat.log2_self_le hpos
  have hpower : ((2 ^ 52 : ℤ) : ℚ) * 2 ^ (k + 1) = 2 ^ (53 + k) := by
    push_cast
    ring
  have hleast : |(n : ℚ) - nearestNat n| ≤ |(n : ℚ) - ((2 ^ 52 : ℤ) : ℚ) * 2 ^ (k + 1)| := by
    by_cases ht : (2 ^ 52 : ℤ) = roundQuotient n (spacing n)
    · rw [nearestNat_cast hk, ht]
    · exact (nearestNat_apart_multiple hk _ ht).1
  have hfar := abs_sub_abs_le_abs_sub (n : ℚ) q
  rw [Nat.abs_cast] at hfar
  rw [hpower, abs_of_nonneg (sub_nonneg.mpr hlow)] at hleast
  linarith

theorem nearestNat_apart {k : ℕ} (hk : n.log2 = 53 + k) (hq : IsDouble q)
    (hne : q ≠ nearestNat n) :
    |(n : ℚ) - nearestNat n| ≤ |(n : ℚ) - q| ∧
      (|(n : ℚ) - nearestNat n| = |(n : ℚ) - q| → Even (roundQuotient n (spacing n))) := by
  rcases hq.cases k with ⟨t, rfl⟩ | hbelow
  · refine nearestNat_apart_multiple hk t ?_
    rintro rfl
    exact hne (nearestNat_cast hk).symm
  · have hlt := nearestNat_apart_below hk hbelow
    exact ⟨hlt.le, fun h => absurd h hlt.ne⟩

theorem nearestNat_roundsTo (h : n < 2 ^ 64) : RoundsTo n (nearestNat n) := by
  rcases lt_or_ge n (2 ^ 53) with hlt | hge
  · rw [nearestNat_of_lt hlt]
    have hdouble := isDouble_of_le hlt.le (Nat.zero_le 970)
    rw [Nat.pow_zero, Nat.mul_one] at hdouble
    exact hdouble.roundsTo
  · have hpos : n ≠ 0 := (lt_of_lt_of_le (by decide) hge).ne'
    obtain ⟨k, hk⟩ := Nat.exists_eq_add_of_le ((Nat.le_log2 hpos).mpr hge)
    have hlog : n.log2 < 64 := (Nat.log2_lt hpos).mpr h
    obtain ⟨hlow, hhigh⟩ := significand_bounds (le_trans (by decide) hge)
    obtain ⟨hnearest, -⟩ := nearestNat_eq hk
    refine ⟨?_, ?_, ?_⟩
    · rw [hnearest]
      exact isDouble_of_le hhigh (by omega)
    · intro r hr
      by_cases hne : r = nearestNat n
      · rw [hne]
      · exact (nearestNat_apart hk hr hne).1
    · intro r hr hne hsame
      rw [hnearest]
      exact endsEven_of_even hlow hhigh (by omega) ((nearestNat_apart hk hr hne).2 hsame)

theorem nearest_natCast (n : ℕ) : nearest n = nearestNat n := by
  rcases Nat.eq_zero_or_pos n with rfl | hpos
  · rfl
  · rw [nearest, Int.sign_natCast_of_ne_zero hpos.ne', one_mul, Int.natAbs_natCast]

theorem nearest_neg (a : ℤ) : nearest (-a) = -nearest a := by
  rw [nearest, nearest, Int.sign_neg, Int.natAbs_neg, neg_mul]

theorem nearest_roundsTo (h : a.natAbs < 2 ^ 64) : RoundsTo a (nearest a) := by
  obtain ⟨n, rfl | rfl⟩ := a.eq_nat_or_neg
  · rw [Int.natAbs_natCast] at h
    rw [nearest_natCast]
    exact_mod_cast nearestNat_roundsTo h
  · rw [Int.natAbs_neg, Int.natAbs_natCast] at h
    rw [nearest_neg, nearest_natCast]
    exact_mod_cast (nearestNat_roundsTo h).neg

theorem nearest_mono (ha : a.natAbs < 2 ^ 64) (hb : b.natAbs < 2 ^ 64) (h : a ≤ b) :
    nearest a ≤ nearest b := by
  rcases h.lt_or_eq with hlt | rfl
  · exact_mod_cast (nearest_roundsTo ha).mono (nearest_roundsTo hb) (by exact_mod_cast hlt)
  · exact le_rfl

/-- Every integer up to `2 ^ 53` is a double. -/
theorem nearest_of_le (h : a.natAbs ≤ 2 ^ 53) : nearest a = a := by
  have hdouble : IsDouble a := by
    have hnat := isDouble_of_le h (Nat.zero_le 970)
    rw [Nat.pow_zero, Nat.mul_one] at hnat
    obtain ⟨n, rfl | rfl⟩ := a.eq_nat_or_neg
    · rwa [Int.natAbs_natCast] at hnat
    · rw [Int.natAbs_neg, Int.natAbs_natCast] at hnat
      push_cast
      exact hnat.neg
  have hround := (nearest_roundsTo (h.trans_lt (by decide))).eq_of_isDouble hdouble
  exact_mod_cast hround

theorem nearest_le_iff (ha : a.natAbs < 2 ^ 64) (hb : b.natAbs < 2 ^ 53) :
    nearest a ≤ nearest b ↔ a ≤ b := by
  constructor
  · intro h
    by_contra hlt
    have hnext : nearest (b + 1) ≤ nearest a := nearest_mono (by omega) ha (by omega)
    rw [nearest_of_le (by omega : (b + 1).natAbs ≤ 2 ^ 53)] at hnext
    rw [nearest_of_le hb.le] at h
    omega
  · exact nearest_mono ha (by omega)

theorem scaleDown_one_natCast (n k : ℕ) : scaleDown n 1 k = (n, 2 ^ k) := by
  rw [scaleDown, if_pos (Int.natCast_nonneg k), Int.toNat_natCast, Nat.one_mul]
  rfl

theorem scaleDown_one_neg (n k : ℕ) : scaleDown n 1 (-k) = (n * 2 ^ k, 1) := by
  rcases Nat.eq_zero_or_pos k with rfl | hpos
  · rw [Nat.pow_zero, Nat.mul_one]
    exact scaleDown_one_natCast n 0
  · rw [scaleDown, if_neg (by omega), Int.neg_neg, Int.toNat_natCast]
    rfl

theorem lastBit_one (hpos : n ≠ 0) : lastBit n 1 = (n.log2 : ℤ) - 52 := by
  have hself := Nat.log2_self_le hpos
  have hone : (1 : ℕ).log2 = 0 := rfl
  have hfull : Nat.pow 2 53 ≤ (scaleDown n 1 (n.log2 - 53)).1 / (scaleDown n 1 (n.log2 - 53)).2 := by
    rcases le_total 53 n.log2 with hle | hle
    · obtain ⟨k, hk⟩ := Nat.exists_eq_add_of_le hle
      have hguess : (n.log2 : ℤ) - 53 = k := by omega
      rw [hguess, scaleDown_one_natCast, Nat.le_div_iff_mul_le (Nat.two_pow_pos k)]
      rwa [hk, Nat.pow_add] at hself
    · obtain ⟨k, hk⟩ := Nat.exists_eq_add_of_le hle
      have hguess : (n.log2 : ℤ) - 53 = -k := by omega
      rw [hguess, scaleDown_one_neg, Nat.div_one]
      calc 2 ^ 53 = 2 ^ n.log2 * 2 ^ k := by rw [hk, Nat.pow_add]
        _ ≤ n * 2 ^ k := Nat.mul_le_mul_right _ hself
  rw [lastBit, hone, Int.natCast_zero, Int.sub_zero]
  simp only [ge_iff_le, if_pos hfull]
  omega

/-- Before a last carry, a significand and an exponent with the value of the nearest double. -/
theorem roundQuotient_scaleDown (hpos : n ≠ 0) :
    (roundQuotient (scaleDown n 1 (n.log2 - 52)).1 (scaleDown n 1 (n.log2 - 52)).2 : ℚ) *
      2 ^ ((n.log2 : ℤ) - 52) = nearestNat n := by
  rcases le_total 52 n.log2 with hle | hle
  · obtain ⟨k, hk⟩ := Nat.exists_eq_add_of_le hle
    have hexponent : (n.log2 : ℤ) - 52 = k := by omega
    have hspacing : spacing n = 2 ^ k := by rw [spacing, hk, Nat.add_sub_cancel_left]
    rw [hexponent, scaleDown_one_natCast, nearestNat, hspacing, zpow_natCast]
    push_cast
    rfl
  · obtain ⟨k, hk⟩ := Nat.exists_eq_add_of_le hle
    have hexponent : (n.log2 : ℤ) - 52 = -k := by omega
    have hlt : n < 2 ^ 53 := (Nat.log2_lt hpos).mp (by omega)
    rw [hexponent, scaleDown_one_neg, roundQuotient_one, nearestNat_of_lt hlt]
    push_cast
    rw [mul_assoc, ← zpow_natCast, ← zpow_add₀ (by norm_num), add_neg_cancel, zpow_zero, mul_one]

theorem scaled_eq {m : ℕ} {e : ℤ} (s : Bool) (h : (m : ℚ) * 2 ^ e = q) :
    scaled s m e = if s then -q else q := by
  cases s with
  | false => exact h
  | true =>
    rw [scaled, if_pos rfl, if_pos rfl, neg_mul, h]

theorem value?_ofQuotient (s : Bool) (h : n < 2 ^ 64) :
    value? (ofQuotient s n 1) = some (if s then -(nearestNat n : ℚ) else nearestNat n) := by
  by_cases hpos : n = 0
  · subst hpos
    exact congrArg some (scaled_eq s (zero_mul _))
  · have hlog : n.log2 < 64 := (Nat.log2_lt hpos).mpr h
    have hvalue := roundQuotient_scaleDown hpos
    rw [ofQuotient, if_neg hpos, lastBit_one hpos]
    simp only []
    generalize roundQuotient _ _ = m at hvalue ⊢
    by_cases hcarry : m = Nat.pow 2 53
    · rw [if_pos hcarry]
      simp only []
      rw [if_neg (by omega)]
      refine congrArg some (scaled_eq s ?_)
      rw [← hvalue, hcarry, zpow_add_one₀ (by norm_num)]
      norm_num
      ring
    · rw [if_neg hcarry]
      simp only []
      rw [if_neg (by omega)]
      exact congrArg some (scaled_eq s hvalue)

theorem value?_ofInt (h : a.natAbs < 2 ^ 64) : value? (ofInt a) = some (nearest a : ℚ) := by
  rw [ofInt, value?_ofQuotient _ h]
  obtain ⟨n, rfl | rfl⟩ := a.eq_nat_or_neg
  · rw [nearest_natCast, Int.natAbs_natCast]
    simp
  · rw [nearest_neg, nearest_natCast, Int.natAbs_neg, Int.natAbs_natCast]
    rcases Nat.eq_zero_or_pos n with rfl | hpos
    · rfl
    · simp [hpos]

theorem scaled_eq_mul {s : Bool} {m : ℕ} {e low : ℤ} (h : low ≤ e) :
    scaled s m e =
      ((if s then -(m * Nat.pow 2 (e - low).toNat : ℤ) else m * Nat.pow 2 (e - low).toNat : ℤ) : ℚ) *
        2 ^ low := by
  obtain ⟨k, rfl⟩ := Int.le.dest h
  rw [add_sub_cancel_left, Int.toNat_natCast]
  rw [scaled, zpow_add₀ (by norm_num), zpow_natCast]
  cases s <;> simp <;> ring

theorem compareScaled_eq (s : Bool) (m : ℕ) (e : ℤ) (t : Bool) (n : ℕ) (f : ℤ) :
    compareScaled s m e t n f = compare (scaled s m e) (scaled t n f) := by
  rw [scaled_eq_mul (min_le_left e f), scaled_eq_mul (min_le_right e f), ← cmp_eq_compare,
    cmp_mul_pos_right (zpow_pos (by norm_num) _), Int.cast_strictMono.cmp_map_eq, cmp_eq_compare]
  rfl

theorem compare?_eq_of_value? (hx : value? x = some p) (hy : value? y = some q) :
    compare? x y = some (compare p q) := by
  cases x with
  | nan => cases hx
  | infinity s => cases hx
  | finite s m e =>
    cases y with
    | nan => cases hy
    | infinity t => cases hy
    | finite t n f =>
      rw [value?, Option.some.injEq] at hx hy
      rw [compare?, compareScaled_eq, hx, hy]

theorem compare?_ofInt (ha : a.natAbs < 2 ^ 64) (hb : b.natAbs < 2 ^ 64) :
    compare? (ofInt a) (ofInt b) = some (compare (nearest a) (nearest b)) := by
  rw [compare?_eq_of_value? (value?_ofInt ha) (value?_ofInt hb), ← cmp_eq_compare,
    Int.cast_strictMono.cmp_map_eq, cmp_eq_compare]

theorem equal_ofInt (ha : a.natAbs < 2 ^ 64) (hb : b.natAbs < 2 ^ 64) :
    (ofInt a).equal (ofInt b) = decide (nearest a = nearest b) := by
  rw [equal, compare?_ofInt ha hb, Bool.eq_iff_iff, beq_iff_eq, Option.some.injEq,
    compare_eq_iff_eq, decide_eq_true_iff]

theorem below_ofInt (ha : a.natAbs < 2 ^ 64) (hb : b.natAbs < 2 ^ 64) :
    (ofInt a).below (ofInt b) = decide (nearest a < nearest b) := by
  rw [below, compare?_ofInt ha hb, Bool.eq_iff_iff, beq_iff_eq, Option.some.injEq,
    compare_lt_iff_lt, decide_eq_true_iff]

theorem atMost_ofInt (ha : a.natAbs < 2 ^ 64) (hb : b.natAbs < 2 ^ 64) :
    (ofInt a).atMost (ofInt b) = decide (nearest a ≤ nearest b) := by
  rw [atMost, below_ofInt ha hb, equal_ofInt ha hb, ← Bool.decide_or, decide_eq_decide,
    le_iff_lt_or_eq]

end CertAudit.Binary64
