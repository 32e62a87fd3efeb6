/- The texts that spell a byte string in hexadecimal are those that decode to it once the colons are
left out, so that no text spells two byte strings. -/
import CertAudit.Text.Hex
import Mathlib.Data.List.Basic
namespace CertAudit.Hex

variable {b c : Bytes} {s : String} {ch : Char} {cs : List Char} {n : Nat}

/-- A text that spells a byte string: pairs of digits of either case, with colons anywhere. -/
def Spelling (b : Bytes) (s : String) : Prop := decodeChars (s.toList.filter (· != ':')) = some b

instance : Decidable (Spelling b s) := inferInstanceAs (Decidable (_ = _))

theorem toNat_div_lt (b : UInt8) : b.toNat / 16 < 16 := by
  have := b.toNat_lt
  omega

theorem toLower_lowerDigit : ∀ n < 16, (lowerDigit n).toLower = lowerDigit n := by decide

theorem toLower_upperDigit : ∀ n < 16, (upperDigit n).toLower = lowerDigit n := by decide

theorem upperDigit_ne_colon : ∀ n < 16, upperDigit n ≠ ':' := by decide

theorem lowerChars_cons (b : UInt8) (rest : Bytes) : lowerChars (b :: rest) =
    lowerDigit (b.toNat / 16) :: lowerDigit (b.toNat % 16) :: lowerChars rest := rfl

theorem exists_of_mem_lowerChars (h : ch ∈ lowerChars b) : ∃ n < 16, ch = lowerDigit n := by
  obtain ⟨x, _, hx⟩ := List.mem_flatMap.mp h
  rcases List.mem_pair.mp hx with rfl | rfl
  · exact ⟨_, toNat_div_lt x, rfl⟩
  · exact ⟨_, Nat.mod_lt _ (by decide), rfl⟩

theorem digitValue?_ascii : ∀ k < 128, ∀ n < 16,
    digitValue? (Char.ofNat k) = some n ↔ (Char.ofNat k).toLower = lowerDigit n := by
  decide +kernel

theorem lowerDigit_toNat_lt : ∀ n < 16, (lowerDigit n).toNat < 128 := by decide

theorem le_iff_toNat_le {x y : Char} : x ≤ y ↔ x.toNat ≤ y.toNat := Iff.rfl

theorem toNat_of_digitValue? (h : digitValue? ch = some n) : ch.toNat < 128 ∧ n < 16 := by
  simp only [digitValue?, le_iff_toNat_le] at h
  split at h
  · rename_i hrange
    have hhigh : ch.toNat ≤ 57 := hrange.2
    cases h
    omega
  · split at h
    · rename_i hrange
      have hhigh : ch.toNat ≤ 102 := hrange.2
      cases h
      omega
    · split at h
      · rename_i hrange
        have hhigh : ch.toNat ≤ 70 := hrange.2
        cases h
        omega
      · cases h

/-- A character stands for a value just where its lowercase form is the digit of the value. -/
theorem digitValue?_eq_some_iff (hn : n < 16) :
    digitValue? ch = some n ↔ ch.toLower = lowerDigit n := by
  by_cases hascii : ch.toNat < 128
  · have h := digitValue?_ascii ch.toNat hascii n hn
    rwa [Char.ofNat_toNat] at h
  · have hfixed : ch.toLower = ch := by
      refine dif_neg fun hupper => ?_
      have hhigh : ch.toNat ≤ 90 := hupper.2
      omega
    constructor
    · intro h
      exact absurd (toNat_of_digitValue? h).1 hascii
    · intro h
      rw [hfixed] at h
      exact absurd (h ▸ lowerDigit_toNat_lt n hn) hascii

theorem decodeChars_cons_cons {high low : Char} {rest : List Char} :
    decodeChars (high :: low :: rest) = some b ↔ ∃ hi lo tail, digitValue? high = some hi ∧
      digitValue? low = some lo ∧ decodeChars rest = some tail ∧
      UInt8.ofNat (hi * 16 + lo) :: tail = b := by
  simp only [decodeChars, Option.bind_eq_some_iff, exists_and_left, Option.some.injEq, bind, pure]

theorem toNat_halves {hi lo : Nat} (hhi : hi < 16) (hlo : lo < 16) :
    (UInt8.ofNat (hi * 16 + lo)).toNat = hi * 16 + lo := by
  rw [UInt8.toNat_ofNat']
  exact Nat.mod_eq_of_lt (by omega)

theorem ofNat_halves (x : UInt8) : UInt8.ofNat (x.toNat / 16 * 16 + x.toNat % 16) = x := by
  rw [Nat.div_add_mod', UInt8.ofNat_toNat]

/-- Characters that are in lowercase the digits of bytes, two a byte, decode to the bytes. -/
theorem map_toLower_eq_iff : cs.map Char.toLower = lowerChars b ↔ decodeChars cs = some b := by
  fun_induction decodeChars cs generalizing b with
  | case1 =>
    cases b with
    | nil => simp [lowerChars]
    | cons x rest => simp [lowerChars_cons]
  | case2 high low rest ih =>
    rw [← decodeChars, decodeChars_cons_cons]
    cases b with
    | nil => simp [lowerChars]
    | cons x tail =>
      have hx := toNat_div_lt x
      have hlow : x.toNat % 16 < 16 := Nat.mod_lt _ (by decide)
      simp only [List.map_cons, lowerChars_cons, List.cons.injEq, ih, ← digitValue?_eq_some_iff hx,
        ← digitValue?_eq_some_iff hlow]
      constructor
      · rintro ⟨hhi, hlo, htail⟩
        exact ⟨_, _, tail, hhi, hlo, htail, ofNat_halves x, rfl⟩
      · rintro ⟨hi, lo, tail, hhi, hlo, htail, hbyte, rfl⟩
        have hsum := toNat_halves (toNat_of_digitValue? hhi).2 (toNat_of_digitValue? hlo).2
        rw [hbyte] at hsum
        have hlo16 := (toNat_of_digitValue? hlo).2
        have hdiv : x.toNat / 16 = hi := by omega
        have hmod : x.toNat % 16 = lo := by omega
        exact ⟨hdiv ▸ hhi, hmod ▸ hlo, htail⟩
  | case3 ch =>
    cases b with
    | nil => simp [lowerChars]
    | cons x rest => simp [lowerChars_cons]

theorem decodeChars_lowerChars (b : Bytes) : decodeChars (lowerChars b) = some b := by
  rw [← map_toLower_eq_iff]
  induction b with
  | nil => rfl
  | cons x rest ih =>
    rw [lowerChars_cons, List.map_cons, List.map_cons, ih, toLower_lowerDigit _ (toNat_div_lt x),
      toLower_lowerDigit _ (Nat.mod_lt _ (by decide))]

theorem lowerChars_injective : Function.Injective lowerChars := by
  intro b c h
  have hb := decodeChars_lowerChars b
  rw [h, decodeChars_lowerChars] at hb
  exact (Option.some.inj hb).symm

theorem spells_iff : spells b s = true ↔ Spelling b s := by
  rw [spells, beq_iff_eq, map_toLower_eq_iff, Spelling]

/-- No text spells two byte strings. -/
theorem Spelling.unique (hb : Spelling b s) (hc : Spelling c s) : b = c :=
  Option.some.inj (hb.symm.trans hc)

/-- The two uppercase digits of a byte have its lowercase ones, and are no colons. -/
theorem map_toLower_upperDigits (x : UInt8) (cs : List Char) :
    ((upperDigit (x.toNat / 16) :: upperDigit (x.toNat % 16) :: cs).filter (· != ':')).map
        Char.toLower =
      lowerDigit (x.toNat / 16) :: lowerDigit (x.toNat % 16) ::
        (cs.filter (· != ':')).map Char.toLower := by
  have hhigh := toNat_div_lt x
  have hlow : x.toNat % 16 < 16 := Nat.mod_lt _ (by decide)
  simp [upperDigit_ne_colon _ hhigh, upperDigit_ne_colon _ hlow, toLower_upperDigit _ hhigh,
    toLower_upperDigit _ hlow]

theorem filter_colonChars (b : Bytes) :
    ((colonChars b).filter (· != ':')).map Char.toLower = lowerChars b := by
  fun_induction colonChars b with
  | case1 => rfl
  | case2 x => exact map_toLower_upperDigits x []
  | case3 x rest hne ih =>
    rw [map_toLower_upperDigits, lowerChars_cons]
    simpa using ih

theorem spelling_colonUpper (b : Bytes) : Spelling b (colonUpper b) := by
  rw [Spelling, colonUpper, String.toList_ofList, ← map_toLower_eq_iff, filter_colonChars]

theorem spelling_colonUpper_iff : Spelling b (colonUpper c) ↔ b = c := by
  constructor
  · intro h
    exact h.unique (spelling_colonUpper c)
  · rintro rfl
    exact spelling_colonUpper b

end CertAudit.Hex
