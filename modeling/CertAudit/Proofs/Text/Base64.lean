/- Writing base64 of RFC 4648, and that what has been written is read back, with blanks in it too. -/
import CertAudit.Text.Base64
import CertAudit.Unicode
import Mathlib.Data.List.Basic
namespace CertAudit.Base64

variable {a b c : UInt8} {bs : Bytes} {n : Nat}

def alphabet : Bytes :=
  Bytes.ofString "ABCDEFGHIJKLMNOPQRSTUVWXYZabcdefghijklmnopqrstuvwxyz0123456789+/"

/-- The letter for six bits. -/
def digit (n : Nat) : UInt8 := alphabet.getD n 0

/-- Four signs for three bytes; where bytes are missing at the end, signs fill the last group up. -/
def encode : Bytes → Bytes
  | [] => []
  | [a] => [digit (a.toNat / 4), digit (a.toNat % 4 * 16), padding, padding]
  | [a, b] => [digit (a.toNat / 4), digit (a.toNat % 4 * 16 + b.toNat / 16),
      digit (b.toNat % 16 * 4), padding]
  | a :: b :: c :: rest =>
    digit (a.toNat / 4) :: digit (a.toNat % 4 * 16 + b.toNat / 16) ::
      digit (b.toNat % 16 * 4 + c.toNat / 64) :: digit (c.toNat % 64) :: encode rest

example : encode (Bytes.ofString "foob") = Bytes.ofString "Zm9vYg==" := by decide

theorem digitValue?_digit : ∀ n < 64, digitValue? (digit n) = some n := by decide

theorem digit_ne_padding : ∀ n < 64, (digit n == padding) = false := by decide

theorem ofNat_eq (h : n = a.toNat) : UInt8.ofNat n = a := by
  rw [h, UInt8.ofNat_toNat]

theorem decodeGroup_three (a b c : UInt8) :
    decodeGroup (digit (a.toNat / 4)) (digit (a.toNat % 4 * 16 + b.toNat / 16))
      (digit (b.toNat % 16 * 4 + c.toNat / 64)) (digit (c.toNat % 64)) = some [a, b, c] := by
  have ha := a.toNat_lt
  have hb := b.toNat_lt
  have hc := c.toNat_lt
  have hp : a.toNat / 4 < 64 := by omega
  have hq : a.toNat % 4 * 16 + b.toNat / 16 < 64 := by omega
  have hr : b.toNat % 16 * 4 + c.toNat / 64 < 64 := by omega
  have hs : c.toNat % 64 < 64 := by omega
  have hfirst : a.toNat / 4 * 4 + (a.toNat % 4 * 16 + b.toNat / 16) / 16 = a.toNat := by omega
  have hsecond : (a.toNat % 4 * 16 + b.toNat / 16) % 16 * 16 +
      (b.toNat % 16 * 4 + c.toNat / 64) / 4 = b.toNat := by omega
  have hthird : (b.toNat % 16 * 4 + c.toNat / 64) % 4 * 64 + c.toNat % 64 = c.toNat := by omega
  simp only [decodeGroup, digitValue?_digit _ hp, digitValue?_digit _ hq, digitValue?_digit _ hr,
    digitValue?_digit _ hs, digit_ne_padding _ hr, digit_ne_padding _ hs, Bool.false_eq_true,
    if_false, Option.bind_some, Option.pure_def, Option.bind_eq_bind, ofNat_eq hfirst,
    ofNat_eq hsecond, ofNat_eq hthird]

theorem decodeGroup_two (a b : UInt8) :
    decodeGroup (digit (a.toNat / 4)) (digit (a.toNat % 4 * 16 + b.toNat / 16))
      (digit (b.toNat % 16 * 4)) padding = some [a, b] := by
  have ha := a.toNat_lt
  have hb := b.toNat_lt
  have hp : a.toNat / 4 < 64 := by omega
  have hq : a.toNat % 4 * 16 + b.toNat / 16 < 64 := by omega
  have hr : b.toNat % 16 * 4 < 64 := by omega
  have hzero : b.toNat % 16 * 4 % 4 = 0 := by omega
  have hfirst : a.toNat / 4 * 4 + (a.toNat % 4 * 16 + b.toNat / 16) / 16 = a.toNat := by omega
  have hsecond : (a.toNat % 4 * 16 + b.toNat / 16) % 16 * 16 + b.toNat % 16 * 4 / 4 = b.toNat := by
    omega
  simp only [decodeGroup, digitValue?_digit _ hp, digitValue?_digit _ hq, digitValue?_digit _ hr,
    digit_ne_padding _ hr, hzero, BEq.rfl, Bool.false_eq_true, if_true, if_false,
    Option.bind_some, Option.pure_def, Option.bind_eq_bind, ofNat_eq hfirst, ofNat_eq hsecond]

theorem decodeGroup_one (a : UInt8) :
    decodeGroup (digit (a.toNat / 4)) (digit (a.toNat % 4 * 16)) padding padding = some [a] := by
  have ha := a.toNat_lt
  have hp : a.toNat / 4 < 64 := by omega
  have hq : a.toNat % 4 * 16 < 64 := by omega
  have hzero : a.toNat % 4 * 16 % 16 = 0 := by omega
  have hfirst : a.toNat / 4 * 4 + a.toNat % 4 * 16 / 16 = a.toNat := by omega
  simp only [decodeGroup, digitValue?_digit _ hp, digitValue?_digit _ hq, hzero, BEq.rfl, and_self,
    if_true, Option.bind_some, Option.pure_def, Option.bind_eq_bind, ofNat_eq hfirst]

theorem decodeOnto_encode (chained : Bool) (read bs : Bytes) :
    decodeOnto chained read (encode bs) = some (read.reverse ++ bs) := by
  fun_induction encode bs generalizing read with
  | case1 => simp [decodeOnto]
  | case2 a => simp [decodeOnto, decodeGroup_one]
  | case3 a b => simp [decodeOnto, decodeGroup_two]
  | case4 a b c rest ih =>
    -- A full group ends in a letter, so reading goes on whether bodies are chained or not.
    have hlast : c.toNat % 64 < 64 := Nat.mod_lt _ (by decide)
    simp [decodeOnto, decodeGroup_three, digit_ne_padding _ hlast, ih]

theorem decodeChain?_encode (bs : Bytes) : decodeChain? (encode bs) = some bs :=
  decodeOnto_encode true [] bs

theorem decode?_encode (bs : Bytes) : decode? (encode bs) = some bs :=
  decodeOnto_encode false [] bs

/-- The first sign holds the upper six bits of the first byte. -/
theorem exists_encode_cons (a : UInt8) (bs : Bytes) :
    ∃ signs, encode (a :: bs) = digit (a.toNat / 4) :: signs := by
  rcases bs with _ | ⟨b, _ | ⟨c, bs⟩⟩
  · exact ⟨_, rfl⟩
  · exact ⟨_, rfl⟩
  · exact ⟨_, rfl⟩

section Signs

def IsSign (b : UInt8) : Prop := (∃ n < 64, b = digit n) ∨ b = padding

theorem isSign_of_mem_encode (h : b ∈ encode bs) : IsSign b := by
  fun_induction encode bs with
  | case1 => exact absurd h (List.not_mem_nil)
  | case2 a =>
    have ha := a.toNat_lt
    simp only [List.mem_cons, List.not_mem_nil, or_false] at h
    rcases h with rfl | rfl | rfl | rfl
    · exact .inl ⟨_, by omega, rfl⟩
    · exact .inl ⟨_, by omega, rfl⟩
    · exact .inr rfl
    · exact .inr rfl
  | case3 a b =>
    have ha := a.toNat_lt
    have hb := b.toNat_lt
    simp only [List.mem_cons, List.not_mem_nil, or_false] at h
    rcases h with rfl | rfl | rfl | rfl
    · exact .inl ⟨_, by omega, rfl⟩
    · exact .inl ⟨_, by omega, rfl⟩
    · exact .inl ⟨_, by omega, rfl⟩
    · exact .inr rfl
  | case4 a b c rest ih =>
    have ha := a.toNat_lt
    have hb := b.toNat_lt
    have hc := c.toNat_lt
    simp only [List.mem_cons] at h
    rcases h with rfl | rfl | rfl | rfl | h
    · exact .inl ⟨_, by omega, rfl⟩
    · exact .inl ⟨_, by omega, rfl⟩
    · exact .inl ⟨_, by omega, rfl⟩
    · exact .inl ⟨_, by omega, rfl⟩
    · exact ih h

theorem IsSign.forall (P : UInt8 → Prop) (hdigit : ∀ n < 64, P (digit n)) (hpadding : P padding)
    (h : IsSign b) : P b := by
  obtain ⟨n, hn, rfl⟩ | rfl := h
  · exact hdigit n hn
  · exact hpadding

theorem IsSign.lt (h : IsSign b) : b.toNat < 128 :=
  h.forall (fun b => b.toNat < 128) (by decide) (by decide)

theorem IsSign.ne_feed (h : IsSign b) : b ≠ 0x0a := h.forall (· ≠ 0x0a) (by decide) (by decide)

theorem IsSign.ne_hyphen (h : IsSign b) : Char.ofNat b.toNat ≠ '-' :=
  h.forall (fun b => Char.ofNat b.toNat ≠ '-') (by decide +kernel) (by decide)

theorem IsSign.not_whiteSpace (h : IsSign b) :
    Unicode.isWhiteSpace (Char.ofNat b.toNat) = false :=
  h.forall (fun b => Unicode.isWhiteSpace (Char.ofNat b.toNat) = false) (by decide +kernel)
    (by decide)

theorem IsSign.not_blank (h : IsSign b) : Bytes.isBlank b = false :=
  h.forall (fun b => Bytes.isBlank b = false) (by decide) (by decide)

end Signs

section Blanks

variable {signs text : Bytes}

/-- A text is made of signs, with blanks put in front of them, between them and behind them. -/
inductive Spaced : Bytes → Bytes → Prop
  | nil : Spaced [] []
  | sign {signs text : Bytes} (b : UInt8) (spaced : Spaced signs text) :
    Spaced (b :: signs) (b :: text)
  | blank {b : UInt8} {signs text : Bytes} (isBlank : Bytes.isBlank b = true)
    (spaced : Spaced signs text) : Spaced signs (b :: text)

theorem Spaced.head (h : Spaced signs (b :: text)) :
    Bytes.isBlank b = true ∨ signs.head? = some b := by
  cases h with
  | sign _ spaced => exact .inr rfl
  | blank isBlank spaced => exact .inl isBlank

theorem spaced_iff (hsigns : ∀ b ∈ signs, Bytes.isBlank b = false) :
    Spaced signs text ↔ text.filter (fun b => !Bytes.isBlank b) = signs := by
  constructor
  · intro h
    induction h with
    | nil => rfl
    | sign b spaced ih =>
      obtain ⟨hb, hrest⟩ := List.forall_mem_cons.mp hsigns
      rw [List.filter_cons_of_pos (by simp [hb]), ih hrest]
    | blank isBlank spaced ih => rw [List.filter_cons_of_neg (by simp [isBlank]), ih hsigns]
  · rintro rfl
    clear hsigns
    induction text with
    | nil => exact .nil
    | cons b text ih =>
      cases hb : Bytes.isBlank b with
      | true =>
        rw [List.filter_cons_of_neg (by simp [hb])]
        exact .blank hb ih
      | false =>
        rw [List.filter_cons_of_pos (by simp [hb])]
        exact .sign b ih

theorem decodeBody?_of_spaced (h : Spaced (encode bs) text) (hne : bs ≠ []) :
    decodeBody? text = some bs := by
  have hsigns : ∀ b ∈ encode bs, Bytes.isBlank b = false :=
    fun b hb => (isSign_of_mem_encode hb).not_blank
  obtain ⟨a, bs, rfl⟩ := List.exists_cons_of_ne_nil hne
  have hdecode := decode?_encode (a :: bs)
  obtain ⟨signs, hencode⟩ := exists_encode_cons a bs
  rw [hencode] at hdecode
  rw [decodeBody?, (spaced_iff hsigns).mp h, hencode]
  exact hdecode

end Blanks

end CertAudit.Base64
