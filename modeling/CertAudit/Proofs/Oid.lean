/- The dotted forms of object identifiers: the characters they are made of, and that contents which are
the only spelling of their arcs have different ones. -/
import CertAudit.Der.Oid
import CertAudit.Proofs.Text.Hex
import CertAudit.Proofs.Text.Split
import Mathlib
namespace CertAudit.Oid

variable {a b bs rest : Bytes} {c : Char} {ns ms : List Nat} {n m k : Nat} {start : Bool}

/-- The characters of dotted forms and of the bytes that stand for them. -/
def isFormChar (c : Char) : Bool := c.isDigit || c == '.' || c == ' ' || ('a' ≤ c && c ≤ 'f')

theorem mem_intercalate {sep : List Char} {parts : List (List Char)}
    (h : c ∈ sep.intercalate parts) : c ∈ sep ∨ ∃ part ∈ parts, c ∈ part := by
  induction parts with
  | nil => cases h
  | cons part rest ih =>
    cases rest with
    | nil =>
      rw [List.intercalate_singleton] at h
      exact .inr ⟨part, List.mem_cons_self, h⟩
    | cons next rest =>
      rw [List.intercalate_cons_cons, List.mem_append, List.mem_append] at h
      rcases h with (h | h) | h
      · exact .inr ⟨part, List.mem_cons_self, h⟩
      · exact .inl h
      · exact (ih h).imp_right fun ⟨other, hother, hc⟩ => ⟨other, List.mem_cons_of_mem _ hother, hc⟩

theorem isDigit_of_mem_repr (h : c ∈ (Nat.repr n).toList) : c.isDigit = true := by
  rw [Nat.toList_repr] at h
  exact Nat.isDigit_of_mem_toDigits (by decide) (by decide) h

theorem toList_dotted (ns : List Nat) :
    (dotted ns).toList = ['.'].intercalate (ns.map fun n => (Nat.repr n).toList) := by
  rw [dotted, String.toList_intercalate, List.map_map]
  rfl

theorem toList_spaced (bs : Bytes) :
    (spaced bs).toList = [' '].intercalate (bs.map fun b => Hex.lowerChars [b]) := by
  rw [spaced, String.toList_intercalate, List.map_map]
  congr 1
  refine List.map_congr_left fun b _ => ?_
  exact String.toList_ofList

theorem mem_dotted (h : c ∈ (dotted ns).toList) : c = '.' ∨ c.isDigit = true := by
  rw [toList_dotted] at h
  rcases mem_intercalate h with h | ⟨part, hpart, h⟩
  · exact .inl (List.mem_singleton.mp h)
  · obtain ⟨n, _, rfl⟩ := List.mem_map.mp hpart
    exact .inr (isDigit_of_mem_repr h)

theorem lowerDigit_isFormChar : ∀ n < 16, isFormChar (Hex.lowerDigit n) = true := by decide

theorem lowerDigit_ne_space : ∀ n < 16, Hex.lowerDigit n ≠ ' ' := by decide

theorem mem_spaced (h : c ∈ (spaced bs).toList) : c = ' ' ∨ ∃ n < 16, c = Hex.lowerDigit n := by
  rw [toList_spaced] at h
  rcases mem_intercalate h with h | ⟨part, hpart, h⟩
  · exact .inl (List.mem_singleton.mp h)
  · obtain ⟨b, _, rfl⟩ := List.mem_map.mp hpart
    exact .inr (Hex.exists_of_mem_lowerChars h)

/-- A content has the form of a single arc, of several, or of bytes. -/
theorem ofContent_cons_cases (b : UInt8) (rest : Bytes) :
    (b :: rest = [0] ∧ ofContent (b :: rest) = "0") ∨
    (arcsFit 0 rest = true ∧
      ofContent (b :: rest) = dotted (b.toNat / 40 :: b.toNat % 40 :: arcs 0 rest)) ∨
    (arcsFit 0 rest = false ∧ ofContent (b :: rest) = spaced (b :: rest)) := by
  by_cases hzero : b :: rest = [0]
  · rw [hzero]
    exact .inl ⟨rfl, rfl⟩
  · have hform : ofContent (b :: rest) = if arcsFit 0 rest then
        dotted (b.toNat / 40 :: b.toNat % 40 :: arcs 0 rest) else spaced (b :: rest) := by
      rw [ofContent]
      exact fun hb hrest => hzero (by rw [hb, hrest])
    cases hfit : arcsFit 0 rest with
    | true => exact .inr (.inl ⟨rfl, by rw [hform, if_pos hfit]⟩)
    | false =>
      refine .inr (.inr ⟨rfl, ?_⟩)
      rw [hform, hfit]
      rfl

theorem isFormChar_of_mem_ofContent (h : c ∈ (ofContent bs).toList) : isFormChar c = true := by
  cases bs with
  | nil => cases h
  | cons b rest =>
    rcases ofContent_cons_cases b rest with ⟨_, hform⟩ | ⟨_, hform⟩ | ⟨_, hform⟩ <;> rw [hform] at h
    · rw [List.mem_singleton.mp h]
      decide
    · rcases mem_dotted h with rfl | hdigit
      · decide
      · simp [isFormChar, hdigit]
    · rcases mem_spaced h with rfl | ⟨n, hn, rfl⟩
      · decide
      · exact lowerDigit_isFormChar n hn

theorem dotted_inj (hn : ns ≠ []) (hm : ms ≠ []) (h : dotted ns = dotted ms) : ns = ms := by
  have hsplit : ∀ ks : List Nat, ks ≠ [] →
      CharList.split '.' (dotted ks).toList = ks.map fun k => (Nat.repr k).toList := by
    intro ks hne
    rw [toList_dotted]
    refine CharList.split_intercalate ?_ (mt List.map_eq_nil_iff.mp hne)
    intro part hpart hpoint
    obtain ⟨k, _, rfl⟩ := List.mem_map.mp hpart
    exact absurd (isDigit_of_mem_repr hpoint) (by decide)
  have hmap := hsplit ns hn
  rw [h, hsplit ms hm] at hmap
  refine (List.map_injective_iff.mpr ?_ hmap).symm
  intro i j hij
  exact Nat.repr_inj.mp (String.toList_inj.mp hij)

theorem spaced_inj (ha : a ≠ []) (hb : b ≠ []) (h : spaced a = spaced b) : a = b := by
  have hsplit : ∀ bs : Bytes, bs ≠ [] →
      CharList.split ' ' (spaced bs).toList = bs.map fun b => Hex.lowerChars [b] := by
    intro bs hne
    rw [toList_spaced]
    refine CharList.split_intercalate ?_ (mt List.map_eq_nil_iff.mp hne)
    intro part hpart hspace
    obtain ⟨b, _, rfl⟩ := List.mem_map.mp hpart
    obtain ⟨n, hn, hdigit⟩ := Hex.exists_of_mem_lowerChars hspace
    exact lowerDigit_ne_space n hn hdigit.symm
  have hmap := hsplit a ha
  rw [h, hsplit b hb] at hmap
  have hsingleton : Function.Injective fun b : UInt8 => Hex.lowerChars [b] := fun b d h =>
    (List.cons.inj (Hex.lowerChars_injective h)).1
  exact (List.map_injective_iff.mpr hsingleton hmap).symm

/-- The arcs that bytes spell where no arc is too long. -/
def exactArcs : Nat → Bytes → List Nat
  | _, [] => []
  | n, b :: rest =>
    if b.toNat < 128 then (n * 128 + b.toNat) :: exactArcs 0 rest
    else exactArcs (n * 128 + b.toNat % 128) rest

/-- The bytes read of an arc that fits are few, and so is the value that they add up to. -/
theorem lt_nine_of_arcsFit {x : UInt8} (hplain : isPlainFrom start (x :: rest) = true)
    (hfit : arcsFit k (x :: rest) = true) : k < 9 := by
  induction rest generalizing start k x with
  | nil =>
    simp only [isPlainFrom, Bool.and_eq_true, decide_eq_true_eq] at hplain
    simp only [arcsFit, hplain.2, if_true, Bool.and_eq_true, decide_eq_true_eq] at hfit
    exact hfit.1
  | cons y rest ih =>
    rw [isPlainFrom, Bool.and_eq_true] at hplain
    rw [arcsFit] at hfit
    split at hfit
    · rw [Bool.and_eq_true, decide_eq_true_eq] at hfit
      exact hfit.1
    · have hless := ih hplain.2 hfit
      omega

theorem arcs_cons_of_lt {x : UInt8} (h : x.toNat < 128) (n : Nat) (rest : Bytes) :
    arcs n (x :: rest) = (n * 128 + x.toNat % 128) % UInt64.size :: arcs 0 rest := by
  cases rest with
  | nil => rfl
  | cons y rest => exact if_pos h

theorem arcs_cons_of_not_lt {x : UInt8} (h : ¬ x.toNat < 128) (hrest : rest ≠ []) (n : Nat) :
    arcs n (x :: rest) = arcs ((n * 128 + x.toNat % 128) % UInt64.size) rest := by
  cases rest with
  | nil => exact absurd rfl hrest
  | cons y rest => exact if_neg h

theorem arcs_eq_exactArcs (hplain : isPlainFrom start bs = true) (hfit : arcsFit k bs = true)
    (hn : n < 128 ^ k) : arcs n bs = exactArcs n bs := by
  induction bs generalizing start k n with
  | nil => rfl
  | cons x rest ih =>
    have hk : k < 9 := lt_nine_of_arcsFit hplain hfit
    have hnext : n * 128 + x.toNat % 128 < 128 ^ (k + 1) := by
      rw [Nat.pow_succ]
      omega
    have hmod : (n * 128 + x.toNat % 128) % UInt64.size = n * 128 + x.toNat % 128 := by
      refine Nat.mod_eq_of_lt (Nat.lt_of_lt_of_le hnext ?_)
      exact Nat.le_trans (Nat.pow_le_pow_right (by decide) hk) (by decide)
    simp only [isPlainFrom, Bool.and_eq_true] at hplain
    rw [arcsFit] at hfit
    by_cases hend : x.toNat < 128
    · rw [if_pos hend, Bool.and_eq_true] at hfit
      rw [arcs_cons_of_lt hend, exactArcs, if_pos hend, hmod, Nat.mod_eq_of_lt hend,
        ih hplain.2 hfit.2 (by decide)]
    · have hrest : rest ≠ [] := by
        rintro rfl
        simp [isPlainFrom, hend] at hplain
      rw [if_neg hend] at hfit
      rw [arcs_cons_of_not_lt hend hrest, exactArcs, if_neg hend, hmod, ih hplain.2 hfit hnext]

/-- A number of bytes of an arc have been read, the first of which adds something to it. -/
structure Begun (start : Bool) (k n : Nat) : Prop where
  lt : n < 128 ^ k
  eq_or_le : (start = true ∧ n = 0 ∧ k = 0) ∨ (start = false ∧ 128 ^ k ≤ 128 * n)

theorem begun_zero : Begun true 0 0 := ⟨by decide, .inl ⟨rfl, rfl, rfl⟩⟩

theorem Begun.eq_zero (h : Begun true k n) : n = 0 := by
  rcases h.eq_or_le with ⟨_, hn, _⟩ | ⟨hfalse, _⟩
  · exact hn
  · cases hfalse

theorem Begun.next {x : UInt8} (h : Begun start k n)
    (hplain : isPlainFrom start (x :: rest) = true) (hlong : ¬ x.toNat < 128) :
    Begun false (k + 1) (n * 128 + x.toNat % 128) := by
  have hlt := h.lt
  refine ⟨by rw [Nat.pow_succ]; omega, .inr ⟨rfl, ?_⟩⟩
  rw [Nat.pow_succ]
  rcases h.eq_or_le with ⟨rfl, rfl, rfl⟩ | ⟨_, hle⟩
  · have hfirst : x ≠ 0x80 := by
      rintro rfl
      simp [isPlainFrom] at hplain
    have hne : x.toNat ≠ 128 := fun heq => hfirst (UInt8.toNat_inj.mp heq)
    have := x.toNat_lt
    omega
  · omega

theorem exactArcs_ne_nil (hplain : isPlainFrom start bs = true) (hne : bs ≠ []) (n : Nat) :
    exactArcs n bs ≠ [] := by
  induction bs generalizing start n with
  | nil => exact absurd rfl hne
  | cons x rest ih =>
    rw [exactArcs]
    split
    · exact List.cons_ne_nil _ _
    · rename_i hlong
      simp only [isPlainFrom, Bool.and_eq_true] at hplain
      refine ih hplain.2 ?_ _
      rintro rfl
      simp [isPlainFrom, hlong] at hplain

/-- Each further byte makes the arc that is being read as many times larger. -/
theorem le_of_exactArcs_eq_cons {v : Nat} {vs : List Nat} (h : exactArcs n bs = v :: vs) :
    n * 128 ≤ v := by
  induction bs generalizing n with
  | nil => cases h
  | cons x rest ih =>
    rw [exactArcs] at h
    split at h
    · cases h
      omega
    · have := ih h
      omega

/-- An arc ends here while another goes on, and so is larger. -/
theorem exactArcs_ne_of_longer {x y : UInt8} {more : Bytes} (hn : n < 128 ^ k)
    (hm : Begun start k m) (hx : x.toNat < 128) (hy : ¬ y.toNat < 128)
    (hplain : isPlainFrom start (y :: more) = true) :
    exactArcs n (x :: rest) ≠ exactArcs m (y :: more) := by
  intro h
  rw [exactArcs, if_pos hx, exactArcs, if_neg hy] at h
  have hle := le_of_exactArcs_eq_cons h.symm
  rcases (hm.next hplain hy).eq_or_le with ⟨hstart, _⟩ | ⟨_, hlarge⟩
  · cases hstart
  · rw [Nat.pow_succ] at hlarge
    omega

theorem exactArcs_inj (ha : isPlainFrom start a = true) (hb : isPlainFrom start b = true)
    (hn : Begun start k n) (hm : Begun start k m) (h : exactArcs n a = exactArcs m b) :
    n = m ∧ a = b := by
  induction a generalizing start k n m b with
  | nil =>
    obtain rfl : start = true := ha
    refine ⟨by rw [hn.eq_zero, hm.eq_zero], ?_⟩
    by_contra hne
    exact exactArcs_ne_nil hb (Ne.symm hne) m h.symm
  | cons x rest ih =>
    cases b with
    | nil => exact absurd h (exactArcs_ne_nil ha (List.cons_ne_nil _ _) n)
    | cons y more =>
      have harest := ha
      have hbrest := hb
      simp only [isPlainFrom, Bool.and_eq_true] at harest hbrest
      by_cases hx : x.toNat < 128
      · by_cases hy : y.toNat < 128
        · rw [exactArcs, exactArcs, if_pos hx, if_pos hy, List.cons.injEq] at h
          simp only [hx, hy, decide_true] at harest hbrest
          obtain ⟨_, rfl⟩ := ih harest.2 hbrest.2 begun_zero begun_zero h.2
          have hbyte : x = y := UInt8.toNat_inj.mp (by omega)
          exact ⟨by omega, by rw [hbyte]⟩
        · exact absurd h (exactArcs_ne_of_longer hn.lt hm hx hy hb)
      · by_cases hy : y.toNat < 128
        · exact absurd h.symm (exactArcs_ne_of_longer hm.lt hn hy hx ha)
        · rw [exactArcs, exactArcs, if_neg hx, if_neg hy] at h
          simp only [hx, hy, decide_false] at harest hbrest
          obtain ⟨hvalue, rfl⟩ := ih harest.2 hbrest.2 (hn.next ha hx) (hm.next hb hy) h
          have hbyte : x = y := by
            have := x.toNat_lt
            have := y.toNat_lt
            exact UInt8.toNat_inj.mp (by omega)
          exact ⟨by omega, by rw [hbyte]⟩

theorem arcs_inj (ha : isPlainFrom true a = true) (hb : isPlainFrom true b = true)
    (hfitA : arcsFit 0 a = true) (hfitB : arcsFit 0 b = true) (h : arcs 0 a = arcs 0 b) :
    a = b := by
  rw [arcs_eq_exactArcs ha hfitA (by decide), arcs_eq_exactArcs hb hfitB (by decide)] at h
  exact (exactArcs_inj ha hb begun_zero begun_zero h).2

theorem point_mem_dotted (n m : Nat) (ns : List Nat) : '.' ∈ (dotted (n :: m :: ns)).toList := by
  rw [toList_dotted, List.map_cons, List.map_cons, List.intercalate_cons_cons]
  simp

theorem space_not_mem_dotted (ns : List Nat) : ' ' ∉ (dotted ns).toList := by
  intro h
  rcases mem_dotted h with h | h
  · exact absurd h (by decide)
  · exact absurd h (by decide)

/-- Only contents of several bytes have arcs that do not fit. -/
theorem space_mem_spaced {x : UInt8} (h : arcsFit 0 rest = false) :
    ' ' ∈ (spaced (x :: rest)).toList := by
  cases rest with
  | nil => cases h
  | cons y rest =>
    rw [toList_spaced, List.map_cons, List.map_cons, List.intercalate_cons_cons]
    simp

/-- Contents that are the only spelling of their arcs have different forms. -/
theorem ofContent_inj (ha : isPlain a = true) (hb : isPlain b = true)
    (h : ofContent a = ofContent b) : a = b := by
  cases a with
  | nil => cases ha
  | cons x rest =>
    cases b with
    | nil => cases hb
    | cons y more =>
      rcases ofContent_cons_cases x rest with ⟨hx, hform⟩ | ⟨hfit, hform⟩ | ⟨hfit, hform⟩ <;>
        rcases ofContent_cons_cases y more with ⟨hy, hother⟩ | ⟨hfit', hother⟩ | ⟨hfit', hother⟩ <;>
        rw [hform, hother] at h
      · rw [hx, hy]
      · exact absurd (h ▸ point_mem_dotted _ _ _) (by decide)
      · exact absurd (h ▸ space_mem_spaced hfit') (by decide)
      · exact absurd (h ▸ point_mem_dotted _ _ _) (by decide)
      · have harcs := dotted_inj (List.cons_ne_nil _ _) (List.cons_ne_nil _ _) h
        simp only [List.cons.injEq] at harcs
        have hbyte : x = y := UInt8.toNat_inj.mp (by omega)
        rw [hbyte, arcs_inj ha hb hfit hfit' harcs.2.2]
      · exact absurd (h ▸ space_mem_spaced hfit') (space_not_mem_dotted _)
      · exact absurd (h ▸ space_mem_spaced hfit) (by decide)
      · exact absurd (h ▸ space_mem_spaced hfit) (space_not_mem_dotted _)
      · exact spaced_inj (List.cons_ne_nil _ _) (List.cons_ne_nil _ _) h

/-- The first byte is taken for two arcs on its own, so different identifiers have one form. -/
example : ofContent [0x88, 0x37] = ofContent [0x88, 0x80, 0x37] := by decide

end CertAudit.Oid
