/- The lengths of paths below the certificates of a chain, as a budget of authorities that is spent
from the top of the chain down. -/
import CertAudit.Operator
import CertAudit.Proofs.Certificate
import CertAudit.Proofs.Context
namespace CertAudit
namespace PathLength

/-- How many authorities may still come; without a number, any number of them. -/
abbrev Budget := Option Nat

/-- A budget is enough for a number of authorities. -/
def Covers (b : Budget) (authorities : Nat) : Prop := ∀ most, b = some most → authorities ≤ most

/-- The smaller of two budgets. -/
def Budget.lower : Budget → Budget → Budget
  | none, b => b
  | b, none => b
  | some n, some m => some (min n m)

/-- Whether a budget pays for the authorities among some certificates, the topmost first. Each
authority takes one off the budget and then lowers it to the length of paths that it allows. -/
def pays : Budget → List ChainEntry → Bool
  | _, [] => true
  | b, e :: below =>
    if e.certificate.isAuthority then
      if b = some 0 then false
      else pays (Budget.lower (b.map (· - 1)) e.certificate.pathLength?) below
    else pays b below

variable {b : Budget} {n : Nat} {c : Certificate} {below : List ChainEntry}

theorem covers_none (n : Nat) : Covers none n := by
  intro most h
  cases h

theorem covers_some (n most : Nat) : Covers (some most) n ↔ n ≤ most := by
  simp [Covers]

theorem covers_zero (b : Budget) : Covers b 0 := fun most _ => Nat.zero_le most

theorem covers_lower (a b : Budget) (n : Nat) :
    Covers (Budget.lower a b) n ↔ Covers a n ∧ Covers b n := by
  cases a with
  | none => cases b <;> simp [Budget.lower, covers_none]
  | some most =>
    cases b with
    | none => simp [Budget.lower, covers_none]
    | some most' => simp only [Budget.lower, covers_some, Nat.le_min]

/-- An authority is paid for where the budget is not used up, and the rest covers what follows. -/
theorem covers_succ (b : Budget) (n : Nat) :
    Covers b (n + 1) ↔ b ≠ some 0 ∧ Covers (b.map (· - 1)) n := by
  cases b with
  | none => simp [covers_none]
  | some most =>
    simp only [Option.map_some, covers_some, ne_eq, Option.some.injEq]
    omega

theorem pathLength?_eq_none (h : c.isAuthority = false) : c.pathLength? = none := by
  simp only [Certificate.isAuthority, Certificate.pathLength?] at h ⊢
  split
  · rename_i pathLength hbasic
    rw [hbasic] at h
    cases h
  · rfl

theorem allowsBelow_iff : Operator.allowsBelow c n = true ↔ Covers c.pathLength? n := by
  cases hlength : c.pathLength? <;> simp [Operator.allowsBelow, hlength, covers_none, covers_some]

theorem authorityCount_concat (entries : List ChainEntry) (e : ChainEntry) :
    Operator.authorityCount (entries ++ [e]) =
      Operator.authorityCount entries + if e.certificate.isAuthority then 1 else 0 := by
  cases h : e.certificate.isAuthority <;> simp [Operator.authorityCount, h]

/-- Every certificate allows as many authorities as stand before it. -/
def AllAllow (entries : List ChainEntry) : Prop :=
  ∀ i e, entries[i]? = some e →
    Covers e.certificate.pathLength? (Operator.authorityCount (entries.take i))

theorem allAllow_nil : AllAllow [] := by
  intro i e h
  cases h

theorem allAllow_concat (entries : List ChainEntry) (e : ChainEntry) :
    AllAllow (entries ++ [e]) ↔
      AllAllow entries ∧ Covers e.certificate.pathLength? (Operator.authorityCount entries) := by
  constructor
  · intro h
    refine ⟨fun i other hother => ?_, ?_⟩
    · obtain ⟨hi, _⟩ := List.getElem?_eq_some_iff.mp hother
      have hcovers := h i other (by rw [List.getElem?_append_left hi, hother])
      rwa [List.take_append_of_le_length (Nat.le_of_lt hi)] at hcovers
    · have hcovers := h entries.length e (by simp)
      rwa [List.take_left] at hcovers
  · rintro ⟨hentries, he⟩ i other hother
    rcases Nat.lt_trichotomy i entries.length with hlt | rfl | hgt
    · rw [List.getElem?_append_left hlt] at hother
      rw [List.take_append_of_le_length (Nat.le_of_lt hlt)]
      exact hentries i other hother
    · simp only [List.getElem?_concat_length, Option.some.injEq] at hother
      subst hother
      rwa [List.take_left]
    · rw [List.getElem?_eq_none (by simp; omega)] at hother
      cases hother

/-- A budget pays for certificates from the top down just if it covers all their authorities and
each of the certificates allows the authorities below it. -/
theorem pays_reverse_iff (entries : List ChainEntry) (b : Budget) :
    pays b entries.reverse = true ↔
      Covers b (Operator.authorityCount entries) ∧ AllAllow entries := by
  induction entries using List.reverseRecOn generalizing b with
  | nil => simp [pays, Operator.authorityCount, covers_zero, allAllow_nil]
  | append_singleton entries e ih =>
    rw [List.reverse_concat, allAllow_concat, authorityCount_concat]
    cases hauthority : e.certificate.isAuthority with
    | false =>
      have hfree := pathLength?_eq_none hauthority
      simp [pays, hauthority, ih, hfree, covers_none]
    | true =>
      simp only [pays, hauthority, if_true, covers_succ]
      split
      · simp [*]
      · rename_i hleft
        rw [ih, covers_lower]
        simp only [hleft, ne_eq, not_false_eq_true, true_and]
        tauto

variable {entries chain rest : List ChainEntry} {ctx : Context} {p : Nat} {e : ChainEntry}

/-- Below a root, every certificate from the one under test upward has to allow the authorities
between it and the start of the chain, and the one under test also an authority at the start. -/
theorem judgePathLength_iff (hplaced : ctx.Placed p e) (hrole : e.role ≠ .root) :
    Operator.judgePathLength ctx = true ↔
      (∀ i other, p ≤ i → ctx.chain[i]? = some other → Covers other.certificate.pathLength?
        (Operator.authorityCount ((ctx.chain.take i).drop 1))) ∧
      Covers e.certificate.pathLength? (Operator.authorityCount (ctx.chain.take p)) := by
  simp only [Operator.judgePathLength, hplaced.entry, hplaced.chain_isEmpty, hrole,
    hplaced.position, Bool.false_eq_true, if_false, Bool.and_eq_true, List.all_eq_true,
    allowsBelow_iff]
  refine and_congr_left' ⟨fun h i other hi hother => ?_, fun h pair hpair => ?_⟩
  · refine h (other, i) (List.mem_iff_getElem?.mpr ⟨i - p, ?_⟩)
    rw [List.getElem?_drop, Nat.add_sub_cancel' hi, List.getElem?_zipIdx, hother]
    simp
  · obtain ⟨k, hk⟩ := List.mem_iff_getElem?.mp hpair
    rw [List.getElem?_drop, List.getElem?_zipIdx] at hk
    obtain ⟨other, hother, rfl⟩ := Option.map_eq_some_iff.mp hk
    simpa using h (p + k) other (Nat.le_add_right p k) hother

/-- At the start of a chain this asks the certificates above it to allow the authorities between
them and the start. -/
theorem judgePathLength_start (hplaced : ctx.Placed 0 e) (hrole : e.role ≠ .root) :
    Operator.judgePathLength ctx = true ↔ AllAllow (ctx.chain.drop 1) := by
  rw [judgePathLength_iff hplaced hrole]
  constructor
  · rintro ⟨habove, _⟩ i other hother
    rw [List.getElem?_drop, Nat.add_comm] at hother
    have hcovers := habove (i + 1) other (Nat.zero_le _) hother
    rwa [List.drop_take, Nat.add_sub_cancel] at hcovers
  · intro hall
    refine ⟨fun i other _ hother => ?_, covers_zero _⟩
    cases i with
    | zero => exact covers_zero _
    | succ i =>
      rw [Nat.add_comm, ← List.getElem?_drop] at hother
      rw [List.drop_take, Nat.add_sub_cancel]
      exact hall i other hother

/-- The length of paths is kept to at the first certificate of a chain, if it is not a root, just
if a budget without a bound at the top of the chain pays for all the authorities above it. -/
theorem pathLenValid_eq_pays (h : Chain.assemble entries = .ok (chain, rest))
    (hchain : ctx.chain = chain) (hentry : ctx.entry = some e) (hfirst : chain[0]? = some e)
    (hrole : e.role ≠ .root) (target : Option Node) (operands : List Value) :
    Operator.pathLenValid.evaluate target ctx operands =
      .ok (pays none (chain.drop 1).reverse) := by
  subst hchain
  obtain ⟨places, hpath, hplaces, _⟩ := Audit.exists_walk_of_assemble h
  have hposition : e.position = 0 := (Chain.along_entry hpath (hplaces ▸ hfirst)).1
  have hplaced : ctx.Placed 0 e := ⟨hentry, hposition, hfirst⟩
  have hverdict : Operator.judgePathLength ctx = pays none (ctx.chain.drop 1).reverse := by
    rw [Bool.eq_iff_iff, judgePathLength_start hplaced hrole, pays_reverse_iff]
    simp only [covers_none, true_and]
  exact congrArg Except.ok hverdict

/-- Two authorities below a root, of which the upper one allows a number of others. -/
def stackedChain (most : Nat) : List ChainEntry := [
  { certificate := .plain "leaf" "lower" [] },
  { certificate := .plain "lower" "upper" [.basicConstraints true (some 0)]
    position := 1
    role := .intermediate },
  { certificate := .plain "upper" "root" [.basicConstraints true (some most)]
    position := 2
    role := .intermediate },
  { certificate := .plain "root" "root" [.basicConstraints true none]
    position := 3
    role := .root }]

theorem assemble_stackedChain (most : Nat) :
    Chain.assemble ((stackedChain most).map ChainEntry.unplaced) = .ok (stackedChain most, []) := by
  -- The lengths that are allowed do not tell who issued what.
  have horder : Chain.order (((stackedChain most).map ChainEntry.unplaced).map
      fun e => Chain.Link.ofCertificate e.certificate) = [0, 1, 2, 3] := by
    change Chain.order (((stackedChain 0).map ChainEntry.unplaced).map
      fun e => Chain.Link.ofCertificate e.certificate) = [0, 1, 2, 3]
    decide
  simp only [Chain.assemble, horder]
  rfl

/-- The context in which the first certificate is audited. -/
def stackedContext (most : Nat) : Context :=
  Audit.contextOf { seconds := 0 } [] [] (stackedChain most)
    { certificate := .plain "leaf" "lower" [] }

/-- The lower authority is one that the upper one allows, or one too many. -/
theorem pathLenValid_eq_pays_stackedChain :
    Operator.pathLenValid.evaluate none (stackedContext 1) [] = .ok true ∧
      Operator.pathLenValid.evaluate none (stackedContext 0) [] = .ok false := by
  constructor
  · rw [pathLenValid_eq_pays (assemble_stackedChain 1) rfl rfl rfl (by decide) none []]
    rfl
  · rw [pathLenValid_eq_pays (assemble_stackedChain 0) rfl rfl rfl (by decide) none []]
    rfl

end PathLength
end CertAudit
