/- What status services and revocation lists say of a certificate, whatever their order. -/
import CertAudit.Operator
import CertAudit.Proofs.Certificate.Reading
import Mathlib.Data.List.Flatten
import Mathlib.Data.List.Forall2
namespace CertAudit

namespace Operator

/-- One pass, which stops at the first revoked status, finds a good one and none that is revoked. -/
theorem goodAmong_eq_true_iff {seen : Bool} {found : List CertificateStatus} :
    goodAmong seen found = true ↔
      (seen = true ∨ .good ∈ found) ∧ ∀ s ∈ found, isRevoked s = false := by
  induction found generalizing seen with
  | nil => simp [goodAmong]
  | cons s rest ih =>
    cases s with
    | good => simp [goodAmong, ih, isRevoked]
    | revoked time reason => simp [goodAmong, isRevoked]
    | unknown => simp [goodAmong, ih, isRevoked]

theorem isRevoked_eq_true_iff {s : CertificateStatus} :
    isRevoked s = true ↔ ∃ time reason, s = .revoked time reason := by
  cases s with
  | good => simp [isRevoked]
  | revoked time reason => simp [isRevoked]
  | unknown => simp [isRevoked]

end Operator

namespace Revocation

variable {answers answers' : List StatusResponse} {c : Certificate} {s : CertificateStatus}
  {ctx : Context}

/-- The entries of answers, one answer after another. -/
def entries (answers : List StatusResponse) : List SingleResponse :=
  answers.flatMap (·.responses)

/-- An entry about the certificate gives it a status. -/
def Tells (answers : List StatusResponse) (c : Certificate) (s : CertificateStatus) : Prop :=
  ∃ r ∈ answers, ∃ entry ∈ r.responses, entry.isAbout c = true ∧ entry.status = s

/-- An entry about the certificate tells that it is revoked. -/
def TellsRevoked (answers : List StatusResponse) (c : Certificate) : Prop :=
  ∃ time reason, Tells answers c (.revoked time reason)

/-- The same entries in another arrangement. -/
inductive Rearranged (answers answers' : List StatusResponse) : Prop
  | permuted (h : answers.Perm answers')
  | within (h : List.Forall₂ (fun r r' => r.responses.Perm r'.responses) answers answers')
  | regrouped (h : (entries answers).Perm (entries answers'))

theorem tells_iff_mem_entries :
    Tells answers c s ↔ ∃ entry ∈ entries answers, entry.isAbout c = true ∧ entry.status = s := by
  simp only [Tells, entries, List.mem_flatMap]
  constructor
  · rintro ⟨r, hr, entry, hentry, hsays⟩
    exact ⟨entry, ⟨r, hr, hentry⟩, hsays⟩
  · rintro ⟨entry, ⟨r, hr, hentry⟩, hsays⟩
    exact ⟨r, hr, entry, hentry, hsays⟩

theorem Rearranged.entries_perm (h : Rearranged answers answers') :
    (entries answers).Perm (entries answers') := by
  cases h with
  | permuted h => exact h.flatMap_right _
  | within h =>
    induction h with
    | nil => exact .nil
    | cons hhead _ ih => exact hhead.append ih
  | regrouped h => exact h

theorem Rearranged.tells_iff (h : Rearranged answers answers') :
    Tells answers' c s ↔ Tells answers c s := by
  simp only [tells_iff_mem_entries, h.entries_perm.mem_iff]

theorem Tells.append (h : Tells answers c s) (more : List StatusResponse) :
    Tells (answers ++ more) c s := by
  obtain ⟨r, hr, hsays⟩ := h
  exact ⟨r, List.mem_append_left more hr, hsays⟩

theorem mem_statuses : s ∈ Operator.statuses ctx c ↔ Tells ctx.responses c s := by
  simp only [Operator.statuses, List.mem_map, List.mem_filter, tells_iff_mem_entries, entries,
    and_assoc]

theorem exists_mem_statuses :
    (∃ s ∈ Operator.statuses ctx c, Operator.isRevoked s = true) ↔
      TellsRevoked ctx.responses c := by
  constructor
  · rintro ⟨s, hs, hrevoked⟩
    obtain ⟨time, reason, rfl⟩ := Operator.isRevoked_eq_true_iff.mp hrevoked
    exact ⟨time, reason, mem_statuses.mp hs⟩
  · rintro ⟨time, reason, htells⟩
    exact ⟨_, mem_statuses.mpr htells, rfl⟩

theorem judgeGood_eq_true_iff (h : ctx.certificate? = some c) :
    Operator.judgeGood ctx = true ↔ Tells ctx.responses c .good ∧ ¬ TellsRevoked ctx.responses c := by
  simp only [Operator.judgeGood, h, Operator.goodAmong_eq_true_iff, Bool.false_eq_true, false_or,
    mem_statuses, ← exists_mem_statuses, not_exists, not_and, Bool.not_eq_true]

theorem judgeNotRevoked_eq_false_iff (h : ctx.certificate? = some c) :
    Operator.judgeNotRevoked ctx = false ↔ TellsRevoked ctx.responses c := by
  simp only [Operator.judgeNotRevoked, h, Bool.not_eq_false', List.any_eq_true,
    exists_mem_statuses]

theorem judgeNotListed_eq_false_of_append {lists more : List RevocationList}
    (h : Operator.judgeNotListed { ctx with lists } = false) :
    Operator.judgeNotListed { ctx with lists := lists ++ more } = false := by
  simp only [Operator.judgeNotListed, Context.certificate?] at h ⊢
  split at h
  · rfl
  · simp only [List.filter_append, List.all_append, h, Bool.false_and]

/-- A certificate is good just where an entry about it says so and none says that it is revoked, and
then it is not revoked. How the entries are arranged does not count, and no further answer or list
takes a revocation back. -/
theorem ocspGood_of_tells (h : ctx.certificate? = some c) (target : Option Node)
    (operands : List Value) :
    (∀ answers, ∃ good clear,
      Operator.ocspGood.evaluate target { ctx with responses := answers } operands = .ok good ∧
      Operator.notRevokedOcsp.evaluate target { ctx with responses := answers } operands =
        .ok clear ∧
      (good = true ↔ Tells answers c .good ∧ ¬ TellsRevoked answers c) ∧
      (clear = false ↔ TellsRevoked answers c) ∧ (good = true → clear = true)) ∧
    (∀ answers answers', Rearranged answers answers' → ∀ o ∈ [Operator.ocspGood, .notRevokedOcsp],
      o.evaluate target { ctx with responses := answers' } operands =
        o.evaluate target { ctx with responses := answers } operands) ∧
    (∀ answers more,
      Operator.notRevokedOcsp.evaluate target { ctx with responses := answers } operands =
        .ok false →
      Operator.notRevokedOcsp.evaluate target { ctx with responses := answers ++ more } operands =
        .ok false) ∧
    ∀ lists more, Operator.notRevoked.evaluate target { ctx with lists } operands = .ok false →
      Operator.notRevoked.evaluate target { ctx with lists := lists ++ more } operands =
        .ok false := by
  have hgood : ∀ answers, Operator.judgeGood { ctx with responses := answers } = true ↔
      Tells answers c .good ∧ ¬ TellsRevoked answers c := fun answers => judgeGood_eq_true_iff h
  have hclear : ∀ answers, Operator.judgeNotRevoked { ctx with responses := answers } = false ↔
      TellsRevoked answers c := fun answers => judgeNotRevoked_eq_false_iff h
  refine ⟨fun answers => ⟨_, _, rfl, rfl, hgood answers, hclear answers, ?_⟩, ?_, ?_, ?_⟩
  · intro hverdict
    have hnone := ((hgood answers).mp hverdict).2
    rwa [← hclear, Bool.not_eq_false] at hnone
  · intro answers answers' hsame o ho
    have hrevoked : TellsRevoked answers' c ↔ TellsRevoked answers c := by
      simp only [TellsRevoked, hsame.tells_iff]
    rcases List.mem_pair.mp ho with rfl | rfl
    · refine congrArg Except.ok (Bool.eq_iff_iff.mpr ?_)
      rw [hgood, hgood, hsame.tells_iff, hrevoked]
    · refine congrArg Except.ok (Bool.eq_iff_iff.mpr (not_iff_not.mp ?_))
      simp only [Bool.not_eq_true, hclear, hrevoked]
  · intro answers more hrevoked
    obtain ⟨time, reason, htells⟩ := (hclear answers).mp (Except.ok.inj hrevoked)
    exact congrArg Except.ok ((hclear _).mpr ⟨time, reason, htells.append more⟩)
  · intro lists more hlisted
    exact congrArg Except.ok (judgeNotListed_eq_false_of_append (Except.ok.inj hlisted))

/-- A certificate that services are asked about. -/
def askedLeaf : Certificate :=
  .short 7 (.single [0x55, 4, 3] 0x0c "CA") (.single [0x55, 4, 3] 0x0c "leaf")

def askedContext : Context :=
  { root := .mk "" none [], now := { seconds := 0 }, entry := some { certificate := askedLeaf } }

/-- An answer that gives the certificate a status, by its serial number alone. -/
def answerOf (status : CertificateStatus) : StatusResponse :=
  { status := .successful
    responses := [{
      hashAlgorithm := "1.2.3"
      issuerNameHash := []
      issuerKeyHash := []
      serial := [7]
      status
      thisUpdate := { seconds := 0 }
      nextUpdate := none }] }

def revokedAtOnce : CertificateStatus := .revoked { seconds := 0 } none

theorem tells_answerOf (s : CertificateStatus) : Tells [answerOf s] askedLeaf s :=
  ⟨_, List.mem_singleton_self _, _, List.mem_singleton_self _, rfl, rfl⟩

/-- The certificate is good by one answer, and no longer with a second one that revokes it, before
the first one or behind it. -/
theorem ocspGood_of_tells_contradicted :
    askedContext.certificate? = some askedLeaf ∧
      Operator.ocspGood.evaluate none
        { askedContext with responses := [answerOf .good] } [] = .ok true ∧
      Operator.ocspGood.evaluate none
        { askedContext with responses := [answerOf revokedAtOnce, answerOf .good] } [] =
          .ok false ∧
      Operator.ocspGood.evaluate none
        { askedContext with responses := [answerOf .good, answerOf revokedAtOnce] } [] =
          .ok false := by
  have hasked : askedContext.certificate? = some askedLeaf := rfl
  obtain ⟨hverdict, hsame, _, _⟩ := ocspGood_of_tells hasked none []
  have hunrevoked : ¬ TellsRevoked [answerOf .good] askedLeaf := by
    rintro ⟨time, reason, r, hr, entry, hentry, _, hstatus⟩
    rw [List.mem_singleton] at hr
    subst hr
    rw [answerOf, List.mem_singleton] at hentry
    subst hentry
    cases hstatus
  have hrevoked : TellsRevoked [answerOf revokedAtOnce, answerOf .good] askedLeaf :=
    ⟨_, _, (tells_answerOf revokedAtOnce).append [answerOf .good]⟩
  obtain ⟨good, _, hgood, _, hgoodIff, _, _⟩ := hverdict [answerOf .good]
  obtain ⟨bad, _, hbad, _, hbadIff, _, _⟩ := hverdict [answerOf revokedAtOnce, answerOf .good]
  have hbadFalse : bad = false := by
    rw [← Bool.not_eq_true, hbadIff]
    exact fun h => h.2 hrevoked
  rw [hgoodIff.mpr ⟨tells_answerOf .good, hunrevoked⟩] at hgood
  rw [hbadFalse] at hbad
  refine ⟨hasked, hgood, hbad, ?_⟩
  rw [← hbad]
  exact hsame _ _ (.permuted (.swap _ _ _)) _ (List.mem_cons_self ..)

end Revocation
end CertAudit
