/- The verdict of an audit: what it says, and which rules it does not depend on. -/
import CertAudit.Proofs.Certificate
import CertAudit.Proofs.Policy.Verdict
import CertAudit.Report
namespace CertAudit

/-- A result is that of a policy: it has one result for each of its rules, in their order. -/
structure Policy.Answered (registry : Registry) (ctx : Context) (p : Policy)
    (result : PolicyResult) : Prop where
  policyId : result.policyId = p.id
  rules : List.Forall₂ (fun r answer => answer = Rule.evaluate registry ctx r ∧
    answer.ruleId = r.id ∧ answer.severity = r.severity) p.rules result.results

theorem Policy.evaluate_answered (registry : Registry) (ctx : Context) (p : Policy) :
    p.Answered registry ctx (p.evaluate registry ctx) := by
  refine ⟨rfl, List.forall₂_map_right_iff.mpr (List.forall₂_same.mpr ?_)⟩
  intro r _
  exact ⟨rfl, Rule.evaluate_ruleId, Rule.evaluate_severity⟩

namespace Audit

/-- The entries that are reported on, each with the chain it is judged in. One outside the chain is
a chain of its own. -/
def subjects (allowPartial : Bool) (chain rest : List ChainEntry) :
    List (ChainEntry × List ChainEntry) :=
  chain.map (fun e => (e, chain)) ++ if allowPartial then rest.map fun e => (e, [e]) else []

/-- A report on a certificate is on an entry, with one result for each policy, in their order. -/
structure Reports (registry : Registry) (policies : List Policy) (ctx : Context) (e : ChainEntry)
    (report : CertificateReport) : Prop where
  subject : report.subject = e.certificate.subjectLine
  position : report.position = e.position
  role : report.role = e.role
  policies : List.Forall₂ (Policy.Answered registry ctx) policies report.policies

/-- A rule of one of some policies. -/
def HasRule (policies : List Policy) (r : Rule) : Prop := ∃ p ∈ policies, r ∈ p.rules

/-- Policies in another order, each with its rules in another order. -/
def Reordered (policies policies' : List Policy) : Prop :=
  ∃ mid, List.Forall₂ (fun p q => p.rules.Perm q.rules) policies mid ∧ mid.Perm policies'

theorem Reordered.hasRule_iff {policies policies' : List Policy}
    (h : Reordered policies policies') (r : Rule) : HasRule policies r ↔ HasRule policies' r := by
  obtain ⟨mid, hrules, hperm⟩ := h
  have hmid : HasRule policies r ↔ HasRule mid r := by
    clear hperm
    induction hrules with
    | nil => rfl
    | cons hhead _ ih => simpa [HasRule, hhead.mem_iff] using or_congr_right ih
  rw [hmid]
  simp only [HasRule, hperm.mem_iff]

variable {options : AuditOptions} {present now : Timestamp} {entries chain rest : List ChainEntry}
  {policies : List Policy} {lists : List RevocationList} {responses : List StatusResponse}
  {report : Report}

theorem contextOf_role? (own : List ChainEntry) (e : ChainEntry) :
    (contextOf now lists responses own e).role? = some e.role := rfl

theorem certificateReport_reports (registry : Registry) (policies : List Policy) (ctx : Context)
    (e : ChainEntry) :
    Reports registry policies ctx e (certificateReport registry policies e ctx) := by
  refine ⟨rfl, rfl, rfl, List.forall₂_map_right_iff.mpr (List.forall₂_same.mpr ?_)⟩
  intro p _
  exact p.evaluate_answered registry ctx

/-- A certificate fails under the rules that bind it and are broken, whatever policy they are of. -/
theorem certificateReport_verdict_eq_fail {registry : Registry} {ctx : Context} {e : ChainEntry} :
    (certificateReport registry policies e ctx).verdict = .fail ↔
      ∃ r, HasRule policies r ∧ r.Binding ctx.role? ∧ r.Broken registry ctx := by
  simp only [certificateReport, Verdict.ofFailed_eq_fail, List.any_eq_true, List.mem_map,
    beq_iff_eq]
  constructor
  · rintro ⟨_, ⟨p, hp, rfl⟩, hfail⟩
    obtain ⟨r, hr, hbinding, hbroken⟩ := Policy.evaluate_verdict_eq_fail.mp hfail
    exact ⟨r, ⟨p, hp, hr⟩, hbinding, hbroken⟩
  · rintro ⟨r, ⟨p, hp, hr⟩, hbinding, hbroken⟩
    exact ⟨_, ⟨p, hp, rfl⟩, Policy.evaluate_verdict_eq_fail.mpr ⟨r, hr, hbinding, hbroken⟩⟩

/-- The reports on some subjects. -/
def reportsOn (registry : Registry) (policies : List Policy) (now : Timestamp)
    (lists : List RevocationList) (responses : List StatusResponse)
    (subjects : List (ChainEntry × List ChainEntry)) : List CertificateReport :=
  subjects.map fun s =>
    certificateReport registry policies s.1 (contextOf now lists responses s.2 s.1)

theorem reportsOn_subjects (registry : Registry) (allowPartial : Bool) :
    reportsOn registry policies now lists responses (subjects allowPartial chain rest) =
      chainReports registry policies now lists responses chain ++
        if allowPartial then
          rest.flatMap fun e => chainReports registry policies now lists responses [e]
        else [] := by
  rw [reportsOn, subjects, List.map_append, List.map_map]
  cases allowPartial with
  | false => rfl
  | true =>
    simp only [if_true, List.map_map, chainReports, List.map_cons, List.map_nil,
      ← List.map_eq_flatMap]
    rfl

/-- An audit that has a time and a chain succeeds, with a report on each of its subjects. -/
theorem run_eq (hnow : evaluationTime options present = .ok now)
    (hchain : Chain.assemble entries = .ok (chain, rest)) :
    run options present entries policies lists responses = .ok
      { evaluatedAt := now
        verdict := .ofFailed ((reportsOn options.registry policies now lists responses
          (subjects options.allowPartial chain rest)).any fun c => c.verdict != .pass)
        certificates := reportsOn options.registry policies now lists responses
          (subjects options.allowPartial chain rest) } := by
  rw [run, hnow, reportsOn_subjects]
  simp only [hchain, bind, Except.bind]

theorem exists_of_run_eq_ok (h : run options present entries policies lists responses = .ok report) :
    ∃ now chain rest, evaluationTime options present = .ok now ∧
      Chain.assemble entries = .ok (chain, rest) := by
  cases hnow : evaluationTime options present with
  | error fault =>
    rw [run, hnow] at h
    cases h
  | ok now =>
    cases hchain : Chain.assemble entries with
    | error fault =>
      rw [run, hnow, hchain] at h
      cases h
    | ok parts => exact ⟨now, parts.1, parts.2, rfl, rfl⟩

/-- The report of an audit, spelled out. -/
theorem eq_of_run_eq_ok (hnow : evaluationTime options present = .ok now)
    (hchain : Chain.assemble entries = .ok (chain, rest))
    (h : run options present entries policies lists responses = .ok report) :
    report.certificates = reportsOn options.registry policies now lists responses
        (subjects options.allowPartial chain rest) ∧
      (report.verdict = .fail ↔ ∃ c ∈ report.certificates, c.verdict = .fail) := by
  rw [run_eq hnow hchain] at h
  cases h
  refine ⟨rfl, ?_⟩
  simp only [Verdict.ofFailed_eq_fail, List.any_eq_true, bne_iff_ne, ne_eq,
    Verdict.eq_pass_iff_ne_fail, Decidable.not_not]

theorem verdict_eq_fail_iff (hnow : evaluationTime options present = .ok now)
    (hchain : Chain.assemble entries = .ok (chain, rest))
    (h : run options present entries policies lists responses = .ok report) :
    report.verdict = .fail ↔ ∃ s ∈ subjects options.allowPartial chain rest,
      ∃ r, HasRule policies r ∧ r.Binding (some s.1.role) ∧
        r.Broken options.registry (contextOf now lists responses s.2 s.1) := by
  obtain ⟨hcertificates, hverdict⟩ := eq_of_run_eq_ok hnow hchain h
  rw [hverdict, hcertificates]
  simp only [reportsOn, List.mem_map, exists_exists_and_eq_and, certificateReport_verdict_eq_fail,
    contextOf_role?]

theorem forall₂_reportsOn (registry : Registry) (subjects : List (ChainEntry × List ChainEntry)) :
    List.Forall₂ (fun s c =>
        Reports registry policies (contextOf now lists responses s.2 s.1) s.1 c)
      subjects (reportsOn registry policies now lists responses subjects) := by
  refine List.forall₂_map_right_iff.mpr (List.forall₂_same.mpr ?_)
  intro s _
  exact certificateReport_reports registry policies _ s.1

/-- A certificate fails just where a policy fails for it. -/
theorem verdict_eq_fail_of_mem_reportsOn {registry : Registry}
    {subjects : List (ChainEntry × List ChainEntry)} {c : CertificateReport}
    (hc : c ∈ reportsOn registry policies now lists responses subjects) :
    c.verdict = .fail ↔ ∃ result ∈ c.policies, result.verdict = .fail := by
  obtain ⟨s, _, rfl⟩ := List.mem_map.mp hc
  simp only [certificateReport, Verdict.ofFailed_eq_fail, List.any_eq_true, beq_iff_eq]

theorem passed_iff_failedPolicies_eq_zero
    (hfails : report.verdict = .fail ↔ ∃ c ∈ report.certificates, c.verdict = .fail)
    (hc : ∀ c ∈ report.certificates,
      c.verdict = .fail ↔ ∃ result ∈ c.policies, result.verdict = .fail) :
    report.passed = true ↔ report.failedPolicies = 0 := by
  have hnone : report.failedPolicies = 0 ↔
      ∀ c ∈ report.certificates, ∀ result ∈ c.policies, result.verdict ≠ .fail := by
    rw [Report.failedPolicies, List.length_eq_zero_iff, List.filter_eq_nil_iff]
    simp only [List.mem_flatMap, beq_iff_eq]
    constructor
    · exact fun h c hmem result hresult => h result ⟨c, hmem, hresult⟩
    · rintro h result ⟨c, hmem, hresult⟩
      exact h c hmem result hresult
  rw [hnone, Report.passed, beq_iff_eq, Verdict.eq_pass_iff_ne_fail, ne_eq, hfails]
  constructor
  · exact fun h c hmem result hresult hfail => h ⟨c, hmem, (hc c hmem).mpr ⟨result, hresult, hfail⟩⟩
  · rintro h ⟨c, hmem, hfail⟩
    obtain ⟨result, hresult, hfail⟩ := (hc c hmem).mp hfail
    exact h c hmem result hresult hfail

/-- Under policies with the same binding rules, an audit succeeds as well, with the same verdict. -/
theorem run_congr {policies' : List Policy} (hnow : evaluationTime options present = .ok now)
    (hchain : Chain.assemble entries = .ok (chain, rest))
    (h : run options present entries policies lists responses = .ok report)
    (hrules : ∀ s ∈ subjects options.allowPartial chain rest, ∀ r : Rule,
      r.Binding (some s.1.role) → (HasRule policies r ↔ HasRule policies' r)) :
    ∃ report', run options present entries policies' lists responses = .ok report' ∧
      report'.verdict = report.verdict := by
  obtain ⟨report', h'⟩ : ∃ report', run options present entries policies' lists responses =
      .ok report' := ⟨_, run_eq hnow hchain⟩
  have hsame : report'.verdict = .fail ↔ report.verdict = .fail := by
    rw [verdict_eq_fail_iff hnow hchain h', verdict_eq_fail_iff hnow hchain h]
    constructor
    · rintro ⟨s, hs, r, hr, hbinding, hbroken⟩
      exact ⟨s, hs, r, (hrules s hs r hbinding).mpr hr, hbinding, hbroken⟩
    · rintro ⟨s, hs, r, hr, hbinding, hbroken⟩
      exact ⟨s, hs, r, (hrules s hs r hbinding).mp hr, hbinding, hbroken⟩
  refine ⟨report', h', ?_⟩
  cases hv : report.verdict with
  | pass => exact Verdict.eq_pass_iff_ne_fail.mpr fun hfail => by simp [hsame.mp hfail] at hv
  | fail => exact hsame.mpr hv

/-- What an audit reports, and when it fails: some certificate is bound by a rule that is broken
there. Nothing else about the policies counts for the verdict. -/
theorem run_verdict (h : run options present entries policies lists responses = .ok report) :
    ∃ now chain rest, evaluationTime options present = .ok now ∧
      Chain.assemble entries = .ok (chain, rest) ∧
      List.Forall₂ (fun s c =>
          Reports options.registry policies (contextOf now lists responses s.2 s.1) s.1 c)
        (subjects options.allowPartial chain rest) report.certificates ∧
      (report.verdict = .fail ↔ ∃ s ∈ subjects options.allowPartial chain rest,
        ∃ r, HasRule policies r ∧ r.Binding (some s.1.role) ∧
          r.Broken options.registry (contextOf now lists responses s.2 s.1)) ∧
      (report.passed = true ↔ report.failedPolicies = 0) ∧
      (∀ policies', (∀ s ∈ subjects options.allowPartial chain rest, ∀ r : Rule,
          r.Binding (some s.1.role) → (HasRule policies r ↔ HasRule policies' r)) →
        ∃ report', run options present entries policies' lists responses = .ok report' ∧
          report'.verdict = report.verdict) ∧
      ∀ policies', Reordered policies policies' →
        ∃ report', run options present entries policies' lists responses = .ok report' ∧
          report'.verdict = report.verdict := by
  obtain ⟨now, chain, rest, hnow, hchain⟩ := exists_of_run_eq_ok h
  obtain ⟨hcertificates, hfails⟩ := eq_of_run_eq_ok hnow hchain h
  refine ⟨now, chain, rest, hnow, hchain, ?_, verdict_eq_fail_iff hnow hchain h, ?_, ?_, ?_⟩
  · rw [hcertificates]
    exact forall₂_reportsOn options.registry _
  · refine passed_iff_failedPolicies_eq_zero hfails fun c hc => ?_
    rw [hcertificates] at hc
    exact verdict_eq_fail_of_mem_reportsOn hc
  · exact fun policies' hrules => run_congr hnow hchain h hrules
  · exact fun policies' hreordered =>
      run_congr hnow hchain h fun _ _ r _ => hreordered.hasRule_iff r

/-- A certificate below a root, and one of an issuer that is missing. -/
def strayBelowRoot : List ChainEntry := [
  { certificate := .plain "leaf" "root" [] },
  { certificate := .plain "root" "root" [] },
  { certificate := .plain "stray" "missing" [] }]

/-- Options with a single predicate, which wants its target to be absent. -/
def absenceOptions : AuditOptions :=
  { registry := Registry.empty.add { name := "absent", judge := fun target _ _ => .ok target.isNone }
    allowPartial := true }

/-- A rule that only warns, of an operator that is not there, and a grave one for roots. -/
def absencePolicy : Policy :=
  { id := "absence"
    rules := [{ id := "warned", operator := "missing", severity := .warning },
      { id := "rooted", operator := "absent", appliesTo := [.root] }] }

theorem run_verdict_strayBelowRoot :
    ∃ report, run absenceOptions { seconds := 0 } strayBelowRoot [absencePolicy] [] [] =
      .ok report ∧ report.verdict = .fail ∧ report.certificates.length = 3 := by
  have hassemble : ∃ parts, Chain.assemble strayBelowRoot = .ok parts ∧
      parts.1.map (·.role) = [.leaf, .root] ∧ parts.2.length = 1 := ⟨_, rfl, rfl, rfl⟩
  obtain ⟨⟨chain, rest⟩, hchain, hroles, hrest⟩ := hassemble
  obtain ⟨report, h⟩ : ∃ report, run absenceOptions { seconds := 0 } strayBelowRoot
      [absencePolicy] [] [] = .ok report := ⟨_, run_eq rfl hchain⟩
  obtain ⟨now, chain', rest', _, hchain', hreports, hfail, _⟩ := run_verdict h
  cases hchain.symm.trans hchain'
  refine ⟨report, h, hfail.mpr ?_, ?_⟩
  · obtain ⟨e, he, hrole⟩ : ∃ e ∈ chain, e.role = .root :=
      List.mem_map.mp (by rw [hroles]; exact .tail _ (.head _))
    refine ⟨(e, chain), List.mem_append_left _ (List.mem_map_of_mem he), _,
      ⟨absencePolicy, List.mem_singleton_self _, .tail _ (.head _)⟩,
      ⟨rfl, .inr ⟨e.role, rfl, by rw [hrole]; exact .head _⟩⟩, ?_⟩
    exact .negative (.head _) rfl (by simp [Node.resolve?])
  · have hlength := congrArg List.length hroles
    simp only [List.length_map, List.length_cons, List.length_nil] at hlength hrest
    rw [← hreports.length_eq]
    simp [subjects, absenceOptions, hlength, hrest]

end Audit
end CertAudit
