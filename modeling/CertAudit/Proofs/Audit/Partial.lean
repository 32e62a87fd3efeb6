/- Audits that report on the certificates outside the chain as well. They add to an audit of the chain
what an audit of each such certificate on its own reports. -/
import CertAudit.Proofs.Audit.Verdict
import CertAudit.Proofs.Context
namespace CertAudit

namespace Chain

variable {entries chain rest : List ChainEntry} {e given : ChainEntry}

/-- A certificate that was left over makes the same chain of one on its own. -/
theorem assemble_alone (h : assemble entries = .ok (chain, rest)) (he : e ∈ rest)
    (hgiven : given.unplaced = e.unplaced) : assemble [given] = .ok ([e], []) := by
  obtain ⟨places, _, _, rfl⟩ := Audit.exists_walk_of_assemble h
  obtain ⟨x, _, rfl⟩ := List.mem_map.mp he
  rw [assemble_singleton, place_congr hgiven]
  rfl

end Chain

namespace Audit

/-- Options to audit at a given time. -/
def optionsAt (registry : Registry) (time : Int) (allowPartial : Bool) : AuditOptions :=
  { registry, atTime := some time, allowPartial }

/-- A report is the one that an audit of a single certificate gives, wherever the certificate has
been placed before. -/
def ReportedAlone (registry : Registry) (time : Int) (policies : List Policy)
    (lists : List RevocationList) (responses : List StatusResponse) (e : ChainEntry)
    (c : CertificateReport) : Prop :=
  ∀ given : ChainEntry, given.unplaced = e.unplaced → ∀ allowPartial present, ∃ single,
    run (optionsAt registry time allowPartial) present [given] policies lists responses =
      .ok single ∧ single.certificates = [c]

variable {registry : Registry} {time : Int} {allowPartial : Bool} {present now : Timestamp}
  {entries chain rest : List ChainEntry} {policies : List Policy} {lists : List RevocationList}
  {responses : List StatusResponse} {report : Report} {e : ChainEntry}

theorem evaluationTime_optionsAt (allowPartial' : Bool) (present' : Timestamp) :
    evaluationTime (optionsAt registry time allowPartial') present' =
      evaluationTime (optionsAt registry time allowPartial) present := rfl

theorem subjects_nil (allowPartial : Bool) (chain : List ChainEntry) :
    subjects allowPartial chain [] = chain.map fun e => (e, chain) := by
  cases allowPartial <;> simp [subjects]

theorem subjects_true (chain rest : List ChainEntry) :
    subjects true chain rest = subjects false chain rest ++ rest.map fun e => (e, [e]) := by
  simp [subjects]

theorem subjects_entries (chain rest : List ChainEntry) :
    (subjects true chain rest).map Prod.fst = chain ++ rest := by
  simp [subjects, Function.comp_def]

theorem reportedAlone_of_mem_remainder
    (hnow : evaluationTime (optionsAt registry time allowPartial) present = .ok now)
    (hchain : Chain.assemble entries = .ok (chain, rest)) (he : e ∈ rest) :
    ReportedAlone registry time policies lists responses e
      (certificateReport registry policies e (contextOf now lists responses [e] e)) := by
  intro given hgiven allowPartial' present'
  refine ⟨_, run_eq ((evaluationTime_optionsAt allowPartial' present').trans hnow)
    (Chain.assemble_alone hchain he hgiven), ?_⟩
  dsimp only
  rw [subjects_nil]
  rfl

/-- Given the time, an audit with the certificates outside the chain reports what the audit without
them does, and then on each of them what an audit of it alone does. So each certificate is reported
on once, and what fails without them fails with them. -/
theorem run_partial
    (h : run (optionsAt registry time allowPartial) present entries policies lists responses =
      .ok report) :
    ∃ chain rest narrow wide alone, Chain.assemble entries = .ok (chain, rest) ∧
      (∀ present', run (optionsAt registry time false) present' entries policies lists responses =
        .ok narrow) ∧
      (∀ present', run (optionsAt registry time true) present' entries policies lists responses =
        .ok wide) ∧
      wide.certificates = narrow.certificates ++ alone ∧
      List.Forall₂ (ReportedAlone registry time policies lists responses) rest alone ∧
      wide.certificates.length = entries.length ∧
      wide.certificates = reportsOn registry policies wide.evaluatedAt lists responses
        (subjects true chain rest) ∧
      ((subjects true chain rest).map fun s => s.1.unplaced).Perm
        (entries.map ChainEntry.unplaced) ∧
      (narrow.verdict = .fail → wide.verdict = .fail) := by
  obtain ⟨now, chain, rest, hnow, hchain⟩ := exists_of_run_eq_ok h
  have hrun : ∀ allowPartial' present', run (optionsAt registry time allowPartial') present'
      entries policies lists responses = _ := fun allowPartial' present' =>
    run_eq ((evaluationTime_optionsAt allowPartial' present').trans hnow) hchain
  have hperm : ((subjects true chain rest).map fun s => s.1.unplaced).Perm
      (entries.map ChainEntry.unplaced) := by
    have heq := congrArg (List.map ChainEntry.unplaced) (subjects_entries chain rest)
    rw [List.map_map] at heq
    exact heq ▸ unplaced_perm_of_assemble hchain
  have hreports : reportsOn registry policies now lists responses (subjects true chain rest) =
      reportsOn registry policies now lists responses (subjects false chain rest) ++
        rest.map fun e => certificateReport registry policies e
          (contextOf now lists responses [e] e) := by
    rw [subjects_true, reportsOn, List.map_append, List.map_map]
    rfl
  refine ⟨chain, rest, _, _, _, hchain, hrun false, hrun true, hreports, ?_, ?_, rfl, hperm, ?_⟩
  · refine List.forall₂_map_right_iff.mpr (List.forall₂_same.mpr ?_)
    intro e he
    exact reportedAlone_of_mem_remainder hnow hchain he
  · have hlength := hperm.length_eq
    rw [List.length_map, List.length_map] at hlength
    rw [← hlength]
    exact List.length_map _
  · simp only [Verdict.ofFailed_eq_fail, List.any_eq_true]
    rintro ⟨c, hc, hfail⟩
    refine ⟨c, ?_, hfail⟩
    change c ∈ reportsOn registry policies now lists responses (subjects true chain rest)
    rw [hreports]
    exact List.mem_append_left _ hc

/-- The stray certificate is reported on as it is on its own. -/
theorem run_partial_strayBelowRoot :
    ∃ narrow wide, run (optionsAt .empty 0 false) { seconds := 7 } strayBelowRoot [absencePolicy]
        [] [] = .ok narrow ∧
      run (optionsAt .empty 0 true) { seconds := 8 } strayBelowRoot [absencePolicy] [] [] =
        .ok wide ∧
      narrow.certificates.length = 2 ∧ wide.certificates.length = 3 ∧
      ∃ alone, run (optionsAt .empty 0 false) { seconds := 9 }
          [{ certificate := .plain "stray" "missing" [] }] [absencePolicy] [] [] = .ok alone ∧
        wide.certificates = narrow.certificates ++ alone.certificates := by
  obtain ⟨⟨chain, rest⟩, hchain, hrest⟩ : ∃ parts, Chain.assemble strayBelowRoot = .ok parts ∧
      parts.2 = [{ certificate := .plain "stray" "missing" [] }] := ⟨_, rfl, rfl⟩
  obtain ⟨report, h⟩ : ∃ report, run (optionsAt .empty 0 true) { seconds := 0 } strayBelowRoot
      [absencePolicy] [] [] = .ok report := ⟨_, run_eq rfl hchain⟩
  obtain ⟨chain', rest', narrow, wide, reports, hchain', hnarrow, hwide, happend, halone, hlength,
    _⟩ := run_partial h
  cases hchain.symm.trans hchain'
  obtain rfl : rest = [{ certificate := .plain "stray" "missing" [] }] := hrest
  obtain ⟨c, _, hc, hnil, rfl⟩ := List.forall₂_cons_left_iff.mp halone
  obtain rfl := List.forall₂_nil_left_iff.mp hnil
  obtain ⟨alone, hrun, hcertificates⟩ := hc { certificate := .plain "stray" "missing" [] } rfl false
    { seconds := 9 }
  refine ⟨narrow, wide, hnarrow _, hwide _, ?_, hlength, alone, hrun, hcertificates ▸ happend⟩
  have hcount := congrArg List.length happend
  rw [hlength, List.length_append] at hcount
  exact Nat.succ.inj hcount.symm

end Audit
end CertAudit
