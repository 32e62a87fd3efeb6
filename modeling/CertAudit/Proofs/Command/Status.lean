/- The status that an audit ends with: whether all was read, and how the certificates fared. -/
import CertAudit.Proofs.Certificate.Source
import CertAudit.Proofs.Command.Reports
namespace CertAudit.Command

variable {around : Surroundings} {r : AuditRequest} {s : Standard} {report : Report} {o : Outcome}

theorem code_of_ok (h : runAudit around r = .ok o) :
    (run around (.audit r)).status.code = o.status.code := by
  rw [run, h]
  rfl

theorem code_of_error {fault : CommandFault} (h : runAudit around r = .error fault) :
    (run around (.audit r)).status.code = 2 := by
  rw [run, h]
  rfl

theorem code_ofFailed (failed : Bool) :
    (ExitStatus.ofFailed failed).code = if failed then 1 else 0 := by
  cases failed <;> rfl

theorem code_of_shown (hbatch : r.batch = false) (hreport : Produces around r report)
    {text : String} (htext : write r report = .ok text) :
    (run around (.audit r)).status.code = if report.passed then 0 else 1 := by
  rw [code_of_ok ((runAudit_together_eq_ok_iff hbatch).mpr ⟨report, text, hreport, htext, rfl⟩),
    code_ofFailed]
  cases report.passed <;> rfl

theorem together_code_eq_two_iff (hbatch : r.batch = false) :
    (run around (.audit r)).status.code = 2 ↔ Stops around r := by
  rw [stops_iff hbatch]
  constructor
  · rintro hcode ⟨report, text, hreport, htext⟩
    rw [code_of_shown hbatch hreport htext] at hcode
    split at hcode <;> cases hcode
  · intro hnone
    cases h : runAudit around r with
    | error fault => exact code_of_error h
    | ok o =>
      obtain ⟨report, text, hreport, htext, _⟩ := (runAudit_together_eq_ok_iff hbatch).mp h
      exact absurd ⟨report, text, hreport, htext⟩ hnone

theorem exists_shown (hbatch : r.batch = false) (hcode : (run around (.audit r)).status.code ≠ 2) :
    ∃ report text, Produces around r report ∧ write r report = .ok text := by
  rwa [ne_eq, together_code_eq_two_iff hbatch, stops_iff hbatch, Classical.not_not] at hcode

theorem together_code_eq_zero_iff (hbatch : r.batch = false) :
    (run around (.audit r)).status.code = 0 ↔ ∃ report text, Produces around r report ∧
      write r report = .ok text ∧ report.verdict = .pass := by
  constructor
  · intro hcode
    have hshown : (run around (.audit r)).status.code ≠ 2 := by simp [hcode]
    obtain ⟨report, text, hreport, htext⟩ := exists_shown hbatch hshown
    rw [code_of_shown hbatch hreport htext] at hcode
    refine ⟨report, text, hreport, htext, ?_⟩
    by_contra hfail
    rw [if_neg (mt passed_iff.mp hfail)] at hcode
    cases hcode
  · rintro ⟨report, text, hreport, htext, hpass⟩
    rw [code_of_shown hbatch hreport htext, if_pos (passed_iff.mpr hpass)]

/-- A batch that comes to its files ends as they fared. -/
theorem code_of_files (hbatch : r.batch = true) (hs : s.IsRead around r)
    (hfiles : files around r ≠ []) :
    (run around (.audit r)).status.code ≠ 2 ∧
      ((run around (.audit r)).status.code = 1 ↔ ∃ f ∈ files around r, Fails around r s f) := by
  have hany : ((files around r).map (auditFile around r s)).any FileOutcome.failed = true ↔
      ∃ f ∈ files around r, Fails around r s f := by
    simp only [List.any_map, List.any_eq_true, Function.comp_apply, auditFile_failed_iff]
  rw [code_of_ok ((runAudit_batch_eq_ok_iff hbatch).mpr ⟨s, hs, hfiles, rfl⟩), ← hany,
    batchOutcome, code_ofFailed]
  split <;> simp [*]

theorem batch_code_eq_two_iff (hbatch : r.batch = true) :
    (run around (.audit r)).status.code = 2 ↔ Hindered around r ∨ files around r = [] := by
  constructor
  · intro hcode
    by_contra hfree
    obtain ⟨hstandard, hfiles⟩ := not_or.mp hfree
    obtain ⟨s, hs⟩ := not_imp_comm.mp hindered_iff.mpr hstandard
    exact (code_of_files hbatch hs hfiles).1 hcode
  · intro hstops
    cases h : runAudit around r with
    | error fault => exact code_of_error h
    | ok o =>
      obtain ⟨s, hs, hfiles, _⟩ := (runAudit_batch_eq_ok_iff hbatch).mp h
      rcases hstops with hhindered | hnone
      · exact absurd ⟨s, hs⟩ (hindered_iff.mp hhindered)
      · exact absurd hnone hfiles

theorem exists_files (hbatch : r.batch = true) (hcode : (run around (.audit r)).status.code ≠ 2) :
    ∃ s : Standard, s.IsRead around r ∧ files around r ≠ [] := by
  rw [ne_eq, batch_code_eq_two_iff hbatch, not_or] at hcode
  obtain ⟨s, hs⟩ := not_imp_comm.mp hindered_iff.mpr hcode.1
  exact ⟨s, hs, hcode.2⟩

theorem code_cases (around : Surroundings) (r : AuditRequest) :
    (run around (.audit r)).status.code = 0 ∨ (run around (.audit r)).status.code = 1 ∨
      (run around (.audit r)).status.code = 2 := by
  cases (run around (.audit r)).status <;> simp [ExitStatus.code]

theorem batch_code_eq_zero_iff (hbatch : r.batch = true) :
    (run around (.audit r)).status.code = 0 ↔
      ∃ s : Standard, s.IsRead around r ∧ files around r ≠ [] ∧
        ∀ f ∈ files around r, ¬ Fails around r s f := by
  constructor
  · intro hcode
    have hstarted : (run around (.audit r)).status.code ≠ 2 := by simp [hcode]
    obtain ⟨s, hs, hfiles⟩ := exists_files hbatch hstarted
    refine ⟨s, hs, hfiles, ?_⟩
    intro f hf hfails
    rw [(code_of_files hbatch hs hfiles).2.mpr ⟨f, hf, hfails⟩] at hcode
    cases hcode
  · rintro ⟨s, hs, hfiles, hpass⟩
    obtain ⟨hstarted, hone⟩ := code_of_files hbatch hs hfiles
    rcases code_cases around r with hcode | hcode | hcode
    · exact hcode
    · obtain ⟨f, hf, hfails⟩ := hone.mp hcode
      exact absurd hfails (hpass f hf)
    · exact absurd hcode hstarted

/-- A policy without rules beside a certificate. -/
def plainFiles : Surroundings where
  find path :=
    if path = "plain.yaml" then some (.file (Bytes.ofString "id: plain"))
    else if path = "ca.der" then some (.file Armor.firstCertificate.encoding)
    else none
  input := []
  now := { seconds := 1700000000 }

/-- A request for a document on some files at a time. -/
def documentOn (inputs : List String) (t : Int) : AuditRequest :=
  { inputs, policies := ["plain.yaml"], format := some .json, atTime := some t }

theorem exists_plainPolicy :
    ∃ p, Policy.ofPath "plain.yaml" (plainFiles.find "plain.yaml") = .ok [p] ∧ p.rules = [] := by
  have hread : (Policy.ofText "id: plain").toOption.map (·.map fun p => p.rules.length) =
      some [0] := by decide +kernel
  have hcontent : Policy.ofPath "plain.yaml" (plainFiles.find "plain.yaml") =
      Policy.ofContent "plain.yaml" (Bytes.ofString "id: plain") := rfl
  rw [hcontent, Policy.ofContent, Bytes.toString?_ofString]
  cases h : Policy.ofText "id: plain" with
  | error fault =>
    rw [h] at hread
    cases hread
  | ok policies =>
    rw [h] at hread
    obtain ⟨p, rfl, hrules⟩ := List.map_eq_singleton_iff.mp (Option.some.inj hread)
    exact ⟨p, by simp only [h], List.length_eq_zero_iff.mp hrules⟩

theorem exists_isRead_plainFiles (inputs : List String) (t : Int) :
    ∃ s : Standard, s.IsRead plainFiles (documentOn inputs t) ∧
      ∀ p ∈ s.policies, p.rules = [] := by
  obtain ⟨p, hpolicy, hrules⟩ := exists_plainPolicy
  refine ⟨{ atTime := some t, policies := [p], lists := [], responses := [] }, ?_, ?_⟩
  · exact ⟨rfl, ⟨[[p]], .cons hpolicy .nil, rfl⟩, List.cons_ne_nil p [], ⟨[], .nil, rfl⟩, .nil⟩
  · intro policy hmem
    cases List.mem_singleton.mp hmem
    exact hrules

end CertAudit.Command
