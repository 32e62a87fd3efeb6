/- The reports that an audit command produces, and why it produces none. -/
import CertAudit.Proofs.Audit.Verdict
import CertAudit.Proofs.Command.Standard
namespace CertAudit.Command

/-- The files that the inputs of a request expand to. -/
def files (around : Surroundings) (r : AuditRequest) : List (String × Option FileTree) :=
  r.inputs.flatMap (expand around r.recurse)

/-- Certificates as they come from a file, or from the standard input. -/
def entriesOf (file : Option String) (certificates : List Certificate) : List ChainEntry :=
  certificates.map fun c => { certificate := c, file }

def Loads (file : String × Option FileTree) (entries : List ChainEntry) : Prop :=
  ∃ certificates, ReadAs Certificate.bundle file.2 certificates ∧
    entriesOf (some file.1) certificates = entries

/-- The certificates that are audited together: those of the standard input if no inputs are named,
and else those of all files. -/
inductive Pools (around : Surroundings) (r : AuditRequest) : List ChainEntry → Prop
  | input {certificates : List Certificate} (hinputs : r.inputs = [])
      (h : Certificate.bundle (readInput around) = .ok certificates) :
      Pools around r (entriesOf none certificates)
  | named {entries : List ChainEntry} (hinputs : r.inputs ≠ []) (hfiles : files around r ≠ [])
      (h : Gathers Loads (files around r) entries) : Pools around r entries

def Judged (around : Surroundings) (r : AuditRequest) (s : Standard) (entries : List ChainEntry)
    (report : Report) : Prop :=
  Audit.run { atTime := s.atTime, allowPartial := r.allowPartial } around.now entries s.policies
    s.lists s.responses = .ok report

/-- The reports that an audit produces: one on all certificates, or one on each file of a batch. -/
inductive Produces (around : Surroundings) (r : AuditRequest) : Report → Prop
  | together {s : Standard} {entries : List ChainEntry} {report : Report}
      (hbatch : r.batch = false) (hs : s.IsRead around r) (hentries : Pools around r entries)
      (h : Judged around r s entries report) : Produces around r report
  | file {s : Standard} {f : String × Option FileTree} {entries : List ChainEntry}
      {report : Report} (hbatch : r.batch = true) (hs : s.IsRead around r)
      (hf : f ∈ files around r) (hentries : Loads f entries)
      (h : Judged around r s entries report) : Produces around r report

/-- Why there are no certificates to audit together. -/
inductive Unpooled (around : Surroundings) (r : AuditRequest) : Prop
  | input {fault : Failure} (hinputs : r.inputs = [])
      (h : Certificate.bundle (readInput around) = .error fault)
  | noFiles (hinputs : r.inputs ≠ []) (hfiles : files around r = [])
  | file {f : String × Option FileTree} (hf : f ∈ files around r)
      (h : Unread Certificate.bundle f.2)

/-- Why an audit of all certificates together stops. -/
inductive Stops (around : Surroundings) (r : AuditRequest) : Prop
  | standard (h : Hindered around r)
  | certificates (h : Unpooled around r)
  | time {s : Standard} {t : Int} (hs : s.IsRead around r) (ht : s.atTime = some t)
      (h : Timestamp.ofUnix? t = none)
  | chain {entries : List ChainEntry} {fault : Failure} (hentries : Pools around r entries)
      (h : Chain.assemble entries = .error fault)
  | report {report : Report} {fault : CommandFault} (hreport : Produces around r report)
      (h : write r report = .error fault)

/-- Why a file of a batch counts as failed. -/
inductive Fails (around : Surroundings) (r : AuditRequest) (s : Standard)
    (f : String × Option FileTree) : Prop
  | unread (h : Unread Certificate.bundle f.2)
  | time {t : Int} (ht : s.atTime = some t) (h : Timestamp.ofUnix? t = none)
  | chain {entries : List ChainEntry} {fault : Failure} (hentries : Loads f entries)
      (h : Chain.assemble entries = .error fault)
  | report {entries : List ChainEntry} {report : Report} (hentries : Loads f entries)
      (hreport : Judged around r s entries report) (h : report.verdict = .fail)

variable {around : Surroundings} {r : AuditRequest} {s : Standard} {entries : List ChainEntry}
  {f : String × Option FileTree} {report report' : Report} {o : Outcome}

theorem loadCertificates_eq_ok_iff : loadCertificates f = .ok entries ↔ Loads f entries := by
  simp only [loadCertificates, bind_eq_ok_iff, within_eq_ok_iff, Except.ok.injEq]
  constructor
  · rintro ⟨content, hfile, certificates, hread, rfl⟩
    exact ⟨certificates, readAs_iff.mpr ⟨content, hfile, hread⟩, rfl⟩
  · rintro ⟨certificates, hread, rfl⟩
    obtain ⟨content, hfile, hread⟩ := readAs_iff.mp hread
    exact ⟨content, hfile, certificates, hread, rfl⟩

theorem exists_loads_iff : (∃ entries, Loads f entries) ↔ ¬ Unread Certificate.bundle f.2 := by
  rw [unread_iff, Classical.not_not]
  constructor
  · rintro ⟨_, certificates, h, _⟩
    exact ⟨certificates, h⟩
  · rintro ⟨certificates, h⟩
    exact ⟨_, certificates, h, rfl⟩

theorem inputCertificates_eq_ok_iff :
    inputCertificates around = .ok entries ↔ ∃ certificates,
      Certificate.bundle (readInput around) = .ok certificates ∧
        entriesOf none certificates = entries := by
  simp only [inputCertificates, bind_eq_ok_iff, within_eq_ok_iff, Except.ok.injEq, entriesOf]

theorem gathered_eq_ok_iff {fs : List (String × Option FileTree)} :
    (fs.mapM loadCertificates).map List.flatten = .ok entries ↔ Gathers Loads fs entries := by
  constructor
  · intro h
    cases hparts : fs.mapM loadCertificates with
    | error fault =>
      rw [hparts] at h
      cases h
    | ok parts =>
      rw [hparts] at h
      cases h
      exact ⟨parts, (mapM_eq_ok_iff.mp hparts).imp fun _ _ => loadCertificates_eq_ok_iff.mp, rfl⟩
  · rintro ⟨parts, hparts, rfl⟩
    rw [mapM_eq_ok_iff.mpr (hparts.imp fun _ _ => loadCertificates_eq_ok_iff.mpr)]
    rfl

/-- The certificates of an audit of all together, as the command gathers them. -/
def pooled (around : Surroundings) (r : AuditRequest) : Attempt (List ChainEntry) :=
  if r.inputs.isEmpty then inputCertificates around
  else if (files around r).isEmpty then .error .noCertificateFiles
  else ((files around r).mapM loadCertificates).map List.flatten

theorem pooled_eq_ok_iff : pooled around r = .ok entries ↔ Pools around r entries := by
  unfold pooled
  constructor
  · intro h
    split at h
    · rename_i hinputs
      obtain ⟨certificates, hread, rfl⟩ := inputCertificates_eq_ok_iff.mp h
      exact .input (List.isEmpty_iff.mp hinputs) hread
    · rename_i hinputs
      split at h
      · cases h
      · rename_i hfiles
        exact .named (mt List.isEmpty_iff.mpr hinputs) (mt List.isEmpty_iff.mpr hfiles)
          (gathered_eq_ok_iff.mp h)
  · intro h
    cases h with
    | input hinputs hread =>
      rw [if_pos (List.isEmpty_iff.mpr hinputs)]
      exact inputCertificates_eq_ok_iff.mpr ⟨_, hread, rfl⟩
    | named hinputs hfiles hentries =>
      rw [if_neg (mt List.isEmpty_iff.mp hinputs), if_neg (mt List.isEmpty_iff.mp hfiles)]
      exact gathered_eq_ok_iff.mpr hentries

theorem judge_eq_ok_iff : judge around r s entries = .ok report ↔ Judged around r s entries report :=
  within_eq_ok_iff

theorem auditTogether_eq_ok_iff :
    auditTogether around r s (files around r) = .ok o ↔
      ∃ entries, Pools around r entries ∧ ∃ report, Judged around r s entries report ∧
        ∃ text, write r report = .ok text ∧
          { output := text, status := .ofFailed (!report.passed) } = o := by
  have hpooled : auditTogether around r s (files around r) = (pooled around r >>= fun entries => do
      let report ← judge around r s entries
      return { output := ← write r report, status := .ofFailed (!report.passed) }) := by
    unfold auditTogether pooled
    split
    · rfl
    · split <;> rfl
  rw [hpooled]
  simp only [bind_eq_ok_iff, pooled_eq_ok_iff, judge_eq_ok_iff, pure, Except.pure,
    Except.ok.injEq]

theorem runAudit_together_eq_ok_iff (hbatch : r.batch = false) :
    runAudit around r = .ok o ↔ ∃ report text, Produces around r report ∧
      write r report = .ok text ∧ { output := text, status := .ofFailed (!report.passed) } = o := by
  have hrun : runAudit around r = .ok o ↔ ∃ s, standardOf around r = .ok s ∧
      auditTogether around r s (files around r) = .ok o := by
    simp only [runAudit, bind_eq_ok_iff, hbatch, Bool.false_eq_true, if_false, files]
  simp only [hrun, standardOf_eq_ok_iff, auditTogether_eq_ok_iff]
  constructor
  · rintro ⟨s, hs, entries, hentries, report, hreport, text, htext, ho⟩
    exact ⟨report, text, .together hbatch hs hentries hreport, htext, ho⟩
  · rintro ⟨report, text, hreport, htext, ho⟩
    cases hreport with
    | together _ hs hentries h => exact ⟨_, hs, _, hentries, _, h, text, htext, ho⟩
    | file hbatch' => exact absurd (hbatch.symm.trans hbatch') Bool.false_ne_true

theorem runAudit_batch_eq_ok_iff (hbatch : r.batch = true) :
    runAudit around r = .ok o ↔ ∃ s : Standard, s.IsRead around r ∧ files around r ≠ [] ∧
      batchOutcome ((files around r).map (auditFile around r s)) = o := by
  have hrun : runAudit around r = .ok o ↔ ∃ s, standardOf around r = .ok s ∧
      (if (files around r).isEmpty then (.error .noCertificateFiles : Attempt Outcome)
        else .ok (batchOutcome ((files around r).map (auditFile around r s)))) = .ok o := by
    simp only [runAudit, bind_eq_ok_iff, hbatch, if_true]
    rfl
  simp only [hrun, standardOf_eq_ok_iff]
  by_cases hfiles : files around r = []
  · simp [hfiles]
  · simp [hfiles]

theorem files_eq_nil_of_inputs (h : r.inputs = []) : files around r = [] := by
  rw [files, h, List.flatMap_nil]

theorem Pools.exists_loads (h : Pools around r entries) (hf : f ∈ files around r) :
    ∃ entries, Loads f entries := by
  cases h with
  | input hinputs =>
    rw [files_eq_nil_of_inputs hinputs] at hf
    exact absurd hf List.not_mem_nil
  | named _ _ hentries => exact exists_gathers_iff.mp ⟨_, hentries⟩ f hf

theorem unpooled_iff : Unpooled around r ↔ ¬ ∃ entries, Pools around r entries := by
  constructor
  · rintro h ⟨entries, hentries⟩
    cases h with
    | file hf h => exact exists_loads_iff.mp (hentries.exists_loads hf) h
    | input hinputs h =>
      cases hentries with
      | input _ hread => exact absurd (h.symm.trans hread) (by simp)
      | named hinputs' => exact hinputs' hinputs
    | noFiles hinputs hfiles =>
      cases hentries with
      | input hinputs' => exact hinputs hinputs'
      | named _ hfiles' => exact hfiles' hfiles
  · intro hnone
    by_cases hinputs : r.inputs = []
    · cases h : Certificate.bundle (readInput around) with
      | error fault => exact .input hinputs h
      | ok certificates => exact absurd ⟨_, .input hinputs h⟩ hnone
    · by_cases hfiles : files around r = []
      · exact .noFiles hinputs hfiles
      · by_contra hfree
        obtain ⟨entries, hentries⟩ := exists_gathers_iff.mpr fun f hf =>
          exists_loads_iff.mpr fun h => hfree (.file hf h)
        exact hnone ⟨entries, .named hinputs hfiles hentries⟩

theorem evaluationTime_eq_error_iff (options : AuditOptions) (now : Timestamp) :
    (∃ fault, Audit.evaluationTime options now = .error fault) ↔
      ∃ t, options.atTime = some t ∧ Timestamp.ofUnix? t = none := by
  unfold Audit.evaluationTime
  cases options.atTime with
  | none => simp
  | some t => cases h : Timestamp.ofUnix? t <;> simp [h]

/-- Certificates are not judged where the time is out of range, or where they make no chain. -/
theorem not_judged_iff :
    (¬ ∃ report, Judged around r s entries report) ↔
      (∃ t, s.atTime = some t ∧ Timestamp.ofUnix? t = none) ∨
        ∃ fault, Chain.assemble entries = .error fault := by
  have htime := evaluationTime_eq_error_iff
    { atTime := s.atTime, allowPartial := r.allowPartial } around.now
  rw [← htime]
  constructor
  · intro hnone
    cases hnow : Audit.evaluationTime
        { atTime := s.atTime, allowPartial := r.allowPartial } around.now with
    | error fault => exact .inl ⟨fault, rfl⟩
    | ok now =>
      cases hchain : Chain.assemble entries with
      | error fault => exact .inr ⟨fault, rfl⟩
      | ok parts => exact absurd ⟨_, Audit.run_eq hnow hchain⟩ hnone
  · rintro h ⟨report, hreport⟩
    obtain ⟨now, chain, rest, hnow, hchain⟩ := Audit.exists_of_run_eq_ok hreport
    rcases h with ⟨fault, h⟩ | ⟨fault, h⟩
    · exact absurd (h.symm.trans hnow) (by simp)
    · exact absurd (h.symm.trans hchain) (by simp)

theorem Judged.unique (h : Judged around r s entries report)
    (h' : Judged around r s entries report') : report = report' :=
  Except.ok.inj (h.symm.trans h')

theorem Loads.unique {entries' : List ChainEntry} (h : Loads f entries) (h' : Loads f entries') :
    entries = entries' :=
  Except.ok.inj ((loadCertificates_eq_ok_iff.mpr h).symm.trans (loadCertificates_eq_ok_iff.mpr h'))

theorem Pools.unique {entries' : List ChainEntry} (h : Pools around r entries)
    (h' : Pools around r entries') : entries = entries' :=
  Except.ok.inj ((pooled_eq_ok_iff.mpr h).symm.trans (pooled_eq_ok_iff.mpr h'))

theorem Produces.of_together (hbatch : r.batch = false) (h : Produces around r report) :
    ∃ s entries, s.IsRead around r ∧ Pools around r entries ∧ Judged around r s entries report := by
  cases h with
  | together _ hs hentries hjudged => exact ⟨_, _, hs, hentries, hjudged⟩
  | file hbatch' => exact absurd (hbatch.symm.trans hbatch') Bool.false_ne_true

theorem Produces.unique (hbatch : r.batch = false) (h : Produces around r report)
    (h' : Produces around r report') : report = report' := by
  obtain ⟨s, entries, hs, hentries, hjudged⟩ := h.of_together hbatch
  obtain ⟨s', entries', hs', hentries', hjudged'⟩ := h'.of_together hbatch
  cases hs.unique hs'
  cases hentries.unique hentries'
  exact hjudged.unique hjudged'

/-- An audit of all together stops for one of these causes, and else shows a report. -/
theorem stops_iff (hbatch : r.batch = false) :
    Stops around r ↔ ¬ ∃ report text, Produces around r report ∧ write r report = .ok text := by
  constructor
  · rintro h ⟨report, text, hreport, htext⟩
    obtain ⟨s, entries, hs, hentries, hjudged⟩ := hreport.of_together hbatch
    cases h with
    | standard h => exact hindered_iff.mp h ⟨s, hs⟩
    | certificates h => exact unpooled_iff.mp h ⟨entries, hentries⟩
    | time hs' ht h =>
      cases hs.unique hs'
      exact not_judged_iff.mpr (.inl ⟨_, ht, h⟩) ⟨report, hjudged⟩
    | chain hentries' h =>
      cases hentries.unique hentries'
      exact not_judged_iff.mpr (.inr ⟨_, h⟩) ⟨report, hjudged⟩
    | report hreport' h =>
      cases hreport.unique hbatch hreport'
      exact absurd (h.symm.trans htext) (by simp)
  · intro hnone
    by_contra hfree
    obtain ⟨s, hs⟩ := not_imp_comm.mp hindered_iff.mpr fun h => hfree (.standard h)
    obtain ⟨entries, hentries⟩ := not_imp_comm.mp unpooled_iff.mpr fun h => hfree (.certificates h)
    obtain ⟨report, hjudged⟩ : ∃ report, Judged around r s entries report := by
      by_contra hunjudged
      rcases not_judged_iff.mp hunjudged with ⟨t, ht, h⟩ | ⟨fault, h⟩
      · exact hfree (.time hs ht h)
      · exact hfree (.chain hentries h)
    have hreport : Produces around r report := .together hbatch hs hentries hjudged
    cases h : write r report with
    | error fault => exact hfree (.report hreport h)
    | ok text => exact hnone ⟨report, text, hreport, h⟩

theorem not_fails_iff :
    ¬ Fails around r s f ↔ ∃ entries report, Loads f entries ∧ Judged around r s entries report ∧
      report.verdict = .pass := by
  constructor
  · intro hfree
    obtain ⟨entries, hentries⟩ := exists_loads_iff.mpr fun h => hfree (.unread h)
    obtain ⟨report, hjudged⟩ : ∃ report, Judged around r s entries report := by
      by_contra hunjudged
      rcases not_judged_iff.mp hunjudged with ⟨t, ht, h⟩ | ⟨fault, h⟩
      · exact hfree (.time ht h)
      · exact hfree (.chain hentries h)
    exact ⟨entries, report, hentries, hjudged,
      Verdict.eq_pass_iff_ne_fail.mpr fun h => hfree (.report hentries hjudged h)⟩
  · rintro ⟨entries, report, hentries, hjudged, hpass⟩ h
    cases h with
    | unread h => exact exists_loads_iff.mp ⟨entries, hentries⟩ h
    | time ht h => exact not_judged_iff.mpr (.inl ⟨_, ht, h⟩) ⟨report, hjudged⟩
    | chain hentries' h =>
      cases hentries.unique hentries'
      exact not_judged_iff.mpr (.inr ⟨_, h⟩) ⟨report, hjudged⟩
    | report hentries' hjudged' h =>
      cases hentries.unique hentries'
      cases hjudged.unique hjudged'
      exact absurd (hpass.symm.trans h) (by simp)

theorem showFile_failed (r : AuditRequest) (path : String) (report : Report) :
    (showFile r path report).failed = !report.passed := by
  unfold showFile
  split
  · rename_i hskipped
    rw [((Bool.and_eq_true _ _).mp hskipped).1]
    rfl
  · split <;> rfl

theorem passed_iff : report.passed = true ↔ report.verdict = .pass := by
  rw [Report.passed, beq_iff_eq]

/-- A batch counts a file as failed for what befell it, not for a report that is not written. -/
theorem auditFile_failed_iff : (auditFile around r s f).failed = true ↔ Fails around r s f := by
  have hjudged : ∀ report, (loadCertificates f >>= judge around r s) = .ok report ↔
      ∃ entries, Loads f entries ∧ Judged around r s entries report := by
    intro report
    simp only [bind_eq_ok_iff, loadCertificates_eq_ok_iff, judge_eq_ok_iff]
  rw [← not_iff_not, not_fails_iff, Bool.not_eq_true, auditFile]
  cases h : loadCertificates f >>= judge around r s with
  | error fault =>
    simp only [Bool.true_eq_false, false_iff]
    rintro ⟨entries, report, hentries, hreport, _⟩
    exact absurd (h.symm.trans ((hjudged report).mpr ⟨entries, hentries, hreport⟩)) (by simp)
  | ok report =>
    obtain ⟨entries, hentries, hreport⟩ := (hjudged report).mp h
    rw [showFile_failed, Bool.not_eq_false', passed_iff]
    constructor
    · exact fun hpass => ⟨entries, report, hentries, hreport, hpass⟩
    · rintro ⟨entries', report', hentries', hreport', hpass⟩
      cases hentries.unique hentries'
      cases hreport.unique hreport'
      exact hpass

end CertAudit.Command
