/- A batch of a single file passes like an audit of the file alone, but for a report that cannot be
written: the batch passes all the same. -/
import CertAudit.Proofs.Chain.Assembly
import CertAudit.Proofs.Command.Status
import CertAudit.Proofs.Time.Calendar
namespace CertAudit.Command

/-- A file passes where it is read and judged by what a request tells, and its report passes. -/
def Passes (around : Surroundings) (r : AuditRequest) (f : String × Option FileTree) : Prop :=
  ∃ (s : Standard) (entries : List ChainEntry) (report : Report), s.IsRead around r ∧
    Loads f entries ∧ Judged around r s entries report ∧ report.verdict = .pass

def EvaluatedAt (around : Surroundings) (r : AuditRequest) (now : Timestamp) : Prop :=
  ∃ time, timeOf around.now r = .ok time ∧
    Audit.evaluationTime { atTime := time } around.now = .ok now

/-- A report is wanted as a document, and the time it is evaluated at has no text there. -/
def Unwritable (around : Surroundings) (r : AuditRequest) : Prop :=
  r.format.getD .text ≠ .text ∧ ∃ now, EvaluatedAt around r now ∧ now.rfc3339? = none

variable {around : Surroundings} {r : AuditRequest} {s : Standard} {entries : List ChainEntry}
  {f : String × Option FileTree} {report : Report} {now : Timestamp}

theorem write_eq_error_iff :
    (∃ fault, write r report = .error fault) ↔
      r.format.getD .text ≠ .text ∧ report.evaluatedAt.rfc3339? = none := by
  unfold write Report.jsonText Report.yamlText Report.toJson?
  cases r.format.getD .text with
  | text => simp
  | json => cases report.evaluatedAt.rfc3339? <;> simp [Attempt.within, Except.map]
  | yaml => cases report.evaluatedAt.rfc3339? <;> simp [Attempt.within]

theorem EvaluatedAt.unique {now' : Timestamp} (h : EvaluatedAt around r now)
    (h' : EvaluatedAt around r now') : now = now' := by
  obtain ⟨time, htime, hnow⟩ := h
  obtain ⟨time', htime', hnow'⟩ := h'
  cases htime.symm.trans htime'
  exact Except.ok.inj (hnow.symm.trans hnow')

theorem Judged.evaluatedAt (hs : s.IsRead around r) (h : Judged around r s entries report) :
    EvaluatedAt around r report.evaluatedAt := by
  obtain ⟨now, chain, rest, hnow, hchain⟩ := Audit.exists_of_run_eq_ok h
  have hreport := (Audit.run_eq hnow hchain).symm.trans h
  cases hreport
  exact ⟨s.atTime, hs.time, hnow⟩

theorem Judged.verdict_eq_pass (hrules : ∀ p ∈ s.policies, p.rules = [])
    (h : Judged around r s entries report) : report.verdict = .pass := by
  obtain ⟨now, chain, rest, hnow, hchain⟩ := Audit.exists_of_run_eq_ok h
  rw [Verdict.eq_pass_iff_ne_fail, ne_eq, Audit.verdict_eq_fail_iff hnow hchain h]
  rintro ⟨_, _, rule, ⟨p, hp, hrule⟩, _⟩
  rw [hrules p hp] at hrule
  cases hrule

/-- Whether a report is written depends on the request alone. -/
theorem Judged.not_written_iff (hs : s.IsRead around r) (h : Judged around r s entries report) :
    (∃ fault, write r report = .error fault) ↔ Unwritable around r := by
  have htime := h.evaluatedAt hs
  rw [write_eq_error_iff]
  constructor
  · rintro ⟨hformat, hnone⟩
    exact ⟨hformat, _, htime, hnone⟩
  · rintro ⟨hformat, now, hnow, hnone⟩
    cases htime.unique hnow
    exact ⟨hformat, hnone⟩

theorem pools_iff_loads (hfiles : files around r = [f]) (batch : Bool) :
    Pools around { r with batch } entries ↔ Loads f entries := by
  change files around { r with batch } = [f] at hfiles
  have hnamed : files around { r with batch } ≠ [] := by
    rw [hfiles]
    exact List.cons_ne_nil f []
  constructor
  · intro h
    cases h with
    | input hinputs => exact absurd (files_eq_nil_of_inputs hinputs) hnamed
    | named _ _ h =>
      rw [hfiles] at h
      obtain ⟨parts, hparts, rfl⟩ := h
      cases hparts with
      | cons hload hnone =>
        cases hnone
        rwa [List.flatten_singleton]
  · intro h
    refine .named (mt files_eq_nil_of_inputs hnamed) hnamed ?_
    rw [hfiles]
    exact ⟨[entries], .cons h .nil, List.flatten_singleton⟩

/-- A batch passes where each of its files does, whether their reports are written or not. -/
theorem batch_code_eq_zero_iff_passes :
    (run around (.audit { r with batch := true })).status.code = 0 ↔
      files around r ≠ [] ∧ ∀ f ∈ files around r, Passes around r f := by
  rw [batch_code_eq_zero_iff rfl]
  constructor
  · rintro ⟨s, hs, hfiles, hfree⟩
    refine ⟨hfiles, ?_⟩
    intro f hf
    obtain ⟨entries, report, hentries, hjudged, hpass⟩ := not_fails_iff.mp (hfree f hf)
    exact ⟨s, entries, report, (isRead_batch_iff true).mp hs, hentries, hjudged, hpass⟩
  · rintro ⟨hfiles, hpasses⟩
    obtain ⟨f, hf⟩ := List.exists_mem_of_ne_nil _ hfiles
    obtain ⟨s, _, _, hs, _⟩ := hpasses f hf
    refine ⟨s, (isRead_batch_iff true).mpr hs, hfiles, ?_⟩
    intro f' hf'
    obtain ⟨s', entries, report, hs', hentries, hjudged, hpass⟩ := hpasses f' hf'
    -- all files are judged by the one standard that the request tells
    cases hs.unique hs'
    exact not_fails_iff.mpr ⟨entries, report, hentries, hjudged, hpass⟩

theorem batch_single_code_eq_zero_iff (hfiles : files around r = [f]) :
    (run around (.audit { r with batch := true })).status.code = 0 ↔ Passes around r f := by
  rw [batch_code_eq_zero_iff_passes, hfiles]
  simp only [ne_eq, List.cons_ne_nil, not_false_eq_true, List.mem_singleton, forall_eq, true_and]

theorem produces_together (hfiles : files around r = [f]) (hs : s.IsRead around r)
    (hentries : Loads f entries) (h : Judged around r s entries report) :
    Produces around { r with batch := false } report :=
  .together rfl ((isRead_batch_iff false).mpr hs) ((pools_iff_loads hfiles false).mpr hentries) h

theorem together_single_code_eq_zero_iff (hfiles : files around r = [f]) :
    (run around (.audit { r with batch := false })).status.code = 0 ↔
      Passes around r f ∧ ¬ Unwritable around r := by
  rw [together_code_eq_zero_iff rfl]
  constructor
  · rintro ⟨report, text, hreport, htext, hpass⟩
    obtain ⟨s, entries, hs, hentries, hjudged⟩ := hreport.of_together rfl
    rw [isRead_batch_iff] at hs
    rw [pools_iff_loads hfiles] at hentries
    refine ⟨⟨s, entries, report, hs, hentries, hjudged, hpass⟩, ?_⟩
    intro hunwritable
    obtain ⟨fault, h⟩ := (Judged.not_written_iff hs hjudged).mpr hunwritable
    exact absurd (h.symm.trans htext) (by simp)
  · rintro ⟨⟨s, entries, report, hs, hentries, hjudged, hpass⟩, hwritable⟩
    have hreport := produces_together hfiles hs hentries hjudged
    cases h : write r report with
    | error fault => exact absurd ((hjudged.not_written_iff hs).mp ⟨fault, h⟩) hwritable
    | ok text => exact ⟨report, text, hreport, h, hpass⟩

theorem together_single_code_eq_two (hfiles : files around r = [f]) (hpasses : Passes around r f)
    (hunwritable : Unwritable around r) :
    (run around (.audit { r with batch := false })).status.code = 2 := by
  obtain ⟨s, entries, report, hs, hentries, hjudged, _⟩ := hpasses
  obtain ⟨fault, h⟩ := (hjudged.not_written_iff hs).mpr hunwritable
  rw [together_code_eq_two_iff rfl]
  exact .report (produces_together hfiles hs hentries hjudged) h

/-- A time that is told has no text where it is before the year 0. -/
theorem unwritable_iff_of_told {t : Int} (ht : timeOf around.now r = .ok (some t)) :
    Unwritable around r ↔
      r.format.getD .text ≠ .text ∧ Timestamp.earliest ≤ t ∧ t < Timestamp.yearZero := by
  have hnow : ∀ now, EvaluatedAt around r now ↔ Timestamp.ofUnix? t = some now := by
    intro now
    simp only [EvaluatedAt, ht, Except.ok.injEq, exists_eq_left', Audit.evaluationTime]
    cases Timestamp.ofUnix? t <;> simp
  simp only [Unwritable, hnow, Timestamp.ofUnix?]
  refine and_congr_right fun _ => ?_
  split
  · rename_i hrange
    simp only [Option.some.injEq, exists_eq_left', Timestamp.rfc3339?_eq_none_iff]
    omega
  · -- a time out of range is no time of a report, and behind the year 9999 all are
    rename_i hrange
    have hlatest : Timestamp.yearZero ≤ Timestamp.latest := by decide
    simp only [reduceCtorEq, false_and, exists_false, false_iff]
    omega

theorem unwritable_iff_of_present (ht : timeOf around.now r = .ok none) :
    Unwritable around r ↔ r.format.getD .text ≠ .text ∧ around.now.rfc3339? = none := by
  simp only [Unwritable, EvaluatedAt, ht, Except.ok.injEq, exists_eq_left', Audit.evaluationTime]

/-- A batch of a single file passes where an audit of the file alone does, if its report can be
written. Else the audit of the file alone never passes, and stops where the batch passes. That is so
for documents evaluated at a time before the year 0. -/
theorem single_file_status (hfiles : files around r = [f]) :
    (¬ Unwritable around r →
      ((run around (.audit { r with batch := true })).status.code = 0 ↔
        (run around (.audit { r with batch := false })).status.code = 0)) ∧
    (Unwritable around r →
      (run around (.audit { r with batch := false })).status.code ≠ 0 ∧
      ((run around (.audit { r with batch := true })).status.code = 0 →
        (run around (.audit { r with batch := false })).status.code = 2)) ∧
    (∀ t, timeOf around.now r = .ok (some t) → (Unwritable around r ↔
      r.format.getD .text ≠ .text ∧ Timestamp.earliest ≤ t ∧ t < Timestamp.yearZero)) ∧
    (timeOf around.now r = .ok none →
      (Unwritable around r ↔ r.format.getD .text ≠ .text ∧ around.now.rfc3339? = none)) := by
  rw [ne_eq, batch_single_code_eq_zero_iff hfiles, together_single_code_eq_zero_iff hfiles]
  refine ⟨?_, ?_, fun t => unwritable_iff_of_told, unwritable_iff_of_present⟩
  · intro hwritable
    exact (and_iff_left hwritable).symm
  · intro hunwritable
    refine ⟨fun h => h.2 hunwritable, ?_⟩
    exact fun hpasses => together_single_code_eq_two hfiles hpasses hunwritable

theorem plainFiles_passes {t : Int} (h : Timestamp.ofUnix? t = some now) :
    Passes plainFiles (documentOn ["ca.der"] t)
      ("ca.der", some (.file Armor.firstCertificate.encoding)) := by
  obtain ⟨s, hs, hrules⟩ := exists_isRead_plainFiles ["ca.der"] t
  have hcertificate : Certificate.ofEncoding Armor.firstCertificate.encoding =
      .ok Armor.firstCertificate := by cbv
  have hentries : Loads ("ca.der", some (.file Armor.firstCertificate.encoding))
      (entriesOf (some "ca.der") [Armor.firstCertificate]) :=
    ⟨_, .file (by decide) (Certificate.bundle_of_ofEncoding hcertificate), rfl⟩
  have htime : s.atTime = some t := Except.ok.inj hs.time.symm
  have hnow : Audit.evaluationTime { atTime := s.atTime } plainFiles.now = .ok now := by
    simp only [Audit.evaluationTime, htime, h]
  obtain ⟨report, hjudged⟩ : ∃ report, Judged plainFiles (documentOn ["ca.der"] t) s
      (entriesOf (some "ca.der") [Armor.firstCertificate]) report :=
    ⟨_, Audit.run_eq hnow (Chain.assemble_singleton _)⟩
  exact ⟨s, _, report, hs, hentries, hjudged, hjudged.verdict_eq_pass hrules⟩

theorem single_file_status_plainFiles :
    files plainFiles (documentOn ["ca.der"] 0) =
        [("ca.der", some (.file Armor.firstCertificate.encoding))] ∧
      (run plainFiles (.audit { documentOn ["ca.der"] 0 with batch := true })).status.code = 0 ∧
      (run plainFiles (.audit { documentOn ["ca.der"] 0 with batch := false })).status.code = 0 := by
  have hfiles : files plainFiles (documentOn ["ca.der"] 0) =
      [("ca.der", some (.file Armor.firstCertificate.encoding))] := rfl
  have hbatch := (batch_single_code_eq_zero_iff hfiles).mpr (plainFiles_passes rfl)
  obtain ⟨hsame, _, htold, _⟩ := single_file_status hfiles
  have hwritable : ¬ Unwritable plainFiles (documentOn ["ca.der"] 0) := by
    rw [htold 0 rfl]
    decide
  exact ⟨hfiles, hbatch, (hsame hwritable).mp hbatch⟩

def documentBeforeYearZero : AuditRequest := documentOn ["ca.der"] (Timestamp.yearZero - 1)

theorem single_file_code_beforeYearZero :
    (run plainFiles (.audit { documentBeforeYearZero with batch := true })).status.code = 0 ∧
      (run plainFiles (.audit { documentBeforeYearZero with batch := false })).status.code = 2 := by
  have hfiles : files plainFiles documentBeforeYearZero =
      [("ca.der", some (.file Armor.firstCertificate.encoding))] := rfl
  have hpasses : Passes plainFiles documentBeforeYearZero
      ("ca.der", some (.file Armor.firstCertificate.encoding)) := plainFiles_passes rfl
  have hunwritable : Unwritable plainFiles documentBeforeYearZero := by
    rw [unwritable_iff_of_told rfl]
    decide
  exact ⟨(batch_single_code_eq_zero_iff hfiles).mpr hpasses,
    together_single_code_eq_two hfiles hpasses hunwritable⟩

end CertAudit.Command
