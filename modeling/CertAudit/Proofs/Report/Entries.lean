/- The text of a report in entries, of which the text of failures leaves some out as a whole. -/
import CertAudit.Report.Text
import Mathlib.Data.List.Basic
namespace CertAudit.Report

/-- A part of the text of a report. -/
inductive Entry
  | certificate (c : CertificateReport)
  | policy (p : PolicyResult)
  | rule (r : RuleResult)
  | gap
  | summary (r : Report)

def policyEntries (p : PolicyResult) : List Entry := .policy p :: p.results.map .rule

def certificateEntries (c : CertificateReport) : List Entry :=
  .certificate c :: (c.policies.flatMap policyEntries ++ [.gap])

def entries (r : Report) : List Entry :=
  r.certificates.flatMap certificateEntries ++ [.summary r]

namespace Entry

def lines : Entry → List String
  | certificate c => certificateHeader c
  | policy p => ["  Policy " ++ p.policyId ++ ": " ++ p.verdict.name ++ "\n"]
  | rule r => [ruleLine r]
  | gap => ["\n"]
  | summary r => [summaryLine r]

/-- A rule that passed, and a policy that passed and has no rule that did not. -/
inductive Passing : Entry → Prop
  | rule {r : RuleResult} : r.passed = true → Passing (rule r)
  | policy {p : PolicyResult} : p.verdict = .pass → (∀ r ∈ p.results, r.passed = true) →
      Passing (policy p)

theorem passing_rule_iff {r : RuleResult} : Passing (rule r) ↔ r.passed = true := by
  constructor
  · intro h
    cases h with
    | rule hpassed => exact hpassed
  · exact .rule

theorem passing_policy_iff {p : PolicyResult} :
    Passing (policy p) ↔ p.verdict = .pass ∧ ∀ r ∈ p.results, r.passed = true := by
  constructor
  · intro h
    cases h with
    | policy hverdict hrules => exact ⟨hverdict, hrules⟩
  · rintro ⟨hverdict, hrules⟩
    exact .policy hverdict hrules

instance : DecidablePred Passing
  | certificate _ => isFalse nofun
  | policy _ => decidable_of_iff _ passing_policy_iff.symm
  | rule _ => decidable_of_iff _ passing_rule_iff.symm
  | gap => isFalse nofun
  | summary _ => isFalse nofun

/-- A rule that did not pass, a certificate, and the result of the whole report. -/
def isEssential : Entry → Bool
  | certificate _ => true
  | policy _ => false
  | rule r => !r.passed
  | gap => false
  | summary _ => true

theorem not_passing_of_isEssential {e : Entry} (h : e.isEssential = true) : ¬e.Passing := by
  intro hpassing
  cases hpassing with
  | rule hpassed => simp [isEssential, hpassed] at h
  | policy => cases h

end Entry

/-- Whether an entry is part of a text. -/
def showsEntry (failuresOnly : Bool) (e : Entry) : Bool := !(failuresOnly && decide e.Passing)

variable {failuresOnly : Bool} {p : PolicyResult}

theorem showsEntry_rule (failuresOnly : Bool) (r : RuleResult) :
    showsEntry failuresOnly (.rule r) = showsRule failuresOnly r := by
  have hpassing : decide (Entry.Passing (.rule r)) = r.passed := by
    rw [Bool.eq_iff_iff, decide_eq_true_eq, Entry.passing_rule_iff]
  rw [showsEntry, showsRule, hpassing]

theorem showsEntry_policy (failuresOnly : Bool) (p : PolicyResult) :
    showsEntry failuresOnly (.policy p) = showsPolicy failuresOnly p := by
  have hpassing : decide (Entry.Passing (.policy p)) =
      (p.verdict == .pass && p.failures.isEmpty) := by
    rw [Bool.eq_iff_iff, decide_eq_true_eq, Entry.passing_policy_iff]
    simp [PolicyResult.failures]
  rw [showsEntry, showsPolicy, hpassing, Bool.and_assoc]

/-- No rule is shown of a policy that is not. -/
theorem filter_rules_of_hidden (h : showsPolicy failuresOnly p = false) :
    p.results.filter (showsRule failuresOnly) = [] := by
  rw [← showsEntry_policy, showsEntry, Bool.not_eq_false', Bool.and_eq_true,
    decide_eq_true_eq] at h
  obtain ⟨rfl, hpassing⟩ := h
  obtain ⟨-, hrules⟩ := Entry.passing_policy_iff.mp hpassing
  refine List.filter_eq_nil_iff.mpr fun r hr => ?_
  simp [showsRule, hrules r hr]

theorem flatMap_lines_policyEntries (failuresOnly : Bool) (p : PolicyResult) :
    ((policyEntries p).filter (showsEntry failuresOnly)).flatMap Entry.lines =
      if showsPolicy failuresOnly p then policyLines failuresOnly p else [] := by
  have hrules : (p.results.map Entry.rule).filter (showsEntry failuresOnly) =
      (p.results.filter (showsRule failuresOnly)).map .rule := by
    rw [List.filter_map]
    exact congrArg _ (List.filter_congr fun r _ => showsEntry_rule failuresOnly r)
  rw [policyEntries, List.filter_cons, showsEntry_policy, hrules]
  -- A policy that is left out must not leave its rules behind.
  split
  · rw [List.flatMap_cons, List.flatMap_map]
    simp only [policyLines, Entry.lines, List.map_eq_flatMap]
    rfl
  · rename_i hhidden
    rw [filter_rules_of_hidden (Bool.not_eq_true _ ▸ hhidden)]
    rfl

theorem certificateLines_eq (failuresOnly : Bool) (c : CertificateReport) :
    certificateLines failuresOnly c =
      ((certificateEntries c).filter (showsEntry failuresOnly)).flatMap Entry.lines := by
  have hends : ∀ e : Entry, ¬e.Passing → showsEntry failuresOnly e = true := by
    intro e he
    simp [showsEntry, he]
  have hpolicies : ((c.policies.flatMap policyEntries).filter
        (showsEntry failuresOnly)).flatMap Entry.lines =
      (c.policies.filter (showsPolicy failuresOnly)).flatMap (policyLines failuresOnly) := by
    rw [List.filter_flatMap, List.flatMap_assoc]
    simp only [flatMap_lines_policyEntries]
    induction c.policies with
    | nil => rfl
    | cons p ps ih =>
      rw [List.flatMap_cons, ih, List.filter_cons]
      split <;> rfl
  rw [certificateEntries, List.filter_cons, if_pos (hends (.certificate c) nofun), List.filter_append,
    List.flatMap_cons, List.flatMap_append, hpolicies, List.filter_cons,
    if_pos (hends .gap nofun)]
  simp only [certificateLines, List.append_assoc]
  rfl

theorem lines_eq (failuresOnly : Bool) (r : Report) :
    lines failuresOnly r =
      (r.entries.filter (showsEntry failuresOnly)).flatMap Entry.lines := by
  have hsummary : [Entry.summary r].filter (showsEntry failuresOnly) = [.summary r] := by
    cases failuresOnly <;> rfl
  rw [entries, List.filter_append, List.flatMap_append, hsummary, List.filter_flatMap,
    List.flatMap_assoc]
  simp only [← certificateLines_eq]
  rfl

/-- The text of failures is the full text without the entries of rules that passed and of policies
that passed where no rule did not. Nothing else of the full text is missing or moved: the rules
that did not pass, the certificates and the result come in both, one after another alike. -/
theorem text_failuresOnly (r : Report) :
    text false r = String.join (r.entries.flatMap Entry.lines) ∧
    text true r =
      String.join ((r.entries.filter fun e => ¬e.Passing).flatMap Entry.lines) ∧
    (r.entries.filter fun e => ¬e.Passing).filter Entry.isEssential =
      r.entries.filter Entry.isEssential := by
  refine ⟨?_, ?_, ?_⟩
  · have hall : r.entries.filter (showsEntry false) = r.entries :=
      List.filter_eq_self.mpr fun e _ => rfl
    rw [text, lines_eq, hall]
  · rw [text, lines_eq]
    congr 2
    refine List.filter_congr fun e _ => ?_
    simp [showsEntry]
  · rw [List.filter_filter]
    refine List.filter_congr fun e _ => ?_
    cases hessential : e.isEssential with
    | false => rfl
    | true => simp [Entry.not_passing_of_isEssential hessential]

end CertAudit.Report
