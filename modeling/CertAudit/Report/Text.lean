/- The text of a report, in full or of failures only. -/
import CertAudit.Report
namespace CertAudit.Report

/-- The mark of a result, four characters wide. -/
def mark (r : RuleResult) : String :=
  if r.skipped then "SKIP"
  else if r.passed then "PASS"
  else match r.severity with
    | .error => "FAIL"
    | .warning => "WARN"
    | .info => "INFO"

/-- The line of a result. The message is left out where the rule plainly passed. -/
def ruleLine (r : RuleResult) : String :=
  "    " ++ mark r ++ " " ++ r.ruleId ++
    (if !r.passed || r.skipped then ": " ++ r.message else "") ++ "\n"

/-- Whether the line of a result is shown. -/
def showsRule (failuresOnly : Bool) (r : RuleResult) : Bool := !(failuresOnly && r.passed)

/-- Whether a policy is shown. -/
def showsPolicy (failuresOnly : Bool) (p : PolicyResult) : Bool :=
  !(failuresOnly && p.verdict == .pass && p.failures.isEmpty)

/-- The lines of a policy. -/
def policyLines (failuresOnly : Bool) (p : PolicyResult) : List String :=
  ("  Policy " ++ p.policyId ++ ": " ++ p.verdict.name ++ "\n") ::
    (p.results.filter (showsRule failuresOnly)).map ruleLine

/-- The lines that tell which certificate is meant. -/
def certificateHeader (c : CertificateReport) : List String :=
  ["[" ++ c.verdict.capitals ++ "] " ++ c.role.name ++ " #" ++ Nat.repr c.position ++ ": " ++
    c.subject ++ "\n"] ++
  (c.file.map fun f => "  File: " ++ f ++ "\n").toList ++
  ["  SHA-256: " ++ c.hash ++ "\n"]

/-- The lines of a certificate. -/
def certificateLines (failuresOnly : Bool) (c : CertificateReport) : List String :=
  certificateHeader c ++
    (c.policies.filter (showsPolicy failuresOnly)).flatMap (policyLines failuresOnly) ++ ["\n"]

/-- The line that sums a report up. -/
def summaryLine (r : Report) : String :=
  let failed := (r.certificates.filter fun c => c.verdict == .fail).length
  "Result: " ++ r.verdict.capitals ++ " (" ++ Nat.repr failed ++ " of " ++
    Nat.repr r.certificates.length ++ " certificates failed, " ++ Nat.repr r.failedPolicies ++
    " policy failures)\n"

/-- All lines of a report. -/
def lines (failuresOnly : Bool) (r : Report) : List String :=
  r.certificates.flatMap (certificateLines failuresOnly) ++ [summaryLine r]

/-- The text of a report. -/
def text (failuresOnly : Bool) (r : Report) : String := String.join (lines failuresOnly r)

end CertAudit.Report
