/- Reports as JSON and YAML documents. -/
import CertAudit.Report
import CertAudit.Yaml.Writer
namespace CertAudit

/-- A result as a document. -/
def RuleResult.toJson (r : RuleResult) : Json :=
  .object [("rule_id", .string r.ruleId), ("passed", .bool r.passed), ("skipped", .bool r.skipped),
    ("message", .string r.message), ("severity", .string r.severity.name)]

/-- The result of a policy as a document. -/
def PolicyResult.toJson (p : PolicyResult) : Json :=
  .object [("policy_id", .string p.policyId), ("verdict", .string p.verdict.name),
    ("results", .array (p.results.map RuleResult.toJson))]

/-- How a certificate fared as a document. -/
def CertificateReport.toJson (c : CertificateReport) : Json :=
  .object ((c.file.map fun f => ("file", Json.string f)).toList ++
    [("subject", .string c.subject), ("hash", .string c.hash), ("position", .integer c.position),
      ("cert_type", .string c.role.name), ("verdict", .string c.verdict.name),
      ("policies", .array (c.policies.map PolicyResult.toJson))])

namespace Report

/-- A report as a document; a time that has no standard text leaves none. -/
def toJson? (r : Report) : Option Json :=
  r.evaluatedAt.rfc3339?.map fun time =>
    .object [("evaluated_at", .string time), ("verdict", .string r.verdict.name),
      ("certificates", .array (r.certificates.map CertificateReport.toJson))]

/-- A report as indented JSON. -/
def jsonText (r : Report) : Except Failure String :=
  match r.toJson? with
  | some j => .ok j.indented
  | none => .error .json

/-- A report as YAML. -/
def yamlText (r : Report) : Except Failure String :=
  match r.toJson? with
  | some j => .ok (Yaml.write j)
  | none => .error .yaml

end Report
end CertAudit
