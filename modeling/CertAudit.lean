import CertAudit.Certificate.Document
import CertAudit.Main
import CertAudit.Policy.Evaluator
import CertAudit.Revocation.Document
import CertAudit.Proofs.Certificate
import CertAudit.Proofs.PolicyGraph.Step
import CertAudit.Proofs.PolicyGraph.Threshold
import CertAudit.Proofs.PolicyGraph.Unmapped
import CertAudit.Proofs.Chain.Walk
import CertAudit.Proofs.Chain.Placement
import CertAudit.Proofs.Chain.Assembly
import CertAudit.Proofs.NameConstraints.Matching
import CertAudit.Proofs.NameConstraints.Admission
import CertAudit.Proofs.NameConstraints.Folding
import CertAudit.Proofs.Context
import CertAudit.Proofs.NameConstraints.Verdict
import CertAudit.Proofs.Bytes.Utf8
import CertAudit.Proofs.NameConstraints.Labels
import CertAudit.Proofs.NameConstraints.UriHost
import CertAudit.Proofs.NameConstraints.Hostless
import CertAudit.Proofs.Policy.Verdict
import CertAudit.Proofs.Audit.Verdict
import CertAudit.Proofs.Bytes
import CertAudit.Proofs.Certificate.Reading
import CertAudit.Proofs.PolicyGraph.Inhibited
import CertAudit.Proofs.Revocation.Coverage
import CertAudit.Proofs.Table
import CertAudit.Proofs.Tree
import CertAudit.Proofs.Certificate.Tree
import CertAudit.Proofs.PolicyGraph.Mapping
import CertAudit.Proofs.PolicyGraph.Rearranged
import CertAudit.Proofs.PolicyGraph.Emptied
import CertAudit.Proofs.Text.Armor
import CertAudit.Proofs.Text.Base64
import CertAudit.Proofs.Text.Armoring
import CertAudit.Proofs.Certificate.Trailing
import CertAudit.Proofs.Certificate.Source
import CertAudit.Proofs.Bundle
import CertAudit.Proofs.Certificate.Identified
import CertAudit.Proofs.Certificate.Views
import CertAudit.Proofs.PathLength.Budget
import CertAudit.Proofs.Der.Front
import CertAudit.Proofs.Revocation.Response.Reading
import CertAudit.Proofs.Bytes.Shortest
import CertAudit.Proofs.Time.Calendar
import CertAudit.Proofs.Time.Compact
import CertAudit.Proofs.Revocation.Response.Encoding
import CertAudit.Proofs.Revocation.Response.RoundTrip
import CertAudit.Proofs.Revocation.Response.Signed
import CertAudit.Proofs.Revocation.Response.Status
import CertAudit.Proofs.PathLength.Positions
import CertAudit.Proofs.Certificate.Names
import CertAudit.Proofs.Chain.Issuer
import CertAudit.Proofs.Chain.Renumbering
import CertAudit.Proofs.Audit.Partial
import CertAudit.Proofs.Chain.Upward
import CertAudit.Proofs.Tree.Addresses
import CertAudit.Proofs.Tree.Insertion
import CertAudit.Proofs.Tree.Frame
import CertAudit.Proofs.Certificate.Contents
import CertAudit.Proofs.Certificate.PolicyPaths
import CertAudit.Proofs.Certificate.Reordered
import CertAudit.Proofs.Oid
import CertAudit.Proofs.Name.Attribute
import CertAudit.Proofs.Name.Line
import CertAudit.Proofs.Name.Alike
import CertAudit.Proofs.Revocation.Answers
import CertAudit.Proofs.Revocation.Serial
import CertAudit.Proofs.Operator.Absent
import CertAudit.Proofs.PatternCache
import CertAudit.Proofs.Policy.Evaluator
import CertAudit.Proofs.PolicyGraph.Wildcard
import CertAudit.Proofs.PolicyGraph.Remapped
import CertAudit.Proofs.Attempt
import CertAudit.Proofs.Command.Standard
import CertAudit.Proofs.Command.Reports
import CertAudit.Proofs.Command.Status
import CertAudit.Proofs.Command.Batch
import CertAudit.Proofs.Bytes.Bits
import CertAudit.Proofs.NameConstraints.Netmask
import CertAudit.Proofs.NameConstraints.Network
import CertAudit.Proofs.Number.Digits
import CertAudit.Proofs.Certificate.SerialNumber
import CertAudit.Proofs.Text.Hex
import CertAudit.Proofs.Number.Binary64
import CertAudit.Proofs.Operator.Equality
import CertAudit.Proofs.Certificate.HexSpellings
import CertAudit.Proofs.Number.Rounding
import CertAudit.Proofs.Operator.Comparison
import CertAudit.Proofs.Revocation.Response.Text
import CertAudit.Proofs.Time.Written
import CertAudit.Proofs.Revocation.Response.Time
import CertAudit.Proofs.Report.Entries
import CertAudit.Proofs.Tree.Lines
import CertAudit.Proofs.Certificate.Keys
import CertAudit.Proofs.Certificate.Lines
import CertAudit.Proofs.Chain.Rebuilding
import CertAudit.Proofs.Policy.Documents
import CertAudit.Proofs.Json.Spelling
import CertAudit.Proofs.Value.RoundTrip
import CertAudit.Proofs.Command.Input
import CertAudit.Proofs.Bytes.BitLength
import CertAudit.Proofs.Der.Encoding
import CertAudit.Proofs.Certificate.KeySize
