/- Running commands on given files, a given standard input and a given time. -/
import CertAudit.Command.Outcome
import CertAudit.Command.Request
import CertAudit.Policy.Files
import CertAudit.Report.Document
import CertAudit.Report.Text
import CertAudit.Time.Duration
namespace CertAudit

/-- What a command finds: what stands at each path, the standard input, and the present time. -/
structure Surroundings where
  find : String → Option FileTree
  input : Bytes
  now : Timestamp

/-- What a step of a command comes to. -/
abbrev Attempt := Except CommandFault

/-- Gives a failure the words around it. -/
def Attempt.within {α : Type} (fault : Failure → CommandFault) : Except Failure α → Attempt α
  | .ok x => .ok x
  | .error f => .error (fault f)

namespace Command

/-- The content of the file at a path, if it is not too large. -/
def readFile (path : String) : Option FileTree → Attempt Bytes
  | none => .error (.missing path)
  | some (.directory _) => .error (.unreadable path)
  | some (.file content) =>
    if content.length > maxInputSize then .error (.tooLarge path content.length) else .ok content

/-- The standard input, up to the largest size. -/
def readInput (around : Surroundings) : Bytes := around.input.take maxInputSize

/-- The seconds of a span of time. -/
def spanSeconds (text : String) : Attempt Nat :=
  if text.toList.all Literal.isDigit then
    match Literal.natIn? 10 text.toList with
    | some n => if n < UInt64.size then .ok n else .error .spanNumber
    | none => .error .spanNumber
  else
    match Duration.ofUnits? text with
    | some n => .ok n
    | none => .error (.span text)

/-- The time an audit is to judge at, if it is not the present. -/
def timeOf (now : Timestamp) (r : AuditRequest) : Attempt (Option Int) :=
  match r.atTime, r.span with
  | some t, _ => .ok (some t)
  | none, none => .ok none
  | none, some text => do
    let t := now.seconds + (← spanSeconds text)
    if t ≤ Int64.maxValue.toInt then .ok (some t) else .error .timeRange

/-- The policies at paths; there must be one at least. -/
def loadPolicies (around : Surroundings) (paths : List String) : Attempt (List Policy) := do
  let policies ← paths.mapM fun path =>
    Attempt.within (.policies path) (Policy.ofPath path (around.find path))
  if policies.flatten.isEmpty then .error .noPolicies else .ok policies.flatten

/-- The revocation lists at paths. -/
def loadLists (around : Surroundings) (paths : List String) : Attempt (List RevocationList) := do
  let lists ← paths.mapM fun path => do
    let content ← readFile path (around.find path)
    Attempt.within (.list path) (RevocationList.ofBytes content)
  .ok lists.flatten

/-- The status responses at paths. -/
def loadResponses (around : Surroundings) (paths : List String) : Attempt (List StatusResponse) :=
  paths.mapM fun path => do
    let content ← readFile path (around.find path)
    Attempt.within (.response path) (StatusResponse.ofBytes content)

/-- The extensions of certificate files. -/
def certificateExtensions : List String := ["pem", "der", "crt", "cer"]

/-- The files that a path stands for: those with certificates in it if it is a directory. -/
def expand (around : Surroundings) (recurse : Bool) (path : String) :
    List (String × Option FileTree) :=
  match around.find path with
  | some (.directory entries) =>
    let t := FileTree.directory entries
    let found := t.files path (FileTree.lastName path) (if recurse then t.depth else 1)
    (found.filter fun f => FileTree.hasExtension certificateExtensions f.name).map
      fun f => (f.path, some (.file f.content))
  | t => [(path, t)]

/-- The certificates of a file. -/
def loadCertificates (file : String × Option FileTree) : Attempt (List ChainEntry) := do
  let content ← readFile file.1 file.2
  let certificates ← Attempt.within (.certificates file.1) (Certificate.bundle content)
  .ok (certificates.map fun c => { certificate := c, file := some file.1 })

/-- The certificates of the standard input. -/
def inputCertificates (around : Surroundings) : Attempt (List ChainEntry) := do
  let certificates ← Attempt.within (.certificates "<stdin>")
    (Certificate.bundle (readInput around))
  .ok (certificates.map fun c => { certificate := c, file := none })

/-- What the certificates of an audit are judged by. -/
structure Standard where
  atTime : Option Int
  policies : List Policy
  lists : List RevocationList
  responses : List StatusResponse

/-- The standard that a request tells. -/
def standardOf (around : Surroundings) (r : AuditRequest) : Attempt Standard := do
  return { atTime := ← timeOf around.now r
           policies := ← loadPolicies around r.policies
           lists := ← loadLists around r.lists
           responses := ← loadResponses around r.responses }

/-- Judges certificates. -/
def judge (around : Surroundings) (r : AuditRequest) (s : Standard) (entries : List ChainEntry) :
    Attempt Report :=
  Attempt.within .failure
    (Audit.run { atTime := s.atTime, allowPartial := r.allowPartial } around.now entries s.policies
      s.lists s.responses)

/-- Writes a report in the wanted format. -/
def write (r : AuditRequest) (report : Report) : Attempt String :=
  match r.format.getD .text with
  | .text => .ok (report.text r.failuresOnly)
  | .json => Attempt.within .failure (report.jsonText.map (· ++ "\n"))
  | .yaml => Attempt.within .failure report.yamlText

/-- What one file of a batch adds to the output and the complaints, and whether it failed. -/
structure FileOutcome where
  output : String := ""
  complaint : Option Complaint := none
  failed : Bool
deriving Repr, DecidableEq

/-- The report of one file of a batch. Reports in text have a heading, and those without failures
are left out if only failures are wanted. A report that cannot be written does not fail for it. -/
def showFile (r : AuditRequest) (path : String) (report : Report) : FileOutcome :=
  if report.passed && r.failuresOnly then { failed := false }
  else
    match write r report with
    | .error fault => { complaint := some (.unwritten path fault), failed := !report.passed }
    | .ok text =>
      let heading := if r.format.getD .text = .text then "== " ++ path ++ " ==\n" else ""
      { output := heading ++ text, failed := !report.passed }

/-- Audits one file of a batch. -/
def auditFile (around : Surroundings) (r : AuditRequest) (s : Standard)
    (file : String × Option FileTree) : FileOutcome :=
  match loadCertificates file >>= judge around r s with
  | .error fault => { complaint := some (.failed file.1 fault), failed := true }
  | .ok report => showFile r file.1 report

/-- What the files of a batch come to together. -/
def batchOutcome (files : List FileOutcome) : Outcome :=
  { output := String.join (files.map FileOutcome.output)
    complaints := files.filterMap FileOutcome.complaint
    status := .ofFailed (files.any FileOutcome.failed) }

/-- Audits all certificates together. -/
def auditTogether (around : Surroundings) (r : AuditRequest) (s : Standard)
    (files : List (String × Option FileTree)) : Attempt Outcome := do
  let entries ←
    if r.inputs.isEmpty then inputCertificates around
    else if files.isEmpty then .error .noCertificateFiles
    else (files.mapM loadCertificates).map List.flatten
  let report ← judge around r s entries
  return { output := ← write r report, status := .ofFailed (!report.passed) }

/-- Audits as requested. -/
def runAudit (around : Surroundings) (r : AuditRequest) : Attempt Outcome := do
  let s ← standardOf around r
  let files := r.inputs.flatMap (expand around r.recurse)
  if r.batch then
    if files.isEmpty then .error .noCertificateFiles
    else .ok (batchOutcome (files.map (auditFile around r s)))
  else auditTogether around r s files

/-- Shows the tree of a certificate. -/
def runTree (around : Surroundings) (r : TreeRequest) : Attempt Outcome := do
  let content ← match r.file with
    | some path => readFile path (around.find path)
    | none => .ok (readInput around)
  let certificate ← Attempt.within .failure (Certificate.ofBytes content)
  let tree := certificate.tree
  return { output := if r.json then tree.toJson.indented ++ "\n" else tree.display }

/-- Lists the names of the operators. -/
def runOperators : Outcome := { output := String.join (Registry.full.names.map (· ++ "\n")) }

/-- What a command comes to. -/
def run (around : Surroundings) : Command → Outcome
  | .audit r => settle (runAudit around r)
  | .tree r => settle (runTree around r)
  | .operators => runOperators
where
  settle : Attempt Outcome → Outcome
    | .ok o => o
    | .error fault => .ofFault fault

/-- What words come to. Help is a success, misuse is not, and neither is a command. -/
def respond (around : Surroundings) (words : List String) : Outcome :=
  match ofWords words with
  | .ok command => run around command
  | .error .help => {}
  | .error .misuse => { status := .stopped }

end Command
end CertAudit
