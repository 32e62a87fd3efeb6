/- What a command comes to: its output, its complaints and its status. -/
import CertAudit.Failure
namespace CertAudit

/-- The largest size of a file that is read, in bytes. -/
def maxInputSize : Nat := 10 * 1024 * 1024

/-- Why a command cannot go on. -/
inductive CommandFault
  | missing (path : String)
  | unreadable (path : String)
  | tooLarge (path : String) (size : Nat)
  | spanNumber
  | span (text : String)
  | timeRange
  | policies (path : String) (failure : Failure)
  | noPolicies
  | list (path : String) (failure : Failure)
  | response (path : String) (failure : Failure)
  | certificates (label : String) (failure : Failure)
  | noCertificateFiles
  | failure (failure : Failure)
deriving Repr, DecidableEq

/-- The words for a fault of a command. -/
def CommandFault.message : CommandFault → String
  | .missing path => "Failed to stat file: " ++ path ++ ": " ++ someDetail
  | .unreadable path => "Failed to read file: " ++ path ++ ": " ++ someDetail
  | .tooLarge path size =>
    "File too large (" ++ Nat.repr size ++ " bytes, max " ++ Nat.repr maxInputSize ++ " bytes): " ++
      path
  | .spanNumber => "Invalid duration value: " ++ someDetail
  | .span text => "Invalid duration: '" ++ text ++ "': " ++ someDetail
  | .timeRange => "Evaluation time out of range"
  | .policies path f => "Failed to load policies: " ++ path ++ ": " ++ f.message
  | .noPolicies => "No policies found"
  | .list path f => "Failed to parse CRL: " ++ path ++ ": " ++ f.message
  | .response path f => "Failed to parse OCSP response: " ++ path ++ ": " ++ f.message
  | .certificates label f => "Failed to parse certificates: " ++ label ++ ": " ++ f.message
  | .noCertificateFiles => "No certificate files found"
  | .failure f => f.message

/-- A complaint: the command cannot go on, a file counts as failed, or its report cannot be
written. -/
inductive Complaint
  | stopped (fault : CommandFault)
  | failed (path : String) (fault : CommandFault)
  | unwritten (path : String) (fault : CommandFault)
deriving Repr, DecidableEq

/-- The line of a complaint. -/
def Complaint.line : Complaint → String
  | .stopped fault => "Error: " ++ fault.message
  | .failed path fault => path ++ ": FAIL (" ++ fault.message ++ ")"
  | .unwritten path fault => path ++ ": " ++ fault.message

/-- How a command ends. -/
inductive ExitStatus
  | passed
  | failed
  | stopped
deriving Repr, DecidableEq

/-- The number of a status. -/
def ExitStatus.code : ExitStatus → Nat
  | .passed => 0
  | .failed => 1
  | .stopped => 2

/-- The status of something that may have failed. -/
def ExitStatus.ofFailed (failed : Bool) : ExitStatus := if failed then .failed else .passed

/-- What a command comes to. -/
structure Outcome where
  output : String := ""
  complaints : List Complaint := []
  status : ExitStatus := .passed
deriving Repr, DecidableEq

/-- A command that cannot go on. -/
def Outcome.ofFault (fault : CommandFault) : Outcome :=
  { complaints := [.stopped fault], status := .stopped }

end CertAudit
