/- The largest size of an input. A file that is larger is refused. The standard input is cut there, and
no command can tell. -/
import CertAudit.Proofs.Command.Standard
import Mathlib.Data.List.TakeDrop
namespace CertAudit

/-- The surroundings with the standard input cut at the largest size. -/
def Surroundings.cut (around : Surroundings) : Surroundings :=
  { around with input := around.input.take maxInputSize }

namespace Command

/-- What a command reads: a file, given by its path and what stands there, or the standard input. -/
def readFrom (around : Surroundings) : Option (String × Option FileTree) → Attempt Bytes
  | some (path, t) => readFile path t
  | none => .ok (readInput around)

variable {around : Surroundings}

/-- The certificates of a file are those in what is read from it. -/
theorem loadCertificates_eq (file : String × Option FileTree) :
    loadCertificates file = (readFrom around (some file) >>= fun content =>
      (Attempt.within (.certificates file.1) (Certificate.bundle content)).map fun certificates =>
        certificates.map fun c => { certificate := c, file := some file.1 }) := rfl

theorem inputCertificates_eq :
    inputCertificates around = (readFrom around none >>= fun content =>
      (Attempt.within (.certificates "<stdin>") (Certificate.bundle content)).map fun certificates =>
        certificates.map fun c => { certificate := c, file := none }) := rfl

theorem runTree_eq (r : TreeRequest) :
    runTree around r =
      (readFrom around (r.file.map fun path => (path, around.find path)) >>= fun content =>
        (Attempt.within .failure (Certificate.ofBytes content)).map fun certificate =>
          { output := if r.json then certificate.tree.toJson.indented ++ "\n"
              else certificate.tree.display }) := by
  cases h : r.file with
  | none => simp only [runTree, h]; rfl
  | some path => simp only [runTree, h]; rfl

theorem readFile_eq_tooLarge_iff {path : String} {t : Option FileTree} {size : Nat} :
    readFile path t = .error (.tooLarge path size) ↔
      ∃ content, t = some (.file content) ∧ content.length = size ∧ maxInputSize < size := by
  unfold readFile
  split
  · simp
  · simp
  · rename_i found
    split
    · rename_i hlarge
      simp only [Except.error.injEq, CommandFault.tooLarge.injEq, true_and, Option.some.injEq,
        FileTree.file.injEq, exists_eq_left']
      constructor
      · rintro rfl
        exact ⟨rfl, hlarge⟩
      · exact And.left
    · rename_i hsmall
      simp only [reduceCtorEq, Option.some.injEq, FileTree.file.injEq, exists_eq_left', false_iff]
      rintro ⟨rfl, hlarge⟩
      exact hsmall hlarge

theorem readFrom_none (around : Surroundings) :
    readFrom around none = .ok (around.input.take maxInputSize) := rfl

theorem readFrom_cut (source : Option (String × Option FileTree)) :
    readFrom around.cut source = readFrom around source := by
  cases source with
  | some file => rfl
  | none => rw [readFrom_none, readFrom_none, Surroundings.cut, List.take_take, Nat.min_self]

theorem runAudit_cut (r : AuditRequest) : runAudit around.cut r = runAudit around r := by
  have htogether : ∀ s files, auditTogether around.cut r s files = auditTogether around r s files := by
    intro s files
    rw [auditTogether, auditTogether, inputCertificates_eq, inputCertificates_eq, readFrom_cut]
    rfl
  rw [runAudit, runAudit]
  simp only [htogether]
  rfl

theorem runTree_cut (r : TreeRequest) : runTree around.cut r = runTree around r := by
  rw [runTree_eq, runTree_eq, readFrom_cut]
  rfl

theorem respond_cut (words : List String) : respond around.cut words = respond around words := by
  rw [respond, respond]
  split
  · rename_i command _
    cases command with
    | audit r => rw [run, run, runAudit_cut]
    | tree r => rw [run, run, runTree_cut]
    | operators => rfl
  · rfl
  · rfl

/-- A file is read whole if it is not larger than the largest size, and refused with its size if it is.
The standard input is never refused: the first bytes of it are read, which are the whole of it only if it
is not larger, and no command can tell the rest. -/
theorem readFrom_limit (around : Surroundings) :
    (∀ path t content, readFrom around (some (path, t)) = .ok content ↔
        t = some (.file content) ∧ content.length ≤ maxInputSize) ∧
      (∀ path t size, readFrom around (some (path, t)) = .error (.tooLarge path size) ↔
        ∃ content, t = some (.file content) ∧ content.length = size ∧ maxInputSize < size) ∧
      readFrom around none = .ok (around.input.take maxInputSize) ∧
      (readFrom around none = .ok around.input ↔ around.input.length ≤ maxInputSize) ∧
      ∀ words, respond around.cut words = respond around words := by
  refine ⟨fun path t content => readFile_eq_ok_iff, fun path t size => readFile_eq_tooLarge_iff,
    readFrom_none around, ?_, respond_cut⟩
  rw [readFrom_none, Except.ok.injEq, List.take_eq_self_iff]

/-- One byte more than is read. -/
def oversized : Bytes := List.replicate (maxInputSize + 1) 0x20

/-- The same bytes in a file and on the standard input. -/
def oversizedInput : Surroundings where
  find _ := some (.file oversized)
  input := oversized
  now := { seconds := 1767225600 }

theorem length_oversized : oversized.length = maxInputSize + 1 := List.length_replicate

/-- The file is refused, and the same bytes are read from the standard input without the last one. -/
theorem readFrom_oversized :
    readFrom oversizedInput (some ("bundle.pem", oversizedInput.find "bundle.pem")) =
        .error (.tooLarge "bundle.pem" (maxInputSize + 1)) ∧
      readFrom oversizedInput none = .ok (List.replicate maxInputSize 0x20) ∧
      ¬ (readFrom oversizedInput none = .ok oversizedInput.input ∨
        ∃ fault, readFrom oversizedInput none = .error fault) := by
  have hread : readFrom oversizedInput none = .ok (List.replicate maxInputSize 0x20) := by
    rw [readFrom_none, oversizedInput, oversized, List.take_replicate,
      Nat.min_eq_left (Nat.le_add_right maxInputSize 1)]
  refine ⟨?_, hread, ?_⟩
  · rw [readFrom, readFile_eq_tooLarge_iff]
    exact ⟨oversized, rfl, length_oversized, Nat.lt_add_one maxInputSize⟩
  rw [hread]
  rintro (hwhole | ⟨fault, hfault⟩)
  · have hsame : List.replicate maxInputSize 0x20 = oversized := Except.ok.inj hwhole
    have hlength : maxInputSize = maxInputSize + 1 := by
      rw [← length_oversized, ← hsame, List.length_replicate]
    exact absurd hlength (Nat.ne_of_lt (Nat.lt_add_one maxInputSize))
  · cases hfault

end Command
end CertAudit
