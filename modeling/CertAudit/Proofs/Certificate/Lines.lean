/- The lines of a certificate that is shown as a tree. Each node has a line with its path in front,
but the values come from the certificate and may go on over lines that are no node's. -/
import CertAudit.Proofs.Certificate.Keys
import CertAudit.Proofs.Certificate.SerialNumber
import Mathlib
namespace CertAudit.Certificate

open CertificateTree
open Node (IsOver isPathChar textLines entryLines pathPart feeds)

variable {c : Certificate} {e : String × Node}

theorem of_mem_walk_tree {Q : String → Prop} (h : c.IsRead) (hroot : Q rootKey)
    (hstep : ∀ path key, Q path → IsOver isPathChar key → Q (Node.childPath path key))
    (he : e ∈ c.tree.walk) : Q e.1 := by
  rcases mem_walk_tree.mp he with rfl | he
  · exact hroot
  · have hnode : (certificateNode c).Keyed (IsOver isPathChar) :=
      h.tree_keyed.of_mem (rootKey, certificateNode c) (tree_eq c ▸ List.mem_cons_self)
    exact hnode.of_mem_walkFrom hstep hroot he

theorem IsRead.path_ne_empty (h : c.IsRead) (he : e ∈ c.tree.walk) : e.1 ≠ "" :=
  of_mem_walk_tree (Q := (· ≠ "")) h (by decide)
    (fun _ key hpath _ => Node.childPath_ne_empty hpath key) he

theorem IsRead.path_isOver (h : c.IsRead) (he : e ∈ c.tree.walk) : IsOver isPathChar e.1 :=
  of_mem_walk_tree h (by decide) (fun _ _ => Node.isOver_childPath (by decide)) he

/-- The text of a tree is the lines of its nodes, one node after another. The first line of a node
has the path of the node in front of the first ` = `, if there is one, and the node has as many
lines more as its value has line feeds: there is one line for each node just where no value has any.
The paths lead to their nodes, but for those that are cut, which do not. -/
theorem tree_display_lines {bs : Bytes} (h : ofBytes bs = .ok c) :
    textLines c.tree.display = c.tree.walk.flatMap entryLines ∧
    (∀ e ∈ c.tree.walk, ∃ first more, entryLines e = first :: more ∧ pathPart first = e.1 ∧
      more.length = feeds e.2.shown) ∧
    ((textLines c.tree.display).length = c.tree.walk.length ↔
      ∀ e ∈ c.tree.walk, feeds e.2.shown = 0) ∧
    ∀ e ∈ c.tree.walk, c.tree.resolve? e.1 = some e.2 ↔ ¬c.CutPath e.1 := by
  have hread := IsRead.of_ofBytes h
  have hpaths : ∀ e ∈ c.tree.walk, e.1 ≠ "" := fun _ => hread.path_ne_empty
  have hkeys : ∀ e ∈ c.tree.walk, IsOver isPathChar e.1 := fun _ => hread.path_isOver
  refine ⟨Node.textLines_display hpaths, ?_, Node.length_textLines_display_iff hpaths hkeys, ?_⟩
  · intro e he
    exact Node.exists_entryLines (hkeys e he)
  · intro e he
    constructor
    · intro hresolve hcut
      rw [hcut.resolve?_eq_none.2] at hresolve
      cases hresolve
    · exact resolve?_of_mem_walk he

/-- A subject whose common name goes on with a line for the version. -/
def forgedVersion : Certificate :=
  .short 1 (.single [0x55, 4, 3] 0x0c "CA") (.single [0x55, 4, 3] 0x0c "a\ncertificate.version = 3")

theorem forgedVersion_read : ofBytes forgedVersion.encoding = .ok forgedVersion := by cbv

theorem tree_display_lines_forgedVersion :
    ofBytes forgedVersion.encoding = .ok forgedVersion ∧
      textLines forgedVersion.tree.display = forgedVersion.tree.walk.flatMap entryLines ∧
      (∀ e ∈ forgedVersion.tree.walk, ∃ first more, entryLines e = first :: more ∧
        pathPart first = e.1 ∧ more.length = feeds e.2.shown) ∧
      ((textLines forgedVersion.tree.display).length = forgedVersion.tree.walk.length ↔
        ∀ e ∈ forgedVersion.tree.walk, feeds e.2.shown = 0) ∧
      ∀ e ∈ forgedVersion.tree.walk,
        forgedVersion.tree.resolve? e.1 = some e.2 ↔ ¬forgedVersion.CutPath e.1 :=
  ⟨forgedVersion_read, tree_display_lines forgedVersion_read⟩

def forgedName : String × Node :=
  ("certificate.subject.CN", .leaf "CN" (.string "a\ncertificate.version = 3"))

theorem forgedName_mem : forgedName ∈ forgedVersion.tree.walk := by
  have hsubject : ("subject", nameNode "subject" forgedVersion.subject) ∈
      (certificateNode forgedVersion).children :=
    Node.mem_of_child? (child?_certificateNode (List.mem_cons_of_mem _ List.mem_cons_self))
  have hname : (nameNode "subject" forgedVersion.subject).children = [("CN", forgedName.2)] := by
    rfl
  refine mem_walk_tree.mpr (.inr (Node.mem_walkFrom.mpr ⟨_, hsubject, .inr ?_⟩))
  exact Node.mem_walkFrom.mpr ⟨("CN", forgedName.2), hname ▸ List.mem_cons_self, .inl rfl⟩

/-- A certificate of the first version has a line that tells of the third, and more lines than its
tree has nodes. -/
theorem tree_display_forgedVersion :
    ofBytes forgedVersion.encoding = .ok forgedVersion ∧
      "certificate.version = 3" ∈ textLines forgedVersion.tree.display ∧
      forgedVersion.tree.resolve? "certificate.version" = some (.leaf "version" (Value.ofNat 1)) ∧
      (textLines forgedVersion.tree.display).length ≠ forgedVersion.tree.walk.length := by
  have hread := IsRead.of_ofBytes forgedVersion_read
  have hpaths : ∀ e ∈ forgedVersion.tree.walk, e.1 ≠ "" := fun _ => hread.path_ne_empty
  have hkeys : ∀ e ∈ forgedVersion.tree.walk, IsOver isPathChar e.1 := fun _ => hread.path_isOver
  refine ⟨forgedVersion_read, ?_, ?_, ?_⟩
  · rw [Node.textLines_display hpaths]
    have hline : "certificate.version = 3" ∈ entryLines forgedName := by decide +kernel
    exact List.mem_flatMap.mpr ⟨forgedName, forgedName_mem, hline⟩
  · have hpath : Node.childPath rootKey "version" = "certificate.version" := by decide
    rw [← hpath, resolve?_viewPath (by decide),
      child?_certificateNode_of_field (by decide) (by decide)]
    simp [fieldNodes, keyNode, forgedVersion, Certificate.short]
  · rw [Ne, Node.length_textLines_display_iff hpaths hkeys]
    intro hnone
    exact absurd (hnone forgedName forgedName_mem) (by decide +kernel)

end CertAudit.Certificate
