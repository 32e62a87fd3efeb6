/- What an audit is judged by, and what keeps it from being read. -/
import CertAudit.Command.Run
import CertAudit.Proofs.Attempt
namespace CertAudit.Command

/-- A file that is not too large is read as something. -/
inductive ReadAs {α : Type} (read : Bytes → Except Failure α) : Option FileTree → α → Prop
  | file {content : Bytes} {x : α} (size : content.length ≤ maxInputSize)
      (h : read content = .ok x) : ReadAs read (some (.file content)) x

/-- Why nothing is read at a path. -/
inductive Unread {α : Type} (read : Bytes → Except Failure α) : Option FileTree → Prop
  | missing : Unread read none
  | directory (entries : List (String × FileTree)) : Unread read (some (.directory entries))
  | tooLarge {content : Bytes} (h : maxInputSize < content.length) :
      Unread read (some (.file content))
  | refused {content : Bytes} {fault : Failure} (h : read content = .error fault) :
      Unread read (some (.file content))

def PoliciesAt (around : Surroundings) (paths : List String) (policies : List Policy) : Prop :=
  Gathers (fun path part => Policy.ofPath path (around.find path) = .ok part) paths policies

/-- A standard is what a request tells: the time, policies of which there is one at least, revocation
lists and status responses, all of them read. -/
structure Standard.IsRead (around : Surroundings) (r : AuditRequest) (s : Standard) : Prop where
  time : timeOf around.now r = .ok s.atTime
  policies : PoliciesAt around r.policies s.policies
  some_policy : s.policies ≠ []
  lists : Gathers (fun path part => ReadAs RevocationList.ofBytes (around.find path) part) r.lists
    s.lists
  responses : List.Forall₂ (fun path x => ReadAs StatusResponse.ofBytes (around.find path) x)
    r.responses s.responses

/-- Why a request tells no standard. -/
inductive Hindered (around : Surroundings) (r : AuditRequest) : Prop
  | time {fault : CommandFault} (h : timeOf around.now r = .error fault)
  | policies {path : String} {fault : Failure} (hpath : path ∈ r.policies)
      (h : Policy.ofPath path (around.find path) = .error fault)
  | noPolicies (h : PoliciesAt around r.policies [])
  | list {path : String} (hpath : path ∈ r.lists)
      (h : Unread RevocationList.ofBytes (around.find path))
  | response {path : String} (hpath : path ∈ r.responses)
      (h : Unread StatusResponse.ofBytes (around.find path))

section Files

variable {α : Type} {read : Bytes → Except Failure α} {t : Option FileTree} {x : α}
  {path : String} {content : Bytes}

theorem within_eq_ok_iff {fault : Failure → CommandFault} {attempt : Except Failure α} :
    Attempt.within fault attempt = .ok x ↔ attempt = .ok x := by
  cases attempt with
  | error f => simp [Attempt.within]
  | ok y => simp [Attempt.within]

theorem readFile_eq_ok_iff :
    readFile path t = .ok content ↔
      t = some (.file content) ∧ content.length ≤ maxInputSize := by
  unfold readFile
  split
  · simp
  · simp
  · rename_i found
    split
    · rename_i hlarge
      simp only [reduceCtorEq, Option.some.injEq, FileTree.file.injEq, false_iff]
      rintro ⟨rfl, hsize⟩
      omega
    · rename_i hsmall
      simp only [Except.ok.injEq, Option.some.injEq, FileTree.file.injEq]
      constructor
      · rintro rfl
        exact ⟨rfl, Nat.not_lt.mp hsmall⟩
      · exact And.left

theorem readAs_iff :
    ReadAs read t x ↔ ∃ content, readFile path t = .ok content ∧ read content = .ok x := by
  simp only [readFile_eq_ok_iff]
  constructor
  · rintro ⟨hsize, hread⟩
    exact ⟨_, ⟨rfl, hsize⟩, hread⟩
  · rintro ⟨content, ⟨rfl, hsize⟩, hread⟩
    exact .file hsize hread

theorem unread_iff : Unread read t ↔ ¬ ∃ x, ReadAs read t x := by
  constructor
  · rintro h ⟨x, hsize, hread⟩
    cases h with
    | tooLarge hlarge => omega
    | refused hrefused =>
      rw [hread] at hrefused
      cases hrefused
  · intro hnone
    match t with
    | none => exact .missing
    | some (.directory entries) => exact .directory entries
    | some (.file content) =>
      rcases Nat.lt_or_ge maxInputSize content.length with hlarge | hsize
      · exact .tooLarge hlarge
      · cases hread : read content with
        | error fault => exact .refused hread
        | ok x => exact absurd ⟨x, .file hsize hread⟩ hnone

end Files

section Standard

variable {around : Surroundings} {r : AuditRequest} {s : Standard} {paths : List String}

theorem loadPolicies_eq_ok_iff {policies : List Policy} :
    loadPolicies around paths = .ok policies ↔ PoliciesAt around paths policies ∧ policies ≠ [] := by
  simp only [loadPolicies, bind_eq_ok_iff, mapM_eq_ok_iff, within_eq_ok_iff, PoliciesAt, Gathers]
  constructor
  · rintro ⟨parts, hparts, hjoined⟩
    split at hjoined
    · cases hjoined
    · rename_i hsome
      cases hjoined
      exact ⟨⟨parts, hparts, rfl⟩, mt List.isEmpty_iff.mpr hsome⟩
  · rintro ⟨⟨parts, hparts, rfl⟩, hsome⟩
    exact ⟨parts, hparts, if_neg (mt List.isEmpty_iff.mp hsome)⟩

theorem loadLists_eq_ok_iff {lists : List RevocationList} :
    loadLists around paths = .ok lists ↔
      Gathers (fun path part => ReadAs RevocationList.ofBytes (around.find path) part) paths
        lists := by
  simp only [loadLists, bind_eq_ok_iff, mapM_eq_ok_iff, within_eq_ok_iff, ← readAs_iff, Gathers,
    Except.ok.injEq]

theorem loadResponses_eq_ok_iff {responses : List StatusResponse} :
    loadResponses around paths = .ok responses ↔
      List.Forall₂ (fun path x => ReadAs StatusResponse.ofBytes (around.find path) x) paths
        responses := by
  simp only [loadResponses, bind_eq_ok_iff, mapM_eq_ok_iff, within_eq_ok_iff, ← readAs_iff]

theorem standardOf_eq_ok_iff : standardOf around r = .ok s ↔ s.IsRead around r := by
  simp only [standardOf, bind_eq_ok_iff, loadPolicies_eq_ok_iff, loadLists_eq_ok_iff,
    loadResponses_eq_ok_iff, pure, Except.pure, Except.ok.injEq]
  constructor
  · rintro ⟨time, htime, policies, ⟨hpolicies, hsome⟩, lists, hlists, responses, hresponses, rfl⟩
    exact ⟨htime, hpolicies, hsome, hlists, hresponses⟩
  · intro h
    exact ⟨_, h.time, _, ⟨h.policies, h.some_policy⟩, _, h.lists, _, h.responses, rfl⟩

theorem Standard.IsRead.unique {s' : Standard} (h : s.IsRead around r) (h' : s'.IsRead around r) :
    s = s' :=
  Except.ok.inj ((standardOf_eq_ok_iff.mpr h).symm.trans (standardOf_eq_ok_iff.mpr h'))

theorem isRead_batch_iff (batch : Bool) :
    s.IsRead around { r with batch } ↔ s.IsRead around r := by
  constructor
  · intro h
    exact ⟨h.time, h.policies, h.some_policy, h.lists, h.responses⟩
  · intro h
    exact ⟨h.time, h.policies, h.some_policy, h.lists, h.responses⟩

theorem PoliciesAt.unique {policies policies' : List Policy}
    (h : PoliciesAt around paths policies) (h' : PoliciesAt around paths policies') :
    policies = policies' := by
  refine Gathers.unique ?_ h h'
  intro path part part' hpart hpart'
  exact Except.ok.inj (hpart.symm.trans hpart')

theorem hindered_iff : Hindered around r ↔ ¬ ∃ s : Standard, s.IsRead around r := by
  constructor
  · rintro h ⟨s, hs⟩
    cases h with
    | time h => exact absurd (h.symm.trans hs.time) (by simp)
    | policies hpath h =>
      obtain ⟨part, hpart⟩ := exists_gathers_iff.mp ⟨_, hs.policies⟩ _ hpath
      exact absurd (h.symm.trans hpart) (by simp)
    | noPolicies h => exact hs.some_policy (hs.policies.unique h)
    | list hpath h => exact unread_iff.mp h (exists_gathers_iff.mp ⟨_, hs.lists⟩ _ hpath)
    | response hpath h => exact unread_iff.mp h (exists_forall₂_iff.mp ⟨_, hs.responses⟩ _ hpath)
  · intro hnone
    by_contra hfree
    have htime : ∃ time, timeOf around.now r = .ok time := by
      cases h : timeOf around.now r with
      | error fault => exact absurd (.time h) hfree
      | ok time => exact ⟨time, rfl⟩
    have hpolicies : ∃ policies, PoliciesAt around r.policies policies := by
      refine exists_gathers_iff.mpr fun path hpath => ?_
      cases h : Policy.ofPath path (around.find path) with
      | error fault => exact absurd (.policies hpath h) hfree
      | ok part => exact ⟨part, rfl⟩
    have hlists : ∃ lists, Gathers (fun path part =>
        ReadAs RevocationList.ofBytes (around.find path) part) r.lists lists :=
      exists_gathers_iff.mpr fun path hpath =>
        by_contra fun h => hfree (.list hpath (unread_iff.mpr h))
    have hresponses : ∃ responses, List.Forall₂ (fun path x =>
        ReadAs StatusResponse.ofBytes (around.find path) x) r.responses responses :=
      exists_forall₂_iff.mpr fun path hpath =>
        by_contra fun h => hfree (.response hpath (unread_iff.mpr h))
    obtain ⟨time, htime⟩ := htime
    obtain ⟨policies, hpolicies⟩ := hpolicies
    obtain ⟨lists, hlists⟩ := hlists
    obtain ⟨responses, hresponses⟩ := hresponses
    have hsome : policies ≠ [] := by
      rintro rfl
      exact hfree (.noPolicies hpolicies)
    exact hnone ⟨{ atTime := time, policies, lists, responses },
      htime, hpolicies, hsome, hlists, hresponses⟩

end Standard
end CertAudit.Command
