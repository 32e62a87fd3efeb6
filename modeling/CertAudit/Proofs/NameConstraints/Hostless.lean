/- Names without a host: which URIs have none, and which exclusions do not reach them. -/
import CertAudit.Proofs.NameConstraints.UriHost
namespace CertAudit.NameConstraints

variable {ctx : Context} {p : Nat} {e : ChainEntry} {cs : List Char} {name : AltName}
  {s all : NameSubtree} {permitted excluded : List NameSubtree}

/-- What follows the first colon. -/
def afterColon (cs : List Char) : List Char := (cs.dropWhile (· != ':')).drop 1

/-- No `//` follows the scheme and its colon. -/
def LacksAuthority (cs : List Char) : Prop := ¬ ['/', '/'] <+: afterColon cs

instance : Decidable (LacksAuthority cs) :=
  inferInstanceAs (Decidable (¬ ['/', '/'] <+: afterColon cs))

theorem afterColon_cons (c : Char) (cs : List Char) :
    afterColon (c :: cs) = if c = ':' then cs else afterColon cs := by
  by_cases hc : c = ':'
  · subst hc
    rfl
  · have hskip : (c != ':') = true := bne_iff_ne.mpr hc
    rw [if_neg hc, afterColon, List.dropWhile_cons, if_pos hskip]
    rfl

/-- The scheme is skipped, and `://` is looked for in all that follows its colon. -/
theorem afterScheme?_of_lacksAuthority (h : LacksAuthority cs) :
    afterScheme? cs = afterScheme? (afterColon cs) := by
  induction cs with
  | nil => rfl
  | cons c cs ih =>
    rw [LacksAuthority, afterColon_cons] at h
    rw [afterScheme?_cons, afterColon_cons]
    by_cases hc : c = ':'
    · rw [if_pos hc] at h ⊢
      refine if_neg fun hslashes => h ?_
      rw [List.prefix_iff_eq_take]
      exact hslashes.2.symm
    · rw [if_neg hc] at h ⊢
      rw [if_neg fun hcolon => hc hcolon.1]
      exact ih h

theorem infix_of_afterScheme? {rest : List Char} (h : afterScheme? cs = some rest) :
    [':', '/', '/'] <:+: cs := by
  induction cs with
  | nil => cases h
  | cons c cs ih =>
    rw [afterScheme?_cons] at h
    split at h
    · rename_i hscheme
      obtain ⟨behind, rfl⟩ := take_two_eq_iff.mp hscheme.2
      exact ⟨[], behind, by rw [hscheme.1]; rfl⟩
    · exact (ih h).trans (List.infix_cons (List.infix_refl cs))

theorem uriHost?_eq_some_iff {text : String} {host : List Char} :
    uriHost? text = some host ↔ ∃ rest, afterScheme? text.toList = some rest ∧
      hostAfterScheme rest ≠ [] ∧ lower (hostAfterScheme rest) = host := by
  rw [uriHost?_eq, Option.bind_eq_some_iff]
  refine exists_congr fun rest => and_congr_right fun _ => ?_
  cases hostAfterScheme rest <;> simp

theorem within_uri_iff {text : String} :
    Within (.uri text) s ↔ ∃ host domain, s = .uri domain ∧ uriHost? text = some host ∧
      HostWithin host (lowered domain) := by
  cases s <;> simp [Within]

/-- A URI without an authority can only pass for the sake of what follows a later `://`. -/
theorem exists_permitted_host (h : ctx.Placed p e) {text domain : String}
    (hname : .uri text ∈ e.certificate.altNames) (hlacks : LacksAuthority text.toList)
    (hpermitted : .uri domain ∈ imposedAbove NameConstraints.permitted ctx.chain p)
    (hjudge : judge ctx = true) :
    ∃ rest within, afterScheme? (afterColon text.toList) = some rest ∧
      hostAfterScheme rest ≠ [] ∧
      .uri within ∈ imposedAbove NameConstraints.permitted ctx.chain p ∧
      HostWithin (lower (hostAfterScheme rest)) (lowered within) := by
  obtain ⟨-, hadmitted⟩ := (judge_eq_true_iff h).mp hjudge
  obtain ⟨-, hrequired⟩ := hadmitted _ hname
  obtain ⟨s, hs, hin⟩ := hrequired ⟨_, hpermitted, trivial⟩
  obtain ⟨host, within, rfl, hhost, hin⟩ := within_uri_iff.mp hin
  obtain ⟨rest, hrest, hne, rfl⟩ := uriHost?_eq_some_iff.mp hhost
  rw [afterScheme?_of_lacksAuthority hlacks] at hrest
  exact ⟨rest, within, hrest, hne, hs, hin⟩

/-- Where URIs are permitted somewhere, one without an authority is refused, unless `://` comes up
behind its scheme and what follows that looks like a permitted host. -/
theorem nameConstraintsValid_of_lacksAuthority (h : ctx.Placed p e) {text domain : String}
    (hname : .uri text ∈ e.certificate.altNames) (hlacks : LacksAuthority text.toList)
    (hpermitted : .uri domain ∈ imposedAbove NameConstraints.permitted ctx.chain p)
    (target : Option Node) (operands : List Value) :
    ∃ verdict, Operator.nameConstraintsValid.evaluate target ctx operands = .ok verdict ∧
      (¬ [':', '/', '/'] <:+: afterColon text.toList → verdict = false) ∧
      (verdict = true → ∃ rest within, afterScheme? (afterColon text.toList) = some rest ∧
        hostAfterScheme rest ≠ [] ∧
        .uri within ∈ imposedAbove NameConstraints.permitted ctx.chain p ∧
        HostWithin (lower (hostAfterScheme rest)) (lowered within)) := by
  refine ⟨judge ctx, rfl, ?_, exists_permitted_host h hname hlacks hpermitted⟩
  intro hnone
  rw [← Bool.not_eq_true]
  intro hjudge
  obtain ⟨rest, -, hrest, -⟩ := exists_permitted_host h hname hlacks hpermitted hjudge
  exact hnone (infix_of_afterScheme? hrest)

theorem nameConstraintsValid_of_lacksAuthority_urn :
    LacksAuthority "urn:isbn:123".toList ∧
      .uri ".example.com" ∈ imposedAbove NameConstraints.permitted
        (contextBelow withinExample [.uri "urn:isbn:123"]).chain 0 ∧
      Operator.nameConstraintsValid.evaluate none
        (contextBelow withinExample [.uri "urn:isbn:123"]) [] = .ok false := by
  have hname : AltName.uri "urn:isbn:123" ∈
      (leafNamed [.uri "urn:isbn:123"]).certificate.altNames := List.mem_singleton_self _
  have hpermitted : NameSubtree.uri ".example.com" ∈ imposedAbove NameConstraints.permitted
      (contextBelow withinExample [.uri "urn:isbn:123"]).chain 0 := List.mem_singleton_self _
  have hlacks : LacksAuthority "urn:isbn:123".toList := by decide +kernel
  obtain ⟨verdict, heq, hrefused, -⟩ := nameConstraintsValid_of_lacksAuthority
    (contextBelow_placed withinExample [.uri "urn:isbn:123"]) hname hlacks hpermitted none []
  refine ⟨hlacks, hpermitted, ?_⟩
  rw [heq, hrefused (by decide +kernel)]

def embeddingUri : String := "mailto:a@b.test?body=http://www.example.com"

/-- A text behind the scheme passes for the host of a URI that has none. -/
theorem embeddingUri_permitted :
    LacksAuthority embeddingUri.toList ∧
      .uri ".example.com" ∈ imposedAbove NameConstraints.permitted
        (chainBelow withinExample [.uri embeddingUri]) 0 ∧
      Chain.assemble ((chainBelow withinExample [.uri embeddingUri]).map ChainEntry.unplaced) =
        .ok (chainBelow withinExample [.uri embeddingUri], []) ∧
      Operator.nameConstraintsValid.evaluate none
        (contextBelow withinExample [.uri embeddingUri]) [] = .ok true := by
  refine ⟨by decide +kernel, List.mem_singleton_self _, assemble_chainBelow _ _, ?_⟩
  have hjudge : judge (contextBelow withinExample [.uri embeddingUri]) = true := by
    decide +kernel
  exact congrArg Except.ok hjudge

/-- The subtrees of each form that hold every host. -/
inductive CatchAll : NameSubtree → Prop
  | dns : CatchAll (.dns "")
  | email : CatchAll (.email "")
  | uri : CatchAll (.uri "")

/-- A name has a host that subtrees of domains are about. -/
def HasHost : AltName → Prop
  | .dns _ => True
  | .email address => '@' ∈ address.toList
  | .uri text => ∃ host, uriHost? text = some host
  | _ => False

theorem AddressWithin.at_mem {address subtree : List Char} (h : AddressWithin address subtree) :
    '@' ∈ address := by
  rcases h with ⟨hat, rfl⟩ | ⟨-, mailbox, host, rfl, -⟩
  · exact hat
  · exact List.mem_append_right mailbox List.mem_cons_self

theorem addressWithin_nil {address : List Char} (h : '@' ∈ address) : AddressWithin address [] := by
  obtain ⟨mailbox, host, rfl, hhost⟩ := CharList.exists_last_of_mem h
  exact .inr ⟨List.not_mem_nil, mailbox, host, rfl, hhost, .inl rfl⟩

/-- A name without a host is in no subtree at all. -/
theorem CatchAll.hasHost (hall : CatchAll all) (hform : SameForm name all) (h : Within name s) :
    HasHost name := by
  cases name with
  | dns name => trivial
  | email address =>
    cases s with
    | email subtree => exact (mem_lower_iff (by decide)).mp h.at_mem
    | _ => exact h.elim
  | uri text =>
    obtain ⟨host, -, -, hhost, -⟩ := within_uri_iff.mp h
    exact ⟨host, hhost⟩
  | _ => cases hall <;> exact hform.elim

theorem CatchAll.within (hall : CatchAll all) (hform : SameForm name all) (h : HasHost name) :
    Within name all := by
  cases hall with
  | dns =>
    cases name with
    | dns name => exact .inl rfl
    | _ => exact hform.elim
  | email =>
    cases name with
    | email address => exact addressWithin_nil ((mem_lower_iff (by decide)).mpr h)
    | _ => exact hform.elim
  | uri =>
    cases name with
    | uri text =>
      obtain ⟨host, hhost⟩ := h
      exact ⟨host, hhost, .inl rfl⟩
    | _ => exact hform.elim

/-- Where a form is excluded as a whole, of its names only those without a host are left, as long
as nothing of that form is permitted either. -/
theorem CatchAll.admitted_iff (hall : CatchAll all) (hexcluded : all ∈ excluded)
    (hform : SameForm name all) :
    Admitted permitted excluded name ↔
      ¬ HasHost name ∧ ∀ s ∈ permitted, ¬ SameForm name s := by
  constructor
  · rintro ⟨houtside, hrequired⟩
    have hhost : ¬ HasHost name := fun hhost => houtside all hexcluded (hall.within hform hhost)
    refine ⟨hhost, ?_⟩
    intro s hs hsame
    obtain ⟨_, -, hin⟩ := hrequired ⟨s, hs, hsame⟩
    exact hhost (hall.hasHost hform hin)
  · rintro ⟨hhost, hnone⟩
    refine ⟨fun s _ hin => hhost (hall.hasHost hform hin), ?_⟩
    rintro ⟨s, hs, hsame⟩
    exact absurd hsame (hnone s hs)

/-- Below an authority that excludes every host of a form, a certificate with a host of that form is
refused. Names of that form without a host do not count as excluded. -/
theorem nameConstraintsValid_of_catchAll (h : ctx.Placed p e) (hall : CatchAll all)
    (hexcluded : all ∈ imposedAbove NameConstraints.excluded ctx.chain p)
    (target : Option Node) (operands : List Value) :
    ∃ verdict, Operator.nameConstraintsValid.evaluate target ctx operands = .ok verdict ∧
      ((∃ name ∈ e.certificate.altNames, SameForm name all ∧ HasHost name) → verdict = false) ∧
      (verdict = true ↔ work ctx.chain p e ≤ maxWork ∧ ∀ name ∈ e.certificate.altNames,
        (SameForm name all → ¬ HasHost name ∧
          ∀ s ∈ imposedAbove NameConstraints.permitted ctx.chain p, ¬ SameForm name s) ∧
        (¬ SameForm name all → Admitted (imposedAbove NameConstraints.permitted ctx.chain p)
          (imposedAbove NameConstraints.excluded ctx.chain p) name)) := by
  refine ⟨judge ctx, rfl, ?_, ?_⟩
  · rintro ⟨name, hname, hform, hhost⟩
    rw [← Bool.not_eq_true, judge_eq_true_iff h]
    rintro ⟨-, hadmitted⟩
    exact ((hall.admitted_iff hexcluded hform).mp (hadmitted name hname)).1 hhost
  · rw [judge_eq_true_iff h]
    refine and_congr_right fun _ => forall₂_congr fun name _ => ?_
    by_cases hform : SameForm name all
    · simp only [hall.admitted_iff hexcluded hform, hform, true_implies, not_true_eq_false,
        false_implies, and_true]
    · simp only [hform, false_implies, not_false_eq_true, true_implies, true_and]

def withoutUris : NameConstraints := { permitted := [], excluded := [.uri ""] }

def withoutEmails : NameConstraints := { permitted := [], excluded := [.email ""] }

theorem nameConstraintsValid_of_catchAll_mailbox :
    NameSubtree.email "" ∈ imposedAbove NameConstraints.excluded
        (contextBelow withoutEmails [.email "root@example.com"]).chain 0 ∧
      HasHost (.email "root@example.com") ∧
      Operator.nameConstraintsValid.evaluate none
        (contextBelow withoutEmails [.email "root@example.com"]) [] = .ok false := by
  have hname : AltName.email "root@example.com" ∈
      (leafNamed [.email "root@example.com"]).certificate.altNames := List.mem_singleton_self _
  have hexcluded : NameSubtree.email "" ∈ imposedAbove NameConstraints.excluded
      (contextBelow withoutEmails [.email "root@example.com"]).chain 0 := List.mem_singleton_self _
  have hhost : HasHost (.email "root@example.com") := by
    unfold HasHost
    decide +kernel
  obtain ⟨verdict, heq, hrefused, -⟩ := nameConstraintsValid_of_catchAll
    (contextBelow_placed withoutEmails [.email "root@example.com"]) .email hexcluded none []
  refine ⟨hexcluded, hhost, ?_⟩
  rw [heq, hrefused ⟨_, hname, trivial, hhost⟩]

/-- URIs and mail addresses without a host get past the exclusion of all of them. -/
theorem hostless_admitted :
    NameSubtree.uri "" ∈ imposedAbove NameConstraints.excluded
        (chainBelow withoutUris [.uri "urn:isbn:123"]) 0 ∧
      Operator.nameConstraintsValid.evaluate none
        (contextBelow withoutUris [.uri "urn:isbn:123"]) [] = .ok true ∧
      NameSubtree.email "" ∈ imposedAbove NameConstraints.excluded
        (chainBelow withoutEmails [.email "root"]) 0 ∧
      Operator.nameConstraintsValid.evaluate none
        (contextBelow withoutEmails [.email "root"]) [] = .ok true := by
  have huri : judge (contextBelow withoutUris [.uri "urn:isbn:123"]) = true := by
    decide +kernel
  have hemail : judge (contextBelow withoutEmails [.email "root"]) = true := by
    decide +kernel
  exact ⟨List.mem_singleton_self _, congrArg Except.ok huri, List.mem_singleton_self _,
    congrArg Except.ok hemail⟩

end CertAudit.NameConstraints
