/- Policies without faults, the fault that comes first in those that have some, and the policies that
the documents of a text hold: they are accepted if all of them are sound, and otherwise the first
offender tells why not. -/
import CertAudit.Policy.Document
import CertAudit.Proofs.Attempt
namespace CertAudit

namespace Policy

/-- Each rule has an identifier and an operator, and no two have one identifier. -/
structure SoundRules (rules : List Rule) : Prop where
  ids : ∀ r ∈ rules, isBlank r.id = false
  operators : ∀ r ∈ rules, isBlank r.operator = false
  distinct : (rules.map fun r => r.id).Nodup

/-- A policy has an identifier, and its rules are sound. -/
structure Sound (p : Policy) : Prop where
  id : isBlank p.id = false
  rules : SoundRules p.rules

/-- Why a rule of a policy offends, given the identifiers before it. The first reason counts. -/
inductive RuleFault (policy : String) (seen : List String) (r : Rule) : PolicyFault → Prop
  | id (h : isBlank r.id = true) : RuleFault policy seen r (.emptyRuleId policy)
  | operator (hid : isBlank r.id = false) (h : isBlank r.operator = true) :
      RuleFault policy seen r (.noOperator policy r.id)
  | duplicate (hid : isBlank r.id = false) (hoperator : isBlank r.operator = false)
      (h : r.id ∈ seen) : RuleFault policy seen r (.duplicateRule policy r.id)

/-- Why a policy offends: its identifier, or else the first rule that offends behind sound ones. -/
inductive FirstFault (p : Policy) : PolicyFault → Prop
  | id (h : isBlank p.id = true) : FirstFault p .emptyId
  | rule {before after : List Rule} {r : Rule} {fault : PolicyFault} (hid : isBlank p.id = false)
      (hrules : p.rules = before ++ r :: after) (hbefore : SoundRules before)
      (h : RuleFault p.id (before.map fun q => q.id) r fault) : FirstFault p fault

variable {policy : String} {seen : List String} {r : Rule} {rules : List Rule} {p : Policy}
  {policies : List Policy} {fault : PolicyFault} {failure : Failure}

theorem soundRules_cons : SoundRules (r :: rules) ↔ isBlank r.id = false ∧
    isBlank r.operator = false ∧ (∀ q ∈ rules, q.id ≠ r.id) ∧ SoundRules rules := by
  have hnew : r.id ∉ rules.map (fun q => q.id) ↔ ∀ q ∈ rules, q.id ≠ r.id := by simp
  constructor
  · rintro ⟨hids, hoperators, hdistinct⟩
    obtain ⟨hid, hids⟩ := List.forall_mem_cons.mp hids
    obtain ⟨hoperator, hoperators⟩ := List.forall_mem_cons.mp hoperators
    obtain ⟨hfirst, hdistinct⟩ := List.nodup_cons.mp hdistinct
    exact ⟨hid, hoperator, hnew.mp hfirst, hids, hoperators, hdistinct⟩
  · rintro ⟨hid, hoperator, hfirst, hids, hoperators, hdistinct⟩
    exact ⟨List.forall_mem_cons.mpr ⟨hid, hids⟩, List.forall_mem_cons.mpr ⟨hoperator, hoperators⟩,
      List.nodup_cons.mpr ⟨hnew.mpr hfirst, hdistinct⟩⟩

/-- Only which identifiers have been seen counts. -/
theorem RuleFault.congr {seen' : List String} (hseen : ∀ id, id ∈ seen ↔ id ∈ seen')
    (h : RuleFault policy seen r fault) : RuleFault policy seen' r fault := by
  cases h with
  | id h => exact .id h
  | operator hid h => exact .operator hid h
  | duplicate hid hoperator h => exact .duplicate hid hoperator ((hseen _).mp h)

theorem RuleFault.fault_eq (h : RuleFault policy seen r fault) :
    ruleFault? policy seen (r :: rules) = some fault := by
  cases h with
  | id h => simp only [ruleFault?, h, if_true]
  | operator hid h => simp only [ruleFault?, hid, h, Bool.false_eq_true, if_false, if_true]
  | duplicate hid hoperator h =>
    simp only [ruleFault?, hid, hoperator, List.contains_iff_mem.mpr h, Bool.false_eq_true, if_false,
      if_true]

/-- All that the check of a rule can do: stop with its fault, or go on with its identifier seen. -/
theorem ruleFault?_cons_cases (policy : String) (seen : List String) (r : Rule) :
    (∃ fault, RuleFault policy seen r fault) ∨
    (isBlank r.id = false ∧ isBlank r.operator = false ∧ r.id ∉ seen ∧
      ∀ rest, ruleFault? policy seen (r :: rest) = ruleFault? policy (r.id :: seen) rest) := by
  cases hid : isBlank r.id with
  | true => exact .inl ⟨_, .id hid⟩
  | false =>
    cases hoperator : isBlank r.operator with
    | true => exact .inl ⟨_, .operator hid hoperator⟩
    | false =>
      by_cases hseen : r.id ∈ seen
      · exact .inl ⟨_, .duplicate hid hoperator hseen⟩
      · refine .inr ⟨rfl, rfl, hseen, fun rest => ?_⟩
        simp only [ruleFault?, hid, hoperator, List.contains_iff_mem, hseen, Bool.false_eq_true,
          if_false]

/-- Rules without a fault are sound, and none of them has an identifier seen before. -/
theorem ruleFault?_eq_none_iff :
    ruleFault? policy seen rules = none ↔ SoundRules rules ∧ ∀ r ∈ rules, r.id ∉ seen := by
  induction rules generalizing seen with
  | nil => simp [ruleFault?, SoundRules.mk]
  | cons r rest ih =>
    obtain ⟨fault, hfault⟩ | ⟨hid, hoperator, hnew, hgo⟩ := ruleFault?_cons_cases policy seen r
    · simp only [hfault.fault_eq, reduceCtorEq, soundRules_cons, List.forall_mem_cons, false_iff]
      rintro ⟨⟨hid, hoperator, _⟩, hnew, _⟩
      cases hfault with
      | id h => cases hid.symm.trans h
      | operator _ h => cases hoperator.symm.trans h
      | duplicate _ _ h => exact hnew h
    · rw [hgo, ih, soundRules_cons, List.forall_mem_cons]
      simp only [List.mem_cons, not_or]
      constructor
      · rintro ⟨hsound, hfresh⟩
        exact ⟨⟨hid, hoperator, fun q hq => (hfresh q hq).1, hsound⟩, hnew,
          fun q hq => (hfresh q hq).2⟩
      · rintro ⟨⟨_, _, hdistinct, hsound⟩, _, hfresh⟩
        exact ⟨hsound, fun q hq => ⟨hdistinct q hq, hfresh q hq⟩⟩

/-- Behind rules without a fault the check goes on with their identifiers seen. -/
theorem ruleFault?_append {before : List Rule} (h : ruleFault? policy seen before = none)
    (rest : List Rule) : ruleFault? policy seen (before ++ rest) =
      ruleFault? policy ((before.map fun q => q.id).reverse ++ seen) rest := by
  induction before generalizing seen with
  | nil => rfl
  | cons r before ih =>
    obtain ⟨fault, hfault⟩ | ⟨_, _, _, hgo⟩ := ruleFault?_cons_cases policy seen r
    · cases h.symm.trans hfault.fault_eq
    · rw [hgo] at h
      simp only [List.cons_append, hgo, ih h, List.map_cons, List.reverse_cons, List.append_assoc,
        List.nil_append]

theorem exists_ruleFault (h : ruleFault? policy seen rules = some fault) :
    ∃ before r after, rules = before ++ r :: after ∧ ruleFault? policy seen before = none ∧
      RuleFault policy ((before.map fun q => q.id).reverse ++ seen) r fault := by
  induction rules generalizing seen with
  | nil => cases h
  | cons r rest ih =>
    obtain ⟨fault', hfault⟩ | ⟨_, _, _, hgo⟩ := ruleFault?_cons_cases policy seen r
    · obtain rfl := Option.some.inj (hfault.fault_eq.symm.trans h)
      exact ⟨[], r, rest, rfl, rfl, hfault⟩
    · rw [hgo] at h
      obtain ⟨before, q, after, rfl, hnone, hfault⟩ := ih h
      refine ⟨r :: before, q, after, rfl, (hgo before).trans hnone, ?_⟩
      simpa only [List.map_cons, List.reverse_cons, List.append_assoc, List.singleton_append]
        using hfault

theorem fault?_eq_none_iff : p.fault? = none ↔ p.Sound := by
  have hrules : ruleFault? p.id [] p.rules = none ↔ SoundRules p.rules ∧ ∀ r ∈ p.rules, r.id ∉ [] :=
    ruleFault?_eq_none_iff
  simp only [List.not_mem_nil, not_false_eq_true, implies_true, and_true] at hrules
  cases hid : isBlank p.id with
  | true =>
    simp only [fault?, hid, if_true, reduceCtorEq, false_iff]
    intro h
    cases hid.symm.trans h.id
  | false =>
    simp only [fault?, hid, Bool.false_eq_true, if_false, hrules]
    exact ⟨fun h => ⟨hid, h⟩, fun h => h.rules⟩

theorem fault?_eq_some_iff : p.fault? = some fault ↔ p.FirstFault fault := by
  have hseen : ∀ (before : List Rule) (id : String),
      id ∈ (before.map fun q => q.id).reverse ++ [] ↔ id ∈ before.map fun q => q.id := by
    simp only [List.append_nil, List.mem_reverse, implies_true]
  constructor
  · intro h
    cases hid : isBlank p.id with
    | true =>
      simp only [fault?, hid, if_true] at h
      obtain rfl := Option.some.inj h
      exact .id hid
    | false =>
      simp only [fault?, hid, Bool.false_eq_true, if_false] at h
      obtain ⟨before, r, after, hrules, hnone, hfault⟩ := exists_ruleFault h
      exact .rule hid hrules (ruleFault?_eq_none_iff.mp hnone).1 (hfault.congr (hseen before))
  · intro h
    cases h with
    | id h => simp only [fault?, h, if_true]
    | rule hid hrules hbefore h =>
      have hnone : ruleFault? p.id [] _ = none :=
        ruleFault?_eq_none_iff.mpr ⟨hbefore, fun _ _ => List.not_mem_nil⟩
      simp only [fault?, hid, hrules, Bool.false_eq_true, if_false, ruleFault?_append hnone,
        (h.congr fun id => (hseen _ id).symm).fault_eq]

/-- Policies are accepted as they are, if all of them are sound. -/
theorem validated_eq_ok_iff {accepted : List Policy} :
    validated policies = .ok accepted ↔ accepted = policies ∧ ∀ p ∈ policies, p.Sound := by
  simp only [← fault?_eq_none_iff, ← List.findSome?_eq_none_iff]
  cases h : policies.findSome? fault? with
  | none => simp [validated, h, eq_comm]
  | some fault => simp [validated, h]

/-- Policies are refused for the fault of the first one that has a fault. -/
theorem validated_eq_error_iff :
    validated policies = .error failure ↔ ∃ before p after fault,
      policies = before ++ p :: after ∧ (∀ q ∈ before, q.Sound) ∧ p.FirstFault fault ∧
        failure = .policy fault := by
  have hfirst : ∀ fault, policies.findSome? fault? = some fault ↔ ∃ before p after,
      policies = before ++ p :: after ∧ p.FirstFault fault ∧ ∀ q ∈ before, q.Sound := by
    intro fault
    simp only [List.findSome?_eq_some_iff, fault?_eq_some_iff, fault?_eq_none_iff]
  have hvalidated : validated policies = .error failure ↔
      ∃ fault, policies.findSome? fault? = some fault ∧ failure = .policy fault := by
    cases h : policies.findSome? fault? with
    | none => simp [validated, h]
    | some fault => simp [validated, h, eq_comm]
  rw [hvalidated]
  constructor
  · rintro ⟨fault, h, rfl⟩
    obtain ⟨before, p, after, hpolicies, hfault, hbefore⟩ := (hfirst fault).mp h
    exact ⟨before, p, after, fault, hpolicies, hbefore, hfault, rfl⟩
  · rintro ⟨before, p, after, fault, hpolicies, hbefore, hfault, rfl⟩
    exact ⟨fault, (hfirst fault).mpr ⟨before, p, after, hpolicies, hfault, hbefore⟩, rfl⟩

end Policy

open Yaml (Content)

namespace PolicyDocument

/-- What a document holds: nothing, a policy, a list of policies, or such a list under a key. -/
inductive Holds : Content → List Policy → Prop
  | nothing : Holds .null []
  | single {c : Content} {p : Policy} (h : policy? c = some p) : Holds c [p]
  | listed {items : List Content} {policies : List Policy}
      (h : List.Forall₂ (fun c p => policy? c = some p) items policies) :
      Holds (.sequence items) policies
  | wrapped {entries : List (Content × Content)} {key list : Content} {items : List Content}
      {policies : List Policy} (hkey : entries.find? (fun e => isListKey e.1) = some (key, list))
      (hlist : items? list = some items)
      (h : List.Forall₂ (fun c p => policy? c = some p) items policies) :
      Holds (.mapping entries) policies

variable {c : Content} {p : Policy} {policies : List Policy}

/-- A record has known fields only. -/
theorem known_of_fields? {known : List (String × String)} {fields : List (String × Content)}
    (h : fields? known c = some fields) : ∃ entries, entries? c = some entries ∧
      ∀ e ∈ entries, ∃ key, text? e.1 = some key ∧ known.lookup key ≠ none := by
  obtain ⟨entries, hentries, hfold⟩ := Option.bind_eq_some_iff.mp h
  refine ⟨entries, hentries, forall_of_foldlM_eq_some ?_ hfold⟩
  intro before e after hstep
  obtain ⟨key, hkey, hstep⟩ := Option.bind_eq_some_iff.mp hstep
  obtain ⟨field, hfield, _⟩ := Option.bind_eq_some_iff.mp hstep
  exact ⟨key, hkey, hfield ▸ Option.some_ne_none field⟩

theorem eq_of_isListKey (h : isListKey c = true) : c = .text "policies" := by
  cases c with
  | text s =>
    obtain rfl : s = "policies" := by simpa only [isListKey, beq_iff_eq] using h
    rfl
  | _ => cases h

/-- No policy is made of nothing, of a list, or of a mapping with a list of policies. -/
theorem policies?_of_policy? (h : policy? c = some p) : policies? c = some [p] := by
  obtain ⟨fields, hfields, hread⟩ := Option.bind_eq_some_iff.mp h
  obtain ⟨entries, hentries, hknown⟩ := known_of_fields? hfields
  cases c with
  | null =>
    cases hfields
    cases hread
  | sequence items => cases hentries
  | mapping entries =>
    cases hentries
    have hnone : entries.find? (fun e => isListKey e.1) = none := by
      refine List.find?_eq_none.mpr fun e he hkey => ?_
      obtain ⟨key, htext, hlookup⟩ := hknown e he
      rw [eq_of_isListKey hkey] at htext
      cases htext
      exact hlookup rfl
    simp only [policies?, hnone, h, Option.map_some]
  | _ => simp only [policies?, h, Option.map_some]

theorem policies?_eq_some_iff : policies? c = some policies ↔ Holds c policies := by
  constructor
  · intro h
    cases c with
    | null =>
      cases h
      exact .nothing
    | sequence items => exact .listed (mapM_eq_some_iff.mp h)
    | mapping entries =>
      cases hfind : entries.find? fun e => isListKey e.1 with
      | some e =>
        simp only [policies?, hfind] at h
        obtain ⟨items, hitems, h⟩ := Option.bind_eq_some_iff.mp h
        exact .wrapped hfind hitems (mapM_eq_some_iff.mp h)
      | none =>
        simp only [policies?, hfind] at h
        obtain ⟨p, hp, rfl⟩ := Option.map_eq_some_iff.mp h
        exact .single hp
    | _ =>
      simp only [policies?] at h
      obtain ⟨p, hp, rfl⟩ := Option.map_eq_some_iff.mp h
      exact .single hp
  · intro h
    cases h with
    | nothing => rfl
    | single h => exact policies?_of_policy? h
    | listed h => exact mapM_eq_some_iff.mpr h
    | wrapped hkey hlist h =>
      simp only [policies?, hkey, hlist]
      exact mapM_eq_some_iff.mpr h

end PolicyDocument

namespace Policy

variable {text : String} {contents : List Content} {policies : List Policy}

/-- What the documents of a text hold is all that is validated. -/
theorem ofText_eq_validated (hread : Yaml.contents? text = some contents)
    (hholds : Gathers PolicyDocument.Holds contents policies) : ofText text = validated policies := by
  obtain ⟨parts, hparts, rfl⟩ := hholds
  have hmap : contents.mapM PolicyDocument.policies? = some parts :=
    mapM_eq_some_iff.mpr (hparts.imp fun _ _ => PolicyDocument.policies?_eq_some_iff.mpr)
  simp only [ofText, hread, Option.bind_some, hmap]

/-- The policies of a text are accepted just if all of them are sound, and then in the order of the
documents and the lists in them. Otherwise the first policy that offends is refused for its first
offence. -/
theorem ofText_validates (hread : Yaml.contents? text = some contents)
    (hholds : Gathers PolicyDocument.Holds contents policies) :
    ((∃ accepted, ofText text = .ok accepted) ↔ ∀ p ∈ policies, p.Sound) ∧
      (∀ accepted, ofText text = .ok accepted → accepted = policies) ∧
      ∀ failure, ofText text = .error failure ↔ ∃ before p after fault,
        policies = before ++ p :: after ∧ (∀ q ∈ before, q.Sound) ∧ p.FirstFault fault ∧
          failure = .policy fault := by
  rw [ofText_eq_validated hread hholds]
  refine ⟨?_, fun accepted h => (validated_eq_ok_iff.mp h).1, fun _ => validated_eq_error_iff⟩
  constructor
  · rintro ⟨accepted, h⟩
    exact (validated_eq_ok_iff.mp h).2
  · intro h
    exact ⟨policies, validated_eq_ok_iff.mpr ⟨rfl, h⟩⟩

/-- A document with a list of policies, and one with a policy in which two rules share a name. -/
def sharedName : String :=
  "policies: [{id: a}]\n---\nid: b\nrules: [{id: r, operator: eq}, {id: r, operator: lt}]"

theorem exists_sharedName :
    ∃ contents a b, Yaml.contents? sharedName = some contents ∧
      Gathers PolicyDocument.Holds contents [a, b] ∧ a.Sound ∧
      b.FirstFault (.duplicateRule "b" "r") := by
  have hread : ((Yaml.contents? sharedName).bind fun cs => cs.mapM PolicyDocument.policies?).map
      (List.map (List.map fault?)) = some [[none], [some (.duplicateRule "b" "r")]] := by
    decide +kernel
  obtain ⟨parts, hparts, hfaults⟩ := Option.map_eq_some_iff.mp hread
  obtain ⟨contents, hcontents, hparts⟩ := Option.bind_eq_some_iff.mp hparts
  obtain ⟨first, rest, rfl, hfirst, hrest⟩ := List.map_eq_cons_iff.mp hfaults
  obtain ⟨second, rfl, hsecond⟩ := List.map_eq_singleton_iff.mp hrest
  obtain ⟨a, rfl, ha⟩ := List.map_eq_singleton_iff.mp hfirst
  obtain ⟨b, rfl, hb⟩ := List.map_eq_singleton_iff.mp hsecond
  have hholds : List.Forall₂ PolicyDocument.Holds contents [[a], [b]] :=
    (mapM_eq_some_iff.mp hparts).imp fun _ _ => PolicyDocument.policies?_eq_some_iff.mp
  exact ⟨contents, a, b, hcontents, ⟨_, hholds, rfl⟩, fault?_eq_none_iff.mp ha,
    fault?_eq_some_iff.mp hb⟩

theorem ofText_validates_sharedName :
    ∃ contents policies, Yaml.contents? sharedName = some contents ∧
      Gathers PolicyDocument.Holds contents policies ∧
      ofText sharedName = .error (.policy (.duplicateRule "b" "r")) := by
  obtain ⟨contents, a, b, hread, hholds, ha, hb⟩ := exists_sharedName
  obtain ⟨_, _, hrefused⟩ := ofText_validates hread hholds
  refine ⟨contents, [a, b], hread, hholds, (hrefused _).mpr ⟨[a], b, [], _, rfl, ?_, hb, rfl⟩⟩
  intro p hp
  obtain rfl := List.mem_singleton.mp hp
  exact ha

end Policy
end CertAudit
