/- The host is found in every URI that is put together from its parts, so URIs with the same host
are judged alike. -/
import CertAudit.Proofs.NameConstraints.Verdict
namespace CertAudit.NameConstraints

/-- A host as a URI spells it: bare, or in brackets. -/
inductive UriHost
  | bare (name : List Char) (ne_nil : name ≠ [])
      (plain : ∀ c ∈ name, c ∉ ['/', '?', '#', '@', ':', '['])
  | bracketed (name : List Char) (ne_nil : name ≠ [])
      (plain : ∀ c ∈ name, c ∉ ['/', '?', '#', '@', ']'])

namespace UriHost

def name : UriHost → List Char
  | bare name _ _ => name
  | bracketed name _ _ => name

def chars : UriHost → List Char
  | bare name _ _ => name
  | bracketed name _ _ => '[' :: (name ++ [']'])

theorem name_ne_nil (host : UriHost) : host.name ≠ [] := by
  cases host with
  | bare name ne_nil plain => exact ne_nil
  | bracketed name ne_nil plain => exact ne_nil

end UriHost

/-- The parts of a URI that names a host. -/
structure Uri where
  scheme : List Char
  user : Option (List Char) := none
  host : UriHost
  port : Option (List Char) := none
  tail : List Char := []
  scheme_plain : ∀ c ∈ scheme, c.isAlphanum = true ∨ c = '+' ∨ c = '-' ∨ c = '.'
  user_plain : ∀ info ∈ user, ∀ c ∈ info, endsAuthority c = false
  port_plain : ∀ digits ∈ port, ∀ c ∈ digits, c.isDigit = true
  tail_apart : ∀ c ∈ tail.head?, endsAuthority c = true

namespace Uri

variable (u : Uri)

def portChars : List Char := (u.port.map (':' :: ·)).getD []

def hostPort : List Char := u.host.chars ++ u.portChars

def authority : List Char := (u.user.map (· ++ ['@'])).getD [] ++ u.hostPort

def text : String := String.ofList (u.scheme ++ ':' :: '/' :: '/' :: (u.authority ++ u.tail))

end Uri

/-- The scheme ends at the first colon. -/
theorem afterScheme?_append {scheme : List Char} (h : ':' ∉ scheme) (rest : List Char) :
    afterScheme? (scheme ++ ':' :: '/' :: '/' :: rest) = some rest := by
  induction scheme with
  | nil => rfl
  | cons c scheme ih =>
    rw [List.mem_cons, not_or] at h
    rw [List.cons_append, afterScheme?_cons, if_neg (fun hc => h.1 hc.1.symm)]
    exact ih h.2

/-- What is taken ends where something else begins. -/
theorem takeWhile_append_eq {p : Char → Bool} {front back : List Char}
    (hfront : ∀ c ∈ front, p c = true) (hback : ∀ c ∈ back.head?, p c = false) :
    (front ++ back).takeWhile p = front := by
  rw [List.takeWhile_append_of_pos hfront]
  cases back with
  | nil => rw [List.takeWhile_nil, List.append_nil]
  | cons c back =>
    have hc : ¬ p c = true := by rw [hback c rfl]; exact Bool.false_ne_true
    rw [List.takeWhile_cons_of_neg hc, List.append_nil]

theorem takeWhile_ne_append {x : Char} {front back : List Char} (hfront : x ∉ front)
    (hback : ∀ c ∈ back.head?, c = x) : (front ++ back).takeWhile (· != x) = front := by
  refine takeWhile_append_eq ?_ ?_
  · intro c hc
    exact bne_iff_ne.mpr (ne_of_mem_of_not_mem hc hfront)
  · intro c hc
    rw [hback c hc, bne_self_eq_false]

namespace Uri

variable (u : Uri)

theorem colon_not_mem_scheme : ':' ∉ u.scheme := by
  intro h
  have hcolon := u.scheme_plain ':' h
  revert hcolon
  decide

theorem portChars_cases : u.portChars = [] ∨
    ∃ digits, u.portChars = ':' :: digits ∧ ∀ c ∈ digits, c.isDigit = true := by
  cases hport : u.port with
  | none => exact .inl (by rw [portChars, hport]; rfl)
  | some digits => exact .inr ⟨digits, by rw [portChars, hport]; rfl, u.port_plain digits hport⟩

/-- Neither what ends the part with the host, nor what ends the part before the host. -/
def Inner (c : Char) : Prop := endsAuthority c = false ∧ c ≠ '@'

theorem inner_of_ne {c : Char} (h : c ∉ ['/', '?', '#', '@']) : Inner c := by
  simp only [List.mem_cons, List.not_mem_nil, or_false, not_or] at h
  obtain ⟨hslash, hquery, hhash, hat⟩ := h
  refine ⟨?_, hat⟩
  simp only [endsAuthority, Bool.or_eq_false_iff, beq_eq_false_iff_ne]
  exact ⟨⟨hslash, hquery⟩, hhash⟩

theorem inner_of_mem_host {host : UriHost} {c : Char} (h : c ∈ host.chars) : Inner c := by
  cases host with
  | bare name ne_nil plain =>
    refine inner_of_ne (mt ?_ (plain c h))
    exact fun hmem => List.mem_append_left [':', '['] hmem
  | bracketed name ne_nil plain =>
    rcases List.mem_cons.mp h with rfl | h
    · exact inner_of_ne (by decide)
    · rcases List.mem_append.mp h with h | h
      · refine inner_of_ne (mt ?_ (plain c h))
        exact fun hmem => List.mem_append_left [']'] hmem
      · rw [List.mem_singleton.mp h]
        exact inner_of_ne (by decide)

theorem inner_of_mem_port {c : Char} (h : c ∈ u.portChars) : Inner c := by
  rcases u.portChars_cases with hnil | ⟨digits, hport, hdigits⟩
  · rw [hnil] at h
    cases h
  · rw [hport] at h
    rcases List.mem_cons.mp h with rfl | h
    · exact inner_of_ne (by decide)
    · refine inner_of_ne fun hbarred => ?_
      have hdigit := hdigits c h
      simp only [List.mem_cons, List.not_mem_nil, or_false] at hbarred
      rcases hbarred with rfl | rfl | rfl | rfl <;> cases hdigit

theorem inner_of_mem_hostPort {c : Char} (h : c ∈ u.hostPort) : Inner c :=
  (List.mem_append.mp h).elim inner_of_mem_host u.inner_of_mem_port

theorem authority_plain {c : Char} (h : c ∈ u.authority) : endsAuthority c = false := by
  rcases List.mem_append.mp h with h | h
  · cases huser : u.user with
    | none =>
      rw [huser] at h
      cases h
    | some info =>
      rw [huser] at h
      rcases List.mem_append.mp h with h | h
      · exact u.user_plain info huser c h
      · rw [List.mem_singleton.mp h]
        decide
  · exact (u.inner_of_mem_hostPort h).1

theorem takeWhile_authority :
    (u.authority ++ u.tail).takeWhile (fun c => !endsAuthority c) = u.authority := by
  refine takeWhile_append_eq ?_ ?_
  · intro c hc
    rw [u.authority_plain hc]
    rfl
  · intro c hc
    rw [u.tail_apart c hc]
    rfl

/-- User information may have the sign that ends it, but what follows has not. -/
theorem afterLast?_authority : (afterLast? '@' u.authority).getD u.authority = u.hostPort := by
  have hlast : '@' ∉ u.hostPort := fun h => (u.inner_of_mem_hostPort h).2 rfl
  unfold authority
  cases u.user with
  | none =>
    rw [Option.map_none, Option.getD_none, List.nil_append, afterLast?_of_not_mem hlast]
    rfl
  | some info =>
    rw [Option.map_some, Option.getD_some, List.append_assoc, List.singleton_append,
      afterLast?_append info hlast]
    rfl

theorem portChars_head? : ∀ c ∈ u.portChars.head?, c = ':' := by
  intro c hc
  rcases u.portChars_cases with hnil | ⟨digits, hport, -⟩
  · rw [hnil] at hc
    cases hc
  · rw [hport] at hc
    cases hc
    rfl

theorem withoutPort_hostPort : withoutPort u.hostPort = u.host.name := by
  unfold hostPort
  cases u.host with
  | bare name ne_nil plain =>
    have hhead : (name ++ u.portChars).head? ≠ some '[' := by
      rw [List.head?_append_of_ne_nil _ ne_nil]
      intro hhead
      exact plain '[' (List.mem_of_head? hhead) (by decide)
    have hcolon : ':' ∉ name := fun hmem => plain ':' hmem (by decide)
    rw [UriHost.chars, withoutPort_of_head hhead]
    exact takeWhile_ne_append hcolon u.portChars_head?
  | bracketed name ne_nil plain =>
    have hbracket : ']' ∉ name := fun hmem => plain ']' hmem (by decide)
    rw [UriHost.chars, List.cons_append, List.append_assoc, withoutPort]
    refine takeWhile_ne_append hbracket ?_
    intro c hc
    cases hc
    rfl

theorem uriHost?_text : uriHost? u.text = some (lower u.host.name) := by
  have hhost : hostAfterScheme (u.authority ++ u.tail) = u.host.name := by
    rw [hostAfterScheme, takeWhile_authority, afterLast?_authority, withoutPort_hostPort]
  have hne : u.host.name.isEmpty = false := List.isEmpty_eq_false_iff.mpr u.host.name_ne_nil
  rw [uriHost?_eq, text, String.toList_ofList, afterScheme?_append u.colon_not_mem_scheme,
    Option.bind_some, hhost, hne]
  rfl

end Uri

/-- The same name, or URIs with the same host. -/
inductive SameHost : AltName → AltName → Prop
  | refl (name : AltName) : SameHost name name
  | uris (u v : Uri) (h : lower u.host.name = lower v.host.name) :
      SameHost (.uri u.text) (.uri v.text)

theorem SameHost.admitted_iff {name name' : AltName} (h : SameHost name name')
    (permitted excluded : List NameSubtree) :
    Admitted permitted excluded name ↔ Admitted permitted excluded name' := by
  cases h with
  | refl => exact Iff.rfl
  | uris u v h =>
    have hhost : uriHost? u.text = uriHost? v.text := by
      rw [u.uriHost?_text, v.uriHost?_text, h]
    rw [← nameAllowed_iff, ← nameAllowed_iff, nameAllowed, nameAllowed, hhost]

theorem forall_admitted_iff {names names' : List AltName} (h : List.Forall₂ SameHost names names')
    (permitted excluded : List NameSubtree) :
    (∀ name ∈ names, Admitted permitted excluded name) ↔
      ∀ name ∈ names', Admitted permitted excluded name := by
  induction h with
  | nil => exact Iff.rfl
  | cons hname _ ih =>
    rw [List.forall_mem_cons, List.forall_mem_cons, hname.admitted_iff permitted excluded, ih]

variable {ctx ctx' : Context} {p p' : Nat} {e e' : ChainEntry}

theorem judge_eq_of_sameHost (h : ctx.Placed p e) (h' : ctx'.Placed p' e')
    (habove : above ctx.chain p = above ctx'.chain p')
    (hnames : List.Forall₂ SameHost e.certificate.altNames e'.certificate.altNames) :
    judge ctx = judge ctx' := by
  have himposed : ∀ side, imposedAbove side ctx.chain p = imposedAbove side ctx'.chain p' := by
    intro side
    rw [imposedAbove, imposedAbove, habove]
  rw [Bool.eq_iff_iff, judge_eq_true_iff h, judge_eq_true_iff h', work, work, hnames.length_eq,
    himposed, himposed, forall_admitted_iff hnames]

/-- A URI counts by its host whatever its other parts are. -/
theorem uri_judged_by_host :
    (∀ u : Uri, uriHost? u.text = some (lower u.host.name)) ∧
    ∀ (ctx ctx' : Context) (p p' : Nat) (e e' : ChainEntry),
      ctx.Placed p e → ctx'.Placed p' e' → above ctx.chain p = above ctx'.chain p' →
      List.Forall₂ SameHost e.certificate.altNames e'.certificate.altNames →
      ∀ target target' operands operands',
        Operator.nameConstraintsValid.evaluate target ctx operands =
          Operator.nameConstraintsValid.evaluate target' ctx' operands' := by
  refine ⟨Uri.uriHost?_text, ?_⟩
  intro ctx ctx' p p' e e' h h' habove hnames target target' operands operands'
  exact congrArg Except.ok (judge_eq_of_sameHost h h' habove hnames)

/-- A certificate with some alternative names. -/
def leafNamed (names : List AltName) : ChainEntry :=
  { certificate := .plain "www" "authority" [.subjectAltName names] }

/-- Such a certificate below an authority with name constraints. -/
def chainBelow (constraints : NameConstraints) (names : List AltName) : List ChainEntry := [
  leafNamed names,
  { certificate := .plain "authority" "authority"
      [.basicConstraints true none, .nameConstraints constraints]
    position := 1
    role := .root }]

def contextBelow (constraints : NameConstraints) (names : List AltName) : Context :=
  Audit.contextOf { seconds := 0 } [] [] (chainBelow constraints names) (leafNamed names)

theorem assemble_chainBelow (constraints : NameConstraints) (names : List AltName) :
    Chain.assemble ((chainBelow constraints names).map ChainEntry.unplaced) =
      .ok (chainBelow constraints names, []) :=
  rfl

theorem contextBelow_placed (constraints : NameConstraints) (names : List AltName) :
    (contextBelow constraints names).Placed 0 (leafNamed names) :=
  Audit.placed_of_assemble (assemble_chainBelow constraints names) rfl { seconds := 0 } [] []

def longUri : Uri where
  scheme := ['h', 't', 't', 'p', 's']
  user := some ['a', ':', 'b', '@', 'c']
  host := .bare ['W', 'w', 'w', '.', 'E', 'x', 'a', 'm', 'p', 'l', 'e', '.', 'c', 'o', 'm']
    (by simp) (by simp)
  port := some ['8', '4', '4', '3']
  tail := ['/', '?', 'f', 't', 'p', ':', '/', '/', 'd', '@', 'e']
  scheme_plain := by simp
  user_plain := by simp [endsAuthority]
  port_plain := by simp
  tail_apart := by simp [endsAuthority]

def shortUri : Uri where
  scheme := ['l', 'd', 'a', 'p']
  host := .bare ['w', 'w', 'w', '.', 'e', 'x', 'a', 'm', 'p', 'l', 'e', '.', 'c', 'o', 'm']
    (by simp) (by simp)
  scheme_plain := by simp
  user_plain := by simp [endsAuthority]
  port_plain := by simp
  tail_apart := by simp [endsAuthority]

def withinExample : NameConstraints := { permitted := [.uri ".example.com"], excluded := [] }

theorem uri_judged_by_host_longUri :
    longUri.text = "https://a:b@c@Www.Example.com:8443/?ftp://d@e" ∧
      uriHost? longUri.text = some "www.example.com".toList ∧
      Operator.nameConstraintsValid.evaluate none
          (contextBelow withinExample [.uri longUri.text]) [] = .ok true := by
  obtain ⟨hhost, halike⟩ := uri_judged_by_host
  refine ⟨by decide +kernel, ?_, ?_⟩
  · rw [hhost]
    decide +kernel
  · have hsame : SameHost (.uri longUri.text) (.uri shortUri.text) :=
      .uris longUri shortUri (by decide +kernel)
    have habove : above (contextBelow withinExample [.uri longUri.text]).chain 0 =
        above (contextBelow withinExample [.uri shortUri.text]).chain 0 := rfl
    rw [halike _ _ 0 0 _ _ (contextBelow_placed withinExample [.uri longUri.text])
      (contextBelow_placed withinExample [.uri shortUri.text]) habove (.cons hsame .nil)
      none none [] []]
    have hshort : judge (contextBelow withinExample [.uri shortUri.text]) = true := by
      decide +kernel
    exact congrArg Except.ok hshort

end CertAudit.NameConstraints
