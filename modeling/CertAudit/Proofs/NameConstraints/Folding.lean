/- The case of ASCII letters does not matter: names and subtrees can be put in lower case. -/
import CertAudit.Proofs.NameConstraints.Admission
import Mathlib
namespace CertAudit.NameConstraints

/-- What is no letter is not what a letter is lowered to. -/
theorem toLower_eq_iff {c x : Char} (hx : x.isAlpha = false) : c.toLower = x ↔ c = x := by
  have hfixed : ∀ d : Char, d.isAlpha = false → d.toLower = d := by
    intro d hd
    refine Char.toLower_eq_of_not_isUpper fun hupper => ?_
    rw [Char.isAlpha, hupper, Bool.true_or] at hd
    cases hd
  constructor
  · intro h
    have hc : c.isAlpha = false := by rw [← Char.isAlpha_toLower_eq_isAlpha, h, hx]
    rw [← h, hfixed c hc]
  · rintro rfl
    exact hfixed c hx

/-- Characters with their ASCII letters in lower case. -/
abbrev lower (cs : List Char) : List Char := cs.map Char.toLower

theorem lower_lower (cs : List Char) : lower (lower cs) = lower cs := by
  simp only [lower, List.map_map, Function.comp_def, Char.toLower_toLower_eq_toLower]

theorem mem_lower_iff {x : Char} (hx : x.isAlpha = false) {cs : List Char} :
    x ∈ lower cs ↔ x ∈ cs := by
  simp only [lower, List.mem_map, toLower_eq_iff hx, exists_eq_right]

theorem takeWhile_lower {p : Char → Bool} (hp : ∀ c : Char, p c.toLower = p c) (cs : List Char) :
    (lower cs).takeWhile p = lower (cs.takeWhile p) := by
  rw [List.takeWhile_map]
  congr 2
  exact funext hp

theorem afterLast?_lower {sep : Char} (hsep : sep.isAlpha = false) (cs : List Char) :
    afterLast? sep (lower cs) = (afterLast? sep cs).map lower := by
  -- The separator is no letter, so lowering neither makes one nor removes one.
  by_cases hmem : sep ∈ cs
  · obtain ⟨before, last, rfl, hlast⟩ := CharList.exists_last_of_mem hmem
    have hlower : lower (before ++ sep :: last) = lower before ++ sep :: lower last := by
      simp only [lower, List.map_append, List.map_cons, (toLower_eq_iff hsep).mpr]
    rw [hlower, afterLast?_append before hlast,
      afterLast?_append (lower before) (mt (mem_lower_iff hsep).mp hlast)]
    rfl
  · rw [afterLast?_of_not_mem hmem, afterLast?_of_not_mem (mt (mem_lower_iff hsep).mp hmem)]
    rfl

/-- Where a text begins with `//`. -/
theorem take_two_eq_iff {cs : List Char} :
    cs.take 2 = ['/', '/'] ↔ ∃ rest, cs = '/' :: '/' :: rest := by
  constructor
  · intro h
    refine ⟨cs.drop 2, ?_⟩
    conv_lhs => rw [← List.take_append_drop 2 cs, h]
    rfl
  · rintro ⟨rest, rfl⟩
    rfl

theorem afterScheme?_cons (c : Char) (cs : List Char) :
    afterScheme? (c :: cs) =
      if c = ':' ∧ cs.take 2 = ['/', '/'] then some (cs.drop 2) else afterScheme? cs := by
  by_cases h : c = ':' ∧ cs.take 2 = ['/', '/']
  · rw [if_pos h]
    obtain ⟨rfl, htake⟩ := h
    obtain ⟨rest, rfl⟩ := take_two_eq_iff.mp htake
    rfl
  · rw [if_neg h]
    refine afterScheme?.eq_2 c cs ?_
    intro rest hc hcs
    exact h ⟨hc, take_two_eq_iff.mpr ⟨rest, hcs⟩⟩

theorem afterScheme?_lower (cs : List Char) :
    afterScheme? (lower cs) = (afterScheme? cs).map lower := by
  induction cs with
  | nil => rfl
  | cons c cs ih =>
    have htake : (lower cs).take 2 = ['/', '/'] ↔ cs.take 2 = ['/', '/'] := by
      have hslash : ∀ d : Char, d.toLower = '/' ↔ d = '/' := fun d => toLower_eq_iff (by decide)
      rw [lower, ← List.map_take]
      rcases cs.take 2 with _ | ⟨a, _ | ⟨b, _ | _⟩⟩ <;> simp [hslash]
    have hcolon : c.toLower = ':' ↔ c = ':' := toLower_eq_iff (by decide)
    rw [lower, List.map_cons, afterScheme?_cons, afterScheme?_cons]
    simp only [hcolon, htake]
    split
    · simp only [lower, List.map_drop, Option.map_some]
    · exact ih

/-- The host in what stands before the path of a URI, without the port: up to a bracket where one
opens it, else up to a colon. -/
def withoutPort (hostPort : List Char) : List Char :=
  match hostPort with
  | '[' :: bracketed => bracketed.takeWhile (· != ']')
  | _ => hostPort.takeWhile (· != ':')

/-- The host in what follows the scheme of a URI. -/
def hostAfterScheme (rest : List Char) : List Char :=
  let authority := rest.takeWhile fun c => !endsAuthority c
  withoutPort ((afterLast? '@' authority).getD authority)

theorem uriHost?_eq (text : String) :
    uriHost? text = (afterScheme? text.toList).bind fun rest =>
      if (hostAfterScheme rest).isEmpty then none else some (lower (hostAfterScheme rest)) :=
  rfl

theorem bne_toLower {x : Char} (hx : x.isAlpha = false) (c : Char) :
    (c.toLower != x) = (c != x) := by
  rw [Bool.eq_iff_iff, bne_iff_ne, bne_iff_ne, Ne, Ne, toLower_eq_iff hx]

theorem endsAuthority_toLower (c : Char) : endsAuthority c.toLower = endsAuthority c := by
  have hbeq : ∀ x : Char, x.isAlpha = false → (c.toLower == x) = (c == x) := by
    intro x hx
    rw [Bool.eq_iff_iff, beq_iff_eq, beq_iff_eq, toLower_eq_iff hx]
  rw [endsAuthority, hbeq '/' (by decide), hbeq '?' (by decide), hbeq '#' (by decide),
    endsAuthority]

theorem withoutPort_of_head {cs : List Char} (h : cs.head? ≠ some '[') :
    withoutPort cs = cs.takeWhile (· != ':') := by
  unfold withoutPort
  split
  · exact absurd rfl h
  · rfl

theorem withoutPort_lower (cs : List Char) : withoutPort (lower cs) = lower (withoutPort cs) := by
  by_cases h : cs.head? = some '['
  · obtain ⟨bracketed, rfl⟩ := List.head?_eq_some_iff.mp h
    exact takeWhile_lower (bne_toLower (by decide)) bracketed
  · have hlower : (lower cs).head? ≠ some '[' := by
      rw [lower, List.head?_map]
      intro hsome
      obtain ⟨c, hc, hbracket⟩ := Option.map_eq_some_iff.mp hsome
      rw [(toLower_eq_iff (by decide)).mp hbracket] at hc
      exact h hc
    rw [withoutPort_of_head h, withoutPort_of_head hlower]
    exact takeWhile_lower (bne_toLower (by decide)) cs

theorem hostAfterScheme_lower (rest : List Char) :
    hostAfterScheme (lower rest) = lower (hostAfterScheme rest) := by
  have hauthority : (lower rest).takeWhile (fun c => !endsAuthority c) =
      lower (rest.takeWhile fun c => !endsAuthority c) :=
    takeWhile_lower (fun c => congrArg not (endsAuthority_toLower c)) rest
  rw [hostAfterScheme, hauthority, afterLast?_lower (by decide), Option.getD_map,
    withoutPort_lower]
  rfl

/-- A text with its ASCII letters in lower case. -/
def folded (s : String) : String := String.ofList (lowered s)

theorem lowered_folded (s : String) : lowered (folded s) = lowered s := by
  rw [folded, lowered, String.toList_ofList]
  exact lower_lower s.toList

theorem uriHost?_folded (text : String) : uriHost? (folded text) = uriHost? text := by
  have htext : (folded text).toList = lower text.toList := String.toList_ofList
  rw [uriHost?_eq, uriHost?_eq, htext, afterScheme?_lower, Option.bind_map]
  refine congrArg _ (funext fun rest => ?_)
  rw [Function.comp_apply, hostAfterScheme_lower, lower_lower]
  cases hostAfterScheme rest <;> rfl

/-- A name with the text in it in lower case. -/
def foldName : AltName → AltName
  | .dns name => .dns (folded name)
  | .email address => .email (folded address)
  | .ip address => .ip address
  | .uri text => .uri (folded text)
  | .directory name => .directory (folded name)
  | .other text => .other (folded text)

/-- A subtree with the text in it in lower case. -/
def foldSubtree : NameSubtree → NameSubtree
  | .dns name => .dns (folded name)
  | .email address => .email (folded address)
  | .uri host => .uri (folded host)
  | .ip addressAndMask => .ip addressAndMask
  | .other text => .other (folded text)

theorem within_folded (name : AltName) (s : NameSubtree) :
    Within (foldName name) (foldSubtree s) ↔ Within name s := by
  cases name <;> cases s <;>
    simp only [foldName, foldSubtree, Within, lowered_folded, uriHost?_folded]

theorem sameForm_folded (name : AltName) (s : NameSubtree) :
    SameForm (foldName name) (foldSubtree s) ↔ SameForm name s := by
  cases name <;> cases s <;> simp only [foldName, foldSubtree, SameForm]

theorem admitted_folded (permitted excluded : List NameSubtree) (name : AltName) :
    Admitted (permitted.map foldSubtree) (excluded.map foldSubtree) (foldName name) ↔
      Admitted permitted excluded name := by
  simp only [Admitted, List.mem_map, forall_exists_index, and_imp, forall_apply_eq_imp_iff₂,
    exists_exists_and_eq_and, within_folded, sameForm_folded]

/-- Neither the order of subtrees nor the case of texts decides which names are admitted. -/
theorem admitted_congr {permitted permitted' excluded excluded' : List NameSubtree}
    {name name' : AltName}
    (hpermitted : (permitted.map foldSubtree).Perm (permitted'.map foldSubtree))
    (hexcluded : (excluded.map foldSubtree).Perm (excluded'.map foldSubtree))
    (hname : foldName name = foldName name') :
    Admitted permitted excluded name ↔ Admitted permitted' excluded' name' := by
  rw [← admitted_folded permitted, ← admitted_folded permitted', hname]
  simp only [Admitted, hpermitted.mem_iff, hexcluded.mem_iff]

end CertAudit.NameConstraints
