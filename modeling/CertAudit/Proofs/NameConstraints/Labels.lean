/- A subtree of hosts by labels: the hosts that end in the labels of its domain. -/
import CertAudit.Proofs.Bytes.Utf8
import CertAudit.Proofs.NameConstraints.Matching
namespace CertAudit.NameConstraints

variable {host domain outer : List Char}

def labels (host : List Char) : List (List Char) := CharList.split '.' host

theorem labels_injective : Function.Injective labels := CharList.split_injective '.'

theorem labels_append_point (before after : List Char) :
    labels (before ++ '.' :: after) = labels before ++ labels after :=
  CharList.split_append_cons '.' before after

/-- Some of the first labels of a host are the labels of what they make up. -/
theorem exists_labels_eq {front : List (List Char)} (hne : front ≠ [])
    (h : front ++ labels domain = labels host) : ∃ before, labels before = front := by
  refine ⟨['.'].intercalate front, CharList.split_intercalate ?_ hne⟩
  intro label hlabel
  have hmem : label ∈ labels host := h ▸ List.mem_append_left _ hlabel
  exact CharList.not_mem_of_mem_split hmem

theorem labels_suffix_iff :
    labels domain <:+ labels host ↔ host = domain ∨ '.' :: domain <:+ host := by
  constructor
  · rintro ⟨front, hfront⟩
    by_cases hne : front = []
    · rw [hne, List.nil_append] at hfront
      exact .inl (labels_injective hfront.symm)
    · obtain ⟨before, rfl⟩ := exists_labels_eq hne hfront
      rw [← labels_append_point] at hfront
      exact .inr ⟨before, labels_injective hfront⟩
  · rintro (rfl | ⟨before, rfl⟩)
    · exact List.suffix_refl _
    · rw [labels_append_point]
      exact List.suffix_append _ _

theorem labels_proper_suffix_iff :
    (labels domain <:+ labels host ∧ labels domain ≠ labels host) ↔ '.' :: domain <:+ host := by
  rw [labels_suffix_iff, labels_injective.ne_iff]
  constructor
  · rintro ⟨rfl | hbelow, hne⟩
    · exact absurd rfl hne
    · exact hbelow
  · intro hbelow
    refine ⟨.inr hbelow, ?_⟩
    rintro rfl
    exact absurd hbelow.length_le (Nat.not_succ_le_self _)

/-- A host ends in the labels of a domain, and has more of them if the domain has a point in
front. -/
def EndsIn (host domain : List Char) : Prop :=
  (domain.head? ≠ some '.' ∧ labels domain <:+ labels host) ∨
    ∃ below, domain = '.' :: below ∧ labels below <:+ labels host ∧ labels below ≠ labels host

theorem hostIn_iff_endsIn (hne : domain ≠ []) : hostIn host domain = true ↔ EndsIn host domain := by
  rw [hostIn_iff, HostWithin, EndsIn, labels_suffix_iff]
  simp only [hne, false_or, labels_proper_suffix_iff]
  rw [or_comm]
  refine or_congr_right ?_
  constructor
  · rintro ⟨hpoint, hsuffix⟩
    obtain ⟨below, rfl⟩ := List.head?_eq_some_iff.mp hpoint
    exact ⟨below, rfl, hsuffix⟩
  · rintro ⟨below, rfl, hsuffix⟩
    exact ⟨rfl, hsuffix⟩

theorem HostWithin.suffix (h : HostWithin host domain) : domain <:+ host := by
  rcases h with rfl | ⟨-, hsuffix⟩ | ⟨-, rfl | hsuffix⟩
  · exact List.nil_suffix
  · exact hsuffix
  · exact List.suffix_refl _
  · exact (List.suffix_cons '.' domain).trans hsuffix

/-- What is below a domain is in every subtree that the domain itself, read as a host, is in. -/
theorem HostWithin.trans (h : HostWithin host domain) (houter : HostWithin domain outer) :
    HostWithin host outer := by
  rcases houter with rfl | ⟨hpoint, hsuffix⟩ | ⟨hplain, rfl | hsuffix⟩
  · exact .inl rfl
  · exact .inr (.inl ⟨hpoint, hsuffix.trans h.suffix⟩)
  · exact h
  · exact .inr (.inr ⟨hplain, .inr (hsuffix.trans h.suffix)⟩)

/-- As `hostIn`, on texts in UTF-8: the byte in front of the domain has to be a point. -/
def hostInBytes (host domain : Bytes) : Bool :=
  if domain.isEmpty then true
  else if domain.head? == some 0x2e then domain.isSuffixOf host
  else host == domain ||
    (domain.length < host.length && domain.isSuffixOf host &&
      host[host.length - domain.length - 1]? == some 0x2e)

theorem cons_suffix_iff {α : Type} {a : α} {back all : List α} :
    a :: back <:+ all ↔ back.length < all.length ∧ back <:+ all ∧
      all[all.length - back.length - 1]? = some a := by
  have hplace : ∀ (front : List α) (b : α),
      (front ++ b :: back)[(front ++ b :: back).length - back.length - 1]? = some b := by
    intro front b
    have hlength : (front ++ b :: back).length - back.length - 1 = front.length := by
      rw [List.length_append, List.length_cons]
      omega
    rw [hlength, List.getElem?_append_right (Nat.le_refl _), Nat.sub_self, List.getElem?_cons_zero]
  constructor
  · rintro ⟨front, rfl⟩
    refine ⟨?_, (List.suffix_cons a back).trans (List.suffix_append front _), hplace front a⟩
    rw [List.length_append, List.length_cons]
    omega
  · rintro ⟨hlt, ⟨front, rfl⟩, hget⟩
    rcases List.eq_nil_or_concat front with rfl | ⟨front, b, rfl⟩
    · exact absurd hlt (Nat.lt_irrefl _)
    · rw [List.concat_eq_append, List.append_assoc, List.singleton_append] at hget ⊢
      rw [hplace front b] at hget
      cases hget
      exact List.suffix_append _ _

theorem ofString_head?_eq_point (s : String) :
    (Bytes.ofString s).head? = some 0x2e ↔ s.toList.head? = some '.' := by
  rw [Bytes.ofString_eq_flatMap]
  cases s.toList with
  | nil => simp
  | cons c cs =>
    obtain ⟨b, rest, hc⟩ := List.exists_cons_of_ne_nil (String.utf8EncodeChar_ne_nil (c := c))
    simp only [List.flatMap_cons, hc, List.cons_append, List.head?_cons, Option.some.injEq]
    constructor
    · rintro rfl
      exact Char.toNat_inj.mp (Bytes.toNat_of_encodeChar hc (by decide))
    · rintro rfl
      exact (List.cons.inj hc).1.symm

/-- Both ways of matching agree on every text. -/
theorem hostInBytes_ofString (host domain : String) :
    hostInBytes (Bytes.ofString host) (Bytes.ofString domain) =
      hostIn host.toList domain.toList := by
  have hbelow : (0x2e :: Bytes.ofString domain <:+ Bytes.ofString host) ↔
      '.' :: domain.toList <:+ host.toList := by
    have hpoint : Bytes.ofString ("." ++ domain) = 0x2e :: Bytes.ofString domain :=
      Bytes.ofString_append "." domain
    rw [← hpoint, Bytes.ofString_suffix_iff, String.toList_append]
    rfl
  have hempty : Bytes.ofString domain = [] ↔ domain.toList = [] := by
    rw [String.toList_eq_nil_iff]
    exact Bytes.ofString_injective.eq_iff' rfl
  rw [Bool.eq_iff_iff, hostIn_iff, HostWithin, Ne, ← hempty, ← ofString_head?_eq_point, ← hbelow,
    ← Bytes.ofString_suffix_iff, cons_suffix_iff, String.toList_inj,
    ← Bytes.ofString_injective.eq_iff]
  unfold hostInBytes
  split
  · rename_i hnil
    simp [List.isEmpty_iff.mp hnil]
  · rename_i hne
    split
    · rename_i hpoint
      simp [beq_iff_eq.mp hpoint, mt List.isEmpty_iff.mpr hne]
    · rename_i hplain
      simp [mt beq_iff_eq.mpr hplain, mt List.isEmpty_iff.mpr hne, and_assoc]

/-- A host is in the subtree of a domain by its labels, also where the bytes are compared, and in
every subtree that the domain is in. -/
theorem hostIn_labels (host domain outer : String) :
    (domain ≠ "" →
      (hostIn host.toList domain.toList = true ↔ EndsIn host.toList domain.toList)) ∧
    (domain = "" → hostIn host.toList domain.toList = true) ∧
    hostInBytes (Bytes.ofString host) (Bytes.ofString domain) =
      hostIn host.toList domain.toList ∧
    (hostIn host.toList domain.toList = true → hostIn domain.toList outer.toList = true →
      hostIn host.toList outer.toList = true) := by
  refine ⟨?_, ?_, hostInBytes_ofString host domain, ?_⟩
  · intro hne
    exact hostIn_iff_endsIn (mt String.toList_eq_nil_iff.mp hne)
  · rintro rfl
    rfl
  · intro hdomain houter
    rw [hostIn_iff] at hdomain houter ⊢
    exact hdomain.trans houter

theorem hostIn_labels_subdomain :
    EndsIn "www.example.com".toList ".example.com".toList ∧
      hostIn "www.example.com".toList "example.com".toList = true := by
  obtain ⟨hiff, _, _, htrans⟩ := hostIn_labels "www.example.com" ".example.com" "example.com"
  exact ⟨(hiff (by decide)).mp (by decide), htrans (by decide) (by decide)⟩

end CertAudit.NameConstraints
