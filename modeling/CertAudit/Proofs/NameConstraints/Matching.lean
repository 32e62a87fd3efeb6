/- When a name is in a subtree, said for each form of names without reference to the checks. -/
import CertAudit.Operator.NameConstraints
import CertAudit.Proofs.Text.Split
namespace CertAudit.NameConstraints

theorem afterLast?_append {sep : Char} (before : List Char) {last : List Char} (h : sep ∉ last) :
    afterLast? sep (before ++ sep :: last) = some last := by
  have hmem : sep ∈ before ++ sep :: last := List.mem_append_right before List.mem_cons_self
  rw [afterLast?, if_pos (List.contains_iff_mem.mpr hmem), CharList.split_append_cons,
    CharList.split_of_not_mem h, List.getLast?_concat]

theorem afterLast?_of_not_mem {sep : Char} {cs : List Char} (h : sep ∉ cs) :
    afterLast? sep cs = none := by
  rw [afterLast?, if_neg (mt List.contains_iff_mem.mp h)]

/-- A host is in the subtree of a domain: it is the domain or a host below it. Every host is in that
of the empty domain, and only hosts below are in that of a domain with a point in front. -/
def HostWithin (host domain : List Char) : Prop :=
  domain = [] ∨ (domain.head? = some '.' ∧ domain <:+ host) ∨
    (domain.head? ≠ some '.' ∧ (host = domain ∨ '.' :: domain <:+ host))

/-- A mail address is in the subtree of an address that it is, or of a domain that its host is
in. -/
def AddressWithin (address subtree : List Char) : Prop :=
  ('@' ∈ subtree ∧ address = subtree) ∨
    ('@' ∉ subtree ∧ ∃ mailbox host, address = mailbox ++ '@' :: host ∧ '@' ∉ host ∧
      HostWithin host subtree)

/-- An address is in a subtree given by a base and a mask of its width: it agrees with the base in
the bits of the mask. -/
def IpWithin (address addressAndMask : Bytes) : Prop :=
  (address.length = 4 ∨ address.length = 16) ∧ addressAndMask.length = 2 * address.length ∧
    ∀ i a b m, address[i]? = some a → addressAndMask[i]? = some b →
      addressAndMask[address.length + i]? = some m → a &&& m = b &&& m

theorem hostIn_iff {host domain : List Char} :
    hostIn host domain = true ↔ HostWithin host domain := by
  unfold hostIn HostWithin
  split
  · simp
  · simp
  · rename_i hnil hdot
    have hne : domain ≠ [] := hnil
    have hhead : domain.head? ≠ some '.' := by
      obtain ⟨c, rest, rfl⟩ := List.exists_cons_of_ne_nil hne
      rw [List.head?_cons]
      exact fun h => hdot rest (by rw [Option.some.inj h])
    simp [hhead, hne]

theorem addressIn_iff {address subtree : List Char} :
    addressIn address subtree = true ↔ AddressWithin address subtree := by
  unfold addressIn AddressWithin
  by_cases hsubtree : '@' ∈ subtree
  · simp [hsubtree]
  · by_cases haddress : '@' ∈ address
    · obtain ⟨mailbox, host, rfl, hhost⟩ := CharList.exists_last_of_mem haddress
      simp only [List.contains_iff_mem, hsubtree, if_false, afterLast?_append mailbox hhost,
        hostIn_iff, false_and, false_or, not_false_eq_true, true_and]
      constructor
      · exact fun h => ⟨mailbox, host, rfl, hhost, h⟩
      · rintro ⟨mailbox', host', hsame, hhost', h⟩
        have hlast := afterLast?_append mailbox hhost
        rw [hsame, afterLast?_append mailbox' hhost'] at hlast
        exact Option.some.inj hlast ▸ h
    · simp only [List.contains_iff_mem, hsubtree, if_false, afterLast?_of_not_mem haddress,
        Bool.false_eq_true, false_and, false_or, not_false_eq_true, true_and, false_iff]
      rintro ⟨mailbox, host, rfl, _⟩
      exact haddress (List.mem_append_right mailbox List.mem_cons_self)

theorem ipIn_iff {address addressAndMask : Bytes} :
    ipIn address addressAndMask = true ↔ IpWithin address addressAndMask := by
  have hmask : ∀ i : Nat, (addressAndMask.drop address.length)[i]? =
      addressAndMask[address.length + i]? := fun i => List.getElem?_drop
  have hbase : ∀ (i : Nat) (a : UInt8), address[i]? = some a →
      (addressAndMask.take address.length)[i]? = addressAndMask[i]? := by
    intro i a ha
    exact List.getElem?_take_of_lt (List.getElem?_eq_some_iff.mp ha).1
  simp only [ipIn, IpWithin, Bool.and_eq_true, Bool.or_eq_true, beq_iff_eq, List.all_eq_true]
  constructor
  · rintro ⟨⟨hwidth, haddress⟩, hagree⟩
    refine ⟨haddress, hwidth, ?_⟩
    intro i a b m ha hb hm
    refine hagree (a, b, m) (List.mem_of_getElem? (i := i) ?_)
    simp only [List.getElem?_zip_eq_some]
    exact ⟨ha, (hbase i a ha).trans hb, (hmask i).trans hm⟩
  · rintro ⟨haddress, hwidth, hagree⟩
    refine ⟨⟨hwidth, haddress⟩, ?_⟩
    rintro ⟨a, b, m⟩ hmem
    obtain ⟨i, hi⟩ := List.mem_iff_getElem?.mp hmem
    simp only [List.getElem?_zip_eq_some] at hi
    obtain ⟨ha, hb, hm⟩ := hi
    exact hagree i a b m ha ((hbase i a ha).symm.trans hb) ((hmask i).symm.trans hm)

end CertAudit.NameConstraints
