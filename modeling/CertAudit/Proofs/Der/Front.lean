/- What a reader takes off the front of some bytes does not depend on what comes behind. -/
import CertAudit.Proofs.Der.Element
namespace CertAudit.Der

variable {α β : Type} {item : Bytes → Option (α × Bytes)} {f : α → Bytes → Option (β × Bytes)}

/-- A reader takes each item off the front of the bytes, whatever comes behind it. -/
def ReadsFront (item : Bytes → Option (α × Bytes)) : Prop :=
  ∀ bs x rest, item bs = some (x, rest) →
    ∃ front, bs = front ++ rest ∧ ∀ more, item (front ++ more) = some (x, more)

theorem readsFront_none : ReadsFront fun _ => (none : Option (α × Bytes)) := by
  intro bs x rest h
  cases h

theorem readsFront_some (x : α) : ReadsFront fun bs => some (x, bs) := by
  intro bs y rest h
  cases h
  exact ⟨[], rfl, fun _ => rfl⟩

theorem ReadsFront.bind (hitem : ReadsFront item) (hf : ∀ x, ReadsFront (f x)) :
    ReadsFront fun bs => (item bs).bind fun read => f read.1 read.2 := by
  intro bs y rest h
  obtain ⟨⟨x, middle⟩, hx, hy⟩ := Option.bind_eq_some_iff.mp h
  obtain ⟨front, rfl, hfront⟩ := hitem bs x middle hx
  obtain ⟨next, rfl, hnext⟩ := hf x middle y rest hy
  refine ⟨front ++ next, (List.append_assoc _ _ _).symm, fun more => ?_⟩
  simp only [List.append_assoc, hfront, Option.bind_some, hnext]

theorem ReadsFront.map (hitem : ReadsFront item) (g : α → β) :
    ReadsFront fun bs => (item bs).map fun read => (g read.1, read.2) := by
  simp only [Option.map_eq_bind]
  exact hitem.bind fun x => readsFront_some (g x)

theorem ReadsFront.ite {other : Bytes → Option (α × Bytes)} (hitem : ReadsFront item)
    (hother : ReadsFront other) (p : Prop) [Decidable p] :
    ReadsFront fun bs => if p then item bs else other bs := by
  split
  · exact hitem
  · exact hother

/-- A reader may look at one byte and then go on behind it. -/
theorem ReadsFront.cons {onByte : UInt8 → Bytes → Option (α × Bytes)}
    (hnil : item [] = none) (hcons : ∀ b bs, item (b :: bs) = onByte b bs)
    (hbyte : ∀ b, ReadsFront (onByte b)) : ReadsFront item := by
  intro bs x rest h
  cases bs with
  | nil =>
    rw [hnil] at h
    cases h
  | cons b bs =>
    rw [hcons] at h
    obtain ⟨front, rfl, hfront⟩ := hbyte b bs x rest h
    exact ⟨b :: front, rfl, fun more => (hcons _ _).trans (hfront more)⟩

theorem take?_append (front more : Bytes) :
    take? front.length (front ++ more) = some (front, more) := by
  simp [take?]

theorem take?_readsFront (n : Nat) : ReadsFront (take? n) := by
  intro bs front rest h
  have hfront : front.length = n := by
    simp only [take?] at h
    split at h
    · rename_i hlength
      cases h
      exact hlength
    · cases h
  refine ⟨front, take?_eq_append h, fun more => ?_⟩
  rw [← hfront, take?_append]

theorem readLongTag_readsFront (left n : Nat) : ReadsFront (readLongTag left n) := by
  induction left generalizing n with
  | zero =>
    intro bs x rest h
    cases bs <;> cases h
  | succ left ih =>
    exact .cons rfl (fun _ _ => rfl) fun b => (readsFront_some _).ite (ih _) _

theorem readTag_readsFront : ReadsFront readTag := by
  refine .cons rfl (fun _ _ => rfl) fun b => ?_
  simp only [readTag]
  split
  · exact (readLongTag_readsFront 5 0).map fun n => (classOf b, b.toNat / 32 % 2 == 1, n)
  · exact readsFront_some _

/-- The length that digits spell, if it is not too large. -/
def lengthOf? (digits bs : Bytes) : Option (Option Nat × Bytes) :=
  if Bytes.toNat digits < UInt64.size then some (some (Bytes.toNat digits), bs) else none

theorem readLength_readsFront : ReadsFront readLength := by
  have hlong : ∀ b : UInt8, ReadsFront fun bs =>
      (take? (b.toNat - 128) bs).bind fun read => lengthOf? read.1 read.2 := by
    intro b
    refine (take?_readsFront _).bind fun digits => ?_
    unfold lengthOf?
    split
    · exact readsFront_some _
    · exact readsFront_none
  refine .cons rfl (fun _ _ => rfl) fun b => ?_
  simp only [readLength]
  split
  · exact readsFront_some _
  · split
    · exact readsFront_some _
    · split
      · exact readsFront_none
      · exact hlong b

theorem readOpenHeader_readsFront : ReadsFront readOpenHeader := by
  have hlength : ∀ tag : TagClass × Bool × Nat, ReadsFront fun bs =>
      (readLength bs).bind fun read =>
        if read.1.isNone && !tag.2.1 then none
        else some (Header.mk tag.1 tag.2.1 tag.2.2 read.1, read.2) :=
    fun tag => readLength_readsFront.bind fun length =>
      readsFront_none.ite (readsFront_some (Header.mk tag.1 tag.2.1 tag.2.2 length))
        ((length.isNone && !tag.2.1) = true)
  exact readTag_readsFront.bind hlength

/-- The bytes of an element are an element on their own, and behind any other bytes. -/
theorem read_readsFront : ReadsFront read := by
  have hbody : ∀ h : Header, ReadsFront fun bs => h.length.bind fun length =>
      (take? length bs).bind fun read =>
        some (Element.mk h.tagClass h.constructed h.tag read.1, read.2) := by
    intro h
    cases h.length with
    | none => exact readsFront_none
    | some length => exact (take?_readsFront length).bind fun content => readsFront_some _
  have hread : read = fun bs => (readOpenHeader bs).bind fun header =>
      header.1.length.bind fun length => (take? length header.2).bind fun content =>
        some (Element.mk header.1.tagClass header.1.constructed header.1.tag content.1,
          content.2) := by
    funext bs
    simp only [read, readHeader, bind, Option.bind_assoc]
    rfl
  rw [hread]
  exact readOpenHeader_readsFront.bind hbody

theorem readContent_readsFront (tag : Nat) : ReadsFront (readContent tag) := by
  have htagged : ReadsFront (readTagged tag) :=
    read_readsFront.bind fun e => (readsFront_some e).ite readsFront_none (e.tag = tag)
  exact htagged.map Element.content

/-- The header in front of a content is a header in front of any other bytes too. -/
theorem exists_header_of_readContent {tag : Nat} {bs content rest : Bytes}
    (h : readContent tag bs = some (content, rest)) :
    ∃ front header, bs = front ++ (content ++ rest) ∧
      ∀ more, readOpenHeader (front ++ more) = some (header, more) := by
  obtain ⟨⟨e, _⟩, htagged, heq⟩ := Option.map_eq_some_iff.mp h
  cases heq
  obtain ⟨⟨e', _⟩, hread, htagged⟩ := Option.bind_eq_some_iff.mp htagged
  obtain ⟨⟨_, _, body⟩, hheader, hread⟩ := Option.bind_eq_some_iff.mp hread
  obtain ⟨⟨content, rest'⟩, htake, hread⟩ := Option.bind_eq_some_iff.mp hread
  obtain ⟨⟨header, body'⟩, hopen, hheader⟩ := Option.bind_eq_some_iff.mp hheader
  obtain ⟨length, _, hheader⟩ := Option.bind_eq_some_iff.mp hheader
  cases hheader
  cases hread
  dsimp only at htagged
  split at htagged
  · cases htagged
    obtain ⟨front, rfl, hfront⟩ := readOpenHeader_readsFront _ _ _ hopen
    exact ⟨front, _, by rw [take?_eq_append htake], hfront⟩
  · cases htagged

theorem readMany_nil (item : Bytes → Option (α × Bytes)) : readMany item [] = ([], []) := by
  rw [readMany]
  cases item [] <;> simp

/-- The bytes that items have been read from hold the same items on their own, and nothing else. -/
theorem readMany_front (hitem : ReadsFront item) (bs : Bytes) :
    ∃ front, bs = front ++ (readMany item bs).2 ∧
      readMany item front = ((readMany item bs).1, []) := by
  fun_induction readMany item bs with
  | case1 bs hnone => exact ⟨[], rfl, readMany_nil item⟩
  | case2 bs x rest hread hshorter xs unread hmany ih =>
    obtain ⟨taken, rfl, htaken⟩ := hitem _ _ _ hread
    obtain ⟨front, hrest, hfront⟩ := ih
    rw [hmany] at hrest hfront
    have hless : front.length < (taken ++ front).length := by
      simp only [List.length_append] at hshorter ⊢
      omega
    refine ⟨taken ++ front, by rw [List.append_assoc, ← hrest], ?_⟩
    rw [readMany, htaken]
    simp only [hless, if_true, hfront]
  | case3 bs x rest hread hlonger => exact ⟨[], rfl, readMany_nil item⟩

theorem readMany_map (f : α → β) (bs : Bytes) :
    readMany (fun bs => (item bs).map fun read => (f read.1, read.2)) bs =
      ((readMany item bs).1.map f, (readMany item bs).2) := by
  fun_induction readMany item bs with
  | case1 bs hnone =>
    rw [readMany, hnone]
    rfl
  | case2 bs x rest hread hshorter xs unread hmany ih =>
    rw [readMany, hread]
    simp only [Option.map_some, hshorter, if_true, ih, hmany, List.map_cons]
  | case3 bs x rest hread hlonger =>
    rw [readMany, hread]
    simp only [Option.map_some, hlonger, if_false, List.map_nil]

theorem readAll_map (f : α → β) (bs : Bytes) :
    readAll (fun bs => (item bs).map fun read => (f read.1, read.2)) bs =
      (readAll item bs).map (List.map f) := by
  simp only [readAll, readMany_map]
  obtain ⟨xs, unread⟩ := readMany item bs
  cases unread <;> rfl

theorem readSequenceOf_map (f : α → β) (bs : Bytes) :
    readSequenceOf (fun bs => (item bs).map fun read => (f read.1, read.2)) bs =
      (readSequenceOf item bs).map fun read => (read.1.map f, read.2) := by
  simp only [readSequenceOf, readAll_map, bind, Option.map_bind, Option.bind_map, Function.comp_def,
    Option.map_some]

end CertAudit.Der
