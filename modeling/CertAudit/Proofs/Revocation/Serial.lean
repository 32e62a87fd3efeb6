/- Serial numbers in revocation lists and in answers are compared as the integers that they spell,
however these are padded. -/
import CertAudit.Proofs.Bytes.Shortest
import CertAudit.Proofs.Certificate.Trailing
import CertAudit.Proofs.Revocation.Response.RoundTrip
import CertAudit.Proofs.Table
namespace CertAudit

namespace RevocationList

variable {bs serial : Bytes} {l : RevocationList} {lists : List RevocationList}

/-- Reads an entry for its serial number, as it is encoded. -/
def readSerial (bs : Bytes) : Option (Bytes × Bytes) := do
  let (content, rest) ← Der.readContent Der.Tag.sequence bs
  let (serial, content) ← CertificateBody.readSerial content
  let _ ← Der.readTime content
  some (serial, rest)

/-- Passes over what stands in front of the entries in a body. -/
def skipToEntries (bs : Bytes) : Option Bytes := do
  let bs := match Der.readUInt32 bs with
    | some (_, rest) => rest
    | none => bs
  let (_, bs) ← AlgorithmId.read bs
  let (_, bs) ← Name.read bs
  let (_, bs) ← Der.readTime bs
  some (match Der.readTime bs with
    | some (_, rest) => rest
    | none => bs)

/-- The serial numbers of the entries in an encoding, as they are encoded. -/
def serialsIn (encoding : Bytes) : List Bytes :=
  let found := do
    let body ← SignedBytes.bodyIn? encoding
    let entries ← skipToEntries body
    let (serials, _) ← Der.readSequenceOf readSerial entries
    some serials
  found.getD []

theorem readEntry_serial : (fun bs => (readEntry bs).map fun read => (read.1.serial, read.2)) =
    fun bs => (readSerial bs).map fun read => (Bytes.stripLeadingZeros read.1, read.2) := by
  funext bs
  -- Extensions that cannot be read do not make an entry fail, so both readers fail together.
  simp only [readEntry, readSerial, bind, Option.map_bind, Function.comp_def, Option.map_some]

/-- Without leading zeros these are the serial numbers that the entries keep. -/
theorem readEntries_serials (bs : Bytes) : (readEntries bs).1.map RevokedEntry.serial =
    (((Der.readSequenceOf readSerial bs).map Prod.fst).getD []).map Bytes.stripLeadingZeros := by
  have h : Der.readSequenceOf (fun bs => (readEntry bs).map fun read =>
        (read.1.serial, read.2)) bs =
      (Der.readSequenceOf readEntry bs).map fun read =>
        (read.1.map RevokedEntry.serial, read.2) :=
    Der.readSequenceOf_map RevokedEntry.serial bs
  rw [readEntry_serial, Der.readSequenceOf_map] at h
  rw [readEntries]
  cases hentries : Der.readSequenceOf readEntry bs with
  | none =>
    rw [hentries] at h
    rw [Option.map_eq_none_iff.mp h]
    rfl
  | some found =>
    rw [hentries] at h
    obtain ⟨serials, hserials, heq⟩ := Option.map_eq_some_iff.mp h
    rw [hserials]
    exact (Prod.ext_iff.mp heq).1.symm

theorem exists_entries_of_readBody (h : readBody bs = some l) :
    ∃ entries, skipToEntries bs = some entries ∧ l.revoked = (readEntries entries).1 := by
  simp only [readBody, bind, Option.bind_eq_some_iff] at h
  obtain ⟨⟨_, afterAlgorithm⟩, halgorithm, ⟨_, afterIssuer⟩, hissuer, ⟨_, afterTime⟩, htime,
    _, _, h⟩ := h
  cases h
  refine ⟨_, ?_, rfl⟩
  refine Option.bind_eq_some_iff.mpr ⟨_, halgorithm, ?_⟩
  refine Option.bind_eq_some_iff.mpr ⟨_, hissuer, ?_⟩
  refine Option.bind_eq_some_iff.mpr ⟨_, htime, ?_⟩
  dsimp only
  cases Der.readTime afterTime <;> rfl

theorem revoked_serials (h : ofEncoding bs = .ok l) :
    l.revoked.map RevokedEntry.serial = (serialsIn bs).map Bytes.stripLeadingZeros := by
  simp only [ofEncoding] at h
  split at h
  · cases h
  · next value signed rest hread =>
    cases h
    obtain ⟨body, hbody, hvalue⟩ := SignedBytes.exists_body_of_read hread
    obtain ⟨entries, hentries, hrevoked⟩ := exists_entries_of_readBody hvalue
    have hserials : serialsIn bs =
        ((Der.readSequenceOf readSerial entries).map Prod.fst).getD [] := by
      simp only [serialsIn, hbody, hentries, bind, Option.bind_some]
      cases Der.readSequenceOf readSerial entries <;> rfl
    rw [hserials, ← readEntries_serials]
    exact congrArg (List.map RevokedEntry.serial) hrevoked

/-- Every list that is read has an encoding of its own, from which it is read again. -/
theorem ofEncoding_of_ofBytes (h : ofBytes bs = .ok lists) (hl : l ∈ lists) :
    ofEncoding l.encoding = .ok l := by
  simp only [ofBytes] at h
  split at h
  · obtain ⟨blocks, broken, hlayout, _⟩ := Armor.existsUnique_layout bs
    have hholds := (Armor.ofArmor_eq_ok_iff hlayout).mp h
    obtain ⟨i, hi, rfl⟩ := List.getElem_of_mem hl
    have hblock := hholds.each.length_eq ▸ hi
    exact readsEncoding.alone (hholds.each.get hblock hi)
  · cases hread : ofEncoding bs with
    | error fault =>
      rw [hread] at h
      cases h
    | ok found =>
      rw [hread] at h
      cases h
      rw [List.mem_singleton.mp hl]
      exact readsEncoding.alone hread

/-- Looking an entry up by its bytes finds the first one whose serial number spells the integer. -/
theorem find?_serial {contents : List Bytes} {entries : List RevokedEntry}
    (hentries : entries.map RevokedEntry.serial = contents.map Bytes.stripLeadingZeros)
    (hcontents : ∀ content ∈ contents, content ≠ []) (hserial : serial ≠ []) :
    entries.find? (fun r => r.serial == Bytes.stripLeadingZeros serial) =
      entries[(contents.map Bytes.toNat).idxOf (Bytes.toNat serial)]? := by
  induction contents generalizing entries with
  | nil =>
    obtain rfl := List.map_eq_nil_iff.mp hentries
    rfl
  | cons content contents ih =>
    obtain ⟨r, entries, rfl, hr, hrest⟩ := List.map_eq_cons_iff.mp hentries
    obtain ⟨hcontent, hcontents⟩ := List.forall_mem_cons.mp hcontents
    have hsame := Bytes.stripLeadingZeros_eq_iff hcontent hserial
    rw [List.find?_cons, hr, List.map_cons, List.idxOf_cons]
    by_cases heq : Bytes.toNat content = Bytes.toNat serial
    · rw [hsame.mpr heq, heq]
      simp
    · rw [beq_false_of_ne (mt hsame.mp heq), beq_false_of_ne heq]
      exact ih hrest hcontents

end RevocationList

namespace ResponseReader

variable {bs rest : Bytes} {e : Der.Element} {s : SingleResponse} {rs : List SingleResponse}

/-- Reads the answer about one certificate for its serial number, as it is encoded. -/
def readSerial (bs : Bytes) : Option (Bytes × Bytes) := do
  let (answer, rest) ← Der.read bs
  let (id, _) ← Der.read answer.content
  let (_, afterAlgorithm) ← Der.read id.content
  let (_, afterName) ← Der.read afterAlgorithm
  let (_, afterKey) ← Der.read afterName
  let (serial, _) ← Der.read afterKey
  some (serial.content, rest)

/-- Reads who answers, behind a version if there is one. -/
def readResponder (bs : Bytes) : Option (Der.Element × Bytes) := do
  let (first, rest) ← Der.read bs
  if isContext first 0 then Der.read rest else some (first, rest)

/-- The serial numbers of the answers in what is signed, as they are encoded. -/
def serialsIn (body : Bytes) : List Bytes :=
  let found := do
    let (data, _) ← Der.read body
    let (_, afterResponder) ← readResponder data.content
    let (_, afterTime) ← Der.read afterResponder
    let (list, _) ← Der.read afterTime
    some (Der.readMany readSerial list.content).1
  found.getD []

theorem exists_serial_of_single (hread : Der.read bs = some (e, rest))
    (h : single e.content = .ok s) :
    ∃ content, readSerial bs = some (content, rest) ∧
      s.serial = Bytes.stripLeadingZeros content := by
  obtain ⟨⟨id, _⟩, hid, h⟩ := exists_of_bind h
  obtain ⟨⟨_, afterAlgorithm⟩, halgorithm, h⟩ := exists_of_bind h
  obtain ⟨_, _, h⟩ := exists_of_bind h
  obtain ⟨⟨_, afterName⟩, hname, h⟩ := exists_of_bind h
  obtain ⟨⟨_, afterKey⟩, hkey, h⟩ := exists_of_bind h
  obtain ⟨⟨serial, _⟩, hserial, h⟩ := exists_of_bind h
  obtain ⟨_, _, h⟩ := exists_of_bind h
  obtain ⟨_, _, h⟩ := exists_of_bind h
  obtain ⟨_, _, h⟩ := exists_of_bind h
  obtain ⟨_, _, h⟩ := exists_of_bind h
  obtain ⟨_, _, h⟩ := exists_of_bind h
  cases h
  refine ⟨serial.content, ?_, rfl⟩
  have hid := (expect_eq_ok_iff.mp hid).read
  have halgorithm := (expect_eq_ok_iff.mp halgorithm).read
  have hname := (expect_eq_ok_iff.mp hname).read
  have hkey := (expect_eq_ok_iff.mp hkey).read
  have hserial := (expect_eq_ok_iff.mp hserial).read
  simp only [readSerial, hread, hid, halgorithm, hname, hkey, hserial, bind, Option.bind_some]

/-- Without leading zeros these are the serial numbers that the answers keep. -/
theorem singles_serials (h : singles bs = .ok rs) :
    rs.map SingleResponse.serial =
      (Der.readMany readSerial bs).1.map Bytes.stripLeadingZeros := by
  fun_induction singles bs generalizing rs with
  | case1 bs hempty =>
    cases h
    rw [List.isEmpty_iff.mp hempty, Der.readMany]
    rfl
  | case2 => cases h
  | case3 => cases h
  | case4 => cases h
  | case5 bs hmore e rest hexpect hshorter s hsingle rest' hrest ih =>
    cases h
    obtain ⟨content, hcontent, hserial⟩ :=
      exists_serial_of_single (expect_eq_ok_iff.mp hexpect).read hsingle
    rw [Der.readMany, hcontent]
    simp only [hshorter, if_true, List.map_cons, hserial, ih hrest]
  | case6 => cases h

theorem data_serials {body : Bytes} {answers : Option Responder × Timestamp × List SingleResponse}
    (hbody : Der.read body = some (e, rest)) (h : data e.content = .ok answers) :
    answers.2.2.map SingleResponse.serial = (serialsIn body).map Bytes.stripLeadingZeros := by
  obtain ⟨⟨first, afterFirst⟩, hfirst, h⟩ := exists_of_bind h
  obtain ⟨⟨field, afterResponder⟩, hfield, h⟩ := exists_of_ite_bind h
  obtain ⟨_, _, h⟩ := exists_of_bind h
  obtain ⟨⟨_, afterTime⟩, htime, h⟩ := exists_of_bind h
  obtain ⟨_, _, h⟩ := exists_of_bind h
  obtain ⟨⟨list, _⟩, hlist, h⟩ := exists_of_bind h
  obtain ⟨responses, hresponses, h⟩ := exists_of_bind h
  cases h
  obtain ⟨⟨_, _⟩, htime, heq⟩ := exists_of_bind htime
  cases heq
  have htime := (expect_eq_ok_iff.mp htime).read
  have hlist := (expect_eq_ok_iff.mp hlist).read
  have hresponder : readResponder e.content = some (field, afterResponder) := by
    refine Option.bind_eq_some_iff.mpr ⟨_, next_eq_ok_iff.mp hfirst, ?_⟩
    split at hfield
    · next hversion => exact (if_pos hversion).trans (next_eq_ok_iff.mp hfield)
    · next hversion =>
      cases hfield
      exact if_neg hversion
  have hserials : serialsIn body = (Der.readMany readSerial list.content).1 := by
    simp only [serialsIn, hbody, hresponder, htime, hlist, bind, Option.bind_some,
      Option.getD_some]
  rw [hserials]
  exact singles_serials hresponses

theorem responses_serials {r : StatusResponse} (h : StatusResponse.ofBytes bs = .ok r) :
    r.responses.map SingleResponse.serial =
      (serialsIn r.body).map Bytes.stripLeadingZeros := by
  obtain ⟨encoding, _, hresponse⟩ := exists_decodes_of_ofBytes h
  obtain ⟨_, _, _, ⟨_, rfl⟩ | ⟨_, _, hkeeps⟩⟩ := response_cases hresponse
  · rfl
  · obtain ⟨body, _, hbody, _, hdata⟩ := hkeeps.data
    exact data_serials hbody hdata

end ResponseReader

namespace Certificate

/-- The serial number in the encoding of a certificate, as it is encoded. -/
def serialIn (encoding : Bytes) : Bytes :=
  ((SignedBytes.bodyIn? encoding).bind CertificateBody.read).elim [] CertificateBody.serial

theorem serial_of_ofEncoding {bs : Bytes} {c : Certificate} (h : ofEncoding bs = .ok c) :
    c.serial = Bytes.stripLeadingZeros (serialIn bs) := by
  simp only [ofEncoding] at h
  split at h
  · cases h
  · next body signed rest hread =>
    split at h
    · cases h
    · cases h
      obtain ⟨fields, hfields, hbody⟩ := SignedBytes.exists_body_of_read hread
      simp only [serialIn, hfields, hbody, Option.bind_some, Option.elim_some]
      rfl

end Certificate

/-- The identifier of a digest algorithm. -/
def DigestAlgorithm.identifier : DigestAlgorithm → String
  | sha1 => Identifiers.digestSha1
  | sha256 => Identifiers.digestSha256
  | sha384 => Identifiers.digestSha384
  | sha512 => Identifiers.digestSha512

theorem digestAlgorithm?_eq_some_iff {oid : String} {a : DigestAlgorithm} :
    digestAlgorithm? oid = some a ↔ oid = a.identifier := by
  constructor
  · intro h
    simp only [digestAlgorithm?, Table.lookup_cons, List.lookup_nil] at h
    split_ifs at h with hsha1 hsha256 hsha384 hsha512
    · cases h
      exact hsha1
    · cases h
      exact hsha256
    · cases h
      exact hsha384
    · cases h
      exact hsha512
  · rintro rfl
    cases a <;> rfl

/-- An answer about a serial number is about the certificates whose numbers spell the same integer
and whose issuers have the hash that it gives, where that can be computed. -/
theorem SingleResponse.isAbout_iff {s : SingleResponse} {c : Certificate} {content : Bytes}
    (hs : s.serial = Bytes.stripLeadingZeros content) (hcontent : content ≠ [])
    (hc : c.serial ≠ []) :
    s.isAbout c = true ↔ Bytes.toNat content = Bytes.toNat c.serial ∧
      ∀ a : DigestAlgorithm, s.hashAlgorithm = a.identifier → c.issuer.encoding ≠ [] →
        s.issuerNameHash = Digest.compute a c.issuer.encoding := by
  rw [isAbout, hs, ← Bytes.stripLeadingZeros_eq_iff hcontent hc]
  by_cases hserial : Bytes.stripLeadingZeros content = Bytes.stripLeadingZeros c.serial
  · simp only [hserial, bne_self_eq_false, Bool.false_eq_true, if_false, true_and,
      ← digestAlgorithm?_eq_some_iff]
    cases digestAlgorithm? s.hashAlgorithm with
    | none => simp
    | some a =>
      simp only [Bool.or_eq_true, List.isEmpty_iff, beq_iff_eq, Option.some.injEq, forall_eq']
      constructor
      · intro h hne
        exact (h.resolve_left hne).symm
      · intro h
        rcases Decidable.eq_or_ne c.issuer.encoding [] with hnil | hne
        · exact .inl hnil
        · exact .inr (h hne).symm
  · simp [hserial]

namespace Revocation

/-- Entries of lists and answers about certificates are looked up by the integers that the serial
numbers spell, however many zeros these have in front: in a list it is the first entry with the
integer, and of the answers those with the integer and, where its algorithm is known, with the hash
of the issuer's name. -/
theorem matched_by_number :
    (∀ c : Certificate, c.IsRead → Certificate.serialIn c.encoding ≠ [] →
      c.serial ≠ [] ∧ Bytes.toNat c.serial = Bytes.toNat (Certificate.serialIn c.encoding)) ∧
    (∀ bs lists, RevocationList.ofBytes bs = .ok lists → ∀ l ∈ lists,
      (∀ content ∈ RevocationList.serialsIn l.encoding, content ≠ []) →
      ∀ serial, serial ≠ [] →
        let numbers := (RevocationList.serialsIn l.encoding).map Bytes.toNat
        ((l.find? serial).isSome = true ↔ Bytes.toNat serial ∈ numbers) ∧
          l.find? serial = l.revoked[numbers.idxOf (Bytes.toNat serial)]?) ∧
    ∀ bs r, StatusResponse.ofBytes bs = .ok r →
      List.Forall₂ (fun (s : SingleResponse) content => content ≠ [] → ∀ c : Certificate,
          c.serial ≠ [] →
          (s.isAbout c = true ↔ Bytes.toNat content = Bytes.toNat c.serial ∧
            ∀ a : DigestAlgorithm, s.hashAlgorithm = a.identifier → c.issuer.encoding ≠ [] →
              s.issuerNameHash = Digest.compute a c.issuer.encoding))
        r.responses (ResponseReader.serialsIn r.body) := by
  refine ⟨?_, ?_, ?_⟩
  · intro c ⟨bs, hread⟩ hne
    have hserial := Certificate.serial_of_ofEncoding (Certificate.readsEncoding.alone hread)
    rw [hserial, Bytes.stripLeadingZeros_eq_shortest hne, Bytes.toNat_shortest]
    exact ⟨Bytes.shortest_ne_nil _, rfl⟩
  · intro bs lists h l hl hcontents serial hserial numbers
    have hrevoked := RevocationList.revoked_serials (RevocationList.ofEncoding_of_ofBytes h hl)
    have hfind : l.find? serial = l.revoked[numbers.idxOf (Bytes.toNat serial)]? :=
      RevocationList.find?_serial hrevoked hcontents hserial
    have hlength : l.revoked.length = numbers.length := by
      simpa [numbers] using congrArg List.length hrevoked
    refine ⟨?_, hfind⟩
    rw [hfind, isSome_getElem?, hlength, List.idxOf_lt_length_iff]
  · intro bs r h
    have hserials : List.Forall₂ (· = ·) (r.responses.map SingleResponse.serial)
        ((ResponseReader.serialsIn r.body).map Bytes.stripLeadingZeros) := by
      rw [List.forall₂_eq_eq_eq]
      exact ResponseReader.responses_serials h
    rw [List.forall₂_map_left_iff, List.forall₂_map_right_iff] at hserials
    exact hserials.imp fun s content hs hcontent c hc => SingleResponse.isAbout_iff hs hcontent hc

/-- An entry for a serial number, revoked so many seconds after the first instant of 1970. -/
def listedEntry (serial : Bytes) (seconds : String) : Bytes :=
  Der.shortForm 0x30 (Der.shortForm 0x02 serial ++
    Der.shortForm 0x17 (Bytes.ofString ("7001010000" ++ seconds ++ "Z")))

/-- A list that names a certificate twice, at first with a zero in front of its number. -/
def paddedList : RevocationList :=
  { vacantList with
    revoked := [
      { serial := [7], date := { seconds := 0 }, reason := none },
      { serial := [7], date := { seconds := 1 }, reason := none }]
    encoding := SignedBytes.short (AlgorithmId.ed25519 ++ vacantList.issuer.encoding ++
      Timestamp.epoch ++
      Der.shortForm 0x30 (listedEntry [0, 7] "00" ++ listedEntry [7] "01")) }

/-- An answer about a certificate of the same authority, whose number needs a zero in front. -/
def paddedAnswer : Answer :=
  { version := none
    keyHash := [2]
    producedAt := ⟨1750000000, by decide⟩
    entries := [{
      algorithm := .sha1
      parameters := []
      issuerNameHash := Digest.compute .sha1 vacantList.issuer.encoding
      issuerKeyHash := [2]
      serial := 128
      standing := .good
      thisUpdate := ⟨1750000000, by decide⟩
      nextUpdate := none }]
    signatureAlgorithm := Der.encode 0x06 [0x2b, 0x65, 0x70]
    signature := [3] }

/-- The zeros make no difference: the certificate is found by a number with two of them, and the
answer is about the certificate whose number has none. -/
theorem matched_by_number_padded :
    Bytes.toNat Armor.firstCertificate.serial = 1 ∧
      RevocationList.ofBytes paddedList.encoding = .ok [paddedList] ∧
      paddedList.find? [0, 0, 7] =
        some { serial := [7], date := { seconds := 0 }, reason := none } ∧
      StatusResponse.ofBytes paddedAnswer.encoding = .ok paddedAnswer.meaning ∧
      ∃ s, paddedAnswer.meaning.responses = [s] ∧
        s.isAbout (.short 0x80 vacantList.issuer (.single [0x55, 4, 3] 0x0c "leaf")) = true ∧
        s.isAbout Armor.firstCertificate = false := by
  obtain ⟨hcertificates, hlists, hanswers⟩ := matched_by_number
  have hcertificate : Certificate.ofEncoding Armor.firstCertificate.encoding =
      .ok Armor.firstCertificate := by cbv
  have hlist : RevocationList.ofBytes paddedList.encoding = .ok [paddedList] := by cbv
  have hserials : RevocationList.serialsIn paddedList.encoding = [[0, 7], [7]] := by cbv
  have hfits : paddedAnswer.encoding.length < UInt64.size := by decide +kernel
  have hanswer : StatusResponse.ofBytes paddedAnswer.encoding = .ok paddedAnswer.meaning :=
    StatusResponse.ofBytes_of_response (ResponseReader.response_encoding hfits)
  have hnumbers : ResponseReader.serialsIn paddedAnswer.meaning.body = [[0, 128]] := by
    decide +kernel
  have habout := hanswers _ _ hanswer
  rw [hnumbers] at habout
  obtain ⟨habout, _⟩ := List.forall₂_cons.mp habout
  refine ⟨?_, hlist, ?_, hanswer, _, rfl, ?_, ?_⟩
  · have hserial : Certificate.serialIn Armor.firstCertificate.encoding = [1] := by cbv
    have hnumber := hcertificates _ ⟨_, hcertificate⟩
    rw [hserial] at hnumber
    exact (hnumber (by decide)).2
  · have hfound := hlists _ _ hlist paddedList (List.mem_singleton_self _)
    rw [hserials] at hfound
    exact (hfound (by decide) [0, 0, 7] (by decide)).2
  · refine (habout (by decide) _ (by decide)).mpr ⟨rfl, ?_⟩
    intro a ha _
    cases a with
    | sha1 => rfl
    | sha256 | sha384 | sha512 => exact absurd ha (by decide)
  · rw [← Bool.not_eq_true, habout (by decide) _ (by decide)]
    exact fun h => absurd h.1 (by decide)

end Revocation
end CertAudit
