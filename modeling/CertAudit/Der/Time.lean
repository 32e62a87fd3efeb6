/- Times of certificates and lists: two-digit years stand for 1950 to 2049, longer forms spell
the year out. -/
import CertAudit.Der.Element
import CertAudit.Time.Timestamp
namespace CertAudit.Der

/-- The value of two digits. -/
def twoDigits? (a b : UInt8) : Option Nat :=
  if 48 ≤ a ∧ a ≤ 57 ∧ 48 ≤ b ∧ b ≤ 57 then some ((a.toNat - 48) * 10 + (b.toNat - 48)) else none

/-- The offset that ends a time, in hours and minutes. The minutes take the sign of the hours. -/
def zone? : Bytes → Option Int
  | [0x5a] => some 0
  | [s, h1, h2, m1, m2] => do
    let h ← twoDigits? h1 h2
    let m ← twoDigits? m1 m2
    if h > 25 ∨ m > 59 then none
    else if s = 0x2b then some (h * 3600 + m * 60 : Nat)
    else if s = 0x2d then
      some (if h = 0 then (m * 60 : Nat) else -((h * 3600 + m * 60 : Nat) : Int))
    else none
  | _ => none

/-- Seconds, where two more characters come before the end; else none have been written. -/
def seconds? : Bytes → Option (Nat × Bytes)
  | a :: b :: rest => (twoDigits? a b).map fun s => (s, rest)
  | rest => some (0, rest)

/-- A month, a day, a time of day and what follows it. -/
structure Clock where
  month : Nat
  day : Nat
  second : Nat
  rest : Bytes

/-- Reads month, day, hours, minutes and seconds. -/
def clock? : Bytes → Option Clock
  | m1 :: m2 :: d1 :: d2 :: h1 :: h2 :: n1 :: n2 :: rest => do
    let month ← twoDigits? m1 m2
    let day ← twoDigits? d1 d2
    let hour ← twoDigits? h1 h2
    let minute ← twoDigits? n1 n2
    if rest.isEmpty then none
    else
      let (second, rest) ← seconds? rest
      if hour > 23 ∨ minute > 59 ∨ second > 59 then none
      else some ⟨month, day, hour * 3600 + minute * 60 + second, rest⟩
  | _ => none

/-- Up to three digits behind a point or comma, in milliseconds, or nothing at all. Where no
digit comes, an offset must; a fourth digit is passed over at the very end only. -/
def milliseconds? : Bytes → Option (Nat × Bytes)
  | c :: rest =>
    if c = 0x2e ∨ c = 0x2c then
      let (ds, rest) := rest.span fun b => 48 ≤ b && b ≤ 57
      let n := ds.foldl (fun n b => n * 10 + (b.toNat - 48)) 0
      match ds.length with
      | 0 => if rest.isEmpty then none else some (0, rest)
      | 1 => some (n * 100, rest)
      | 2 => some (n * 10, rest)
      | 3 => some (n, rest)
      | 4 => if rest.isEmpty then some (n / 10, rest) else none
      | _ => none
    else some (0, c :: rest)
  | [] => some (0, [])

/-- Whether a byte is a visible ASCII character, a blank or a delete sign. -/
def isVisible (b : UInt8) : Bool := 0x20 ≤ b && b ≤ 0x7f

/-- Whether the fields of a time are in their widest ranges: a day may be missing in its month. -/
def Clock.inRange (c : Clock) : Bool := c.month ≤ 12 && c.day ≤ 31

/-- Whether a content spells a time with a two-digit year, on whatever day. -/
def isUtcTime (content : Bytes) : Bool :=
  content.all isVisible &&
    match content with
    | y1 :: y2 :: rest =>
      (twoDigits? y1 y2).isSome &&
        (clock? rest).any fun c => c.inRange && (zone? c.rest).isSome
    | _ => false

/-- Whether a content spells a time with a four-digit year, on whatever day. -/
def isGeneralizedTime (content : Bytes) : Bool :=
  content.all isVisible &&
    match content with
    | y1 :: y2 :: y3 :: y4 :: rest =>
      (twoDigits? y1 y2).isSome && (twoDigits? y3 y4).isSome &&
        (clock? rest).any fun c => c.inRange &&
          (milliseconds? c.rest).any fun (_, rest) => rest.isEmpty || (zone? rest).isSome
    | _ => false

/-- The instant of a time with a two-digit year, shown at the offset it is written with. -/
def utcTime? (content : Bytes) : Option Timestamp :=
  if !content.all isVisible then none
  else match content with
    | y1 :: y2 :: rest => do
      let short ← twoDigits? y1 y2
      let c ← clock? rest
      let offset ← zone? c.rest
      let year := if short ≥ 50 then short + 1900 else short + 2000
      if !Calendar.isDate year c.month c.day then none
      else some (Timestamp.ofLocal year c.month c.day c.second 0 offset)
    | _ => none

/-- The instant of a time with a four-digit year. It is in UTC and says so with a `Z` at its end,
and its fraction stands behind a point. -/
def generalizedTime? (content : Bytes) : Option Timestamp :=
  if !content.all isVisible || content.getLast? != some 0x5a || content.contains 0x2c then none
  else match content with
    | y1 :: y2 :: y3 :: y4 :: rest => do
      let high ← twoDigits? y1 y2
      let low ← twoDigits? y3 y4
      let c ← clock? rest
      let (ms, rest) ← milliseconds? c.rest
      let _ ← zone? rest
      let year : Int := (high * 100 + low : Nat)
      if !Calendar.isDate year c.month c.day then none
      else some (Timestamp.ofLocal year c.month c.day c.second (ms * 1000000) 0)
    | _ => none

/-- Reads a time of either form. -/
def readTime (bs : Bytes) : Option (Timestamp × Bytes) := do
  let (e, rest) ← read bs
  if e.tag = Tag.utcTime then (utcTime? e.content).map fun t => (t, rest)
  else if e.tag = Tag.generalizedTime then (generalizedTime? e.content).map fun t => (t, rest)
  else none

end CertAudit.Der
