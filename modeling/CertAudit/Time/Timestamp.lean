/- Instants with the offset from UTC in which they are shown. -/
import CertAudit.Time.Calendar
namespace CertAudit

/-- An instant, as seconds and nanoseconds since 1970 in UTC, with an offset in seconds east. -/
structure Timestamp where
  seconds : Int
  nanos : Nat := 0
  offset : Int := 0
deriving Repr, DecidableEq, Inhabited

namespace Timestamp

/-- The first second of the year -9999. -/
def earliest : Int := -377705116800

/-- The last second of the year 9999. -/
def latest : Int := 253402300799

/-- The instant of a count of seconds, where its year has at most four digits. -/
def ofUnix? (seconds : Int) : Option Timestamp :=
  if earliest ≤ seconds ∧ seconds ≤ latest then some { seconds } else none

/-- The order of two instants; offsets do not matter. -/
def order (a b : Timestamp) : Ordering :=
  (compare a.seconds b.seconds).then (compare a.nanos b.nanos)

/-- Whether two timestamps are the same instant. -/
def sameInstant (a b : Timestamp) : Bool := a.seconds == b.seconds && a.nanos == b.nanos

/-- Whether an instant comes before another. -/
def before (a b : Timestamp) : Bool := order a b == .lt

/-- Whether an instant does not come after another. -/
def notAfter (a b : Timestamp) : Bool := order a b != .gt

/-- Whole days from one instant to another, rounded toward zero. -/
def daysUntil (a b : Timestamp) : Int :=
  let span := (b.seconds - a.seconds) * 1000000000 + (b.nanos - a.nanos : Int)
  span.tdiv 86400000000000

/-- A number with zeros before it up to a width. -/
def padded (width n : Nat) : List Char :=
  let ds := Nat.toDigits 10 n
  List.replicate (width - ds.length) '0' ++ ds

/-- The date part `YYYY-MM-DD`. -/
def dateChars (year month day : Nat) : List Char :=
  padded 4 year ++ '-' :: (padded 2 month ++ '-' :: padded 2 day)

/-- The time part `HH:MM:SS` of a second of a day. -/
def clockChars (second : Nat) : List Char :=
  padded 2 (second / 3600) ++ ':' :: (padded 2 (second / 60 % 60) ++ ':' :: padded 2 (second % 60))

/-- A point and the digits of the nanoseconds without zeros at the end; nothing for zero. -/
def fractionChars (nanos : Nat) : List Char :=
  if nanos = 0 then []
  else '.' :: ((padded 9 nanos).reverse.dropWhile (· == '0')).reverse

/-- `Z`, or a sign and `HH:MM`. -/
def offsetChars (offset : Int) : List Char :=
  if offset = 0 then ['Z']
  else
    let minutes := offset.natAbs / 60
    (if offset < 0 then '-' else '+') ::
      (padded 2 (minutes / 60) ++ ':' :: padded 2 (minutes % 60))

/-- RFC 3339 text. Years outside 0 to 9999, offsets of a day or more and offsets with seconds
have none. -/
def rfc3339? (t : Timestamp) : Option String :=
  let shown := t.seconds + t.offset
  let (year, month, day) := Calendar.dateOfDay (shown / 86400)
  if year < 0 ∨ year > 9999 ∨ t.offset.natAbs ≥ 86400 ∨ t.offset % 60 ≠ 0 then none
  else
    some <| String.ofList <| dateChars year.toNat month day ++
      'T' :: (clockChars (shown % 86400).toNat ++ fractionChars t.nanos ++ offsetChars t.offset)

/-- RFC 3339 text, or the count of seconds where there is none. -/
def display (t : Timestamp) : String := (t.rfc3339?).getD (toString t.seconds)

/-- The instant of a date and a second of its day, as shown at an offset. -/
def ofLocal (year : Int) (month day second nanos : Nat) (offset : Int) : Timestamp :=
  { seconds := Calendar.dayNumber year month day * 86400 + second - offset, nanos, offset }

end Timestamp
end CertAudit
