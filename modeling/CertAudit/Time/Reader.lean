/- Reading timestamps: RFC 3339, a plain UTC form, bare dates, and the digits of DER times. -/
import CertAudit.Time.Timestamp
import CertAudit.Number.Literal
namespace CertAudit.Timestamp

/-- Takes exactly `n` digits off the front. -/
def digits? (n : Nat) (cs : List Char) : Option (Nat × List Char) :=
  let ds := cs.take n
  if ds.length = n && ds.all Literal.isDigit then some (Literal.digitsNat ds, cs.drop n) else none

/-- Takes one given character off the front. -/
def char? (c : Char) : List Char → Option (List Char)
  | d :: rest => if d == c then some rest else none
  | [] => none

/-- Takes a sign and the year behind it, or a year alone. -/
def signedYear? (cs : List Char) : Option (Int × List Char) :=
  match cs with
  | '-' :: rest => (digits? 4 rest).map fun (y, rest) => (-(y : Int), rest)
  | '+' :: rest => (digits? 4 rest).map fun (y, rest) => ((y : Int), rest)
  | _ => (digits? 4 cs).map fun (y, rest) => ((y : Int), rest)

/-- The second of the day of a time of day. -/
def secondOfDay? (hour minute second : Nat) : Option Nat :=
  if hour ≤ 23 ∧ minute ≤ 59 ∧ second ≤ 59 then some (hour * 3600 + minute * 60 + second) else none

/-- A point and at least one digit, of which the first nine count; or nothing. -/
def fraction? : List Char → Option (Nat × List Char)
  | '.' :: rest =>
    let (ds, rest) := rest.span Literal.isDigit
    if ds.isEmpty then none
    else some (Literal.digitsNat ((ds ++ List.replicate 9 '0').take 9), rest)
  | cs => some (0, cs)

/-- The offset at the end of an RFC 3339 text, in seconds. -/
def offset? : List Char → Option Int
  | ['Z'] => some 0
  | ['z'] => some 0
  | c :: rest => do
    let sign ← if c == '+' then some (1 : Int) else if c == '-' then some (-1) else none
    let (hour, rest) ← digits? 2 rest
    let rest ← char? ':' rest
    let (minute, rest) ← digits? 2 rest
    if hour ≤ 23 ∧ minute ≤ 59 ∧ rest.isEmpty then
      some (sign * (hour * 3600 + minute * 60 : Nat))
    else none
  | [] => none

/-- Whether an instant is the last whole second of a month in UTC. -/
def endsMonth (t : Timestamp) : Bool :=
  let (year, month, day) := Calendar.dateOfDay (t.seconds / 86400)
  t.seconds % 86400 == 86399 && day == Calendar.daysInMonth year month

/-- Reads RFC 3339 text. Any ASCII character may stand between date and time; a sixtieth second
is read as the end of the second before it, where a month ends there. -/
def ofRfc3339? (s : String) : Option Timestamp := do
  let (year, cs) ← digits? 4 s.toList
  let cs ← char? '-' cs
  let (month, cs) ← digits? 2 cs
  let cs ← char? '-' cs
  let (day, cs) ← digits? 2 cs
  let cs ← match cs with
    | c :: rest => if c.toNat < 128 then some rest else none
    | [] => none
  let (hour, cs) ← digits? 2 cs
  let cs ← char? ':' cs
  let (minute, cs) ← digits? 2 cs
  let cs ← char? ':' cs
  let (second, cs) ← digits? 2 cs
  let (nanos, cs) ← fraction? cs
  let offset ← offset? cs
  if Calendar.isDate year month day then
    if second = 60 then
      let inDay ← secondOfDay? hour minute 59
      let t := ofLocal year month day inDay 999999999 offset
      if endsMonth t then some t else none
    else
      let inDay ← secondOfDay? hour minute second
      some (ofLocal year month day inDay nanos offset)
  else none

/-- Reads `YYYY-MM-DDTHH:MM:SSZ` with an optional sign before the year. -/
def ofUtcText? (s : String) : Option Timestamp := do
  let (year, cs) ← signedYear? s.toList
  let cs ← char? '-' cs
  let (month, cs) ← digits? 2 cs
  let cs ← char? '-' cs
  let (day, cs) ← digits? 2 cs
  let cs ← char? 'T' cs
  let (hour, cs) ← digits? 2 cs
  let cs ← char? ':' cs
  let (minute, cs) ← digits? 2 cs
  let cs ← char? ':' cs
  let (second, cs) ← digits? 2 cs
  let inDay ← secondOfDay? hour minute second
  if cs == ['Z'] && Calendar.isDate year month day then
    some (ofLocal year month day inDay 0 0)
  else none

/-- Reads `YYYY-MM-DD`, with an optional sign before the year, as midnight in UTC. -/
def ofDateText? (s : String) : Option Timestamp := do
  let (year, cs) ← signedYear? s.toList
  let cs ← char? '-' cs
  let (month, cs) ← digits? 2 cs
  let cs ← char? '-' cs
  let (day, cs) ← digits? 2 cs
  if cs.isEmpty && Calendar.isDate year month day then some (ofLocal year month day 0 0 0) else none

/-- Reads any of the three written forms. -/
def ofText? (s : String) : Option Timestamp :=
  (ofRfc3339? s).or ((ofUtcText? s).or (ofDateText? s))

/-- Reads `YYYYMMDDHHMMSS`, with an optional sign before the year, as UTC. -/
def ofCompact? (cs : List Char) : Option Timestamp := do
  let (year, cs) ← signedYear? cs
  let (month, cs) ← digits? 2 cs
  let (day, cs) ← digits? 2 cs
  let (hour, cs) ← digits? 2 cs
  let (minute, cs) ← digits? 2 cs
  let (second, cs) ← digits? 2 cs
  let inDay ← secondOfDay? hour minute second
  if cs.isEmpty && Calendar.isDate year month day then
    some (ofLocal year month day inDay 0 0)
  else none

end CertAudit.Timestamp
