/- Spans of time written as numbers with units, such as `2h 30min`. -/
import CertAudit.Unicode
import CertAudit.Number.Literal
namespace CertAudit.Duration

/-- Nanoseconds of a unit, and whether a fraction of it may have nanoseconds. -/
def unit? : String → Option (Nat × Bool)
  | "nanos" | "nsec" | "ns" => some (1, true)
  | "usec" | "us" | "µs" => some (1000, true)
  | "millis" | "msec" | "ms" => some (1000000, true)
  | "seconds" | "second" | "secs" | "sec" | "s" => some (1000000000, true)
  | "minutes" | "minute" | "min" | "mins" | "m" => some (60 * 1000000000, true)
  | "hours" | "hour" | "hrs" | "hr" | "h" => some (3600 * 1000000000, false)
  | "days" | "day" | "d" => some (86400 * 1000000000, false)
  | "weeks" | "week" | "wks" | "wk" | "w" => some (604800 * 1000000000, false)
  | "months" | "month" | "M" => some (2630016 * 1000000000, false)
  | "years" | "year" | "yrs" | "yr" | "y" => some (31557600 * 1000000000, false)
  | _ => none

/-- Whether a character may stand in the name of a unit. -/
def isUnitChar (c : Char) : Bool := c.isAlpha || c == 'µ'

/-- The first count that no longer fits sixty-four bits. -/
def limit : Nat := UInt64.size

/-- The number of digits among characters, if it fits sixty-four bits. -/
def number? (cs : List Char) : Option Nat :=
  let n := Literal.digitsNat (cs.filter Literal.isDigit)
  if n < limit then some n else none

/-- The product of two numbers, if it fits sixty-four bits. -/
def product? (a b : Nat) : Option Nat := if a * b < limit then some (a * b) else none

/-- A span of time, with less than a second of nanoseconds once it is summed up. -/
structure Span where
  seconds : Nat := 0
  nanoseconds : Nat := 0
deriving Repr, DecidableEq

/-- The sum of two spans. Seconds and nanoseconds have to fit sixty-four bits on the way. -/
def Span.add? (a b : Span) : Option Span :=
  let nanoseconds := a.nanoseconds + b.nanoseconds
  let seconds := a.seconds + b.seconds + nanoseconds / 1000000000
  if nanoseconds < limit ∧ seconds < limit then
    some { seconds, nanoseconds := nanoseconds % 1000000000 }
  else none

/-- A number of units. The seconds or, in units below them, the nanoseconds have to fit sixty-four
bits. -/
def amount? (n size : Nat) : Option Span :=
  if size < 1000000000 then (product? n size).map fun ns => { nanoseconds := ns }
  else (product? n (size / 1000000000)).map fun s => { seconds := s }

/-- The quotient of two numbers, if nothing remains. -/
def quotient? (a b : Nat) : Option Nat := if a % b = 0 then some (a / b) else none

/-- A fraction of a unit, which has to come out even: in larger units in seconds, else in
nanoseconds. Nothing is smaller than a nanosecond. -/
def partAmount? (num den size : Nat) (fine : Bool) : Option Span :=
  if size = 1 then none
  else if fine then do
    let n ← product? num size
    (quotient? n den).map fun ns => { nanoseconds := ns }
  else do
    let n ← product? num (size / 1000000000)
    (quotient? n den).map fun s => { seconds := s }

/-- Adds one number with its unit to a span, and gives the text behind it. Blanks may stand
between digits. -/
def item? (total : Span) (cs : List Char) : Option (Span × List Char) :=
  let inNumber := fun c => Literal.isDigit c || Unicode.isWhiteSpace c
  let (whole, rest) := cs.span inNumber
  do
    let n ← number? whole
    let (fraction, rest) ← match rest with
      | '.' :: more =>
        let (ds, rest) := more.span inNumber
        let ds := ds.filter Literal.isDigit
        if ds.isEmpty then none
        else do
          let num ← number? ds
          let den ← product? 1 (Nat.pow 10 ds.length)
          some (some (num, den), rest)
      | _ => some (none, rest)
    let (name, rest) := rest.span isUnitChar
    let (size, fine) ← unit? (String.ofList name)
    let total ← total.add? (← amount? n size)
    let total ← match fraction with
      | none => some total
      | some (num, den) => total.add? (← partAmount? num den size fine)
    return (total, rest)

/-- The sum of a span and of items up to the end of a text. -/
def sum? (total : Span) (cs : List Char) : Option Span :=
  match cs.dropWhile Unicode.isWhiteSpace with
  | [] => some total
  | c :: more =>
    if Literal.isDigit c then
      match item? total (c :: more) with
      | none => none
      | some (total, rest) => if rest.length < cs.length then sum? total rest else none
    else none
termination_by cs.length

/-- Whole seconds of a span of time: a plain number counts seconds, anything else is a sequence
of numbers with units. -/
def ofUnits? (s : String) : Option Nat :=
  match s.toList.dropWhile Unicode.isWhiteSpace with
  | [] => none
  | _ => (sum? {} s.toList).map (·.seconds)

end CertAudit.Duration
