/- Patterns that texts match or do not match. A text is read once, character by character, and the
parts of the pattern that have just been read are marked. -/
import CertAudit.Pattern.Meaning
namespace CertAudit.Pattern

open Unicode (CharSet)

/-- A place between characters, with the character on either side if there is one. -/
structure Place where
  before : Option Char
  behind : Option Char

namespace Look

/-- Whether a character is a member of a set. -/
def isIn (letters : CharSet) : Option Char → Bool
  | some c => letters.contains c.toNat
  | none => false

/-- Whether a condition holds at a place. -/
def holds (p : Place) : Look → Bool
  | .textStart => p.before.isNone
  | .textEnd => p.behind.isNone
  | .lineStart => p.before.isNone || p.before == some '\n'
  | .lineEnd => p.behind.isNone || p.behind == some '\n'
  | .crlfStart =>
    p.before.isNone || p.before == some '\n' ||
      (p.before == some '\r' && p.behind != some '\n')
  | .crlfEnd =>
    p.behind.isNone || p.behind == some '\r' ||
      (p.behind == some '\n' && p.before != some '\r')
  | .word letters test => test (isIn letters p.before) (isIn letters p.behind)

end Look

/-- An expression in which the sets that have just taken up a character are marked. Parts without
a mark are kept as they are. -/
inductive Track
  | idle (r : Regex)
  | taken (s : CharSet)
  | seq (a b : Track)
  | alt (a b : Track)
  | many (a : Track)
  | opt (a : Track)

namespace Track

/-- Two tracks one after the other. -/
def andThen : Track → Track → Track
  | .idle a, .idle b => .idle (.seq a b)
  | a, b => .seq a b

/-- A choice of two tracks. -/
def orElse : Track → Track → Track
  | .idle a, .idle b => .idle (.alt a b)
  | a, b => .alt a b

/-- A track repeated once or more. -/
def again : Track → Track
  | .idle a => .idle (.many a)
  | a => .many a

/-- A track that may be left out. -/
def orNot : Track → Track
  | .idle a => .idle (.opt a)
  | a => .opt a

end Track

namespace Regex

/-- Whether an expression matches no character at a place. -/
def skips (p : Place) : Regex → Bool
  | .empty => true
  | .set _ => false
  | .look l => l.holds p
  | .seq a b => a.skips p && b.skips p
  | .alt a b => a.skips p || b.skips p
  | .many a => a.skips p
  | .opt _ => true
  | .times n a => n == 0 || a.skips p
  | .upTo _ _ => true

/-- Enters the first of `n` copies of an expression, and the next one where a copy may be passed
over. `first` is the copy entered. -/
def enterTimes (a : Regex) (passes : Bool) (first : Track) : Nat → Track
  | 0 => .idle .empty
  | n + 1 =>
    first.andThen (if passes then enterTimes a passes first n else .idle (.times n a))

/-- Enters the first of at most `n` copies of an expression, likewise. -/
def enterUpTo (a : Regex) (passes : Bool) (first : Track) : Nat → Track
  | 0 => .idle .empty
  | n + 1 =>
    (first.andThen (if passes then enterUpTo a passes first n else .idle (.upTo n a))).orNot

/-- Takes up a character behind a place at the beginning of an expression. -/
def enter (p : Place) (c : Char) : Regex → Track
  | .empty => .idle .empty
  | .set s => if s.contains c.toNat then .taken s else .idle (.set s)
  | .look l => .idle (.look l)
  | .seq a b => (a.enter p c).andThen (if a.skips p then b.enter p c else .idle b)
  | .alt a b => (a.enter p c).orElse (b.enter p c)
  | .many a => (a.enter p c).again
  | .opt a => (a.enter p c).orNot
  | .times n a => enterTimes a (a.skips p) (a.enter p c) n
  | .upTo n a => enterUpTo a (a.skips p) (a.enter p c) n

end Regex

namespace Track

/-- Whether the expression of a track matches no character at a place. -/
def skips (p : Place) : Track → Bool
  | .idle r => r.skips p
  | .taken _ => false
  | .seq a b => a.skips p && b.skips p
  | .alt a b => a.skips p || b.skips p
  | .many a => a.skips p
  | .opt _ => true

/-- Whether the characters taken up so far make the expression of a track end at a place. -/
def ends (p : Place) : Track → Bool
  | .idle _ => false
  | .taken _ => true
  | .seq a b => b.ends p || (a.ends p && b.skips p)
  | .alt a b => a.ends p || b.ends p
  | .many a => a.ends p
  | .opt a => a.ends p

/-- Takes up the character behind a place, from where the marks are and, if `start` holds, from
the beginning. -/
def step (p : Place) (c : Char) (start : Bool) : Track → Track
  | .idle r => if start then r.enter p c else .idle r
  | .taken s => if start && s.contains c.toNat then .taken s else .idle (.set s)
  | .seq a b =>
    (a.step p c start).andThen (b.step p c ((start && a.skips p) || a.ends p))
  | .alt a b => (a.step p c start).orElse (b.step p c start)
  | .many a => (a.step p c (start || a.ends p)).again
  | .opt a => (a.step p c start).orNot

/-- Whether an expression that may begin anywhere ends somewhere in the rest of a text. -/
def finds (t : Track) (before : Option Char) : List Char → Bool
  | [] => let p := ⟨before, none⟩; t.skips p || t.ends p
  | c :: rest =>
    let p := ⟨before, some c⟩
    t.skips p || t.ends p || (t.step p c true).finds (some c) rest

end Track

/-- Whether an expression matches some part of a text. -/
def Regex.matches (r : Regex) (text : List Char) : Bool := (Track.idle r).finds none text

end CertAudit.Pattern

namespace CertAudit

/-- A pattern: its text and its meaning. -/
structure Pattern where
  source : String
  regex : Pattern.Regex

namespace Pattern

/-- The pattern a text spells. -/
def ofText? (source : String) : Option Pattern := do
  let e ← Expr.ofText? source
  let (regex, _) ← e.meaning? {}
  some { source, regex }

/-- Whether a pattern matches some part of a text. -/
def isMatch (p : Pattern) (text : String) : Bool := p.regex.matches text.toList

end Pattern

/-- The patterns compiled so far. -/
structure PatternCache where
  entries : List (String × Pattern) := []

namespace PatternCache

/-- The pattern of a text, with the cache that holds it. A text that spells none leaves the cache
as it is. -/
def get? (cache : PatternCache) (source : String) : Option Pattern × PatternCache :=
  match cache.entries.lookup source with
  | some p => (some p, cache)
  | none =>
    match Pattern.ofText? source with
    | some p => (some p, { entries := (source, p) :: cache.entries })
    | none => (none, cache)

/-- The number of patterns. -/
def size (cache : PatternCache) : Nat := cache.entries.length

end PatternCache

end CertAudit
