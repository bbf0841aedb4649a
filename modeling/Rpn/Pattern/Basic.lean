import Rpn.Pattern.Names

/-!
Patterns for the tokens of a line. Where a pattern can match in several ways the earlier
alternative comes first, and of two numbers of repetitions the larger, or the smaller if the
repetition is reluctant.
-/

namespace Rpn

/-- Where a place stands in a word. -/
inductive WordPlace
  | edge
  | noEdge
  | start
  | finish
  /-- There is no word character before it. -/
  | notAfter
  /-- There is no word character after it. -/
  | notBefore
deriving DecidableEq

def WordPlace.holds (before after : Bool) : WordPlace → Bool
  | edge => before != after
  | noEdge => before == after
  | start => !before && after
  | finish => before && !after
  | notAfter => !before
  | notBefore => !after

/-- A condition on a place between two characters. -/
inductive Look
  | start
  | finish
  /-- Right after a newline, or at the start. -/
  | lineStart
  /-- Right before a newline, or at the end. -/
  | lineEnd
  /-- The same where a carriage return, or one with a newline after it, ends a line too. -/
  | lineStartCr
  | lineEndCr
  /-- For word characters of ASCII only, or for all. -/
  | word (ascii : Bool) (place : WordPlace)
deriving DecidableEq

namespace Look

def isWordChar (ascii : Bool) (c : Option Char) : Bool :=
  c.any fun c => c.isAlphanum || c == '_' || (!ascii && Pattern.Names.wordChar.mem c)

/-- Whether the condition holds between two characters; at an end of the line one is missing. -/
def holds (before after : Option Char) : Look → Bool
  | start => before.isNone
  | finish => after.isNone
  | lineStart => before.isNone || before == some '\n'
  | lineEnd => after.isNone || after == some '\n'
  | lineStartCr =>
    before.isNone || before == some '\n' || (before == some '\r' && after != some '\n')
  | lineEndCr =>
    after.isNone || after == some '\r' || (after == some '\n' && before != some '\r')
  | word ascii place => place.holds (isWordChar ascii before) (isWordChar ascii after)

end Look

inductive Pattern
  | empty
  /-- The characters one after another. -/
  | text (cs : List Char)
  /-- One character of the set. -/
  | set (s : CharSet)
  | look (l : Look)
  | group (index : Nat) (p : Pattern)
  | seq (p q : Pattern)
  | alt (p q : Pattern)
  /-- At least `least` times `p`, and at most `most` times if that is given. -/
  | times (least : Nat) (most : Option Nat) (reluctant : Bool) (p : Pattern)
deriving DecidableEq

namespace Pattern

/-- A run of characters other than space, tab and newline. -/
def word : Pattern := times 1 none false (set (CharSet.ofChars [' ', '\t', '\n']).compl)

/-- The number of bytes that characters take. -/
def byteSize (cs : List Char) : Nat := cs.foldl (fun n c => n + c.utf8Size) 0

/-- The least number of bytes in a match, unless a part of the pattern never matches. -/
def leastBytes : Pattern → Option Nat
  | empty => some 0
  | text cs => some (byteSize cs)
  | set s => s.ranges.head?.map fun r => (Char.ofNat (CharSet.codePoint r.lo)).utf8Size
  | look _ => some 0
  | group _ p => p.leastBytes
  | seq p q => do return (← p.leastBytes) + (← q.leastBytes)
  | alt p q => do return min (← p.leastBytes) (← q.leastBytes)
  | times least _ _ p => p.leastBytes.map (least * ·)

/-- The greatest number of bytes in a match, unless there is none, or a part of the pattern never
matches. -/
def mostBytes : Pattern → Option Nat
  | empty => some 0
  | text cs => some (byteSize cs)
  | set s => s.ranges.getLast?.map fun r => (Char.ofNat (CharSet.codePoint r.hi)).utf8Size
  | look _ => some 0
  | group _ p => p.mostBytes
  | seq p q => do return (← p.mostBytes) + (← q.mostBytes)
  | alt p q => do return max (← p.mostBytes) (← q.mostBytes)
  | times _ most _ p => do return (← most) * (← p.mostBytes)

/-- Whether every match reads a character. -/
def reads (p : Pattern) : Bool := p.leastBytes.any (0 < ·)

/-- Whether all matches are empty. -/
def readsNothing (p : Pattern) : Bool := p.mostBytes == some 0

/-- The patterns that stand one after another in `p`. -/
def parts : Pattern → List Pattern
  | empty => []
  | seq p q => p.parts ++ q.parts
  | p => [p]

/-- The alternatives of `p`, the first one preferred. -/
def alternatives : Pattern → List Pattern
  | alt p q => p.alternatives ++ q.alternatives
  | p => [p]

end Pattern
end Rpn
