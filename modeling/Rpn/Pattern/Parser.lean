import Rpn.Decimal
import Rpn.Pattern.CharClass
import Rpn.Pattern.Weight

/-!
Patterns as text. Outside of classes there are characters that stand for themselves, `.`, `^`, `$`,
escapes, classes `[...]`, repetitions `*`, `+`, `?`, `{n}`, `{n,}`, `{n,m}`, each reluctant with a
`?` after it, bars between alternatives, and groups `(...)`, `(?:...)`, `(?<name>...)`. Flags are
set by `(?i)` for the rest of a group, and by `(?i:...)` for a group of their own. A `]` or `}`
alone stands for itself.
-/

namespace Rpn.Pattern
namespace Parser

/-- A part of a pattern. -/
structure Part where
  pattern : Pattern
  /-- How deeply groups, classes, repetitions, sequences and alternatives are nested in its text. -/
  depth : Nat
  /-- Whether a repetition can follow. -/
  repeatable : Bool

namespace Part

/-- The greatest depth of a pattern. -/
def maxDepth : Nat := 250

/-- The depth of several parts together. -/
def depthOf : List Part → Nat
  | [] => 0
  | [p] => p.depth
  | ps => ps.foldl (fun n p => max n p.depth) 0 + 1

def seqOf (ps : List Part) : Part := ⟨.seqOf (ps.map pattern), depthOf ps, true⟩

def altOf (ps : List Part) : Part := ⟨.altOf (ps.map pattern), depthOf ps, true⟩

/-- Flags that are set stand for no text. -/
def switch : Part := ⟨.empty, 0, false⟩

end Part

/-- A group that is being read. -/
structure OpenGroup where
  /-- The alternatives that are finished, the latest first. -/
  finished : List Part
  /-- The parts of the current alternative, the latest first. -/
  current : List Part
  flags : Flags
  /-- Its number, if it has one. -/
  index : Option Nat

namespace OpenGroup

def start (flags : Flags) (index : Option Nat) : OpenGroup := ⟨[], [], flags, index⟩

def add (g : OpenGroup) (p : Part) : Except Error OpenGroup :=
  if p.depth ≤ Part.maxDepth then .ok { g with current := p :: g.current } else .error .tooDeep

def bar (g : OpenGroup) : OpenGroup :=
  { g with finished := Part.seqOf g.current.reverse :: g.finished, current := [] }

/-- What the group holds. -/
def content (g : OpenGroup) : Part := Part.altOf g.bar.finished.reverse

def close (g : OpenGroup) : Part :=
  let p := g.content
  ⟨match g.index with
    | some i => .group i p.pattern
    | none => p.pattern, p.depth + 1, true⟩

/-- Repeats the last part. -/
def repeated (g : OpenGroup) (least : Nat) (most : Option Nat) (reluctant : Bool) :
    Except Error OpenGroup :=
  match g.current with
  | p :: ps =>
    if p.repeatable then
      { g with current := ps }.add
        ⟨.repeated least most (reluctant != g.flags.swapGreed) p.pattern, p.depth + 1, true⟩
    else .error .nothingToRepeat
  | [] => .error .nothingToRepeat

end OpenGroup

/-- Reads a number in a repetition. It has at most 32 bits, and blanks around it are skipped. -/
def count (f : Flags) (cs : List Char) : Except Error (Nat × List Char) :=
  let (ds, rest) := f.digits false (cs.dropWhile Text.isBlank)
  match Decimal.digits? ds with
  | some n => if n < 4294967296 then .ok (n, rest.dropWhile Text.isBlank) else .error .badCount
  | none => .error .badCount

/-- Reads the numbers of a repetition, of which the brace has been read. -/
def counts (f : Flags) (cs : List Char) : Except Error (Nat × Option Nat × List Char) := do
  let (least, rest) ← count f cs
  match rest with
  | '\x7d' :: rest => return (least, some least, rest)
  | ',' :: rest =>
    match f.skip rest with
    | '\x7d' :: rest => return (least, none, rest)
    | rest =>
      let (most, rest) ← count f rest
      match rest with
      | '\x7d' :: rest =>
        if least ≤ most then return (least, some most, rest) else .error .reversedCount
      | _ => .error .unclosedCount
  | _ => .error .unclosedCount

/-- Whether a question mark makes the repetition before it reluctant. -/
def reluctance : List Char → Bool × List Char
  | '?' :: cs => (true, cs)
  | cs => (false, cs)

def isLetter (c : Char) : Bool :=
  c.isAlpha || (128 ≤ c.toNat && (Names.property? "alphabetic").any (·.mem c))

def isNameChar (c : Char) : Bool :=
  isLetter c || c.isDigit || ['_', '.', '[', ']'].contains c
    || (128 ≤ c.toNat && (Names.ofCategories Text.Category.numbers).mem c)

/-- Reads the name of a group, with the bracket after it. -/
def name (cs : List Char) : Except Error (List Char × List Char) :=
  let name := cs.takeWhile (· != '>')
  match name, cs.dropWhile (· != '>') with
  | c :: rest, '>' :: cs =>
    if (c = '_' ∨ isLetter c) ∧ rest.all isNameChar then .ok (name, cs) else .error .badName
  | _, _ => .error .badName

/-- A character that stands for itself. -/
def literal (f : Flags) (c : Char) (byte : Bool) : Except Error Pattern :=
  if byte ∧ 128 ≤ c.toNat ∧ ¬ f.unicode then .error .notInBytes
  else .ok (if f.ignoreCase then .ofSet (f.fold (.single c)) else .text [c])

/-- What `.` stands for. -/
def dot (f : Flags) : Except Error Pattern :=
  if f.unicode then
    .ok (.ofSet
      (if f.dotAll then .all
        else if f.crlf then (CharSet.ofChars ['\r', '\n']).compl
        else (CharSet.single '\n').compl))
  else .error .notInBytes

/-- Reads a part that starts with `c` and is not a group. -/
def primary (f : Flags) (c : Char) (cs : List Char) : Except Error (Part × List Char) := do
  let leaf (p : Pattern) : Part := ⟨p, 0, true⟩
  match c with
  | '.' => return (leaf (← dot f), cs)
  | '^' =>
    return (leaf (.look (if f.multiLine then if f.crlf then .lineStartCr else .lineStart
      else .start)), cs)
  | '$' =>
    return (leaf (.look (if f.multiLine then if f.crlf then .lineEndCr else .lineEnd
      else .finish)), cs)
  | '[' =>
    let (k, rest) ← CharClass.read f cs
    return (⟨.ofSet k.set, k.depth, true⟩, rest)
  | '\\' =>
    match ← Escape.read f cs with
    | (.char c byte, rest) => return (leaf (← literal f c byte), rest)
    | (.set s, rest) => return (leaf (.ofSet s), rest)
    | (.look l, rest) => return (leaf (.look l), rest)
  | c => return (leaf (← literal f c false), cs)

/-- A pattern that is being read: the current group, the groups around it, the innermost first, and
the number and the names of the groups so far. -/
structure State where
  group : OpenGroup
  outer : List OpenGroup
  groups : Nat
  names : List (List Char)

namespace State

def start : State := ⟨.start .initial none, [], 0, []⟩

def enter (s : State) (flags : Flags) (index : Option Nat) : State :=
  { s with group := .start flags index, outer := s.group :: s.outer }

/-- Opens a group with a number. -/
def capture (s : State) : State :=
  { s.enter s.group.flags (some (s.groups + 1)) with groups := s.groups + 1 }

def captureNamed (s : State) (cs : List Char) : Except Error (State × List Char) := do
  let (name, rest) ← name cs
  if name ∈ s.names then .error .repeatedName
  else return ({ s.capture with names := name :: s.names }, rest)

/-- Reads the start of a group, of which the parenthesis has been read, or flags. -/
def openGroup (s : State) : List Char → Except Error (State × List Char)
  | '?' :: '=' :: _ => .error .lookAround
  | '?' :: '!' :: _ => .error .lookAround
  | '?' :: '<' :: '=' :: _ => .error .lookAround
  | '?' :: '<' :: '!' :: _ => .error .lookAround
  | '?' :: 'P' :: '<' :: cs => s.captureNamed cs
  | '?' :: '<' :: cs => s.captureNamed cs
  | '?' :: cs => do
    let (flags, stop, rest) ← s.group.flags.read cs
    if stop = ')' then
      let g ← s.group.add .switch
      return ({ s with group := { g with flags } }, rest)
    else return (s.enter flags none, rest)
  | cs => .ok (s.capture, cs)

def closeGroup (s : State) : Except Error State :=
  match s.outer with
  | [] => .error .unopenedGroup
  | g :: outer => do return { s with group := ← g.add s.group.close, outer }

/-- Repeats the last part; a question mark can follow. -/
def repeated (s : State) (least : Nat) (most : Option Nat) (cs : List Char) :
    Except Error (State × List Char) := do
  let (reluctant, rest) := reluctance cs
  return ({ s with group := ← s.group.repeated least most reluctant }, rest)

/-- Reads what starts with `c`. -/
def step (s : State) (c : Char) (cs : List Char) : Except Error (State × List Char) := do
  let f := s.group.flags
  match c with
  | '(' => s.openGroup (f.skip cs)
  | ')' => return (← s.closeGroup, cs)
  | '|' => return ({ s with group := s.group.bar }, cs)
  | '*' => s.repeated 0 none cs
  | '+' => s.repeated 1 none cs
  | '?' => s.repeated 0 (some 1) cs
  | '\x7b' =>
    let (least, most, rest) ← counts f cs
    s.repeated least most (f.skip rest)
  | c =>
    let (part, rest) ← primary f c cs
    return ({ s with group := ← s.group.add part }, rest)

/-- The pattern at the end of its text. -/
def finish (s : State) : Except Error Pattern :=
  match s.outer with
  | [] =>
    let p := s.group.content
    if p.depth ≤ Part.maxDepth then .ok p.pattern else .error .tooDeep
  | _ :: _ => .error .unclosedGroup

/-- Reads the rest of a text. Every step reads a character. -/
def read : Nat → State → List Char → Except Error Pattern
  | 0, _, _ => .error .unclosedGroup
  | fuel + 1, s, cs =>
    match s.group.flags.skip cs with
    | [] => s.finish
    | c :: cs => do
      let (s, rest) ← s.step c cs
      read fuel s rest

end State
end Parser

/-- The pattern that a text describes. -/
def parse (text : String) : Except Error Pattern := do
  let cs := text.toList
  let p ← Parser.State.start.read (cs.length + 1) cs
  if p.isTooLarge then .error .tooLarge else return p

theorem parse_word : parse "[^ \\t\\n]+" = .ok word := by
  rfl

end Rpn.Pattern
