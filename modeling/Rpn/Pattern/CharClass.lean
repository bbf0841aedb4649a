import Rpn.Pattern.Escape

/-!
Classes in brackets. In a class, `]` as the first character and `-` as the first or last one stand
for themselves. A class can hold other classes, and `&&`, `--` and `~~` join what stands before them
with what follows, from left to right.
-/

namespace Rpn.Pattern

/-- A set, and how deeply classes, lists of items and joints are nested in its text. -/
structure CharClass where
  set : CharSet
  depth : Nat

namespace CharClass

/-- Reads one character or one set. -/
def item (f : Flags) : List Char → Except Error (Escape × List Char)
  | [] => .error .unclosedClass
  | '\\' :: cs => Escape.read f cs
  | c :: cs => .ok (.char c false, cs)

/-- The character that an item is. -/
def char (f : Flags) : Escape → Except Error Char
  | .char c _ => if f.unicode ∨ c.toNat < 128 then .ok c else .error .notInBytes
  | _ => .error .badClassItem

def itemSet (f : Flags) : Escape → Except Error CharSet
  | .set s => .ok s
  | e => do return .single (← char f e)

/-- Whether a hyphen does not make a range: at the end of the class, or before another hyphen.
Blanks are skipped, and of a comment its first character. -/
def isLoneHyphen (f : Flags) (rest : List Char) : Bool :=
  let rest :=
    if f.verbose then
      match rest.dropWhile Text.isBlank with
      | '#' :: cs => cs.dropWhile Text.isBlank
      | cs => cs
    else rest
  rest.head? == some ']' || rest.head? == some '-'

/-- Reads an item or a range of characters. -/
def range (f : Flags) (cs : List Char) : Except Error (CharSet × List Char) := do
  let (first, rest) ← item f cs
  match f.skip rest with
  | [] => .error .unclosedClass
  | '-' :: cs =>
    if isLoneHyphen f cs then return (← itemSet f first, '-' :: cs)
    else
      let (last, rest) ← item f (f.skip cs)
      let lo ← char f first
      let hi ← char f last
      if lo ≤ hi then return (⟨[CharSet.range lo hi]⟩, rest) else .error .reversedRange
  | rest => return (← itemSet f first, rest)

/-- Reads the rest of a class such as `[:alpha:]`, of which the first bracket has been read: its
set, and whether the rest of the characters is meant. -/
def named? : List Char → Option (CharSet × Bool × List Char)
  | ':' :: cs =>
    let (negated, cs) := match cs with
      | '^' :: cs => (true, cs)
      | cs => (false, cs)
    match cs.dropWhile (· != ':') with
    | ':' :: ']' :: rest =>
      (Names.ascii? (String.ofList (cs.takeWhile (· != ':')))).map fun s => (s, negated, rest)
    | _ => none
  | _ => none

/-- Ways to join two sets in a class. -/
inductive Join
  | inter
  | diff
  | symmDiff

def Join.apply : Join → CharSet → CharSet → CharSet
  | inter => .inter
  | diff => .diff
  | symmDiff => .symmDiff

/-- A class that is being read. -/
structure Open where
  negated : Bool
  /-- What stands before the last joint, and how it is joined to the rest. -/
  left : Option (CharClass × Join)
  members : CharSet
  /-- The number of items since the last joint. -/
  count : Nat
  /-- The greatest depth of these items. -/
  depth : Nat

namespace Open

def add (k : Open) (c : CharClass) : Open :=
  { k with
    members := k.members.union c.set
    count := k.count + 1
    depth := max k.depth c.depth }

/-- The items since the last joint. -/
def items (k : Open) : CharClass := ⟨k.members, if k.count ≤ 1 then k.depth else k.depth + 1⟩

/-- All that has been read. -/
def joined (f : Flags) (k : Open) : CharClass :=
  match k.left with
  | some (c, join) =>
    ⟨join.apply (f.fold c.set) (f.fold k.items.set), max c.depth k.items.depth + 1⟩
  | none => k.items

def joint (f : Flags) (k : Open) (join : Join) : Open :=
  { k with left := some (k.joined f, join), members := .empty, count := 0, depth := 0 }

def close (f : Flags) (k : Open) : Except Error CharClass := do
  return ⟨← f.close k.negated (k.joined f).set, (k.joined f).depth + 1⟩

/-- Takes hyphens at the start of a class. -/
def hyphens (f : Flags) : Nat → Open → List Char → Open × List Char
  | fuel + 1, k, '-' :: cs => hyphens f fuel (k.add ⟨.single '-', 0⟩) (f.skip cs)
  | _, k, cs => (k, cs)

/-- Reads the start of a class, of which the bracket has been read, with the bracket or hyphens
that stand for themselves there. -/
def start (f : Flags) (cs : List Char) : Open × List Char :=
  let (negated, cs) := match f.skip cs with
    | '^' :: cs => (true, f.skip cs)
    | cs => (false, cs)
  let k : Open := ⟨negated, none, .empty, 0, 0⟩
  match cs with
  | ']' :: cs => (k.add ⟨.single ']', 0⟩, cs)
  | cs => k.hyphens f cs.length cs

end Open

/-- Reads the rest of a class. The classes around it come after it, the innermost first. Every step
reads a character. -/
def readRest (f : Flags) :
    Nat → Open → List Open → List Char → Except Error (CharClass × List Char)
  | 0, _, _, _ => .error .unclosedClass
  | fuel + 1, k, outer, cs =>
    match f.skip cs with
    | [] => .error .unclosedClass
    | ']' :: cs => do
      let c ← k.close f
      match outer with
      | [] => return (c, cs)
      | k' :: outer => readRest f fuel (k'.add c) outer cs
    | '&' :: '&' :: cs => readRest f fuel (k.joint f .inter) outer cs
    | '-' :: '-' :: cs => readRest f fuel (k.joint f .diff) outer cs
    | '~' :: '~' :: cs => readRest f fuel (k.joint f .symmDiff) outer cs
    | '[' :: cs =>
      match named? cs with
      | some (s, negated, rest) => do
        readRest f fuel (k.add ⟨← f.close negated s, 0⟩) outer rest
      | none =>
        let (k', rest) := Open.start f cs
        readRest f fuel k' (k :: outer) rest
    | cs => do
      let (s, rest) ← range f cs
      readRest f fuel (k.add ⟨s, 0⟩) outer rest

/-- Reads a class, of which the bracket has been read. -/
def read (f : Flags) (cs : List Char) : Except Error (CharClass × List Char) :=
  let (k, rest) := Open.start f cs
  readRest f (cs.length + 1) k [] rest

end CharClass
end Rpn.Pattern
