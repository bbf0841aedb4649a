import Rpn.Pattern.Basic

/-!
Patterns put together from others. What is simpler and matches the same takes the place of what was
asked for: neighbouring characters become one text, alternatives of one character a set, and
what all alternatives start with is read before they part.
-/

namespace Rpn.Pattern

/-- One character of the set. -/
def ofSet (s : CharSet) : Pattern :=
  match s.only? with
  | some c => text [c]
  | none => set s

/-- Puts a pattern before others. -/
def attach : Pattern → List Pattern → List Pattern
  | text cs, text ds :: ps => text (cs ++ ds) :: ps
  | p, ps => p :: ps

/-- Patterns one after another, if none of them is a sequence. -/
def chain : List Pattern → Pattern
  | [] => empty
  | [p] => p
  | p :: ps => seq p (chain ps)

/-- All patterns one after another. -/
def seqOf (ps : List Pattern) : Pattern := chain ((ps.flatMap parts).foldr attach [])

/-- Alternatives, if none of them is an alternative between others. -/
def choice : List Pattern → Pattern
  | [] => set .empty
  | [p] => p
  | p :: ps => alt p (choice ps)

/-- The character that the pattern is, if it is one. -/
def char? : Pattern → Option Char
  | text [c] => some c
  | _ => none

def set? : Pattern → Option CharSet
  | set s => some s
  | _ => none

/-- The set that takes the place of alternatives, if all are single characters or all are sets. -/
def union? (ps : List Pattern) : Option CharSet :=
  (ps.mapM char?).map CharSet.ofChars <|> (ps.mapM set?).map CharSet.unionOf

/-- What two lists both start with. -/
def commonStart (ps qs : List Pattern) : List Pattern :=
  ((ps.zip qs).takeWhile fun (p, q) => p = q).map (·.1)

/-- The parts that all alternatives start with; none if one of them is no sequence. -/
def sharedParts : List Pattern → List Pattern
  | [] => []
  | p :: ps =>
    if (p :: ps).all (2 ≤ ·.parts.length) then
      ps.foldl (fun shared q => commonStart shared q.parts) p.parts
    else []

/-- One of the patterns, the first one preferred. What is left of alternatives with a common start
are alternatives again; they are fewer each time, or have fewer parts. -/
def altFrom : Nat → List Pattern → Pattern
  | 0, ps => choice ps
  | fuel + 1, ps =>
    match ps.flatMap alternatives with
    | [] => set .empty
    | [p] => p
    | ps =>
      match union? ps with
      | some s => ofSet s
      | none =>
        let shared := sharedParts ps
        if shared.isEmpty then choice ps
        else
          let rests := ps.map fun p => seqOf (p.parts.drop shared.length)
          seqOf (shared ++ [altFrom fuel rests])

/-- The number of constructors in a pattern. -/
def size : Pattern → Nat
  | group _ p => p.size + 1
  | seq p q => p.size + q.size + 1
  | alt p q => p.size + q.size + 1
  | times _ _ _ p => p.size + 1
  | _ => 1

/-- One of the patterns, the first one preferred. -/
def altOf (ps : List Pattern) : Pattern := altFrom (ps.foldl (fun n p => n + p.size) 1) ps

/-- Repeats a pattern. To repeat what reads nothing more than once makes no difference. -/
def repeated (least : Nat) (most : Option Nat) (reluctant : Bool) (p : Pattern) : Pattern :=
  let (least, most) :=
    if p.readsNothing then (min least 1, some (min (most.getD 1) 1)) else (least, most)
  match least, most with
  | 0, some 0 => empty
  | 1, some 1 => p
  | least, most => times least most reluctant p

end Rpn.Pattern
