import Rpn.Pattern.Build
import Rpn.Text.Utf8

/-!
The weight of a pattern: the number of bytes that an automaton for it takes. The automaton reads
bytes. It is built twice, to read forwards and backwards, and a pattern is too large if one of the
two is.

A state takes 32 bytes. A state that goes on in one of several places takes 4 more for each, and a
state that reads a byte from one of several ranges 8 more for each.
-/

namespace Rpn.Pattern

inductive Direction
  | forwards
  | backwards
deriving DecidableEq

namespace Weight

open Text.Utf8 (ByteRange)

def state : Nat := 32

/-- A state that goes on in one of `n` places. -/
def fork (n : Nat) : Nat := state + 4 * n

/-- A state that reads a byte from one of `n` ranges. -/
def table (n : Nat) : Nat := state + 8 * n

/-- A state for a part of the bytes of a set: the ranges of the first byte, and for each the state
that reads the rest. -/
abbrev Node := List (ByteRange × Nat)

/-- The number of a node among others, with it added if it is new. -/
def intern (nodes : List Node) (node : Node) : Nat × List Node :=
  match nodes.idxOf? node with
  | some i => (nodes.length - i, nodes)
  | none => (nodes.length + 1, node :: nodes)

/-- Adds the nodes that read sequences of byte ranges. States that read the same are one state. -/
def addNodes : Nat → List (List ByteRange) → List Node → Nat × List Node
  | 0, _, nodes => (0, nodes)
  | fuel + 1, seqs, nodes =>
    if seqs.all List.isEmpty then (0, nodes)
    else
      let add : Node × List Node → List (List ByteRange) → Node × List Node
        | (node, nodes), (r :: ds) :: more =>
          let (rest, nodes) := addNodes fuel (ds :: more.map List.tail) nodes
          (node ++ [(r, rest)], nodes)
        | found, _ => found
      let (node, nodes) := (seqs.splitBy fun a b => a.head? == b.head?).foldl add ([], nodes)
      intern nodes node

/-- How many elements two lists have in common at their starts. -/
def common (a b : List ByteRange) : Nat := ((a.zip b).takeWhile fun (r, s) => r = s).length

/-- The number of different starts of sequences that are in order. -/
def starts (seqs : List (List ByteRange)) : Nat :=
  (([] :: seqs).zip seqs).foldl (fun n (a, b) => n + (b.length - common a b)) 0

/-- The weight of one character of a set. Backwards only equal ends of characters are read by the
same states. -/
def ofSet (d : Direction) (s : CharSet) : Nat :=
  if s.isAscii then state + table s.ranges.length
  else
    let seqs := s.ranges.flatMap fun r =>
      Text.Utf8.sequences (CharSet.codePoint r.lo) (CharSet.codePoint r.hi)
    match d with
    | .forwards => (addNodes 5 seqs []).2.foldl (fun w node => w + table node.length) state
    | .backwards => state + fork seqs.length + state * starts seqs

/-- The weight of the states that read one of several texts, which are given by their bytes. Texts
share what they start with, as long as none ends there. -/
def ofTexts : Nat → List (List UInt8) → Nat
  | 0, _ => 0
  | fuel + 1, texts =>
    let chunks := Text.Lines.split [] texts
    let ends := chunks.complete.length - ((chunks.complete.takeWhile List.isEmpty).length - 1)
    let filled := (chunks.complete ++ [chunks.rest]).filter (!·.isEmpty)
    let weigh (chunk : List (List UInt8)) : Nat :=
      let bytes := (chunk.filterMap List.head?).eraseDups
      let rests := bytes.map fun b =>
        (chunk.filter fun t => t.head? == some b).map List.tail
      (if bytes.length = 1 then state else table bytes.length)
        + (rests.map fun texts => if texts.all List.isEmpty then 0 else ofTexts fuel texts).sum
    (filled.map weigh).sum + fork (filled.length + ends)

/-- The text that the pattern is, by its bytes in the order of reading. -/
def text? (d : Direction) : Pattern → Option (List UInt8)
  | text cs =>
    let bytes := cs.flatMap String.utf8EncodeChar
    some (if d = .forwards then bytes else bytes.reverse)
  | _ => none

/-- Whether a match can only be at the end of the line where reading starts. -/
def anchored (d : Direction) : Pattern → Bool
  | look .start => d = .forwards
  | look .finish => d = .backwards
  | group _ p => anchored d p
  | seq p q =>
    match d with
    | .forwards => anchored d p || (p.readsNothing && anchored d q)
    | .backwards => anchored d q || (q.readsNothing && anchored d p)
  | alt p q => anchored d p && anchored d q
  | times least _ _ p => 0 < least && anchored d p
  | _ => false

/-- The weight `w` by itself, and for one of several alternatives, with the link to it. -/
def alone (w : Nat) : Nat × Nat := (w, w + 4)

/-- The weight of a pattern, and its weight as one or more of several alternatives. -/
def weights (d : Direction) : Pattern → Nat × Nat
  | empty => alone state
  | text cs => alone (state * byteSize cs)
  | set s => alone (ofSet d s)
  | look _ => alone state
  | group _ p => alone ((weights d p).1 + if d = .forwards then 2 * state else 0)
  | seq p q => alone ((weights d p).1 + (weights d q).1)
  | alt p q =>
    let several := (weights d p).2 + (weights d q).2
    match (alt p q).alternatives.mapM (text? d) with
    | some texts => (state + ofTexts ((texts.map List.length).sum + 1) texts, several)
    | none => (2 * state + several, several)
  | times least most _ p =>
    let w := (weights d p).1
    match least, most with
    | 0, some 1 => alone (w + fork 2 + state)
    | 0, none => alone (if p.reads then w + fork 2 else w + 2 * fork 2 + state)
    | least, none => alone (least * w + fork 2)
    | least, some most =>
      if least = most then alone (least * w)
      else alone ((if least = 0 then state else least * w) + state + (most - least) * (w + fork 2))

/-- The weight of the whole automaton. Unless matches are at the end of the line only, it can skip
bytes before a match; forwards it also keeps where a match starts and ends. -/
def total (d : Direction) (p : Pattern) : Nat :=
  (weights d p).1 + (if anchored d p then state else fork 2 + state + table 1) + state
    + if d = .forwards then 2 * state else 0

/-- The greatest weight, ten mebibytes. -/
def limit : Nat := 10485760

end Weight

def isTooLarge (p : Pattern) : Bool :=
  Weight.limit < Weight.total .forwards p || Weight.limit < Weight.total .backwards p

end Rpn.Pattern
