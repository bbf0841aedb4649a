import Rpn.Pattern.Program

/-!
All matches in a line, from left to right. The search for the next match starts where the last one
ended. If it finds an empty match right there, it is made again from the next character.
-/

namespace Rpn.Pattern

/-- A part of a line: the number of characters before it, and its characters. -/
structure Span where
  start : Nat
  text : List Char
deriving DecidableEq

/-- A place in a line. -/
structure Cursor where
  index : Nat
  before : Option Char
  rest : List Char

namespace Cursor

def next? (here : Cursor) : Option Cursor :=
  match here.rest with
  | [] => none
  | c :: cs => some ⟨here.index + 1, some c, cs⟩

/-- The place `n` characters further on. -/
def advance : Nat → Cursor → Cursor
  | n + 1, ⟨index, _, c :: cs⟩ => advance n ⟨index + 1, some c, cs⟩
  | _, place => place

@[simp] theorem rest_advance (n : Nat) (here : Cursor) :
    (here.advance n).rest = here.rest.drop n := by
  induction n generalizing here with
  | zero => simp [advance]
  | succ n ih =>
    obtain ⟨index, before, rest⟩ := here
    cases rest with
    | nil => simp [advance]
    | cons c cs => simp [advance, ih]

theorem index_advance {n : Nat} {here : Cursor} (h : n ≤ here.rest.length) :
    (here.advance n).index = here.index + n := by
  induction n generalizing here with
  | zero => simp [advance]
  | succ n ih =>
    obtain ⟨index, before, rest⟩ := here
    cases rest with
    | nil => simp at h
    | cons c cs =>
      have hn : n ≤ cs.length := by simpa using h
      rw [advance, ih hn]
      exact Nat.add_right_comm index 1 n

end Cursor

namespace Program

/-- The first match from a place on, and the place right after it. -/
def findFrom? (p : Program) (here : Cursor) : Option (Span × Cursor) :=
  (p.find? here.before here.rest).map fun (skipped, n) =>
    let first := here.advance skipped
    (⟨first.index, first.rest.take n⟩, first.advance n)

/-- The next match after one that ended at `here`. -/
def findNext? (p : Program) (here : Cursor) : Option (Span × Cursor) :=
  match p.findFrom? here with
  | none => none
  | some (span, after) =>
    if span.text = [] ∧ span.start = here.index then here.next?.bind p.findFrom?
    else some (span, after)

/-- The matches after one that ended at `here`. Each ends further on than the one before. -/
def findRest (p : Program) : Nat → Cursor → List Span
  | 0, _ => []
  | fuel + 1, here =>
    match p.findNext? here with
    | none => []
    | some (span, after) => span :: findRest p fuel after

/-- All matches in a line. -/
def findAll (p : Program) (line : List Char) : List Span :=
  match p.findFrom? ⟨0, none, line⟩ with
  | none => []
  | some (span, after) => span :: p.findRest (line.length + 1) after

end Program
end Rpn.Pattern
