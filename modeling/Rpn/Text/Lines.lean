/-!
Lines. A newline ends a line, and a carriage return right before it belongs to the ending. What
follows the last newline is a line too, unless it is empty, and keeps a carriage return at its end.
The same rules serve characters and bytes.
-/

namespace Rpn.Text

/-- A text cut at its newlines. -/
structure Lines (α : Type) where
  /-- The lines that a newline ends, without it. -/
  complete : List (List α)
  /-- What follows the last newline. -/
  rest : List α

namespace Lines

variable {α : Type} [DecidableEq α]

/-- Puts one more element in front. -/
def cons (newline x : α) (ls : Lines α) : Lines α :=
  if x = newline then ⟨[] :: ls.complete, ls.rest⟩
  else
    match ls.complete with
    | [] => ⟨[], x :: ls.rest⟩
    | l :: rest => ⟨(x :: l) :: rest, ls.rest⟩

def split (newline : α) (xs : List α) : Lines α := xs.foldr (cons newline) ⟨[], []⟩

/-- The line without a carriage return at its end. -/
def chomp (cr : α) (l : List α) : List α := if l.getLast? = some cr then l.dropLast else l

/-- The contents of the complete lines. -/
def closed (cr : α) (ls : Lines α) : List (List α) := ls.complete.map (chomp cr)

/-- The contents of all lines. -/
def all (cr : α) (ls : Lines α) : List (List α) :=
  ls.closed cr ++ if ls.rest = [] then [] else [ls.rest]

/-- All lines, each with the newline that ends it. -/
def terminated (newline : α) (ls : Lines α) : List (List α) :=
  ls.complete.map (· ++ [newline]) ++ if ls.rest = [] then [] else [ls.rest]

@[simp] theorem split_nil (newline : α) : split newline [] = ⟨[], []⟩ := rfl

@[simp] theorem split_cons (newline x : α) (xs : List α) :
    split newline (x :: xs) = cons newline x (split newline xs) := rfl

end Lines

/-- The lines of a text. -/
def lines (cs : List Char) : List (List Char) := (Lines.split '\n' cs).all '\r'

/-- The lines of a sequence of bytes: the complete ones, and the rest. -/
def byteLines (bs : List UInt8) : Lines UInt8 := .split 10 bs

def carriageReturn : UInt8 := 13

/-- The text that the bytes encode in UTF-8, if they do. -/
def decode? (bs : List UInt8) : Option (List Char) :=
  bs.toByteArray.utf8Decode?.map Array.toList

/-- The texts of the lines up to the first that is not UTF-8, and whether there is such a line. -/
def decodeLines : List (List UInt8) → List (List Char) × Bool
  | [] => ([], false)
  | l :: ls =>
    match decode? l with
    | none => ([], true)
    | some cs =>
      let (texts, broken) := decodeLines ls
      (cs :: texts, broken)

end Rpn.Text
