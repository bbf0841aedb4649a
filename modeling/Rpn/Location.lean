/-! Places in the input: a line and a column, both counted from one, and the name of the source. -/

namespace Rpn

structure Location where
  /-- The file or stream; typed text has none, which is not the same as an empty name. -/
  source : Option String
  line : Nat
  column : Nat
deriving DecidableEq

namespace Location

/-- `(line, column)`, after the name of the source if there is one. -/
def render (l : Location) : String :=
  let place := "(" ++ l.line.repr ++ ", " ++ l.column.repr ++ ")"
  match l.source with
  | some source => source ++ " " ++ place
  | none => place

/-- By source, where none is first and names go by code point, then by line, then by column. -/
instance : Ord Location where
  compare a b :=
    (compare a.source b.source).then
      ((compare a.line b.line).then (compare a.column b.column))

end Location
end Rpn
