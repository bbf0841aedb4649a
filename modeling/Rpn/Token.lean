import Rpn.Decimal
import Rpn.Location
import Rpn.Value

/-!
Tokens: a piece of the input and its place. A token is a literal or the name of a word. Main
statement: the written form of every value is a literal of that value.
-/

namespace Rpn

structure Token where
  text : String
  location : Location
deriving DecidableEq

inductive Token.Kind
  | literal (value : Value)
  | word (name : String)
deriving DecidableEq

namespace Token

/-- A decimal integer that is in range is a literal, every other text the name of a word. -/
def classify (text : String) : Kind :=
  match (Decimal.read? text.toList).bind Value.ofInt? with
  | some value => .literal value
  | none => .word text

def kind (t : Token) : Kind := classify t.text

/-- The token with its place in front. -/
def describe (t : Token) : String := t.location.render ++ ": " ++ t.text

/-- The tokens in quotes, divided by single blanks. -/
def echo (ts : List Token) : String :=
  " ".intercalate (ts.map fun t => "'" ++ t.text ++ "'")

theorem classify_write (v : Value) : classify (Decimal.write v.toInt) = .literal v := by
  simp [classify, Decimal.read?_write]

end Token
end Rpn
