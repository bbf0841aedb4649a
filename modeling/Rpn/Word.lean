import Rpn.Fault
import Rpn.Value

/-!
Words: a name, the number of operands taken from the stack, and the primitive that computes what
goes in their place. Primitives are given their operands oldest first. Main statement: a primitive
is undefined on too short a list only, and reads no more operands than it needs.
-/

namespace Rpn

inductive Primitive
  | dup
  | drop
  | swap
  | over
  | rot
  | add
  | sub
  | mul
  | div
deriving DecidableEq

namespace Primitive

/-- The values that replace the operands, or why there are none. -/
abbrev Outcome := Except ArithmeticFault (List Value)

/-- The one value equal to an exact result. -/
def exactly (n : Int) : Outcome :=
  match Value.ofInt? n with
  | some v => .ok [v]
  | none => .error .overflow

/-- What a primitive makes of its operands; `none` if one it reads is missing. Operands beyond
those are not looked at. -/
def apply : Primitive → List Value → Option Outcome
  | .dup, a :: _ => some (.ok [a, a])
  | .drop, _ => some (.ok [])
  | .swap, a :: b :: _ => some (.ok [b, a])
  | .over, a :: b :: _ => some (.ok [a, b, a])
  | .rot, a :: b :: c :: _ => some (.ok [b, c, a])
  | .add, a :: b :: _ => some (exactly (a.toInt + b.toInt))
  | .sub, a :: b :: _ => some (exactly (a.toInt - b.toInt))
  | .mul, a :: b :: _ => some (exactly (a.toInt * b.toInt))
  | .div, a :: b :: _ =>
    some (if b = 0 then .error .divisionByZero else exactly (a.toInt.tdiv b.toInt))
  | _, _ => none

/-- How many operands a primitive reads. -/
def reads : Primitive → Nat
  | .drop => 0
  | .dup => 1
  | .rot => 3
  | _ => 2

theorem apply_eq_none_iff (p : Primitive) (vs : List Value) :
    p.apply vs = none ↔ vs.length < p.reads := by
  rcases vs with _ | ⟨a, _ | ⟨b, _ | ⟨c, vs⟩⟩⟩ <;> cases p <;> simp [apply, reads]

theorem apply_take (p : Primitive) (vs : List Value) : p.apply (vs.take p.reads) = p.apply vs := by
  rcases vs with _ | ⟨a, _ | ⟨b, _ | ⟨c, vs⟩⟩⟩ <;> cases p <;> simp [apply, reads]

end Primitive

/-- The machine computes by the primitives above; `π` may stand for anything else that computes. -/
structure Word (π : Type := Primitive) where
  name : String
  arity : Nat
  primitive : π
  description : String
  signature : String
deriving DecidableEq

namespace Word

/-- One line of the listing. The name is filled up to six characters. -/
def listing (w : Word) : String :=
  w.name.pushn ' ' (6 - w.name.length) ++ " ( " ++ w.signature ++ " )  " ++ w.description

def stackWords : List Word :=
  [⟨"dup", 1, .dup, "Duplicate the top value on the data stack.", "a -- a a"⟩,
   ⟨"drop", 1, .drop, "Discard the top value on the data stack.", "a --"⟩,
   ⟨"swap", 2, .swap, "Swap the top 2 values on the data stack.", "a b -- b a"⟩,
   ⟨"over", 2, .over, "Copy the second value to the top of the stack.", "a b -- a b a"⟩,
   ⟨"rot", 3, .rot, "Rotate the third value to the top of the stack.", "a b c -- b c a"⟩]

def arithmeticWords : List Word :=
  [⟨"+", 2, .add, "Add the top 2 values on the stack.", "a b -- a+b"⟩,
   ⟨"-", 2, .sub, "Subtract the top value from the one below it.", "a b -- a-b"⟩,
   ⟨"*", 2, .mul, "Multiply the top 2 values on the stack.", "a b -- a*b"⟩,
   ⟨"/", 2, .div, "Divide the second value by the top value, truncating toward zero.",
     "a b -- a/b"⟩]

def baseWords : List Word := stackWords ++ arithmeticWords

end Word
end Rpn
