import Rpn.Decimal
import Rpn.Value

/-!
The operand stack. The list `items` starts at the top; `toList`, which all statements use, reads
from the bottom, so that the newest value is last.
-/

namespace Rpn

structure Stack where
  items : List Value
deriving DecidableEq

namespace Stack

def empty : Stack := ⟨[]⟩

/-- The values from the bottom to the top. -/
def toList (s : Stack) : List Value := s.items.reverse

def ofList (vs : List Value) : Stack := ⟨vs.reverse⟩

def depth (s : Stack) : Nat := s.items.length

def push (s : Stack) (v : Value) : Stack := ⟨v :: s.items⟩

/-- The top `n` values, oldest first, if there are that many. -/
def top? (s : Stack) (n : Nat) : Option (List Value) :=
  if n ≤ s.depth then some (s.items.take n).reverse else none

/-- Puts `vs` in place of the top `n` values, or of all of them if there are fewer. -/
def replaceTop (s : Stack) (n : Nat) (vs : List Value) : Stack :=
  ⟨vs.reverse ++ s.items.drop n⟩

/-- The stack on one line: its values from the bottom, in brackets and divided by commas. -/
def render (s : Stack) : String :=
  "[" ++ ", ".intercalate (s.toList.map fun v => Decimal.write v.toInt) ++ "]"

@[simp] theorem toList_empty : empty.toList = [] := rfl

@[simp] theorem toList_ofList (vs : List Value) : (ofList vs).toList = vs :=
  List.reverse_reverse vs

@[simp] theorem ofList_toList (s : Stack) : ofList s.toList = s := by
  simp [ofList, toList]

theorem toList_inj {s t : Stack} : s.toList = t.toList ↔ s = t := by
  constructor
  · intro h
    rw [← ofList_toList s, h, ofList_toList]
  · rintro rfl
    rfl

@[simp] theorem length_toList (s : Stack) : s.toList.length = s.depth := by
  simp [toList, depth]

theorem depth_ofList (vs : List Value) : (ofList vs).depth = vs.length := by
  rw [← length_toList, toList_ofList]

@[simp] theorem toList_push (s : Stack) (v : Value) : (s.push v).toList = s.toList ++ [v] := by
  simp [toList, push]

@[simp] theorem toList_replaceTop (s : Stack) (n : Nat) (vs : List Value) :
    (s.replaceTop n vs).toList = s.toList.take (s.depth - n) ++ vs := by
  simp [toList, replaceTop, depth, List.take_reverse]
  omega

theorem top?_eq (s : Stack) (n : Nat) :
    s.top? n = if n ≤ s.depth then some (s.toList.drop (s.depth - n)) else none := by
  unfold top?
  split
  · next h =>
    unfold depth at h
    simp [toList, depth, List.drop_reverse, Nat.sub_sub_self h]
  · rfl

end Stack
end Rpn
