/-! Sets of places in a program. A set is kept in words of 32 bits, one bit for each place. -/

namespace Rpn.Pattern

structure Places where
  words : Array Nat

namespace Places

/-- The empty set, with room for the places below `size`. -/
def empty (size : Nat) : Places := ⟨.replicate (size / 32 + 1) 0⟩

def mem (s : Places) (n : Nat) : Bool := (s.words.getD (n / 32) 0).testBit (n % 32)

def insert (s : Places) (n : Nat) : Places :=
  ⟨s.words.modify (n / 32) fun word => word ||| 1 <<< (n % 32)⟩

/-- Whether there is room for a place. -/
def Fits (s : Places) (n : Nat) : Prop := n / 32 < s.words.size

theorem fits_empty {size n : Nat} (h : n < size) : (empty size).Fits n := by
  simp only [Fits, empty, Array.size_replicate]
  omega

theorem fits_insert {s : Places} {n m : Nat} (h : s.Fits m) : (s.insert n).Fits m := by
  simpa [Fits, insert] using h

@[simp] theorem mem_empty (size n : Nat) : (empty size).mem n = false := by
  simp only [mem, empty, Array.getD_eq_getD_getElem?, Array.getElem?_replicate]
  split <;> simp

theorem mem_insert {s : Places} {n : Nat} (h : s.Fits n) (m : Nat) :
    (s.insert n).mem m = (decide (m = n) || s.mem m) := by
  simp only [mem, insert, Array.getD_eq_getD_getElem?, Array.getElem?_modify]
  by_cases hw : n / 32 = m / 32
  · have hs : m / 32 < s.words.size := hw ▸ h
    simp only [hw, if_true, Array.getElem?_eq_getElem hs, Option.map_some, Option.getD_some,
      Nat.testBit_or, Nat.one_shiftLeft, Nat.testBit_two_pow]
    have : n % 32 = m % 32 ↔ m = n := by omega
    rw [decide_eq_decide.2 this, Bool.or_comm]
  · have : m ≠ n := fun e => hw (e ▸ rfl)
    simp [hw, this]

end Places
end Rpn.Pattern
