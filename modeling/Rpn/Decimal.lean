/-!
Decimal notation of integers: how it is written, and which texts are read. Writing uses no plus
sign and no leading zeros; reading allows both. Main statement: what is written reads back.
-/

namespace Rpn.Decimal

/-- The number that one or more ASCII digits denote. -/
def digits? (cs : List Char) : Option Nat :=
  if cs ≠ [] ∧ cs.all Char.isDigit then some (Nat.ofDigitChars 10 cs 0) else none

/-- The integer that an optional sign and one or more ASCII digits denote. -/
def read? : List Char → Option Int
  | '-' :: cs => (digits? cs).map fun n : Nat => -(n : Int)
  | '+' :: cs => (digits? cs).map fun n : Nat => (n : Int)
  | cs => (digits? cs).map fun n : Nat => (n : Int)

def write (n : Int) : String := n.repr

theorem digits?_toDigits (n : Nat) : digits? (Nat.toDigits 10 n) = some n := by
  have hall : (Nat.toDigits 10 n).all Char.isDigit = true :=
    List.all_eq_true.2 fun _ hc => Nat.isDigit_of_mem_toDigits (by decide) (by decide) hc
  rw [digits?, if_pos ⟨Nat.toDigits_ne_nil, hall⟩, Nat.ofDigitChars_ten_toDigits]

theorem read?_of_isDigit {c : Char} {cs : List Char} (hc : c.isDigit = true) :
    read? (c :: cs) = (digits? (c :: cs)).map fun n : Nat => (n : Int) := by
  unfold read?
  split
  · simp_all
  · simp_all
  · rfl

theorem read?_toDigits (n : Nat) : read? (Nat.toDigits 10 n) = some (n : Int) := by
  cases h : Nat.toDigits 10 n with
  | nil => exact absurd h Nat.toDigits_ne_nil
  | cons c cs =>
    have hc : c.isDigit = true :=
      Nat.isDigit_of_mem_toDigits (n := n) (by decide) (by decide) (h ▸ List.mem_cons_self)
    rw [read?_of_isDigit hc, ← h, digits?_toDigits]
    rfl

theorem read?_write (n : Int) : read? (write n).toList = some n := by
  rw [write, Int.repr_eq_if]
  split
  · next h =>
    rw [Nat.repr_eq_ofList_toDigits, String.toList_ofList, read?_toDigits]
    exact congrArg some (Int.toNat_of_nonneg h)
  · next h =>
    have hcons : ("-" ++ (-n).toNat.repr).toList = '-' :: Nat.toDigits 10 (-n).toNat := by
      rw [String.toList_append, Nat.repr_eq_ofList_toDigits]
      simp
    rw [hcons, read?, digits?_toDigits, Option.map_some]
    congr 1
    omega

end Rpn.Decimal
