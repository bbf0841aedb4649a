/-!
Stack values. A value is a 64-bit signed integer; exact integers are its meaning, and an exact
integer is a value only when it lies in range.
-/

namespace Rpn

abbrev Value := Int64

namespace Value

def least : Int := -9223372036854775808

def greatest : Int := 9223372036854775807

/-- The value whose meaning is `n`, if `n` is in range. -/
def ofInt? (n : Int) : Option Value :=
  if least ≤ n ∧ n ≤ greatest then some (Int64.ofInt n) else none

theorem least_le_toInt (v : Value) : least ≤ v.toInt := Int64.le_toInt v

theorem toInt_le_greatest (v : Value) : v.toInt ≤ greatest := Int64.toInt_le v

theorem ofInt?_eq_some_iff {n : Int} {v : Value} : ofInt? n = some v ↔ v.toInt = n := by
  unfold ofInt?
  constructor
  · intro h
    split at h
    · next hn =>
      obtain rfl := Option.some.inj h
      exact Int64.toInt_ofInt_of_le hn.1 (Int.lt_add_one_of_le hn.2)
    · cases h
  · rintro rfl
    rw [if_pos ⟨least_le_toInt v, toInt_le_greatest v⟩, Int64.ofInt_toInt]

@[simp] theorem ofInt?_toInt (v : Value) : ofInt? v.toInt = some v :=
  ofInt?_eq_some_iff.2 rfl

theorem ofInt?_eq_none_iff {n : Int} : ofInt? n = none ↔ ¬ (least ≤ n ∧ n ≤ greatest) := by
  simp [ofInt?]

end Value
end Rpn
