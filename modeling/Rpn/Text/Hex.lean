/-! Numbers in base sixteen. -/

namespace Rpn.Text.Hex

def isDigit (c : Char) : Bool :=
  c.isDigit || ('a' ≤ c && c ≤ 'f') || ('A' ≤ c && c ≤ 'F')

def digit (c : Char) : Nat :=
  if c.isDigit then c.toNat - '0'.toNat
  else if c ≤ 'F' then c.toNat - 'A'.toNat + 10
  else c.toNat - 'a'.toNat + 10

/-- The number that digits stand for. -/
def value (cs : List Char) : Nat := cs.foldl (fun n c => 16 * n + digit c) 0

theorem digit_lt {c : Char} (h : isDigit c = true) : digit c < 16 := by
  simp only [isDigit, Char.isDigit, Bool.or_eq_true, Bool.and_eq_true, decide_eq_true_eq,
    Char.le_def, UInt32.le_iff_toNat_le, ge_iff_le] at h
  simp only [digit, Char.isDigit, ge_iff_le, Bool.and_eq_true, decide_eq_true_eq, Char.le_def,
    UInt32.le_iff_toNat_le, Char.toNat]
  split
  · simp_all; omega
  · split <;> simp_all <;> omega

end Rpn.Text.Hex
