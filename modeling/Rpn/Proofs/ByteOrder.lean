import Mathlib.Algebra.Group.Nat.Defs
import Rpn.Proofs.Lines

/-!
UTF-8 keeps the order of texts. A character is encoded by a leading byte, which holds the length of
the encoding in front of the highest part of the code point, and by bytes for six bits each after
it. Main statement: one text comes before another by its bytes if it does by its characters.
-/

namespace Rpn.Text

/-- Where the lists first differ both go on, and there the first one is less. -/
inductive Deviates : List UInt8 → List UInt8 → Prop
  | now {x y : UInt8} (h : x < y) (xs ys : List UInt8) : Deviates (x :: xs) (y :: ys)
  | later (x : UInt8) {xs ys : List UInt8} (h : Deviates xs ys) : Deviates (x :: xs) (x :: ys)

/-- The bytes for the last `k` times six bits of a number. -/
def continuation : Nat → Nat → List UInt8
  | 0, _ => []
  | k + 1, n => UInt8.ofNat (n / 64 ^ k % 64 + 128) :: continuation k n

/-- How many bytes follow the leading one of a code point. -/
def followers (n : Nat) : Nat :=
  if n ≤ 0x7f then 0 else if n ≤ 0x7ff then 1 else if n ≤ 0xffff then 2 else 3

/-- What the leading byte holds besides the highest bits. -/
def leadMark : Nat → Nat
  | 0 => 0
  | 1 => 0xc0
  | 2 => 0xe0
  | _ => 0xf0

/-- The leading byte of a code point. -/
def lead (n : Nat) : Nat := n / 64 ^ followers n + leadMark (followers n)

/-- What comes after the lists has no influence on their order. -/
theorem Deviates.append_lt {xs ys : List UInt8} (h : Deviates xs ys) (us vs : List UInt8) :
    xs ++ us < ys ++ vs := by
  induction h with
  | now h xs ys => exact List.Lex.rel h
  | later x h ih => exact List.Lex.cons ih

theorem ofNat_lt_ofNat {a b : Nat} (h : a < b) (hb : b < UInt8.size) :
    UInt8.ofNat a < UInt8.ofNat b :=
  (UInt8.ofNat_lt_iff_lt (Nat.lt_trans h hb) hb).2 h

theorem toNat_lt (c : Char) : c.toNat < 0x110000 := by
  rcases c.valid with h | ⟨-, h⟩
  · exact Nat.lt_trans h (by decide)
  · exact h

theorem utf8EncodeChar_eq (c : Char) :
    String.utf8EncodeChar c =
      UInt8.ofNat (lead c.toNat) :: continuation (followers c.toNat) c.toNat := by
  have hlt := toNat_lt c
  simp only [String.utf8EncodeChar, lead, followers, Char.toNat_val]
  split_ifs
  · simp [continuation, leadMark]
  · have hhigh : c.toNat / 64 % 32 = c.toNat / 64 := Nat.mod_eq_of_lt (by omega)
    simp [continuation, leadMark, hhigh]
  · have hhigh : c.toNat / 4096 % 16 = c.toNat / 4096 := Nat.mod_eq_of_lt (by omega)
    simp [continuation, leadMark, hhigh]
  · have hhigh : c.toNat / 262144 % 8 = c.toNat / 262144 := Nat.mod_eq_of_lt (by omega)
    simp [continuation, leadMark, hhigh]

/-- Digits to the base 64 are compared from the highest one on. -/
theorem deviates_continuation {k m n : Nat} (h : m % 64 ^ k < n % 64 ^ k) :
    Deviates (continuation k m) (continuation k n) := by
  induction k with
  | zero => omega
  | succ k ih =>
    rw [continuation, continuation]
    have hpos : 0 < 64 ^ k := Nat.pow_pos (by decide)
    have hm := Nat.mod_lt m hpos
    have hn := Nat.mod_lt n hpos
    rw [Nat.pow_succ, Nat.mod_mul, Nat.mod_mul] at h
    rcases Nat.lt_trichotomy (m / 64 ^ k % 64) (n / 64 ^ k % 64) with hlt | heq | hgt
    · exact .now (ofNat_lt_ofNat (by omega) (by rw [UInt8.size]; omega)) _ _
    · rw [heq] at h ⊢
      exact .later _ (ih (by omega))
    · -- A greater digit here would outweigh all that follow.
      have hmul := Nat.mul_le_mul_left (64 ^ k) hgt
      rw [Nat.succ_eq_add_one, Nat.mul_add] at hmul
      omega

theorem lead_cases {m n : Nat} (h : m < n) (hn : n < 0x110000) :
    lead m < lead n ∨
      lead m = lead n ∧ followers m = followers n ∧
        m % 64 ^ followers m < n % 64 ^ followers m := by
  -- One case for each pair of lengths; where these differ, the marks decide.
  unfold lead followers
  split_ifs
  all_goals simp only [leadMark, Nat.reducePow, true_and]
  all_goals omega

theorem lead_lt {n : Nat} (hn : n < 0x110000) : lead n < UInt8.size := by
  unfold lead followers
  split_ifs
  all_goals simp only [leadMark, Nat.reducePow, UInt8.size]
  all_goals omega

theorem deviates_utf8EncodeChar {c d : Char} (h : c < d) :
    Deviates (String.utf8EncodeChar c) (String.utf8EncodeChar d) := by
  have hlt : c.toNat < d.toNat := h
  rw [utf8EncodeChar_eq, utf8EncodeChar_eq]
  rcases lead_cases hlt (toNat_lt d) with hlead | ⟨hlead, hfollowers, hrest⟩
  · exact .now (ofNat_lt_ofNat hlead (lead_lt (toNat_lt d))) _ _
  · rw [hlead, ← hfollowers]
    exact .later _ (deviates_continuation hrest)

theorem encode_lt_encode {cs ds : List Char} (h : cs < ds) : encode cs < encode ds := by
  induction h with
  | @nil d ds =>
    rw [encode_cons, utf8EncodeChar_eq]
    exact List.Lex.nil
  | @cons c cs ds _ ih =>
    rw [encode_cons, encode_cons]
    exact List.append_left_lt ih
  | @rel c cs d ds h =>
    rw [encode_cons, encode_cons]
    exact (deviates_utf8EncodeChar h).append_lt _ _

/-- What keeps the order of texts shows it too, as any two texts are in order. -/
theorem lt_iff_lt_of_mono {β : Type} [LT β] [Std.Asymm (α := β) (· < ·)]
    {f : List Char → List β} (hf : ∀ {cs ds : List Char}, cs < ds → f cs < f ds)
    {cs ds : List Char} : f cs < f ds ↔ cs < ds := by
  constructor
  · intro h
    by_contra hnot
    rcases List.le_iff_lt_or_eq.1 (List.not_lt.1 hnot) with hgt | rfl
    · exact List.lt_asymm h (hf hgt)
    · exact List.lt_asymm h h
  · exact hf

/-- The order of texts by their code points is that by their bytes. -/
theorem encode_lt_encode_iff {cs ds : List Char} : encode cs < encode ds ↔ cs < ds :=
  lt_iff_lt_of_mono encode_lt_encode

theorem encode_toList_lt_iff {x y : String} : encode x.toList < encode y.toList ↔ x < y :=
  encode_lt_encode_iff.trans String.lt_iff.symm

end Rpn.Text
