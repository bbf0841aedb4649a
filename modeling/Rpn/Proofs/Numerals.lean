import Mathlib.Data.List.Induction
import Mathlib.Data.Nat.Digits.Defs
import Rpn.Proofs.Exact

/-!
The grammar of literals. A numeral is a sign, which may be left out, and one or more digits; it has
a text, and denotes an integer without bounds. Main statement: the literals are the texts of the
numerals that denote an integer in range, which is their value, and all other texts are words. One
numeral for each integer is canonical, and its text is the written form of the integer.
-/

namespace Rpn

/-- What stands in front of the digits. -/
inductive Sign
  | none
  | plus
  | minus
deriving DecidableEq

namespace Sign

def marks : Sign → List Char
  | none => []
  | plus => ['+']
  | minus => ['-']

def factor : Sign → Int
  | none => 1
  | plus => 1
  | minus => -1

end Sign

/-- A sign and digits, of which the first is the most significant. -/
structure Numeral where
  sign : Sign
  digits : List (Fin 10)
  digits_ne_nil : digits ≠ []

namespace Numeral

/-- The characters of some digits. -/
def figures (ds : List (Fin 10)) : List Char := ds.map fun d => Nat.digitChar d.val

/-- The number that some digits denote: the last one counts once, the one before it ten times, and
so on. -/
def magnitude (ds : List (Fin 10)) : Nat := Nat.ofDigits 10 (ds.reverse.map Fin.val)

def text (n : Numeral) : String := String.ofList (n.sign.marks ++ figures n.digits)

def value (n : Numeral) : Int := n.sign.factor * magnitude n.digits

/-- No plus sign, no zero in front of other digits, and no sign in front of zero. -/
def IsCanonical (n : Numeral) : Prop :=
  n.sign ≠ .plus ∧ (n.digits.head? = some 0 → n.digits = [0] ∧ n.sign = .none)

theorem figures_cons (d : Fin 10) (ds : List (Fin 10)) :
    figures (d :: ds) = Nat.digitChar d :: figures ds := rfl

theorem isDigit_digitChar (d : Fin 10) : (Nat.digitChar d).isDigit = true := by
  rw [Nat.isDigit_digitChar, decide_eq_true d.isLt]

theorem exists_digit_of_isDigit {c : Char} (h : c.isDigit = true) :
    ∃ d : Fin 10, Nat.digitChar d = c := by
  have hrange : 48 ≤ c.toNat ∧ c.toNat ≤ 57 := by
    rw [Char.isDigit, Bool.and_eq_true, decide_eq_true_iff, decide_eq_true_iff] at h
    exact ⟨UInt32.le_iff_toNat_le.1 h.1, UInt32.le_iff_toNat_le.1 h.2⟩
  have hlt : c.toNat - 48 < 10 := by omega
  refine ⟨⟨c.toNat - 48, hlt⟩, Char.toNat_inj.1 ?_⟩
  rw [Nat.toNat_digitChar_of_lt_ten hlt]
  omega

theorem isDigit_of_mem_figures {ds : List (Fin 10)} {c : Char} (h : c ∈ figures ds) :
    c.isDigit = true := by
  obtain ⟨d, -, rfl⟩ := List.mem_map.1 h
  exact isDigit_digitChar d

theorem exists_figures {cs : List Char} (h : ∀ c ∈ cs, c.isDigit = true) :
    ∃ ds, figures ds = cs := by
  induction cs with
  | nil => exact ⟨[], rfl⟩
  | cons c cs ih =>
    obtain ⟨hc, hcs⟩ := List.forall_mem_cons.1 h
    obtain ⟨d, rfl⟩ := exists_digit_of_isDigit hc
    obtain ⟨ds, rfl⟩ := ih hcs
    exact ⟨d :: ds, figures_cons d ds⟩

theorem figures_concat (ds : List (Fin 10)) (d : Fin 10) :
    figures (ds ++ [d]) = figures ds ++ [Nat.digitChar d] := List.map_append

theorem magnitude_concat (ds : List (Fin 10)) (d : Fin 10) :
    magnitude (ds ++ [d]) = 10 * magnitude ds + d := by
  simp [magnitude, Nat.ofDigits_cons, Nat.add_comm]

/-- Reading from the left adds up to the places counted from the right. -/
theorem ofDigitChars_figures (ds : List (Fin 10)) :
    Nat.ofDigitChars 10 (figures ds) 0 = magnitude ds := by
  induction ds using List.reverseRecOn with
  | nil => rfl
  | append_singleton ds d ih =>
    rw [figures_concat, Nat.ofDigitChars_append, ih,
      Nat.ofDigitChars_cons_digitChar_of_lt_ten d.isLt, Nat.ofDigitChars_nil, magnitude_concat]

theorem digits?_figures {ds : List (Fin 10)} (h : ds ≠ []) :
    Decimal.digits? (figures ds) = some (magnitude ds) := by
  have hne : figures ds ≠ [] := fun hnil => h (List.map_eq_nil_iff.1 hnil)
  have hall : (figures ds).all Char.isDigit = true :=
    List.all_eq_true.2 fun _ => isDigit_of_mem_figures
  rw [Decimal.digits?, if_pos ⟨hne, hall⟩, ofDigitChars_figures]

theorem digits?_eq_some_iff {cs : List Char} {k : Nat} :
    Decimal.digits? cs = some k ↔ ∃ ds, ds ≠ [] ∧ figures ds = cs ∧ magnitude ds = k := by
  constructor
  · intro h
    rw [Decimal.digits?] at h
    split at h
    · next hcs =>
      obtain ⟨ds, rfl⟩ := exists_figures (List.all_eq_true.1 hcs.2)
      refine ⟨ds, ?_, rfl, ?_⟩
      · rintro rfl
        exact hcs.1 rfl
      · rw [← ofDigitChars_figures]
        exact Option.some.inj h
    · cases h
  · rintro ⟨ds, hne, rfl, rfl⟩
    exact digits?_figures hne

theorem toList_text (n : Numeral) : n.text.toList = n.sign.marks ++ figures n.digits :=
  String.toList_ofList

/-- The text of a numeral is read as the integer that it denotes. -/
theorem read?_text (n : Numeral) : Decimal.read? n.text.toList = some n.value := by
  obtain ⟨sign, digits, hne⟩ := n
  have hdigits := digits?_figures hne
  rw [toList_text]
  cases sign with
  | plus => simp [Decimal.read?, Sign.marks, hdigits, value, Sign.factor]
  | minus => simp [Decimal.read?, Sign.marks, hdigits, value, Sign.factor]
  | none =>
    cases digits with
    | nil => exact absurd rfl hne
    | cons d ds =>
      rw [figures_cons] at hdigits
      simp [Sign.marks, figures_cons, Decimal.read?_of_isDigit (isDigit_digitChar d), hdigits,
        value, Sign.factor]

/-- Only texts of numerals are read. -/
theorem exists_of_read? {cs : List Char} {k : Int} (h : Decimal.read? cs = some k) :
    ∃ n : Numeral, n.text.toList = cs ∧ n.value = k := by
  unfold Decimal.read? at h
  split at h
  all_goals
    obtain ⟨m, hm, rfl⟩ := Option.map_eq_some_iff.1 h
    obtain ⟨ds, hne, rfl, rfl⟩ := digits?_eq_some_iff.1 hm
  · exact ⟨⟨.minus, ds, hne⟩, toList_text _, by simp [value, Sign.factor]⟩
  · exact ⟨⟨.plus, ds, hne⟩, toList_text _, by simp [value, Sign.factor]⟩
  · exact ⟨⟨.none, ds, hne⟩, toList_text _, by simp [value, Sign.factor]⟩

theorem read?_eq_some_iff {text : String} {k : Int} :
    Decimal.read? text.toList = some k ↔ ∃ n : Numeral, n.text = text ∧ n.value = k := by
  constructor
  · intro h
    obtain ⟨n, htext, hvalue⟩ := exists_of_read? h
    exact ⟨n, String.toList_injective htext, hvalue⟩
  · rintro ⟨n, rfl, rfl⟩
    exact read?_text n

end Numeral

/-! Numerals in range. -/

namespace Token

theorem exists_literal_iff {text : String} {k : Int} :
    (∃ v : Value, v.toInt = k ∧ classify text = .literal v) ↔
      Decimal.read? text.toList = some k ∧ Exact.InRange k := by
  rw [classify]
  cases Decimal.read? text.toList with
  | none => simp
  | some n =>
    obtain ⟨v, hv, rfl, hrange⟩ | ⟨hv, hrange⟩ := Exact.ofInt?_cases n
    · simp only [Option.bind_some, hv, Kind.literal.injEq, Option.some.injEq]
      constructor
      · rintro ⟨w, rfl, rfl⟩
        exact ⟨rfl, hrange⟩
      · rintro ⟨rfl, -⟩
        exact ⟨v, rfl, rfl⟩
    · simp only [Option.bind_some, hv, reduceCtorEq, and_false, exists_false, Option.some.injEq,
        false_iff, not_and]
      rintro rfl
      exact hrange

theorem classify_eq_word_iff {text : String} :
    classify text = .word text ↔
      ∀ k, Decimal.read? text.toList = some k → ¬ Exact.InRange k := by
  constructor
  · intro h k hk hrange
    obtain ⟨v, -, hv⟩ := exists_literal_iff.2 ⟨hk, hrange⟩
    rw [h] at hv
    cases hv
  · intro h
    cases hread : (Decimal.read? text.toList).bind Value.ofInt? with
    | none => rw [classify, hread]
    | some v =>
      have hliteral : classify text = .literal v := by rw [classify, hread]
      obtain ⟨hk, hrange⟩ := exists_literal_iff.1 ⟨v, rfl, hliteral⟩
      exact absurd hrange (h _ hk)

end Token

/-! Canonical numerals. -/

namespace Numeral

theorem isCanonical_zero : IsCanonical ⟨.none, [0], List.cons_ne_nil _ _⟩ :=
  ⟨by decide, fun _ => ⟨rfl, rfl⟩⟩

theorem isCanonical_cons {sign : Sign} (hsign : sign ≠ .plus) {d : Fin 10} (hd : d ≠ 0)
    (ds : List (Fin 10)) : IsCanonical ⟨sign, d :: ds, List.cons_ne_nil _ _⟩ :=
  ⟨hsign, fun h => absurd (Option.some.inj h) hd⟩

theorem IsCanonical.cases {n : Numeral} (h : n.IsCanonical) :
    n = ⟨.none, [0], List.cons_ne_nil _ _⟩ ∨
      ∃ d ds, d ≠ 0 ∧ (n = ⟨.none, d :: ds, List.cons_ne_nil _ _⟩ ∨
        n = ⟨.minus, d :: ds, List.cons_ne_nil _ _⟩) := by
  obtain ⟨sign, digits, hne⟩ := n
  obtain ⟨hsign, hzero⟩ := h
  cases digits with
  | nil => exact absurd rfl hne
  | cons d ds =>
    by_cases hd : d = 0
    · obtain ⟨hdigits, hnone⟩ := hzero (congrArg some hd)
      simp only at hdigits hnone
      simp [hdigits, hnone]
    · refine .inr ⟨d, ds, hd, ?_⟩
      cases sign with
      | none => exact .inl rfl
      | plus => exact absurd rfl hsign
      | minus => exact .inr rfl

/-- Digits that do not start with zero are the ones written for what they denote. -/
theorem toDigits_magnitude {d : Fin 10} (hd : d ≠ 0) (ds : List (Fin 10)) :
    0 < magnitude (d :: ds) ∧ Nat.toDigits 10 (magnitude (d :: ds)) = figures (d :: ds) := by
  induction ds using List.reverseRecOn with
  | nil =>
    have hone : magnitude [d] = d := by simp [magnitude]
    rw [hone, Nat.toDigits_of_lt_base d.isLt]
    exact ⟨Nat.pos_of_ne_zero fun h => hd (Fin.ext h), rfl⟩
  | append_singleton ds e ih =>
    obtain ⟨hpos, hdigits⟩ := ih
    rw [← List.cons_append, magnitude_concat, figures_concat, ← hdigits,
      ← Nat.toDigits_append_toDigits (by decide) hpos e.isLt, Nat.toDigits_of_lt_base e.isLt]
    exact ⟨by omega, rfl⟩

theorem exists_magnitude {m : Nat} (h : 0 < m) : ∃ d ds, d ≠ 0 ∧ magnitude (d :: ds) = m := by
  induction m using Nat.strongRecOn with
  | ind m ih =>
    by_cases hlt : m < 10
    · refine ⟨⟨m, hlt⟩, [], fun h0 => ?_, by simp [magnitude]⟩
      exact Nat.pos_iff_ne_zero.1 h (congrArg Fin.val h0)
    · obtain ⟨d, ds, hd, hds⟩ := ih (m / 10) (by omega) (by omega)
      refine ⟨d, ds ++ [⟨m % 10, by omega⟩], hd, ?_⟩
      rw [← List.cons_append, magnitude_concat, hds]
      exact Nat.div_add_mod m 10

theorem write_natCast (m : Nat) : (Decimal.write m).toList = Nat.toDigits 10 m := by
  have hwrite : Decimal.write m = m.repr := rfl
  rw [hwrite, Nat.repr_eq_ofList_toDigits, String.toList_ofList]

theorem write_neg {m : Nat} (h : 0 < m) :
    (Decimal.write (-(m : Int))).toList = '-' :: Nat.toDigits 10 m := by
  have hneg : ¬ 0 ≤ -(m : Int) := by omega
  have hsign : "-".toList = ['-'] := rfl
  rw [Decimal.write, Int.repr_eq_if, if_neg hneg, String.toList_append, hsign, Int.neg_neg,
    Int.toNat_natCast, Nat.repr_eq_ofList_toDigits, String.toList_ofList, List.singleton_append]

/-- The text of a canonical numeral is the written form of what it denotes. -/
theorem IsCanonical.write_value {n : Numeral} (h : n.IsCanonical) :
    Decimal.write n.value = n.text := by
  apply String.toList_injective
  rw [toList_text]
  rcases h.cases with rfl | ⟨d, ds, hd, rfl | rfl⟩
  · rfl
  · obtain ⟨-, hdigits⟩ := toDigits_magnitude hd ds
    rw [value, Sign.factor, Int.one_mul, write_natCast, hdigits]
    rfl
  · obtain ⟨hpos, hdigits⟩ := toDigits_magnitude hd ds
    rw [value, Sign.factor, Int.neg_one_mul, write_neg hpos, hdigits]
    rfl

theorem exists_isCanonical (k : Int) : ∃ n : Numeral, n.IsCanonical ∧ n.value = k := by
  rcases Int.lt_trichotomy k 0 with hneg | rfl | hpos
  · obtain ⟨d, ds, hd, hds⟩ := exists_magnitude (m := k.natAbs) (by omega)
    refine ⟨⟨.minus, d :: ds, List.cons_ne_nil _ _⟩, isCanonical_cons (by decide) hd ds, ?_⟩
    rw [value, hds, Sign.factor]
    omega
  · exact ⟨_, isCanonical_zero, rfl⟩
  · obtain ⟨d, ds, hd, hds⟩ := exists_magnitude (m := k.natAbs) (by omega)
    refine ⟨⟨.none, d :: ds, List.cons_ne_nil _ _⟩, isCanonical_cons (by decide) hd ds, ?_⟩
    rw [value, hds, Sign.factor]
    omega

end Numeral

/-- A text is a literal of the value `v` if a sign that may be left out and one or more digits make
it up, which denote `v`, and if `v` is in range; otherwise it is a word, and names itself. Each
value is denoted by a canonical numeral, whose text is the written form of the value and a literal
of it. -/
theorem classify_grammar (text : String) :
    (∀ v : Int,
      (∃ value : Value, value.toInt = v ∧ Token.classify text = .literal value) ↔
        (∃ n : Numeral, n.text = text ∧ n.value = v) ∧ -2 ^ 63 ≤ v ∧ v ≤ 2 ^ 63 - 1) ∧
    (Token.classify text = .word text ↔
      ¬ ∃ n : Numeral, n.text = text ∧ -2 ^ 63 ≤ n.value ∧ n.value ≤ 2 ^ 63 - 1) ∧
    ∀ value : Value,
      (∃ n : Numeral, n.IsCanonical ∧ n.value = value.toInt) ∧
      ∀ n : Numeral, n.IsCanonical → n.value = value.toInt →
        n.text = Decimal.write value.toInt ∧ Token.classify n.text = .literal value := by
  refine ⟨fun v => ?_, ?_, fun value => ⟨Numeral.exists_isCanonical _, fun n hn hvalue => ?_⟩⟩
  · rw [Token.exists_literal_iff, Numeral.read?_eq_some_iff]
    exact Iff.rfl
  · rw [Token.classify_eq_word_iff]
    simp only [Numeral.read?_eq_some_iff]
    constructor
    · rintro h ⟨n, hn, hrange⟩
      exact h n.value ⟨n, hn, rfl⟩ hrange
    · rintro h _ ⟨n, hn, rfl⟩ hrange
      exact h ⟨n, hn, hrange⟩
  · rw [← hn.write_value, hvalue]
    exact ⟨rfl, Token.classify_write value⟩

/-- The least value after zeros, what follows the greatest one, and digits of another script. -/
example : Token.classify "-009223372036854775808" = .literal (-9223372036854775808) ∧
    Token.classify "9223372036854775808" = .word "9223372036854775808" ∧
    Token.classify "+٣" = .word "+٣" := by
  decide

end Rpn
