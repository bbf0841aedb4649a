import Mathlib.Algebra.Ring.Int.Defs
import Mathlib.Data.List.Basic
import Rpn.Proofs.Run
import Rpn.Proofs.Words

/-!
Calculation with exact integers. A stack is a list of integers without bounds, the newest last, and
a result has to lie in the range of the machine only when it is put back. Main statement: the
machine and the exact calculation have the same outcome on every list of tokens.
-/

namespace Rpn

namespace Exact

/-- The integers that 64 bits hold, one of them for the sign. -/
def InRange (n : Int) : Prop := -2 ^ 63 ≤ n ∧ n ≤ 2 ^ 63 - 1

instance (n : Int) : Decidable (InRange n) := inferInstanceAs (Decidable (_ ∧ _))

/-- Reads decimal digits, after others that write `n`. -/
def digits? (n : Nat) : List Char → Option Nat
  | [] => some n
  | c :: cs =>
    if '0' ≤ c ∧ c ≤ '9' then digits? (10 * n + (c.toNat - '0'.toNat)) cs else none

/-- One or more digits. -/
def numeral? : List Char → Option Nat
  | [] => none
  | c :: cs => digits? 0 (c :: cs)

/-- A numeral after at most one sign. -/
def signed? : List Char → Option Int
  | '+' :: cs => (numeral? cs).map fun n : Nat => (n : Int)
  | '-' :: cs => (numeral? cs).map fun n : Nat => -(n : Int)
  | cs => (numeral? cs).map fun n : Nat => (n : Int)

def literal? (text : String) : Option Int :=
  (signed? text.toList).filter fun n => decide (InRange n)

/-- How many operands a word takes, for the words that there are. -/
def arity? : String → Option Nat
  | "dup" => some 1
  | "drop" => some 1
  | "swap" => some 2
  | "over" => some 2
  | "rot" => some 3
  | "+" => some 2
  | "-" => some 2
  | "*" => some 2
  | "/" => some 2
  | _ => none

/-- An exact result, if it is in range. -/
def checked (n : Int) : Except ArithmeticFault (List Int) :=
  if InRange n then .ok [n] else .error .overflow

/-- What a word puts in place of its operands; the newest is last in both lists. -/
def apply : String → List Int → Except ArithmeticFault (List Int)
  | "dup", [a] => .ok [a, a]
  | "drop", [_] => .ok []
  | "swap", [a, b] => .ok [b, a]
  | "over", [a, b] => .ok [a, b, a]
  | "rot", [a, b, c] => .ok [b, c, a]
  | "+", [a, b] => checked (a + b)
  | "-", [a, b] => checked (a - b)
  | "*", [a, b] => checked (a * b)
  | "/", [a, b] => if b = 0 then .error .divisionByZero else checked (a.tdiv b)
  | _, operands => .ok operands

/-- The stack after the text of one token. -/
def step (text : String) (s : List Int) : Except Fault.Cause (List Int) :=
  match literal? text with
  | some n => .ok (s ++ [n])
  | none =>
    match arity? text with
    | none => .error .unrecognized
    | some k =>
      if s.length < k then .error (.underflow k s.length)
      else
        match apply text (s.drop (s.length - k)) with
        | .error fault => .error (.arithmetic fault)
        | .ok results => .ok (s.take (s.length - k) ++ results)

/-- The stack after the tokens up to the first fault, and that fault. -/
def run (s : List Int) : List Token → List Int × Option Fault
  | [] => (s, none)
  | t :: ts =>
    match step t.text s with
    | .ok s' => run s' ts
    | .error cause => (s, some ⟨t.text, t.location, cause⟩)

end Exact

/-- The stack as exact integers, from the bottom. -/
def Stack.exact (s : Stack) : List Int := s.toList.map Int64.toInt

@[simp] theorem Stack.length_exact (s : Stack) : s.exact.length = s.depth := by
  simp [exact]

namespace Exact

/-- The integers in range are the meanings of the values. -/
theorem ofInt?_cases (n : Int) :
    (∃ v, Value.ofInt? n = some v ∧ v.toInt = n ∧ InRange n) ∨
      (Value.ofInt? n = none ∧ ¬ InRange n) := by
  have hrange : InRange n ↔ Value.least ≤ n ∧ n ≤ Value.greatest := Iff.rfl
  cases h : Value.ofInt? n with
  | none =>
    rw [hrange]
    exact .inr ⟨rfl, Value.ofInt?_eq_none_iff.1 h⟩
  | some v =>
    obtain rfl := Value.ofInt?_eq_some_iff.1 h
    exact .inl ⟨v, rfl, rfl, Value.least_le_toInt v, Value.toInt_le_greatest v⟩

theorem checked_eq (n : Int) :
    checked n = (Primitive.exactly n).map (List.map Int64.toInt) := by
  unfold checked Primitive.exactly
  obtain ⟨v, hv, hn, hr⟩ | ⟨hv, hr⟩ := ofInt?_cases n
  · simp [hv, hr, hn, Except.map]
  · simp [hv, hr, Except.map]

theorem digits?_eq (n : Nat) (cs : List Char) :
    digits? n cs = if cs.all Char.isDigit then some (Nat.ofDigitChars 10 cs n) else none := by
  induction cs generalizing n with
  | nil => rfl
  | cons c cs ih =>
    have hc : ('0' ≤ c ∧ c ≤ '9') ↔ c.isDigit = true := by
      simp [Char.isDigit, Char.le_def]
    by_cases hd : c.isDigit = true
    · simp [digits?, hc, hd, ih, Nat.ofDigitChars]
    · simp [digits?, hc, hd]

theorem numeral?_eq (cs : List Char) : numeral? cs = Decimal.digits? cs := by
  cases cs with
  | nil => rfl
  | cons c cs => simp only [numeral?, digits?_eq, Decimal.digits?, ne_eq, reduceCtorEq,
      not_false_eq_true, true_and]

theorem signed?_eq (cs : List Char) : signed? cs = Decimal.read? cs := by
  unfold signed?
  split
  · rw [numeral?_eq, Decimal.read?]
  · rw [numeral?_eq, Decimal.read?]
  · next hplus hminus =>
    rw [numeral?_eq, Decimal.read?]
    · exact hminus
    · exact hplus

/-- Literals are the same for both, and stand for the same number. -/
theorem literal?_eq (text : String) :
    literal? text =
      ((Decimal.read? text.toList).bind Value.ofInt?).map Int64.toInt := by
  rw [literal?, signed?_eq]
  cases Decimal.read? text.toList with
  | none => rfl
  | some n =>
    obtain ⟨v, hv, hn, hr⟩ | ⟨hv, hr⟩ := ofInt?_cases n
    · simp [hv, hr, hn]
    · simp [hv, hr]

/-- The names with an arity are the names of the words, and each has the arity of its word. -/
theorem arity?_eq (name : String) : arity? name = (Vocabulary.base.get? name).map Word.arity := by
  rw [Vocabulary.get?_base]
  unfold arity?
  split
  case h_10 hdup hdrop hswap hover hrot hadd hsub hmul hdiv =>
    have hnone : Word.baseWords.reverse.find? (·.name == name) = none := by
      simp only [List.find?_eq_none, List.mem_reverse, beq_iff_eq, Word.baseWords,
        Word.stackWords, Word.arithmeticWords, List.cons_append, List.nil_append, List.mem_cons,
        List.not_mem_nil, or_false, forall_eq_or_imp, forall_eq]
      exact ⟨Ne.symm hdup, Ne.symm hdrop, Ne.symm hswap, Ne.symm hover, Ne.symm hrot,
        Ne.symm hadd, Ne.symm hsub, Ne.symm hmul, Ne.symm hdiv⟩
    rw [hnone, Option.map_none]
  all_goals rfl

/-- A word that is given as many operands as it takes computes what its name promises. -/
theorem apply_eq {w : Word} (hw : w ∈ Word.baseWords) {vs : List Value}
    (hvs : vs.length = w.arity) :
    ∃ o, w.primitive.apply vs = some o ∧
      apply w.name (vs.map Int64.toInt) = o.map (List.map Int64.toInt) := by
  have hzero (b : Value) : b.toInt = 0 ↔ b = 0 := by
    rw [← Int64.toInt_zero, Int64.toInt_inj]
  simp only [Word.baseWords, Word.stackWords, Word.arithmeticWords, List.cons_append,
    List.nil_append, List.mem_cons, List.not_mem_nil, or_false] at hw
  rcases hw with rfl | rfl | rfl | rfl | rfl | rfl | rfl | rfl | rfl
  · obtain ⟨a, rfl⟩ := List.length_eq_one_iff.1 hvs
    exact ⟨_, rfl, rfl⟩
  · obtain ⟨a, rfl⟩ := List.length_eq_one_iff.1 hvs
    exact ⟨_, rfl, rfl⟩
  · obtain ⟨a, b, rfl⟩ := List.length_eq_two.1 hvs
    exact ⟨_, rfl, rfl⟩
  · obtain ⟨a, b, rfl⟩ := List.length_eq_two.1 hvs
    exact ⟨_, rfl, rfl⟩
  · obtain ⟨a, b, c, rfl⟩ := List.length_eq_three.1 hvs
    exact ⟨_, rfl, rfl⟩
  · obtain ⟨a, b, rfl⟩ := List.length_eq_two.1 hvs
    exact ⟨_, rfl, checked_eq _⟩
  · obtain ⟨a, b, rfl⟩ := List.length_eq_two.1 hvs
    exact ⟨_, rfl, checked_eq _⟩
  · obtain ⟨a, b, rfl⟩ := List.length_eq_two.1 hvs
    exact ⟨_, rfl, checked_eq _⟩
  · obtain ⟨a, b, rfl⟩ := List.length_eq_two.1 hvs
    refine ⟨_, rfl, ?_⟩
    by_cases hb : b = 0
    · simp [apply, hb, Except.map]
    · simp [apply, hb, hzero, checked_eq]

theorem call_eq {w : Word} (hw : w ∈ Word.baseWords) (s : Stack) :
    (Machine.call w s).map Stack.exact =
      if s.depth < w.arity then .error (.underflow w.arity s.depth)
      else
        match apply w.name (s.exact.drop (s.depth - w.arity)) with
        | .error fault => .error (.arithmetic fault)
        | .ok results => .ok (s.exact.take (s.depth - w.arity) ++ results) := by
  rw [Machine.call, Stack.top?_eq]
  by_cases hd : w.arity ≤ s.depth
  · have hlen : (s.toList.drop (s.depth - w.arity)).length = w.arity := by
      rw [List.length_drop, Stack.length_toList]
      omega
    obtain ⟨o, happly, hexact⟩ := apply_eq hw hlen
    rw [if_pos hd, if_neg (Nat.not_lt.2 hd), Stack.exact, ← List.map_drop, hexact]
    simp only [happly]
    cases o with
    | error fault => rfl
    | ok results =>
      simp [Except.map, Stack.exact, List.map_take]
  · rw [if_neg hd, if_pos (Nat.not_le.1 hd)]
    rfl

/-- One token has the same effect on the values as on the integers that they stand for. -/
theorem step_eq (text : String) (s : Stack) :
    step text s.exact = (Machine.effect .base text s).map Stack.exact := by
  rw [step, Machine.effect, Token.classify, literal?_eq]
  cases (Decimal.read? text.toList).bind Value.ofInt? with
  | some v => simp [Stack.exact, Except.map]
  | none =>
    simp only [Option.map_none, arity?_eq]
    cases hw : Vocabulary.base.get? text with
    | none => rfl
    | some w =>
      obtain ⟨hmem, hname⟩ := Vocabulary.mem_baseWords_of_get? hw
      simp only [Option.map_some, Stack.length_exact]
      rw [call_eq hmem, hname]

theorem run_eq (m : Machine) (hm : m.vocabulary = .base) (ts : List Token) :
    run m.stack.exact ts = ((m.run ts).1.stack.exact, (m.run ts).2) := by
  induction ts generalizing m with
  | nil => rfl
  | cons t ts ih =>
    have hstep := step_eq t.text m.stack
    rw [← hm] at hstep
    cases h : m.step t with
    | ok m' =>
      obtain ⟨s, hs, rfl⟩ := Machine.step_eq_ok_iff.1 h
      rw [hs] at hstep
      have hrest := ih { m with stack := s } hm
      rw [Machine.run_cons_ok h, ← hrest, run, hstep]
      rfl
    | error x =>
      obtain ⟨cause, hc, rfl⟩ := Machine.step_eq_error_iff.1 h
      rw [hc] at hstep
      rw [Machine.run_cons_error h, run, hstep]
      rfl

end Exact

/-- On every stack and every list of tokens the machine does what exact calculation does: it runs
to the end, or stops at the same token for the same reason, and leaves the same numbers. -/
theorem run_eq_exact_run (vs : List Value) (echo : Bool) (ts : List Token) :
    let (m, fault) := Machine.run ⟨.ofList vs, .base, echo⟩ ts
    (m.stack.toList.map Int64.toInt, fault) = Exact.run (vs.map Int64.toInt) ts := by
  have h := Exact.run_eq ⟨.ofList vs, .base, echo⟩ rfl ts
  simp only [Stack.exact, Stack.toList_ofList] at h
  exact h.symm

/-- The least value has no opposite, and a division that would give it overflows. -/
example : Exact.run [-2 ^ 63] [⟨"-1", ⟨none, 1, 1⟩⟩, ⟨"/", ⟨none, 1, 4⟩⟩] =
    ([-2 ^ 63, -1], some ⟨"/", ⟨none, 1, 4⟩, .arithmetic .overflow⟩) := by
  decide

end Rpn
