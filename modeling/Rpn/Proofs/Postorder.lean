import Rpn.Proofs.Exact
import Rpn.Proofs.Joined

/-!
Expressions and the texts that list them in postorder, which is how the calculator is asked for
their values. An expression has its exact value, and each of its nodes a fault if it divides by
zero or leaves the range. Main statement: the machine leaves the value of the expression, or stops
at the first node with a fault, in the column where that node is written.
-/

namespace Rpn

inductive Operator
  | add
  | sub
  | mul
  | div
deriving DecidableEq

namespace Operator

def symbol : Operator → String
  | add => "+"
  | sub => "-"
  | mul => "*"
  | div => "/"

/-- The exact result; a quotient is rounded toward zero. -/
def calculate : Operator → Int → Int → Int
  | add, a, b => a + b
  | sub, a, b => a - b
  | mul, a, b => a * b
  | div, a, b => a.tdiv b

/-- Why operands have no result that is a value. -/
def fault? (op : Operator) (a b : Int) : Option ArithmeticFault :=
  if op = div ∧ b = 0 then some .divisionByZero
  else if Exact.InRange (op.calculate a b) then none
  else some .overflow

theorem isWord_symbol (op : Operator) : Text.IsWord op.symbol.toList := by
  cases op <;> exact ⟨by simp [symbol], by simp [symbol, Text.isGap]⟩

end Operator

inductive Expr
  | leaf (v : Value)
  | node (op : Operator) (left right : Expr)

namespace Expr

/-- The exact value, which means something only if no node divides by zero. -/
def value : Expr → Int
  | leaf v => v.toInt
  | node op left right => op.calculate left.value right.value

/-- What is written for the root. -/
def symbol : Expr → String
  | leaf v => Decimal.write v.toInt
  | node op _ _ => op.symbol

/-- The fault of the root. -/
def fault? : Expr → Option ArithmeticFault
  | leaf _ => none
  | node op left right => op.fault? left.value right.value

/-- The expression and all below it, operands first. -/
def postorder : Expr → List Expr
  | leaf v => [leaf v]
  | node op left right => left.postorder ++ right.postorder ++ [node op left right]

def symbols (e : Expr) : List String := e.postorder.map symbol

def text (e : Expr) : String := " ".intercalate e.symbols

/-- The first of some expressions that has a fault, and those before it. -/
structure IsFirstFault (es before : List Expr) (t : Expr) (x : ArithmeticFault) : Prop where
  split : ∃ after, es = before ++ t :: after
  sound : ∀ e ∈ before, e.fault? = none
  fault : t.fault? = some x

end Expr

namespace Exact

theorem run_append (s : List Int) (ts us : List Token) :
    run s (ts ++ us) =
      match run s ts with
      | (s', none) => run s' us
      | (s', some x) => (s', some x) := by
  induction ts generalizing s with
  | nil => rfl
  | cons t ts ih =>
    rw [List.cons_append, run, run]
    cases step t.text s with
    | ok s' => exact ih s'
    | error cause => rfl

theorem run_append_of_ok {s s' : List Int} {ts : List Token} (h : run s ts = (s', none))
    (us : List Token) : run s (ts ++ us) = run s' us := by
  rw [run_append, h]

theorem run_append_of_fault {s s' : List Int} {ts : List Token} {x : Fault}
    (h : run s ts = (s', some x)) (us : List Token) : run s (ts ++ us) = (s', some x) := by
  rw [run_append, h]

/-- A value that is written out is a literal. -/
theorem step_write (v : Value) (s : List Int) :
    step (Decimal.write v.toInt) s = .ok (s ++ [v.toInt]) := by
  simp [step, literal?_eq, Decimal.read?_write]

theorem checked_calculate (op : Operator) (a b : Int) (h : ¬ (op = .div ∧ b = 0)) :
    checked (op.calculate a b) =
      match op.fault? a b with
      | none => .ok [op.calculate a b]
      | some x => .error x := by
  rw [checked, Operator.fault?, if_neg h]
  by_cases hrange : InRange (op.calculate a b)
  · simp [hrange]
  · simp [hrange]

theorem apply_symbol (op : Operator) (a b : Int) :
    apply op.symbol [a, b] =
      match op.fault? a b with
      | none => .ok [op.calculate a b]
      | some x => .error x := by
  cases op with
  | add => exact checked_calculate .add a b (by simp)
  | sub => exact checked_calculate .sub a b (by simp)
  | mul => exact checked_calculate .mul a b (by simp)
  | div =>
    by_cases hb : b = 0
    · simp [Operator.symbol, Operator.fault?, apply, hb]
    · rw [← checked_calculate .div a b (by simp [hb])]
      simp [Operator.symbol, Operator.calculate, apply, hb]

/-- An operator takes two operands, the second one from the top. -/
theorem step_symbol (op : Operator) (s : List Int) (a b : Int) :
    step op.symbol (s ++ [a, b]) =
      match op.fault? a b with
      | none => .ok (s ++ [op.calculate a b])
      | some x => .error (.arithmetic x) := by
  have hliteral : literal? op.symbol = none := by cases op <;> decide
  have harity : arity? op.symbol = some 2 := by cases op <;> rfl
  have hlength : (s ++ [a, b]).length = s.length + 2 := by simp
  rw [step, hliteral]
  simp only [harity, hlength, Nat.add_sub_cancel, List.drop_left, List.take_left, apply_symbol]
  rw [if_neg (by omega)]
  cases op.fault? a b with
  | none => rfl
  | some x => rfl

end Exact

namespace Expr

theorem isWord_symbol (e : Expr) : Text.IsWord e.symbol.toList := by
  cases e with
  | leaf v => exact Decimal.isWord_write v.toInt
  | node op left right => exact op.isWord_symbol

theorem isWord_of_mem_symbols {e : Expr} {word : String} (h : word ∈ e.symbols) :
    Text.IsWord word.toList := by
  obtain ⟨t, -, rfl⟩ := List.mem_map.1 h
  exact isWord_symbol t

theorem symbols_node (op : Operator) (left right : Expr) :
    (node op left right).symbols = left.symbols ++ right.symbols ++ [op.symbol] := by
  simp [symbols, postorder, symbol]

namespace IsFirstFault

variable {es before : List Expr} {t : Expr} {x : ArithmeticFault}

theorem append_right (h : IsFirstFault es before t x) (more : List Expr) :
    IsFirstFault (es ++ more) before t x := by
  obtain ⟨after, rfl⟩ := h.split
  exact ⟨⟨after ++ more, by simp⟩, h.sound, h.fault⟩

theorem append_left (h : IsFirstFault es before t x) {first : List Expr}
    (hfirst : ∀ e ∈ first, e.fault? = none) :
    IsFirstFault (first ++ es) (first ++ before) t x := by
  obtain ⟨after, rfl⟩ := h.split
  exact ⟨⟨after, by simp⟩, List.forall_mem_append.2 ⟨hfirst, h.sound⟩, h.fault⟩

end IsFirstFault

open Scanner (row width)

/-- What comes of an expression that is calculated from the stack `s`, with its text in a row from
a column on: its value on top, or the first fault. -/
def Outcome (e : Expr) (source : Option String) (column : Nat) (s : List Int)
    (result : List Int × Option Fault) : Prop :=
  (∀ t ∈ e.postorder, t.fault? = none) ∧ result = (s ++ [e.value], none) ∨
    ∃ before t x above, IsFirstFault e.postorder before t x ∧
      result = (s ++ above, some ⟨t.symbol, ⟨source, 1, column + width (before.map symbol)⟩,
        .arithmetic x⟩)

theorem outcome_run (e : Expr) (source : Option String) (column : Nat) (s : List Int) :
    e.Outcome source column s (Exact.run s (row source column e.symbols)) := by
  induction e generalizing column s with
  | leaf v =>
    left
    refine ⟨by simp [postorder, fault?], ?_⟩
    simp [symbols, postorder, symbol, row, Exact.run, Exact.step_write, value]
  | node op left right ihl ihr =>
    rw [symbols_node, Scanner.row_append, Scanner.row_append, List.append_assoc]
    rcases ihl column s with ⟨hl, hrun⟩ | ⟨before, t, x, above, hfirst, hrun⟩
    · rw [Exact.run_append_of_ok hrun]
      rcases ihr (column + width left.symbols) (s ++ [left.value]) with
        ⟨hr, hrun⟩ | ⟨before, t, x, above, hfirst, hrun⟩
      · -- Both operands are on the stack, so that the operator decides.
        have hoperands : ∀ t ∈ left.postorder ++ right.postorder, t.fault? = none :=
          List.forall_mem_append.2 ⟨hl, hr⟩
        have hstep := Exact.step_symbol op s left.value right.value
        rw [Exact.run_append_of_ok hrun, row, Exact.run, List.append_assoc, List.singleton_append,
          hstep]
        cases hfault : op.fault? left.value right.value with
        | none =>
          left
          refine ⟨List.forall_mem_append.2 ⟨hoperands, by simpa [fault?] using hfault⟩, ?_⟩
          rfl
        | some x =>
          right
          refine ⟨left.postorder ++ right.postorder, node op left right, x,
            [left.value, right.value], ⟨⟨[], rfl⟩, hoperands, hfault⟩, ?_⟩
          simp [symbol, symbols, Scanner.width_append]
      · right
        refine ⟨left.postorder ++ before, t, x, left.value :: above,
          (hfirst.append_left hl).append_right _, ?_⟩
        rw [Exact.run_append_of_fault hrun]
        simp [symbols, Scanner.width_append, Nat.add_assoc]
    · right
      refine ⟨before, t, x, above, ?_, Exact.run_append_of_fault hrun _⟩
      rw [postorder, List.append_assoc]
      exact hfirst.append_right _

end Expr

/-- Exact numbers above a stack are the meanings of values above it. -/
theorem Stack.exists_of_exact_eq_append {s : Stack} {vs : List Value} {above : List Int}
    (h : s.exact = (ofList vs).exact ++ above) :
    ∃ ws : List Value, s.toList = vs ++ ws ∧ ws.map Int64.toInt = above := by
  rw [exact, exact, toList_ofList] at h
  obtain ⟨us, ws, hsplit, hus, hws⟩ := List.map_eq_append_iff.1 h
  have hinj : Function.Injective Int64.toInt := fun _ _ => Int64.toInt_inj.1
  obtain rfl := hinj.list_map hus
  exact ⟨ws, hsplit, hws⟩

/-- An expression is asked for by its text, on top of whatever is on the stack. If no node divides
by zero or leaves the range, its value is put there. Otherwise the first node in postorder that
does is reported in the column where it is written, and what was on the stack stays. -/
theorem run_text_of_expr (e : Expr) (vs : List Value) (echo : Bool) (source : Option String) :
    let tokens := (Scanner.initial.feed source e.text).tokens
    let (m, fault) := Machine.run ⟨.ofList vs, .base, echo⟩ tokens
    (∀ t ∈ e.postorder, t.fault? = none) ∧ fault = none ∧
        (∃ v : Value, v.toInt = e.value ∧ m.stack.toList = vs ++ [v]) ∨
      ∃ before t x, Expr.IsFirstFault e.postorder before t x ∧
        fault = some ⟨t.symbol, ⟨source, 1, 1 + Scanner.width (before.map Expr.symbol)⟩,
          .arithmetic x⟩ ∧
        vs <+: m.stack.toList := by
  have htokens : (Scanner.initial.feed source e.text).tokens = Scanner.row source 1 e.symbols :=
    Scanner.tokens_feed_intercalate (fun _ => Expr.isWord_of_mem_symbols) source
  have hrun := Exact.run_eq ⟨.ofList vs, .base, echo⟩ rfl (Scanner.row source 1 e.symbols)
  have houtcome := e.outcome_run source 1 (Stack.ofList vs).exact
  rw [hrun] at houtcome
  simp only [htokens]
  rcases houtcome with ⟨hsound, hresult⟩ | ⟨before, t, x, above, hfirst, hresult⟩
  · left
    obtain ⟨hstack, hfault⟩ := Prod.mk.inj hresult
    obtain ⟨ws, hsplit, hws⟩ := Stack.exists_of_exact_eq_append hstack
    obtain ⟨v, rfl, hv⟩ := List.map_eq_singleton_iff.1 hws
    exact ⟨hsound, hfault, v, hv, hsplit⟩
  · right
    obtain ⟨hstack, hfault⟩ := Prod.mk.inj hresult
    obtain ⟨ws, hsplit, -⟩ := Stack.exists_of_exact_eq_append hstack
    exact ⟨before, t, x, hfirst, hfault, ws, hsplit.symm⟩

/-- The divisor is calculated first, and the quotient is what cannot be had. -/
example :
    let e : Expr := .node .div (.leaf 7) (.node .sub (.leaf 2) (.leaf 2))
    e.text = "7 2 2 - /" ∧
      e.postorder.map Expr.fault? = [none, none, none, none, some .divisionByZero] := by
  decide

end Rpn
