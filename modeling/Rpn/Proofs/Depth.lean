import Rpn.Proofs.Exact
import Rpn.Proofs.Frame
import Rpn.Proofs.Simulation

/-!
The depth of a stack without its values. A literal adds one to it, and a word takes away its
operands and adds its results, how many of each the name of the word tells. Main statement: as far
as no arithmetic goes wrong, this foretells where a run stops, why it does, and how deep the stack
is then.
-/

namespace Rpn

/-- How many values a primitive leaves in place of its operands. -/
def Primitive.leaves : Primitive → Nat
  | .drop => 0
  | .dup => 2
  | .swap => 2
  | .over => 3
  | .rot => 3
  | _ => 1

/-- Whether a run was ended by arithmetic. -/
def Effects.Outcome.IsArithmetic {σ : Type} (o : Outcome σ) : Prop :=
  ∃ x fault, o.fault = some x ∧ x.cause = .arithmetic fault

namespace Depth

/-- How many operands a word takes and how many results it leaves, for the words that there are. -/
def shape? : String → Option (Nat × Nat)
  | "dup" => some (1, 2)
  | "drop" => some (1, 0)
  | "swap" => some (2, 2)
  | "over" => some (2, 3)
  | "rot" => some (3, 3)
  | "+" => some (2, 1)
  | "-" => some (2, 1)
  | "*" => some (2, 1)
  | "/" => some (2, 1)
  | _ => none

/-- The depth after the text of one token. -/
def effect : Effects Nat := fun text depth =>
  match Exact.literal? text with
  | some _ => .ok (depth + 1)
  | none =>
    match shape? text with
    | none => .error .unrecognized
    | some (operands, results) =>
      if depth < operands then .error (.underflow operands depth)
      else .ok (depth - operands + results)

end Depth

theorem Primitive.length_of_exactly {n : Int} {results : List Value}
    (h : exactly n = .ok results) : results.length = 1 := by
  rw [exactly] at h
  split at h
  · cases h
    rfl
  · cases h

theorem Primitive.length_of_apply {p : Primitive} {vs results : List Value}
    (h : p.apply vs = some (.ok results)) : results.length = p.leaves := by
  unfold apply at h
  split at h
  case h_9 a b rest =>
    have hquotient := Option.some.inj h
    split at hquotient
    · cases hquotient
    · exact length_of_exactly hquotient
  case h_10 => cases h
  case h_6 | h_7 | h_8 => exact length_of_exactly (Option.some.inj h)
  -- The stack words are left, whose results are listed.
  all_goals
    cases h
    rfl

theorem Word.reads_le_arity : ∀ w ∈ baseWords, w.primitive.reads ≤ w.arity := by decide

namespace Depth

theorem shape?_name :
    ∀ w ∈ Word.baseWords, shape? w.name = some (w.arity, w.primitive.leaves) := by decide

/-- The names with a shape are those of the words, and each shape is that of its word. -/
theorem shape?_eq (name : String) :
    shape? name = (Vocabulary.base.get? name).map fun w => (w.arity, w.primitive.leaves) := by
  cases h : Vocabulary.base.get? name with
  | some w =>
    obtain ⟨hw, rfl⟩ := Vocabulary.mem_baseWords_of_get? h
    exact shape?_name w hw
  | none =>
    unfold shape?
    split
    case h_10 => rfl
    all_goals cases h

/-- What a word can do to the depth of a stack. -/
theorem call_cases {w : Word} (hw : w ∈ Word.baseWords) (s : Stack) :
    s.depth < w.arity ∧ Machine.call w s = .error (.underflow w.arity s.depth) ∨
      w.arity ≤ s.depth ∧
        ((∃ fault, Machine.call w s = .error (.arithmetic fault)) ∨
          ∃ s', Machine.call w s = .ok s' ∧
            s'.depth = s.depth - w.arity + w.primitive.leaves) := by
  by_cases hdepth : s.depth < w.arity
  · exact .inl ⟨hdepth, Machine.call_of_lt hdepth⟩
  · have hle := Nat.not_lt.1 hdepth
    refine .inr ⟨hle, ?_⟩
    obtain ⟨below, operands, rfl, hlength⟩ := Stack.exists_operands hle
    rw [Machine.call_ofList w below hlength]
    cases happly : w.primitive.apply operands with
    | none =>
      have hreads := Word.reads_le_arity w hw
      rw [Primitive.apply_eq_none_iff] at happly
      omega
    | some result =>
      cases result with
      | error fault => exact .inl ⟨fault, rfl⟩
      | ok results =>
        refine .inr ⟨_, rfl, ?_⟩
        have hresults := Primitive.length_of_apply happly
        simp only [Stack.depth_ofList, List.length_append]
        omega

/-- A token changes the depth as foretold, unless arithmetic goes wrong where no operand is
missing. -/
theorem effect_cases (text : String) (s : Stack) :
    (∃ s', Machine.effect .base text s = .ok s' ∧ effect text s.depth = .ok s'.depth) ∨
      (∃ fault depth, Machine.effect .base text s = .error (.arithmetic fault) ∧
        effect text s.depth = .ok depth) ∨
      ∃ cause, (∀ fault, cause ≠ .arithmetic fault) ∧
        Machine.effect .base text s = .error cause ∧ effect text s.depth = .error cause := by
  rw [Machine.effect, Token.classify, effect, Exact.literal?_eq]
  cases (Decimal.read? text.toList).bind Value.ofInt? with
  | some v => exact .inl ⟨_, rfl, rfl⟩
  | none =>
    simp only [Option.map_none, shape?_eq]
    cases hget : Vocabulary.base.get? text with
    | none => exact .inr (.inr ⟨.unrecognized, by simp, rfl, rfl⟩)
    | some w =>
      obtain ⟨hw, -⟩ := Vocabulary.mem_baseWords_of_get? hget
      simp only [Option.map_some]
      rcases call_cases hw s with ⟨hlt, hcall⟩ | ⟨hle, ⟨fault, hcall⟩ | ⟨s', hcall, hdepth⟩⟩
      · rw [if_pos hlt]
        exact .inr (.inr ⟨_, by simp, hcall, rfl⟩)
      · rw [if_neg (Nat.not_lt.2 hle)]
        exact .inr (.inl ⟨fault, _, hcall, rfl⟩)
      · rw [if_neg (Nat.not_lt.2 hle), ← hdepth]
        exact .inl ⟨s', hcall, rfl⟩

variable {s : Stack} {ts : List Token} {o : Effects.Outcome Stack}

theorem run_eq_of_not_isArithmetic (ho : Effects.run (Machine.effect .base) s ts = o)
    (h : ¬ o.IsArithmetic) : Effects.run effect s.depth ts = o.map Stack.depth := by
  induction ts generalizing s o with
  | nil =>
    subst ho
    rfl
  | cons t ts ih =>
    rcases effect_cases t.text s with ⟨s', hs, hd⟩ | ⟨fault, depth, hs, -⟩ | ⟨cause, -, hs, hd⟩
    · rw [Effects.run_cons_ok hs] at ho
      subst ho
      rw [Effects.run_cons_ok hd, ih rfl h, Effects.Outcome.map_cons]
    · rw [Effects.run_cons_error hs] at ho
      subst ho
      exact absurd ⟨_, fault, rfl, rfl⟩ h
    · rw [Effects.run_cons_error hs] at ho
      subst ho
      rw [Effects.run_cons_error hd]
      rfl

/-- If arithmetic ends a run, the depth would have let it go on after that token. -/
theorem exists_accepted_of_isArithmetic (ho : Effects.run (Machine.effect .base) s ts = o)
    (h : o.IsArithmetic) :
    ∃ t after fault, ts = o.accepted ++ t :: after ∧
      o.fault = some ⟨t.text, t.location, .arithmetic fault⟩ ∧
      o.accepted ++ [t] <+: (Effects.run effect s.depth ts).accepted := by
  induction ts generalizing s o with
  | nil =>
    subst ho
    obtain ⟨x, fault, hnone, -⟩ := h
    cases hnone
  | cons t ts ih =>
    rcases effect_cases t.text s with ⟨s', hs, hd⟩ | ⟨fault, depth, hs, hd⟩ | ⟨cause, hne, hs, hd⟩
    · rw [Effects.run_cons_ok hs] at ho
      subst ho
      obtain ⟨u, after, fault, hts, hfault, haccepted⟩ := ih rfl h
      rw [Effects.run_cons_ok hd]
      exact ⟨u, after, fault, congrArg (t :: ·) hts, hfault,
        List.cons_prefix_cons.2 ⟨rfl, haccepted⟩⟩
    · rw [Effects.run_cons_error hs] at ho
      subst ho
      rw [Effects.run_cons_ok hd]
      exact ⟨t, ts, fault, rfl, rfl, List.prefix_append [t] _⟩
    · rw [Effects.run_cons_error hs] at ho
      subst ho
      obtain ⟨x, fault, hx, hcause⟩ := h
      cases hx
      exact absurd hcause (hne fault)

end Depth

/-- The depth alone foretells a run. If it is not ended by arithmetic, the tokens accepted, the
fault if there is one, and the last depth are those of the run over depths. If it is, the run over
depths accepts all tokens up to the one where that happens. So stacks of one depth are alike to a
program, but for arithmetic. -/
theorem run_depth_exact (vs : List Value) (echo : Bool) (ts : List Token) :
    let machine (values : List Value) : Machine := ⟨.ofList values, .base, echo⟩
    let o := (machine vs).outcome ts
    let foretold := Effects.run Depth.effect vs.length ts
    (¬ o.IsArithmetic → foretold = o.map Stack.depth) ∧
    (o.IsArithmetic →
      ∃ t after fault, ts = o.accepted ++ t :: after ∧
        o.fault = some ⟨t.text, t.location, .arithmetic fault⟩ ∧
        o.accepted ++ [t] <+: foretold.accepted) ∧
    ∀ ws : List Value, ws.length = vs.length → ¬ o.IsArithmetic →
      ¬ ((machine ws).outcome ts).IsArithmetic →
      ((machine ws).outcome ts).map Stack.depth = o.map Stack.depth := by
  intro machine o foretold
  have houtcome (values : List Value) :
      Effects.run (Machine.effect .base) (.ofList values) ts = (machine values).outcome ts :=
    (Machine.outcome_eq (machine values) ts).symm
  have hforetold (values : List Value) (h : ¬ ((machine values).outcome ts).IsArithmetic) :
      Effects.run Depth.effect values.length ts =
        ((machine values).outcome ts).map Stack.depth := by
    rw [← Stack.depth_ofList]
    exact Depth.run_eq_of_not_isArithmetic (houtcome values) h
  refine ⟨hforetold vs, fun h => ?_, fun ws hlength hvs hws => ?_⟩
  · have haccepted := Depth.exists_accepted_of_isArithmetic (houtcome vs) h
    rwa [Stack.depth_ofList] at haccepted
  · rw [← hforetold ws hws, hlength, hforetold vs hvs]

/-- A quotient that is missing a third value for the next word, and one that there is not. -/
theorem run_depth_exact_quotient :
    let ts : List Token := [⟨"over", ⟨none, 1, 1⟩⟩, ⟨"/", ⟨none, 1, 6⟩⟩, ⟨"rot", ⟨none, 1, 8⟩⟩]
    let machine (values : List Value) : Machine := ⟨.ofList values, .base, false⟩
    let o (values : List Value) := (machine values).outcome ts
    (o [6, 3]).fault = some ⟨"rot", ⟨none, 1, 8⟩, .underflow 3 2⟩ ∧
    Effects.run Depth.effect 2 ts = (o [6, 3]).map Stack.depth ∧
    (o [-8, 1]).map Stack.depth = (o [6, 3]).map Stack.depth ∧
    (o [0, 3]).IsArithmetic ∧
    ∃ t after, ts = (o [0, 3]).accepted ++ t :: after ∧
      (o [0, 3]).accepted ++ [t] <+: (Effects.run Depth.effect 2 ts).accepted := by
  intro ts machine o
  have hfault : (o [6, 3]).fault = some ⟨"rot", ⟨none, 1, 8⟩, .underflow 3 2⟩ := by decide
  have hother : (o [-8, 1]).fault = some ⟨"rot", ⟨none, 1, 8⟩, .underflow 3 2⟩ := by decide
  have hsound (values : List Value)
      (h : (o values).fault = some ⟨"rot", ⟨none, 1, 8⟩, .underflow 3 2⟩) :
      ¬ (o values).IsArithmetic := by
    rintro ⟨x, fault, hx, hcause⟩
    rw [h] at hx
    cases hx
    cases hcause
  have hzero : (o [0, 3]).IsArithmetic :=
    ⟨⟨"/", ⟨none, 1, 6⟩, .arithmetic .divisionByZero⟩, .divisionByZero, by decide, rfl⟩
  obtain ⟨hforetold, -, hsame⟩ := run_depth_exact [6, 3] false ts
  obtain ⟨-, hstopped, -⟩ := run_depth_exact [0, 3] false ts
  obtain ⟨t, after, fault, hts, -, haccepted⟩ := hstopped hzero
  exact ⟨hfault, hforetold (hsound _ hfault),
    hsame [-8, 1] rfl (hsound _ hfault) (hsound _ hother), hzero, t, after, hts, haccepted⟩

end Rpn
