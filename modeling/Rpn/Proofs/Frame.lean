import Rpn.Proofs.Run

/-!
Stacks with more values below. Words take their operands from the top, so a run that finds all the
operands it asks for neither reads nor changes what lies further down. Main statement: on a stack
with other values below, such a run has the same outcome, and leaves those values where they are.
-/

namespace Rpn

/-- The causes of faults for which no operand is missing. -/
def Fault.Cause.IsSupplied (cause : Cause) : Prop :=
  cause = .unrecognized ∨ ∃ fault, cause = .arithmetic fault

theorem Fault.Cause.not_isSupplied_underflow (required depth : Nat) :
    ¬ (underflow required depth).IsSupplied := by
  simp [IsSupplied]

namespace Stack

/-- The stack with more values under its bottom. -/
def onto (base : List Value) (s : Stack) : Stack := ofList (base ++ s.toList)

theorem onto_ofList (base vs : List Value) : onto base (ofList vs) = ofList (base ++ vs) := by
  rw [onto, toList_ofList]

theorem push_onto (base : List Value) (s : Stack) (v : Value) :
    (s.onto base).push v = (s.push v).onto base := by
  apply toList_inj.1
  simp [onto]

/-- The operands on top of a stack that is deep enough. -/
theorem exists_operands {s : Stack} {n : Nat} (h : n ≤ s.depth) :
    ∃ below operands, s = ofList (below ++ operands) ∧ operands.length = n := by
  refine ⟨s.toList.take (s.depth - n), s.toList.drop (s.depth - n), ?_, ?_⟩
  · rw [List.take_append_drop, ofList_toList]
  · rw [List.length_drop, length_toList]
    omega

theorem top?_ofList (below operands : List Value) :
    (ofList (below ++ operands)).top? operands.length = some operands := by
  rw [top?_eq, depth_ofList, List.length_append, if_pos (Nat.le_add_left _ _), Nat.add_sub_cancel,
    toList_ofList, List.drop_left]

theorem replaceTop_ofList (below operands results : List Value) :
    (ofList (below ++ operands)).replaceTop operands.length results =
      ofList (below ++ results) := by
  apply toList_inj.1
  rw [toList_replaceTop, depth_ofList, List.length_append, Nat.add_sub_cancel, toList_ofList,
    toList_ofList, List.take_left]

end Stack

namespace Machine

theorem call_of_lt {w : Word} {s : Stack} (h : s.depth < w.arity) :
    call w s = .error (.underflow w.arity s.depth) := by
  rw [call, Stack.top?, if_neg (Nat.not_le.2 h)]

/-- A word is given the operands on top, and its results go in their place. -/
theorem call_ofList (w : Word) (below : List Value) {operands : List Value}
    (h : operands.length = w.arity) :
    call w (.ofList (below ++ operands)) =
      match w.primitive.apply operands with
      | none => .error (.underflow w.primitive.reads operands.length)
      | some (.error fault) => .error (.arithmetic fault)
      | some (.ok results) => .ok (.ofList (below ++ results)) := by
  rw [call, ← h]
  simp only [Stack.top?_ofList]
  cases w.primitive.apply operands with
  | none => rfl
  | some outcome =>
    cases outcome with
    | error fault => rfl
    | ok results => exact congrArg Except.ok (Stack.replaceTop_ofList below operands results)

/-- The machine with more values under the bottom of its stack. -/
def onto (base : List Value) (m : Machine) : Machine := { m with stack := m.stack.onto base }

theorem call_onto (base : List Value) (w : Word) (s : Stack)
    (h : ∀ cause, call w s = .error cause → cause.IsSupplied) :
    call w (s.onto base) = (call w s).map (Stack.onto base) := by
  by_cases hdepth : w.arity ≤ s.depth
  · obtain ⟨below, operands, rfl, hlength⟩ := Stack.exists_operands hdepth
    rw [Stack.onto_ofList, ← List.append_assoc]
    simp only [call_ofList w _ hlength] at h ⊢
    cases happly : w.primitive.apply operands with
    | none => exact absurd (h _ (by rw [happly])) (Fault.Cause.not_isSupplied_underflow _ _)
    | some outcome =>
      cases outcome with
      | error fault => rfl
      | ok results =>
        simp only [Except.map, Stack.onto_ofList, List.append_assoc]
  · have hcall := call_of_lt (Nat.not_le.1 hdepth)
    exact absurd (h _ hcall) (Fault.Cause.not_isSupplied_underflow _ _)

/-- A token that finds its operands has the same effect on top of other values. -/
theorem effect_onto (base : List Value) (V : Vocabulary) (text : String) (s : Stack)
    (h : ∀ cause, effect V text s = .error cause → cause.IsSupplied) :
    effect V text (s.onto base) = (effect V text s).map (Stack.onto base) := by
  cases hkind : Token.classify text with
  | literal v =>
    simp only [effect, hkind, Stack.push_onto, Except.map]
  | word name =>
    simp only [effect, hkind] at h ⊢
    cases hw : V.get? name with
    | none => rfl
    | some w =>
      simp only [hw] at h ⊢
      exact call_onto base w s h

theorem step_onto (base : List Value) (m : Machine) (t : Token)
    (h : ∀ x, m.step t = .error x → x.cause.IsSupplied) :
    (m.onto base).step t = (m.step t).map (onto base) := by
  have heffect := effect_onto base m.vocabulary t.text m.stack fun cause hcause =>
    h ⟨t.text, t.location, cause⟩ (step_eq_error_iff.2 ⟨cause, hcause, rfl⟩)
  rw [step, step, onto, heffect]
  cases effect m.vocabulary t.text m.stack with
  | ok s => rfl
  | error cause => rfl

/-- Step by step a run goes as it does without the values below. -/
theorem run_onto {m : Machine} (base : List Value) {ts : List Token}
    (h : ∀ x, (m.run ts).2 = some x → x.cause.IsSupplied) :
    (m.onto base).run ts = ((m.run ts).1.onto base, (m.run ts).2) := by
  induction ts generalizing m with
  | nil => rfl
  | cons t ts ih =>
    cases hs : m.step t with
    | ok m' =>
      rw [run_cons_ok hs] at h ⊢
      have hstep := step_onto base m t (by simp [hs])
      rw [hs] at hstep
      rw [run_cons_ok hstep, ih h]
    | error x =>
      rw [run_cons_error hs] at h ⊢
      have hstep := step_onto base m t (by simpa [hs] using h)
      rw [hs] at hstep
      rw [run_cons_error hstep]

/-- The frame law. If a run succeeds, or ends in a fault for which no operand is missing, it does
the same with any other values below its stack. They have no influence on it, and they are below
the stack that it leaves. -/
theorem run_frame_law (V : Vocabulary) (echo : Bool) (ts : List Token)
    (base before after : List Value) :
    let machine (values : List Value) : Machine := ⟨.ofList values, V, echo⟩
    ((machine before).run ts = (machine after, none) →
      (machine (base ++ before)).run ts = (machine (base ++ after), none)) ∧
    ∀ x : Fault, (x.cause = .unrecognized ∨ ∃ fault, x.cause = .arithmetic fault) →
      (machine before).run ts = (machine after, some x) →
      (machine (base ++ before)).run ts = (machine (base ++ after), some x) := by
  intro machine
  have honto (values : List Value) : machine (base ++ values) = (machine values).onto base := by
    rw [onto, Stack.onto_ofList]
  rw [honto, honto]
  refine ⟨fun h => ?_, fun x hcause h => ?_⟩
  · rw [run_onto base (by simp [h]), h]
  · have hsupplied : x.cause.IsSupplied := hcause
    rw [run_onto base (by simpa [h] using hsupplied), h]

/-- A division by zero that has values below it to spare. -/
theorem run_frame_law_division :
    let ts : List Token := [⟨"0", ⟨none, 1, 1⟩⟩, ⟨"/", ⟨none, 1, 3⟩⟩]
    let machine (values : List Value) : Machine := ⟨.ofList values, .base, false⟩
    let x : Fault := ⟨"/", ⟨none, 1, 3⟩, .arithmetic .divisionByZero⟩
    (machine [7]).run ts = (machine [7, 0], some x) ∧
      (machine [8, 9, 7]).run ts = (machine [8, 9, 7, 0], some x) := by
  intro ts machine x
  have h : (machine [7]).run ts = (machine [7, 0], some x) := by rfl
  exact ⟨h, (run_frame_law .base false ts [8, 9] [7] [7, 0]).2 x (.inr ⟨_, rfl⟩) h⟩

end Machine
end Rpn
