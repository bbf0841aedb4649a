import Mathlib.Data.List.Basic
import Rpn.Proofs.Frame
import Rpn.Proofs.Simulation
import Rpn.Proofs.Words

/-!
Programs of stack words. Such words move and copy values without a look at them, so that they work
on a stack of anything. Main statement: where other values stand in place of those on a stack, the
run is the same and leaves the others in their places; each value that is left comes from a
position which the program and the depth decide.
-/

namespace Rpn

variable {α β : Type}

/-- What a primitive leaves of operands of any kind, if all that it does is to move and copy. -/
def Primitive.move : Primitive → List α → List α
  | .dup, [a] => [a, a]
  | .drop, [_] => []
  | .swap, [a, b] => [b, a]
  | .over, [a, b] => [a, b, a]
  | .rot, [a, b, c] => [b, c, a]
  | _, operands => operands

/-- What a stack word makes of a list of items, the newest last. -/
def Movement.effect (α : Type) : Effects (List α) := fun text items =>
  match Word.stackWords.find? (·.name == text) with
  | none => .error .unrecognized
  | some w =>
    if items.length < w.arity then .error (.underflow w.arity items.length)
    else
      let below := items.length - w.arity
      .ok (items.take below ++ w.primitive.move (items.drop below))

theorem Primitive.move_map (p : Primitive) (f : α → β) (operands : List α) :
    p.move (operands.map f) = (p.move operands).map f := by
  rcases operands with _ | ⟨a, _ | ⟨b, _ | ⟨c, _ | ⟨d, rest⟩⟩⟩⟩ <;> cases p <;> rfl

namespace Word

theorem find?_stackWords :
    ∀ w ∈ stackWords, stackWords.find? (·.name == w.name) = some w := by decide

theorem get?_base_of_stackWords {w : Word} (hw : w ∈ stackWords) :
    Vocabulary.base.get? w.name = some w :=
  Vocabulary.get?_base_of_mem w (List.mem_append_left _ hw)

theorem classify_stackWords :
    ∀ w ∈ stackWords, Token.classify w.name = .word w.name := by decide

/-- A stack word that is given as many operands as it takes moves and copies them. -/
theorem apply_eq_move {w : Word} (hw : w ∈ stackWords) {vs : List Value}
    (h : vs.length = w.arity) : w.primitive.apply vs = some (.ok (w.primitive.move vs)) := by
  simp only [stackWords, List.mem_cons, List.not_mem_nil, or_false] at hw
  rcases hw with rfl | rfl | rfl | rfl | rfl
  · obtain ⟨a, rfl⟩ := List.length_eq_one_iff.1 h
    rfl
  · obtain ⟨a, rfl⟩ := List.length_eq_one_iff.1 h
    rfl
  · obtain ⟨a, b, rfl⟩ := List.length_eq_two.1 h
    rfl
  · obtain ⟨a, b, rfl⟩ := List.length_eq_two.1 h
    rfl
  · obtain ⟨a, b, c, rfl⟩ := List.length_eq_three.1 h
    rfl

end Word

namespace Movement

theorem effect_map (f : α → β) (text : String) (items : List α) :
    effect β text (items.map f) = (effect α text items).map (List.map f) := by
  simp only [effect, List.length_map]
  cases Word.stackWords.find? (·.name == text) with
  | none => rfl
  | some w =>
    by_cases hlength : items.length < w.arity
    · simp only [hlength, if_true]
      rfl
    · simp only [hlength, if_false, ← List.map_take, ← List.map_drop, w.primitive.move_map,
        ← List.map_append]
      rfl

theorem effect_name {w : Word} (hw : w ∈ Word.stackWords) (items : List α) :
    effect α w.name items =
      if items.length < w.arity then .error (.underflow w.arity items.length)
      else
        .ok (items.take (items.length - w.arity) ++
          w.primitive.move (items.drop (items.length - w.arity))) := by
  simp only [effect, Word.find?_stackWords w hw]

/-- To a stack the machine does what is done to the list of its values. -/
theorem effect_ofList {w : Word} (hw : w ∈ Word.stackWords) (vs : List Value) :
    Machine.effect .base w.name (.ofList vs) = (effect Value w.name vs).map Stack.ofList := by
  have hcall : Machine.effect .base w.name (.ofList vs) = Machine.call w (.ofList vs) := by
    simp only [Machine.effect, Word.classify_stackWords w hw, Word.get?_base_of_stackWords hw]
  rw [hcall, effect_name hw]
  by_cases hlength : vs.length < w.arity
  · have hdepth : (Stack.ofList vs).depth < w.arity := by
      rwa [Stack.depth_ofList]
    rw [if_pos hlength, Machine.call_of_lt hdepth, Stack.depth_ofList]
    rfl
  · have hoperands : (vs.drop (vs.length - w.arity)).length = w.arity := by
      rw [List.length_drop]
      omega
    have hvs := Machine.call_ofList w (vs.take (vs.length - w.arity)) hoperands
    rw [List.take_append_drop, Word.apply_eq_move hw hoperands] at hvs
    rw [if_neg hlength, hvs]
    rfl

/-- Relabelled items are moved like the items themselves. -/
theorem run_map (f : α → β) (items : List α) (ts : List Token) :
    Effects.run (effect β) (items.map f) ts =
      (Effects.run (effect α) items ts).map (List.map f) :=
  Effects.run_map (fun t _ items => effect_map f t.text items) items

variable {ts : List Token}

theorem run_ofList (h : ∀ t ∈ ts, t.text ∈ Word.stackWords.map Word.name) (vs : List Value) :
    Effects.run (Machine.effect .base) (.ofList vs) ts =
      (Effects.run (effect Value) vs ts).map Stack.ofList := by
  apply Effects.run_map
  intro t ht vs
  obtain ⟨w, hw, htext⟩ := List.mem_map.1 (h t ht)
  rw [← htext]
  exact effect_ofList hw vs

theorem underflow_of_fault (h : ∀ t ∈ ts, t.text ∈ Word.stackWords.map Word.name)
    {items : List α} {x : Fault} (hx : (Effects.run (effect α) items ts).fault = some x) :
    ∃ required depth, x.cause = .underflow required depth := by
  obtain ⟨t, ht, items', cause, heffect, rfl⟩ := Effects.exists_of_fault hx
  obtain ⟨w, hw, htext⟩ := List.mem_map.1 (h t ht)
  rw [← htext, effect_name hw] at heffect
  split at heffect
  · cases heffect
    exact ⟨_, _, rfl⟩
  · cases heffect

/-- The positions that the items of a run come from are found by a run over positions. -/
theorem run_range (items : List α) (ts : List Token) :
    (Effects.run (effect α) items ts).state.map some =
      (Effects.run (effect Nat) (List.range items.length) ts).state.map (items[·]?) := by
  have hrange : (List.range items.length).map (items[·]?) = items.map some := by
    apply List.ext_getElem
    · simp
    · intro i hi hitems
      simp
  have hsome := run_map (some : α → Option α) items ts
  rw [← hrange, run_map] at hsome
  exact (congrArg Effects.Outcome.state hsome).symm

end Movement

/-- Stack words only move and copy values. If other values are put in place of those on the stack,
the run has the same outcome with the others in place. It can end only for the lack of operands.
Which position each value in the end comes from is the same for all stacks of one depth. -/
theorem run_stackWords_map {ts : List Token}
    (h : ∀ t ∈ ts, t.text ∈ ["dup", "drop", "swap", "over", "rot"]) (echo : Bool) :
    let machine (values : List Value) : Machine := ⟨.ofList values, .base, echo⟩
    let o (values : List Value) := (machine values).outcome ts
    (∀ (f : Value → Value) (vs : List Value),
      o (vs.map f) = (o vs).map fun s => .ofList (s.toList.map f)) ∧
    (∀ (vs : List Value) (x : Fault), (o vs).fault = some x →
      ∃ required depth, x.cause = .underflow required depth) ∧
    ∀ depth, ∃ origins : List Nat, ∀ vs : List Value, vs.length = depth →
      (o vs).state.toList.map some = origins.map fun i => vs[i]? := by
  intro machine o
  have hrun (vs : List Value) :
      o vs = (Effects.run (Movement.effect Value) vs ts).map Stack.ofList := by
    rw [← Movement.run_ofList h]
    exact Machine.outcome_eq (machine vs) ts
  refine ⟨fun f vs => ?_, fun vs x hx => ?_, fun depth => ?_⟩
  · rw [hrun, hrun, Movement.run_map]
    simp only [Effects.Outcome.map, Stack.toList_ofList]
  · rw [hrun] at hx
    exact Movement.underflow_of_fault h hx
  · refine ⟨(Effects.run (Movement.effect Nat) (List.range depth) ts).state, ?_⟩
    rintro vs rfl
    rw [hrun, ← Movement.run_range]
    exact congrArg (List.map some) (Stack.toList_ofList _)

/-- Equal values, of which the last word has too few. -/
theorem run_stackWords_map_underflow :
    let ts : List Token := [⟨"over", ⟨none, 1, 1⟩⟩, ⟨"rot", ⟨none, 1, 6⟩⟩,
      ⟨"drop", ⟨none, 1, 10⟩⟩, ⟨"rot", ⟨none, 1, 15⟩⟩]
    let o (values : List Value) := Machine.outcome ⟨.ofList values, .base, false⟩ ts
    (∀ t ∈ ts, t.text ∈ ["dup", "drop", "swap", "over", "rot"]) ∧
    (o [7, 7]).fault = some ⟨"rot", ⟨none, 1, 15⟩, .underflow 3 2⟩ ∧
    o [-7, -7] = ((o [7, 7]).map fun s => .ofList (s.toList.map fun v => -v)) ∧
    ∃ origins : List Nat, ∀ vs : List Value, vs.length = 2 →
      (o vs).state.toList.map some = origins.map fun i => vs[i]? := by
  intro ts o
  have hts : ∀ t ∈ ts, t.text ∈ ["dup", "drop", "swap", "over", "rot"] := by decide
  have hfault : (o [7, 7]).fault = some ⟨"rot", ⟨none, 1, 15⟩, .underflow 3 2⟩ := by decide
  obtain ⟨hmap, -, horigins⟩ := run_stackWords_map hts false
  exact ⟨hts, hfault, hmap (fun v => -v) [7, 7], horigins 2⟩

end Rpn
