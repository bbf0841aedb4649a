import Rpn.Error
import Rpn.Proofs.Run

/-!
Faults in a row of inputs. The inputs run one after another on the same machine, and after a fault
the next input goes on with the stack as it is. Main statement: such a session does what its
accepted parts do, joined to one input that raises no fault.
-/

namespace Rpn.Machine

/-- Runs all inputs, and gives the machine at the end and the fault of each input. -/
def runAll (m : Machine) : List (List Token) → Machine × List (Option Fault)
  | [] => (m, [])
  | input :: inputs =>
    let (m', fault) := m.run input
    let (m'', faults) := runAll m' inputs
    (m'', fault :: faults)

/-- The part of each input that comes before the first token with a fault. -/
def acceptedAll (m : Machine) : List (List Token) → List (List Token)
  | [] => []
  | input :: inputs => m.accepted input :: acceptedAll (m.run input).1 inputs

/-- The inputs with other tokens after those that raise a fault. -/
def replaceTails (m : Machine) : List (List Token) → List (List Token) → List (List Token)
  | input :: inputs, tail :: tails =>
    let changed :=
      match (m.run input).2 with
      | none => input
      | some _ => m.attempted input ++ tail
    changed :: replaceTails (m.run input).1 inputs tails
  | inputs, _ => inputs

theorem runAll_cons (m : Machine) (input : List Token) (inputs : List (List Token)) :
    m.runAll (input :: inputs) =
      (((m.run input).1.runAll inputs).1, (m.run input).2 :: ((m.run input).1.runAll inputs).2) :=
  rfl

theorem runAll_frame (m : Machine) (inputs : List (List Token)) :
    (m.runAll inputs).1 = { m with stack := (m.runAll inputs).1.stack } := by
  induction inputs generalizing m with
  | nil => rfl
  | cons input inputs ih =>
    rw [runAll_cons, ih, run_frame m input]

/-- The accepted parts, run as one input, lead to the same machine. -/
theorem run_flatten_acceptedAll (m : Machine) (inputs : List (List Token)) :
    m.run (m.acceptedAll inputs).flatten = ((m.runAll inputs).1, none) := by
  induction inputs generalizing m with
  | nil => rfl
  | cons input inputs ih =>
    rw [acceptedAll, List.flatten_cons, run_append_of_ok (run_accepted m input), ih, runAll_cons]

theorem take_acceptedAll (m : Machine) (inputs : List (List Token)) (k : Nat) :
    (m.acceptedAll inputs).take k = m.acceptedAll (inputs.take k) := by
  induction inputs generalizing m k with
  | nil => simp [acceptedAll]
  | cons input inputs ih =>
    cases k with
    | zero => rfl
    | succ k => rw [acceptedAll, List.take_succ_cons, List.take_succ_cons, ih, acceptedAll]

/-- Each input runs on the machine that the inputs before it have left. -/
theorem runAll_getElem? {inputs : List (List Token)} {i : Nat} {input : List Token}
    (h : inputs[i]? = some input) (m : Machine) :
    ∃ m', (m.runAll (inputs.take i)).1 = m' ∧
      (m.runAll (inputs.take (i + 1))).1 = (m'.run input).1 ∧
      (m.runAll inputs).2[i]? = some (m'.run input).2 ∧
      (m.acceptedAll inputs)[i]? = some (m'.accepted input) := by
  induction inputs generalizing m i with
  | nil => simp at h
  | cons first inputs ih =>
    cases i with
    | zero =>
      obtain rfl : first = input := by simpa using h
      exact ⟨m, rfl, rfl, rfl, rfl⟩
    | succ i =>
      obtain ⟨m', hbefore, hafter, hfault, hpart⟩ := ih (by simpa using h) (m.run first).1
      exact ⟨m', hbefore, hafter, hfault, hpart⟩

theorem run_attempted_append {m m' : Machine} {input : List Token} {x : Fault}
    (h : m.run input = (m', some x)) (tail : List Token) :
    m.run (m.attempted input ++ tail) = (m', some x) := by
  obtain ⟨t, rest, hsplit, hstep⟩ := exists_faulting h
  have hattempted : m.attempted input = m.accepted input ++ [t] := by
    rw [attempted]
    generalize m.accepted input = part at hsplit ⊢
    rw [hsplit, List.take_length_add_append, List.take_succ_cons, List.take_zero]
  have haccepted : m.run (m.accepted input) = (m', none) := by
    rw [run_accepted, h]
  rw [hattempted, List.append_assoc, run_append_of_ok haccepted, List.cons_append,
    run_cons_error hstep]

theorem runAll_replaceTails (m : Machine) (inputs tails : List (List Token)) :
    m.runAll (m.replaceTails inputs tails) = m.runAll inputs := by
  induction inputs generalizing m tails with
  | nil => rfl
  | cons input inputs ih =>
    cases tails with
    | nil => rfl
    | cons tail tails =>
      rw [replaceTails, runAll_cons, runAll_cons]
      cases h : m.run input with
      | mk m' fault =>
        cases fault with
        | none => simp only [h, ih]
        | some x => simp only [run_attempted_append h, ih]

/-- A session of inputs, of which any may raise a fault, and the accepted parts of its inputs. As
one input, these raise no fault and lead to the same machine. An input is accepted as a whole, or
its fault is that of the first token after its accepted part, on the stack that the parts so far
have left; the tokens after it do not matter. After such a fault a session goes on. -/
theorem runAll_recovers (m : Machine) (inputs : List (List Token)) :
    let parts := m.acceptedAll inputs
    let faults := (m.runAll inputs).2
    m.run parts.flatten = ((m.runAll inputs).1, none) ∧
    (∀ i input, inputs[i]? = some input →
      ∃ part reached, parts[i]? = some part ∧
        m.run (parts.take (i + 1)).flatten = (reached, none) ∧
        (m.runAll (inputs.take (i + 1))).1 = reached ∧
        (faults[i]? = some none ∧ input = part ∨
          ∃ t rest x, faults[i]? = some (some x) ∧ input = part ++ t :: rest ∧
            reached.step t = .error x ∧ (Error.fault x).recoverable = true ∧
            (Error.fault x).location? = some t.location)) ∧
    (∀ tails, m.runAll (m.replaceTails inputs tails) = m.runAll inputs) ∧
    ∀ k, (m.runAll (inputs.take k)).1.echo = m.echo ∧
      (m.runAll (inputs.take k)).1.vocabulary = m.vocabulary := by
  refine ⟨run_flatten_acceptedAll m inputs, ?_, runAll_replaceTails m inputs, ?_⟩
  · intro i input hinput
    obtain ⟨m', -, hafter, hfault, hpart⟩ := runAll_getElem? hinput m
    refine ⟨m'.accepted input, (m'.run input).1, hpart, ?_, hafter, ?_⟩
    · rw [take_acceptedAll, run_flatten_acceptedAll, hafter]
    · cases h : m'.run input with
      | mk reached fault =>
        rw [h] at hfault
        cases fault with
        | none => exact .inl ⟨hfault, (accepted_of_ok h).symm⟩
        | some x =>
          obtain ⟨t, rest, hsplit, hstep⟩ := exists_faulting h
          obtain ⟨cause, -, rfl⟩ := step_eq_error_iff.1 hstep
          exact .inr ⟨t, rest, _, hfault, hsplit, hstep, rfl, rfl⟩
  · intro k
    rw [runAll_frame]
    exact ⟨rfl, rfl⟩

theorem runAll_recovers_underflow :
    let first : List Token := [⟨"1", ⟨none, 1, 1⟩⟩, ⟨"+", ⟨none, 1, 3⟩⟩, ⟨"7", ⟨none, 1, 5⟩⟩]
    let second : List Token := [⟨"2", ⟨none, 1, 1⟩⟩, ⟨"+", ⟨none, 1, 3⟩⟩]
    let inputs := [first, second]
    inputs[0]? = some first ∧
    (initial.runAll inputs).2 = [some ⟨"+", ⟨none, 1, 3⟩, .underflow 2 1⟩, none] ∧
    initial.run (initial.acceptedAll inputs).flatten = ((initial.runAll inputs).1, none) ∧
    ∃ part t rest, (initial.acceptedAll inputs)[0]? = some part ∧ first = part ++ t :: rest ∧
      (initial.runAll [first]).1.step t = .error ⟨"+", ⟨none, 1, 3⟩, .underflow 2 1⟩ := by
  intro first second inputs
  obtain ⟨hparts, heach, -⟩ := runAll_recovers initial inputs
  have hfaults : (initial.runAll inputs).2 = [some ⟨"+", ⟨none, 1, 3⟩, .underflow 2 1⟩, none] := by
    decide
  obtain ⟨part, reached, hpart, -, hreached, hcases⟩ := heach 0 first rfl
  refine ⟨rfl, hfaults, hparts, ?_⟩
  rw [hfaults] at hcases
  rcases hcases with ⟨hnone, -⟩ | ⟨t, rest, x, hfault, hsplit, hstep, -⟩
  · cases hnone
  · cases hfault
    refine ⟨part, t, rest, hpart, hsplit, ?_⟩
    rw [← hreached] at hstep
    exact hstep

end Rpn.Machine
