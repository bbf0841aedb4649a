import Rpn.Machine

/-!
Runs put together from parts. A step changes the stack and nothing else. A run over two lists goes
on with the second one unless the first raises a fault, and the accepted tokens alone lead to where
the fault is raised. The places of tokens show in the fault only.
-/

namespace Rpn

/-- The token with its place changed. -/
def Token.relocate (f : Location → Location) (t : Token) : Token :=
  { t with location := f t.location }

/-- The fault with its place changed. -/
def Fault.relocate (f : Location → Location) (x : Fault) : Fault :=
  { x with location := f x.location }

namespace Machine

theorem step_eq_ok_iff {m m' : Machine} {t : Token} :
    m.step t = .ok m' ↔
      ∃ s, effect m.vocabulary t.text m.stack = .ok s ∧ m' = { m with stack := s } := by
  unfold step
  cases effect m.vocabulary t.text m.stack with
  | ok s => simp [eq_comm]
  | error cause => simp

theorem step_eq_error_iff {m : Machine} {t : Token} {x : Fault} :
    m.step t = .error x ↔
      ∃ cause, effect m.vocabulary t.text m.stack = .error cause ∧
        x = ⟨t.text, t.location, cause⟩ := by
  unfold step
  cases effect m.vocabulary t.text m.stack with
  | ok s => simp
  | error cause => simp [eq_comm]

theorem step_relocate (m : Machine) (f : Location → Location) (t : Token) :
    m.step (t.relocate f) = (m.step t).mapError (Fault.relocate f) := by
  simp only [step, Token.relocate]
  cases effect m.vocabulary t.text m.stack with
  | ok s => rfl
  | error cause => rfl

@[simp] theorem run_nil (m : Machine) : m.run [] = (m, none) := rfl

theorem run_cons_ok {m m' : Machine} {t : Token} (h : m.step t = .ok m') (ts : List Token) :
    m.run (t :: ts) = m'.run ts := by
  rw [run, h]

theorem run_cons_error {m : Machine} {t : Token} {x : Fault} (h : m.step t = .error x)
    (ts : List Token) : m.run (t :: ts) = (m, some x) := by
  rw [run, h]

theorem accepted_cons_ok {m m' : Machine} {t : Token} (h : m.step t = .ok m') (ts : List Token) :
    m.accepted (t :: ts) = t :: m'.accepted ts := by
  simp only [accepted, h]

theorem accepted_cons_error {m : Machine} {t : Token} {x : Fault} (h : m.step t = .error x)
    (ts : List Token) : m.accepted (t :: ts) = [] := by
  simp only [accepted, h]

/-- Words and echo are those of the machine that the run starts with. -/
theorem run_frame (m : Machine) (ts : List Token) :
    (m.run ts).1 = { m with stack := (m.run ts).1.stack } := by
  induction ts generalizing m with
  | nil => rfl
  | cons t ts ih =>
    cases h : m.step t with
    | ok m' =>
      rw [run_cons_ok h, ih m']
      obtain ⟨s, -, rfl⟩ := step_eq_ok_iff.1 h
      rfl
    | error x => rw [run_cons_error h]

theorem run_append (m : Machine) (ts us : List Token) :
    m.run (ts ++ us) =
      match m.run ts with
      | (m', none) => m'.run us
      | (m', some x) => (m', some x) := by
  induction ts generalizing m with
  | nil => rfl
  | cons t ts ih =>
    rw [List.cons_append]
    cases h : m.step t with
    | ok m' => rw [run_cons_ok h, run_cons_ok h, ih]
    | error x => rw [run_cons_error h, run_cons_error h]

theorem run_append_of_ok {m m' : Machine} {ts : List Token} (h : m.run ts = (m', none))
    (us : List Token) : m.run (ts ++ us) = m'.run us := by
  rw [run_append, h]

theorem run_append_of_fault {m m' : Machine} {ts : List Token} {x : Fault}
    (h : m.run ts = (m', some x)) (us : List Token) : m.run (ts ++ us) = (m', some x) := by
  rw [run_append, h]

theorem run_relocate (m : Machine) (f : Location → Location) (ts : List Token) :
    m.run (ts.map (Token.relocate f)) =
      ((m.run ts).1, (m.run ts).2.map (Fault.relocate f)) := by
  induction ts generalizing m with
  | nil => rfl
  | cons t ts ih =>
    rw [List.map_cons]
    have hs := step_relocate m f t
    cases h : m.step t with
    | ok m' =>
      rw [h] at hs
      rw [run_cons_ok hs, run_cons_ok h, ih]
    | error x =>
      rw [h] at hs
      rw [run_cons_error hs, run_cons_error h]
      rfl

/-- The accepted tokens run without a fault, and lead to where the whole list does. -/
theorem run_accepted (m : Machine) (ts : List Token) :
    m.run (m.accepted ts) = ((m.run ts).1, none) := by
  induction ts generalizing m with
  | nil => rfl
  | cons t ts ih =>
    cases h : m.step t with
    | ok m' => rw [accepted_cons_ok h, run_cons_ok h, run_cons_ok h, ih]
    | error x => rw [accepted_cons_error h, run_cons_error h, run_nil]

/-- Without a fault all tokens are accepted. -/
theorem accepted_of_ok {m m' : Machine} {ts : List Token} (h : m.run ts = (m', none)) :
    m.accepted ts = ts := by
  induction ts generalizing m with
  | nil => rfl
  | cons t ts ih =>
    cases hs : m.step t with
    | ok m₁ =>
      rw [run_cons_ok hs] at h
      rw [accepted_cons_ok hs, ih h]
    | error x =>
      rw [run_cons_error hs] at h
      cases h

/-- Without a fault each token has an effect. -/
theorem exists_effect_of_mem {m m' : Machine} {ts : List Token} (h : m.run ts = (m', none))
    {t : Token} (ht : t ∈ ts) : ∃ s s', effect m.vocabulary t.text s = .ok s' := by
  induction ts generalizing m with
  | nil => cases ht
  | cons u ts ih =>
    cases hs : m.step u with
    | error x =>
      rw [run_cons_error hs] at h
      cases h
    | ok m₁ =>
      rw [run_cons_ok hs] at h
      obtain ⟨s, heffect, rfl⟩ := step_eq_ok_iff.1 hs
      rcases List.mem_cons.1 ht with rfl | ht
      · exact ⟨m.stack, s, heffect⟩
      · exact ih (m := { m with stack := s }) h ht

/-- A fault is raised by the first token after those accepted, on the stack that these leave. -/
theorem exists_faulting {m m' : Machine} {ts : List Token} {x : Fault}
    (h : m.run ts = (m', some x)) :
    ∃ t rest, ts = m.accepted ts ++ t :: rest ∧ m'.step t = .error x := by
  induction ts generalizing m with
  | nil => cases h
  | cons t ts ih =>
    cases hs : m.step t with
    | ok m₁ =>
      rw [run_cons_ok hs] at h
      obtain ⟨u, rest, hts, hu⟩ := ih h
      refine ⟨u, rest, ?_, hu⟩
      rw [accepted_cons_ok hs, List.cons_append, ← hts]
    | error y =>
      rw [run_cons_error hs] at h
      cases h
      refine ⟨t, ts, ?_, hs⟩
      rw [accepted_cons_error hs, List.nil_append]

/-- A fault shows the text and the place of the token that raises it. -/
theorem exists_token_of_fault {m m' : Machine} {ts : List Token} {x : Fault}
    (h : m.run ts = (m', some x)) : ∃ t ∈ ts, x.word = t.text ∧ x.location = t.location := by
  obtain ⟨t, rest, hts, hstep⟩ := exists_faulting h
  obtain ⟨cause, -, rfl⟩ := step_eq_error_iff.1 hstep
  exact ⟨t, by rw [hts]; simp, rfl, rfl⟩

end Machine
end Rpn
