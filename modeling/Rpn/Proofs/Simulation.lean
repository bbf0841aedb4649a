import Rpn.Proofs.Run

/-!
Runs over any kind of state. What texts do to a state decides what tokens do to it, one after
another up to the first fault; the machine is the case where the state is a stack. Main statement:
what carries each effect from one kind of state to another carries whole runs, which then stop at
the same token for the same reason.
-/

namespace Rpn

/-- What a text makes of a state, or the cause of a fault. -/
abbrev Effects (σ : Type) := String → σ → Except Fault.Cause σ

namespace Effects

variable {σ τ : Type}

/-- What comes of a run: the tokens before the first fault, the state that they lead to, and the
fault. -/
structure Outcome (σ : Type) where
  accepted : List Token
  state : σ
  fault : Option Fault

namespace Outcome

def map (g : σ → τ) (o : Outcome σ) : Outcome τ := ⟨o.accepted, g o.state, o.fault⟩

/-- The outcome with one more token that took effect in front. -/
def cons (t : Token) (o : Outcome σ) : Outcome σ := { o with accepted := t :: o.accepted }

/-- The outcome without the places of the tokens. -/
def unplaced (o : Outcome σ) : List String × σ × Option (String × Fault.Cause) :=
  (o.accepted.map Token.text, o.state, o.fault.map fun x => (x.word, x.cause))

theorem unplaced_cons {o : Outcome σ} {t : Token} :
    (o.cons t).unplaced = (t.text :: o.unplaced.1, o.unplaced.2) := rfl

theorem map_cons (g : σ → τ) (t : Token) (o : Outcome σ) : (o.cons t).map g = (o.map g).cons t :=
  rfl

end Outcome

def run (E : Effects σ) (s : σ) : List Token → Outcome σ
  | [] => ⟨[], s, none⟩
  | t :: ts =>
    match E t.text s with
    | .ok s' => (run E s' ts).cons t
    | .error cause => ⟨[], s, some ⟨t.text, t.location, cause⟩⟩

theorem run_cons_ok {E : Effects σ} {s s' : σ} {t : Token} (h : E t.text s = .ok s')
    (ts : List Token) : run E s (t :: ts) = (run E s' ts).cons t := by
  rw [run, h]

theorem run_cons_error {E : Effects σ} {s : σ} {t : Token} {cause : Fault.Cause}
    (h : E t.text s = .error cause) (ts : List Token) :
    run E s (t :: ts) = ⟨[], s, some ⟨t.text, t.location, cause⟩⟩ := by
  rw [run, h]

/-- A function of states that carries the effect of each token carries the run. -/
theorem run_map {E : Effects σ} {F : Effects τ} {g : σ → τ} {ts : List Token}
    (h : ∀ t ∈ ts, ∀ s, F t.text (g s) = (E t.text s).map g) (s : σ) :
    run F (g s) ts = (run E s ts).map g := by
  induction ts generalizing s with
  | nil => rfl
  | cons t ts ih =>
    obtain ⟨ht, hts⟩ := List.forall_mem_cons.1 h
    have hF := ht s
    cases hE : E t.text s with
    | ok s' =>
      rw [hE] at hF
      rw [run_cons_ok hF, run_cons_ok hE, ih hts, Outcome.map_cons]
    | error cause =>
      rw [hE] at hF
      rw [run_cons_error hF, run_cons_error hE]
      rfl

/-- Tokens with the same texts have the same outcome but for their places. -/
theorem unplaced_run {ts us : List Token} (h : ts.map Token.text = us.map Token.text)
    (E : Effects σ) (s : σ) : (run E s ts).unplaced = (run E s us).unplaced := by
  induction ts generalizing us s with
  | nil =>
    rw [List.map_nil, eq_comm, List.map_eq_nil_iff] at h
    rw [h]
  | cons t ts ih =>
    obtain ⟨u, us, rfl, htext, htexts⟩ := List.map_eq_cons_iff.1 h.symm
    cases hE : E t.text s with
    | ok s' =>
      have hu : E u.text s = .ok s' := by rw [htext, hE]
      rw [run_cons_ok hE, run_cons_ok hu, Outcome.unplaced_cons, Outcome.unplaced_cons, htext,
        ih htexts.symm]
    | error cause =>
      have hu : E u.text s = .error cause := by rw [htext, hE]
      rw [run_cons_error hE, run_cons_error hu]
      simp only [Outcome.unplaced, Option.map_some, htext]

/-- A fault is that of a token, in some state that the run was in. -/
theorem exists_of_fault {E : Effects σ} {s : σ} {ts : List Token} {x : Fault}
    (h : (run E s ts).fault = some x) :
    ∃ t ∈ ts, ∃ s' cause, E t.text s' = .error cause ∧ x = ⟨t.text, t.location, cause⟩ := by
  induction ts generalizing s with
  | nil => cases h
  | cons t ts ih =>
    cases hE : E t.text s with
    | ok s' =>
      rw [run_cons_ok hE] at h
      obtain ⟨u, hu, hfault⟩ := ih h
      exact ⟨u, List.mem_cons_of_mem t hu, hfault⟩
    | error cause =>
      rw [run_cons_error hE] at h
      cases h
      exact ⟨t, List.mem_cons_self, s, cause, hE, rfl⟩

end Effects

namespace Machine

/-- What comes of running tokens. -/
def outcome (m : Machine) (ts : List Token) : Effects.Outcome Stack :=
  ⟨m.accepted ts, (m.run ts).1.stack, (m.run ts).2⟩

/-- The machine runs tokens by the effects of its words. -/
theorem outcome_eq (m : Machine) (ts : List Token) :
    m.outcome ts = Effects.run (effect m.vocabulary) m.stack ts := by
  induction ts generalizing m with
  | nil => rfl
  | cons t ts ih =>
    cases h : m.step t with
    | ok m' =>
      obtain ⟨s, hs, rfl⟩ := step_eq_ok_iff.1 h
      rw [Effects.run_cons_ok hs, ← ih { m with stack := s }, outcome, run_cons_ok h,
        accepted_cons_ok h]
      rfl
    | error x =>
      obtain ⟨cause, hc, rfl⟩ := step_eq_error_iff.1 h
      rw [Effects.run_cons_error hc, outcome, run_cons_error h, accepted_cons_error h]

/-- Echo is for whoever runs a machine; the machine itself takes no notice of it. -/
theorem outcome_echo (m : Machine) (echo : Bool) (ts : List Token) :
    { m with echo }.outcome ts = m.outcome ts := by
  rw [outcome_eq, outcome_eq]

theorem run_echo (m : Machine) (echo : Bool) (ts : List Token) :
    { m with echo }.run ts = ({ (m.run ts).1 with echo }, (m.run ts).2) := by
  have houtcome := outcome_echo m echo ts
  have hstack : ({ m with echo }.run ts).1.stack = (m.run ts).1.stack :=
    congrArg Effects.Outcome.state houtcome
  apply Prod.ext
  · rw [run_frame { m with echo }, hstack, run_frame m]
  · exact congrArg Effects.Outcome.fault houtcome

theorem attempted_echo (m : Machine) (echo : Bool) (ts : List Token) :
    { m with echo }.attempted ts = m.attempted ts := by
  have haccepted : { m with echo }.accepted ts = m.accepted ts :=
    congrArg Effects.Outcome.accepted (outcome_echo m echo ts)
  rw [attempted, attempted, haccepted]

end Machine
end Rpn
