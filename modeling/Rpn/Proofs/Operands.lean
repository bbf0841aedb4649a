import Rpn.Proofs.Depth

/-!
Operands are never missing. A primitive reads its operands without asking whether they are there; it
is the machine that looks first, and hands over as many as the word takes. Main statement: in every
machine that a new one can become, a word is run on exactly its operands, and these are all that its
primitive reads; alone, a primitive is undefined just where an operand that it reads is missing.
-/

namespace Rpn

namespace Word

/-- All base words but `drop` read every operand that they take. -/
theorem reads_eq :
    ∀ w ∈ baseWords, w.primitive.reads = if w.name = "drop" then 0 else w.arity := by decide

theorem apply_eq_none_iff {w : Word} (hw : w ∈ baseWords) (vs : List Value) :
    w.primitive.apply vs = none ↔ w.name ≠ "drop" ∧ vs.length < w.arity := by
  rw [Primitive.apply_eq_none_iff, reads_eq w hw]
  by_cases hname : w.name = "drop"
  · simp [hname]
  · simp [hname]

theorem exists_apply {w : Word} (hw : w ∈ baseWords) {vs : List Value}
    (h : vs.length = w.arity) : ∃ outcome, w.primitive.apply vs = some outcome := by
  apply Option.ne_none_iff_exists'.1
  rw [ne_eq, apply_eq_none_iff hw]
  omega

/-- Operands beyond those that a word takes have no influence. -/
theorem apply_eq_of_take_eq {w : Word} (hw : w ∈ baseWords) {vs us : List Value}
    (h : us.take w.arity = vs.take w.arity) : w.primitive.apply us = w.primitive.apply vs := by
  have htake (xs : List Value) :
      (xs.take w.arity).take w.primitive.reads = xs.take w.primitive.reads := by
    rw [List.take_take, Nat.min_eq_left (reads_le_arity w hw)]
  rw [← Primitive.apply_take, ← htake us, h, htake vs, Primitive.apply_take]

end Word

theorem Token.name_of_classify {text name : String} (h : classify text = .word name) :
    name = text := by
  rw [classify] at h
  split at h
  · cases h
  · cases h
    rfl

namespace Machine

/-- The machines that a new one becomes by running lists of tokens, and single tokens, one after
another. A token that raises a fault leaves the machine as it is. -/
inductive Reachable : Machine → Prop
  | initial : Reachable .initial
  | run {m : Machine} (h : Reachable m) (ts : List Token) : Reachable (m.run ts).1
  | step {m m' : Machine} (h : Reachable m) {t : Token} (hstep : m.step t = .ok m') : Reachable m'

/-- The word that a token runs, and the operands that its primitive is given. -/
def handed? (m : Machine) (t : Token) : Option (Word × List Value) :=
  match Token.classify t.text with
  | .literal _ => none
  | .word name =>
    (m.vocabulary.get? name).bind fun w => (m.stack.top? w.arity).map fun operands => (w, operands)

theorem Reachable.vocabulary_eq {m : Machine} (h : Reachable m) : m.vocabulary = .base := by
  induction h with
  | initial => rfl
  | @run m _ ts ih => rw [run_frame m ts, ih]
  | step _ hstep ih =>
    obtain ⟨s, -, rfl⟩ := step_eq_ok_iff.1 hstep
    exact ih

/-- What a token does when no primitive is run. -/
def StopsShort (m : Machine) (t : Token) : Prop :=
  (∃ v, Token.classify t.text = .literal v ∧ m.step t = .ok { m with stack := m.stack.push v }) ∨
    (m.vocabulary.get? t.text = none ∧ m.step t = .error ⟨t.text, t.location, .unrecognized⟩) ∨
    ∃ w, m.vocabulary.get? t.text = some w ∧ m.stack.depth < w.arity ∧
      m.step t = .error ⟨t.text, t.location, .underflow w.arity m.stack.depth⟩

/-- What a token does when a primitive has been run. -/
def finish (m : Machine) (t : Token) (w : Word) : Primitive.Outcome → Except Fault Machine
  | .ok results => .ok { m with stack := m.stack.replaceTop w.arity results }
  | .error fault => .error ⟨t.text, t.location, .arithmetic fault⟩

/-- A token runs no primitive, or one whose word takes no more operands than there are. -/
theorem handed?_cases (m : Machine) (t : Token) :
    (m.handed? t = none ∧ m.StopsShort t) ∨
      ∃ w, m.vocabulary.get? t.text = some w ∧ w.arity ≤ m.stack.depth ∧
        m.handed? t = some (w, m.stack.toList.drop (m.stack.depth - w.arity)) ∧
        effect m.vocabulary t.text m.stack = call w m.stack := by
  cases hkind : Token.classify t.text with
  | literal v =>
    refine .inl ⟨by simp only [handed?, hkind], .inl ⟨v, hkind, ?_⟩⟩
    simp only [step, effect, hkind]
  | word name =>
    obtain rfl := Token.name_of_classify hkind
    cases hget : m.vocabulary.get? t.text with
    | none =>
      refine .inl ⟨by simp [handed?, hkind, hget], .inr (.inl ⟨hget, ?_⟩)⟩
      simp only [step, effect, hkind, hget]
    | some w =>
      have heffect : effect m.vocabulary t.text m.stack = call w m.stack := by
        simp only [effect, hkind, hget]
      by_cases hdepth : w.arity ≤ m.stack.depth
      · refine .inr ⟨w, rfl, hdepth, ?_, heffect⟩
        simp [handed?, hkind, hget, Stack.top?_eq, hdepth]
      · refine .inl ⟨?_, .inr (.inr ⟨w, hget, Nat.not_le.1 hdepth, ?_⟩)⟩
        · simp [handed?, hkind, hget, Stack.top?_eq, hdepth]
        · simp only [step, heffect, call_of_lt (Nat.not_le.1 hdepth)]

theorem step_eq_finish {m : Machine} {t : Token} {w : Word} {outcome : Primitive.Outcome}
    (heffect : effect m.vocabulary t.text m.stack = call w m.stack)
    (hdepth : w.arity ≤ m.stack.depth)
    (happly : w.primitive.apply (m.stack.toList.drop (m.stack.depth - w.arity)) = some outcome) :
    m.step t = m.finish t w outcome := by
  have htop : m.stack.top? w.arity = some (m.stack.toList.drop (m.stack.depth - w.arity)) := by
    rw [Stack.top?_eq, if_pos hdepth]
  cases outcome with
  | ok results => simp only [step, heffect, call, htop, happly, finish]
  | error fault => simp only [step, heffect, call, htop, happly, finish]

/-- Whatever a new machine has run, with faults or without, the next token runs a primitive only of
a base word, on as many operands as the word takes, which are the newest values of the stack with
the oldest first; and with these the primitive has an outcome, which is what the token does. Given
any list, the primitive of a base word has no outcome just if the list is shorter than that, where
`drop` always has one; and values beyond have no influence on it. -/
theorem operands_supplied {m : Machine} (h : m.Reachable) (t : Token) :
    (m.handed? t = none → m.StopsShort t) ∧
    (∀ w operands, m.handed? t = some (w, operands) →
      w ∈ Word.baseWords ∧ w.name = t.text ∧ operands.length = w.arity ∧
        w.arity ≤ m.stack.depth ∧ operands = m.stack.toList.drop (m.stack.depth - w.arity) ∧
        ∃ outcome, w.primitive.apply operands = some outcome ∧ m.step t = m.finish t w outcome) ∧
    ∀ w ∈ Word.baseWords, ∀ vs : List Value,
      (w.primitive.apply vs = none ↔ w.name ≠ "drop" ∧ vs.length < w.arity) ∧
      ∀ us : List Value, us.take w.arity = vs.take w.arity →
        w.primitive.apply us = w.primitive.apply vs := by
  refine ⟨fun hnone => ?_, fun w operands hsome => ?_, fun w hw vs => ?_⟩
  · rcases handed?_cases m t with ⟨-, hshort⟩ | ⟨w, -, -, hhanded, -⟩
    · exact hshort
    · rw [hnone] at hhanded
      cases hhanded
  · rcases handed?_cases m t with ⟨hhanded, -⟩ | ⟨w', hget, hdepth, hhanded, heffect⟩
    · rw [hsome] at hhanded
      cases hhanded
    · rw [hsome] at hhanded
      cases hhanded
      rw [h.vocabulary_eq] at hget
      obtain ⟨hw, hname⟩ := Vocabulary.mem_baseWords_of_get? hget
      have hlength : (m.stack.toList.drop (m.stack.depth - w.arity)).length = w.arity := by
        rw [List.length_drop, Stack.length_toList]
        omega
      obtain ⟨outcome, happly⟩ := Word.exists_apply hw hlength
      exact ⟨hw, hname, hlength, hdepth, rfl, outcome, happly,
        step_eq_finish heffect hdepth happly⟩
  · exact ⟨Word.apply_eq_none_iff hw vs, fun us => Word.apply_eq_of_take_eq hw⟩

/-- A quotient after a fault, with a value below its operands. -/
theorem operands_supplied_quotient :
    let m := (initial.run [⟨"9", ⟨none, 1, 1⟩⟩, ⟨"7", ⟨none, 1, 3⟩⟩, ⟨"-2", ⟨none, 1, 5⟩⟩,
      ⟨"nip", ⟨none, 1, 8⟩⟩, ⟨"drop", ⟨none, 1, 12⟩⟩]).1
    let t : Token := ⟨"/", ⟨none, 2, 1⟩⟩
    m.Reachable ∧ ∃ w, m.handed? t = some (w, [7, -2]) ∧ w ∈ Word.baseWords ∧ w.arity = 2 ∧
      ∃ outcome, w.primitive.apply [7, -2] = some outcome ∧ m.step t = m.finish t w outcome := by
  intro m t
  have hm : m.Reachable := .run .initial _
  have hsome : (m.handed? t).map Prod.snd = some [7, -2] := by decide
  obtain ⟨⟨w, operands⟩, hw, rfl⟩ := Option.map_eq_some_iff.1 hsome
  obtain ⟨-, hhanded, -⟩ := operands_supplied hm t
  obtain ⟨hbase, -, harity, -, -, houtcome⟩ := hhanded w _ hw
  exact ⟨hm, w, hw, hbase, harity.symm, houtcome⟩

end Machine
end Rpn
