import Rpn.Console.Session
import Rpn.Proofs.Feed

/-!
Sessions line by line. The answer to several lines is put together from what each line leads to;
a session without echo and without a log answers a line that is no command by the stack or by the
fault, and by nothing else.
-/

namespace Rpn.Console

@[simp] theorem Transcript.prepend_prepend (first second : List Output) (t : Transcript) :
    (t.prepend second).prepend first = t.prepend (first ++ second) := by
  simp [prepend]

@[simp] theorem Transcript.output_prepend (output : List Output) (t : Transcript) :
    (t.prepend output).output = output ++ t.output := rfl

theorem Transcript.stderr_eq_empty {t : Transcript} (h : ∀ o ∈ t.output, o.errText = "") :
    t.stderr = "" := by
  rw [stderr, List.map_congr_left h, List.map_const']
  induction t.output.length with
  | zero => rfl
  | succ n ih => rw [List.replicate_succ, String.join_cons, ih, String.append_empty]

namespace Session

/-- The session after some lines and the answer to each of them, unless one of them ends it. -/
def dialogue (s : Session) : List (List UInt8) → Option (Session × List (List Output))
  | [] => some (s, [])
  | line :: lines =>
    match s.respond line with
    | .quit _ => none
    | .more s' output =>
      (dialogue s' lines).map fun (s'', outputs) => (s'', output :: outputs)

theorem dialogue_cons {s s' s'' : Session} {line : List UInt8} {lines : List (List UInt8)}
    {output : List Output} {outputs : List (List Output)}
    (hline : s.respond line = .more s' output) (hlines : s'.dialogue lines = some (s'', outputs)) :
    s.dialogue (line :: lines) = some (s'', output :: outputs) := by
  rw [dialogue, hline]
  simp only [hlines, Option.map_some]

/-- After a dialogue the session goes on with the lines that follow. -/
theorem answer_append {s s' : Session} {lines : List (List UInt8)} {outputs : List (List Output)}
    (h : s.dialogue lines = some (s', outputs)) (more : List (List UInt8)) :
    s.answer (lines ++ more) =
      (s'.answer more).prepend (outputs.flatMap fun output => prompt :: output) := by
  induction lines generalizing s outputs with
  | nil =>
    cases h
    rfl
  | cons line lines ih =>
    rw [dialogue] at h
    rw [List.cons_append, answer]
    cases hr : s.respond line with
    | quit t =>
      rw [hr] at h
      cases h
    | more s₁ output =>
      rw [hr] at h
      obtain ⟨⟨s₂, rest⟩, hrest, he⟩ := Option.map_eq_some_iff.1 h
      cases he
      simp only [ih hrest, Transcript.prepend_prepend, List.flatMap_cons]

theorem answer_of_more {s s' : Session} {line : List UInt8} {output : List Output}
    (h : s.respond line = .more s' output) (more : List (List UInt8)) :
    s.answer (line :: more) = (s'.answer more).prepend (prompt :: output) := by
  rw [answer, h]

/-- What a session shows of lines that raise no fault. -/
def shown (history : List Stack) : List Output :=
  history.flatMap fun st => [prompt, .line st.render]

theorem answer_of_shown {s s' : Session} {lines : List (List UInt8)} {history : List Stack}
    (h : s.dialogue lines = some (s', history.map fun st => [.line st.render]))
    (more : List (List UInt8)) :
    s.answer (lines ++ more) = (s'.answer more).prepend (shown history) := by
  rw [answer_append h, List.flatMap_map, shown]

theorem errText_of_mem_shown {history : List Stack} {o : Output} (h : o ∈ shown history) :
    o.errText = "" := by
  obtain ⟨st, -, ho⟩ := List.mem_flatMap.1 h
  simp only [List.mem_cons, List.not_mem_nil, or_false] at ho
  rcases ho with rfl | rfl <;> rfl

theorem echo_of_false {s : Session} (h : s.machine.echo = false) : s.echo = [] := by
  rw [echo, h]
  rfl

/-- A session for words that shows neither tokens nor log messages. -/
structure Quiet (s : Session) : Prop where
  echo : s.machine.echo = false
  vocabulary : s.machine.vocabulary = .base
  pattern : s.scanner.pattern = Pattern.word.compile
  log : s.log.level.showsDebug = false

theorem quiet_start {level : Level} (h : level.showsDebug = false) : (start false level).Quiet :=
  ⟨rfl, rfl, rfl, h⟩

theorem debug_eq {log : Log} (h : log.level.showsDebug = false) (messages : List String) :
    log.debug messages = (log, []) := by
  rw [Log.debug, h]
  rfl

/-- Whether the session takes a text for an order to itself. -/
def IsCommand (text : List Char) : Prop :=
  Text.trim text = "exit".toList ∨ Text.trim text = "words".toList

namespace Quiet

variable {s : Session}

theorem echo_eq (h : s.Quiet) : s.echo = [] := echo_of_false h.echo

theorem execute_eq (h : s.Quiet) :
    s.execute =
      ({ s with machine := (s.machine.run s.scanner.tokens).1 }, [],
        (s.machine.run s.scanner.tokens).2) := by
  rw [execute, debug_eq h.log]

theorem afterRun (h : s.Quiet) (scanner : Scanner) (hp : scanner.pattern = s.scanner.pattern)
    (ts : List Token) :
    Quiet { s with machine := (s.machine.run ts).1, scanner } where
  echo := by rw [Machine.run_frame]; exact h.echo
  vocabulary := by rw [Machine.run_frame]; exact h.vocabulary
  pattern := hp.trans h.pattern
  log := h.log

/-- One line of text is cleared, scanned and run. -/
theorem runLine_eq (h : s.Quiet) {text line : List Char} (hline : Text.lines text = [line]) :
    ∃ s', s'.machine = (s.machine.run (Scanner.lineTokens Pattern.word.compile none 1 line)).1 ∧
      s'.Quiet ∧
      s.runLine text =
        (s', [match (s.machine.run (Scanner.lineTokens Pattern.word.compile none 1 line)).2 with
          | none => s'.showStack
          | some x => report (.fault x)]) := by
  obtain ⟨scanner, hscanner⟩ :
      ∃ scanner, s.scanner.clear.feed none (String.ofList text) = scanner := ⟨_, rfl⟩
  have hpattern : scanner.pattern = s.scanner.pattern := by rw [← hscanner]; rfl
  have htokens : scanner.tokens = Scanner.lineTokens Pattern.word.compile none 1 line := by
    rw [← hscanner, Scanner.feed, String.toList_ofList, hline, Scanner.feedLines_eq, ← h.pattern,
      Scanner.gather_cons]
    simp [Scanner.clear]
  have hquiet : Quiet { s with scanner } :=
    ⟨h.echo, h.vocabulary, hpattern.trans h.pattern, h.log⟩
  rw [← htokens, runLine, hscanner]
  refine ⟨_, rfl, h.afterRun scanner hpattern scanner.tokens, ?_⟩
  rw [hquiet.execute_eq, hquiet.echo_eq]
  cases (s.machine.run scanner.tokens).2 with
  | none => rfl
  | some x =>
    simp only [recover, debug_eq h.log]
    rfl

/-- A line that is no command is answered by the stack or by a fault. It may be numbered as it is
in a script, but the fault is in the first line of the input. -/
theorem respond_encode (h : s.Quiet) {text line : List Char} (hline : Text.IsLine text line)
    (hcommand : ¬ IsCommand line) (source : Option String) (number : Nat) :
    let (m, fault) := s.machine.run (Scanner.lineTokens Pattern.word.compile source number line)
    ∃ s', s'.machine = m ∧ s'.Quiet ∧
      s.respond (Text.encode text) =
        .more s' [match fault with
          | none => .line m.stack.render
          | some x => report (.fault ⟨x.word, ⟨none, 1, x.location.column⟩, x.cause⟩)] := by
  obtain ⟨s', hmachine, hquiet, hrun⟩ := h.runLine_eq hline.lines_eq
  rw [← Scanner.lineTokens_relocate _ source none number 1, Machine.run_relocate] at hmachine hrun
  refine ⟨s', hmachine, hquiet, ?_⟩
  rw [IsCommand, ← hline.trim_eq, not_or] at hcommand
  rw [respond, Text.decode?_encode, ← hmachine]
  simp only [hcommand.1, hcommand.2, if_false, hrun]
  cases (s.machine.run (Scanner.lineTokens Pattern.word.compile source number line)).2 with
  | none => rfl
  | some x => rfl

end Quiet
end Session
end Rpn.Console
