import Mathlib.Data.List.InsertIdx
import Rpn.Proofs.Cut
import Rpn.Proofs.ScriptSession

/-!
Sessions as a whole. The input is cut into lines, and these are answered one by one until one of
them is not UTF-8 or is the command `exit`, or until there are no more. An answer depends on the
line and on the stack only. Main statement: what a session writes is the banner, a prompt and an
answer for each line before it stops, and a last prompt; a command for the list of words has no
effect on the other answers, and nothing after the place where the session stops has any.
-/

namespace Rpn

namespace Scanner

theorem tokens_feed_of_line {text line : List Char} (h : Text.lines text = [line]) :
    (initial.feed none (String.ofList text)).tokens =
      lineTokens Pattern.word.compile none 1 line := by
  rw [feed, String.toList_ofList, h, feedLines_eq, gather_cons]
  simp [initial, ofPattern]

/-- A fault in a text of one line is in that line, where the word stands that raises it. -/
theorem exists_place_of_fault {text line : List Char} (hline : Text.lines text = [line])
    {m m' : Machine} {x : Fault}
    (h : m.run (initial.feed none (String.ofList text)).tokens = (m', some x)) :
    ∃ before word after cause, line = before ++ word ++ after ∧ word ≠ [] ∧
      x = ⟨String.ofList word, ⟨none, 1, before.length + 1⟩, cause⟩ := by
  rw [tokens_feed_of_line hline] at h
  obtain ⟨t, rest, hsplit, hstep⟩ := Machine.exists_faulting h
  obtain ⟨cause, -, rfl⟩ := Machine.step_eq_error_iff.1 hstep
  have ht : t ∈ lineTokens Pattern.word.compile none 1 line := by
    rw [hsplit]
    simp
  have hnewline := Text.newline_notMem_lines (hline ▸ List.mem_singleton_self line)
  obtain ⟨before, word, after, rfl, hrun, rfl⟩ := (mem_lineTokens_word hnewline).1 ht
  exact ⟨before, word, after, cause, rfl, hrun.ne_nil, rfl⟩

end Scanner

namespace Console

namespace Session

open Text (IsComplete IsCut IsUtf8)

/-- The machine after a line of a session, and the answer to the line. -/
def converse (m : Machine) (text : List Char) : Machine × List Output :=
  if Text.trim text = "words".toList then (m, m.vocabulary.words.map (.line ·.listing))
  else
    let (m', fault) := m.run (Scanner.initial.feed none (String.ofList text)).tokens
    (m', [match fault with
      | none => .line m'.stack.render
      | some x => .errLine ("Error: " ++ x.message)])

/-- The answers to lines, one after another. -/
def answers (m : Machine) : List (List Char) → List (List Output)
  | [] => []
  | text :: texts => (converse m text).2 :: answers (converse m text).1 texts

/-- Where a session stops, with its last words and the status: at a line that is not UTF-8, at the
command `exit`, or where the input ends. -/
inductive Stop : List (List UInt8) → Transcript → Prop
  | broken {line : List UInt8} {after : List (List UInt8)} (h : ¬ IsUtf8 line) :
      Stop (line :: after) ⟨[.errLine ("Error: I/O error: " ++ Error.notUtf8)], 1⟩
  | exit {text : List Char} {after : List (List UInt8)} (h : Text.trim text = "exit".toList) :
      Stop (Text.encode text :: after) ⟨[], 0⟩
  | finished : Stop [] ⟨[], 0⟩

theorem Stop.of_line {line : List UInt8} {after : List (List UInt8)} {last : Transcript}
    (h : Stop (line :: after) last) (other : List (List UInt8)) : Stop (line :: other) last := by
  cases h with
  | broken h => exact .broken h
  | exit h => exact .exit h

/-- The course of a session on some bytes: the lines that are answered, the lines from the one on
where it stops, and its last words. -/
structure Course (bytes : List UInt8) (texts : List (List Char)) (rest : List (List UInt8))
    (last : Transcript) : Prop where
  cut : IsCut 10 bytes (texts.map Text.encode ++ rest)
  goesOn : ∀ text ∈ texts, Text.trim text ≠ "exit".toList
  stop : Stop rest last

theorem exists_stop (lines : List (List UInt8)) :
    ∃ (texts : List (List Char)) (rest : List (List UInt8)) (last : Transcript),
      lines = texts.map Text.encode ++ rest ∧
      (∀ text ∈ texts, Text.trim text ≠ "exit".toList) ∧ Stop rest last := by
  induction lines with
  | nil => exact ⟨[], [], _, rfl, by simp, .finished⟩
  | cons line lines ih =>
    by_cases hutf8 : IsUtf8 line
    · obtain ⟨text, rfl⟩ := hutf8
      by_cases hexit : Text.trim text = "exit".toList
      · exact ⟨[], _, _, rfl, by simp, .exit hexit⟩
      · obtain ⟨texts, rest, last, rfl, htexts, hstop⟩ := ih
        exact ⟨text :: texts, rest, last, rfl, List.forall_mem_cons.2 ⟨hexit, htexts⟩, hstop⟩
    · exact ⟨[], _, _, rfl, by simp, .broken hutf8⟩

theorem exists_course (bytes : List UInt8) :
    ∃ texts rest last, Course bytes texts rest last := by
  have hcut := Text.isCut_terminated 10 bytes
  obtain ⟨texts, rest, last, hlines, hexit, hstop⟩ :=
    exists_stop ((Text.Lines.split 10 bytes).terminated 10)
  rw [hlines] at hcut
  exact ⟨texts, rest, last, hcut, hexit, hstop⟩

namespace Course

variable {bytes : List UInt8} {texts : List (List Char)} {rest : List (List UInt8)}
  {last : Transcript}

theorem exists_line (h : Course bytes texts rest last) {text : List Char} (htext : text ∈ texts) :
    ∃ line, Text.lines text = [line] :=
  Text.exists_line_of_encode
    (h.cut.of_mem (List.mem_append_left rest (List.mem_map_of_mem htext)))

/-- A line that is answered is taken out. -/
theorem eraseIdx (h : Course bytes texts rest last) {k : Nat} (hk : k < texts.length) :
    Course ((texts.eraseIdx k).map Text.encode ++ rest).flatten (texts.eraseIdx k) rest last where
  cut := by
    have hcut := h.cut.eraseIdx k
    rwa [List.eraseIdx_append_of_lt_length (by simpa using hk), List.eraseIdx_map] at hcut
  goesOn text htext := h.goesOn text (List.mem_of_mem_eraseIdx htext)
  stop := h.stop

/-- Other bytes follow the line where the session stops. -/
theorem append {line : List UInt8} {after : List (List UInt8)}
    (h : Course bytes texts (line :: after) last) (hline : IsComplete 10 line)
    (more : List UInt8) :
    Course ((texts.map Text.encode).flatten ++ line ++ more) texts
      (line :: (Text.Lines.split 10 more).terminated 10) last where
  cut := by
    rw [List.append_assoc]
    exact (IsCut.cons hline (Text.isCut_terminated 10 more)).append h.cut.complete_of_append
  goesOn := h.goesOn
  stop := h.stop.of_line _

end Course

/-- Whatever has been said before, a session stops in the same way. -/
theorem answer_of_stop {rest : List (List UInt8)} {last : Transcript} (h : Stop rest last)
    (s : Session) : s.answer rest = last.prepend [prompt] := by
  cases h with
  | broken h =>
    rw [answer, respond, Text.decode?_eq_none_iff.2 h]
    rfl
  | exit h =>
    rw [answer, respond, Text.decode?_encode]
    simp only [h, if_true]
  | finished => rfl

/-- A line that is not the command `exit` is answered, and the session goes on. -/
theorem Quiet.respond_of_line {s : Session} (h : s.Quiet) {text line : List Char}
    (hline : Text.lines text = [line]) (hexit : Text.trim text ≠ "exit".toList) :
    ∃ s', s'.machine = (converse s.machine text).1 ∧ s'.Quiet ∧
      s.respond (Text.encode text) = .more s' (converse s.machine text).2 := by
  rw [respond, Text.decode?_encode]
  simp only [hexit, if_false]
  by_cases hwords : Text.trim text = "words".toList
  · simp only [converse, hwords, if_true]
    exact ⟨s, rfl, h, rfl⟩
  · obtain ⟨s', hmachine, hquiet, hrun⟩ := h.runLine_eq hline
    simp only [converse, hwords, if_false, Scanner.tokens_feed_of_line hline, hrun]
    refine ⟨s', hmachine, hquiet, ?_⟩
    rw [← hmachine]
    rfl

theorem Quiet.dialogue_of_lines {texts : List (List Char)}
    (hlines : ∀ text ∈ texts, ∃ line, Text.lines text = [line])
    (hexit : ∀ text ∈ texts, Text.trim text ≠ "exit".toList) {s : Session} (h : s.Quiet) :
    ∃ s', s.dialogue (texts.map Text.encode) = some (s', answers s.machine texts) := by
  induction texts generalizing s with
  | nil => exact ⟨s, rfl⟩
  | cons text texts ih =>
    obtain ⟨⟨line, hline⟩, hlines⟩ := List.forall_mem_cons.1 hlines
    obtain ⟨htext, hexit⟩ := List.forall_mem_cons.1 hexit
    obtain ⟨s₁, hmachine, hquiet, hmore⟩ := h.respond_of_line hline htext
    obtain ⟨s', hdialogue⟩ := ih hlines hexit hquiet
    rw [hmachine] at hdialogue
    exact ⟨s', dialogue_cons hmore hdialogue⟩

theorem length_answers (m : Machine) (texts : List (List Char)) :
    (answers m texts).length = texts.length := by
  induction texts generalizing m with
  | nil => rfl
  | cons text texts ih => simp [answers, ih]

theorem getElem?_answers {texts : List (List Char)} {k : Nat} {text : List Char}
    (h : texts[k]? = some text) (m : Machine) :
    ∃ m', (answers m texts)[k]? = some (converse m' text).2 := by
  induction texts generalizing m k with
  | nil => simp at h
  | cons first texts ih =>
    cases k with
    | zero =>
      obtain rfl : first = text := by simpa using h
      exact ⟨m, rfl⟩
    | succ k => exact ih (by simpa using h) (converse m first).1

/-- Without the command for the list of words the other answers are the same. -/
theorem answers_eraseIdx {texts : List (List Char)} {k : Nat} {text : List Char}
    (h : texts[k]? = some text) (hwords : Text.trim text = "words".toList) (m : Machine) :
    answers m (texts.eraseIdx k) = (answers m texts).eraseIdx k := by
  induction texts generalizing m k with
  | nil => simp at h
  | cons first texts ih =>
    cases k with
    | zero =>
      obtain rfl : first = text := by simpa using h
      simp [answers, converse, hwords]
    | succ k =>
      have hrest := ih (k := k) (by simpa using h) (converse m first).1
      simp [answers, hrest]

theorem line_ne_prompt (text : String) : Output.line text ≠ prompt := by
  intro h
  have hlast := congrArg (fun o : Output => o.outText.toList.getLast?) h
  simp [Output.line, prompt, Output.outText] at hlast

theorem prompt_notMem_converse (m : Machine) (text : List Char) :
    prompt ∉ (converse m text).2 := by
  rw [converse]
  split
  · intro hmem
    obtain ⟨w, -, hw⟩ := List.mem_map.1 hmem
    exact line_ne_prompt w.listing hw
  · cases m.run (Scanner.initial.feed none (String.ofList text)).tokens with
    | mk m' fault =>
      cases fault with
      | none => simpa using (line_ne_prompt _).symm
      | some x => simp [Output.errLine, prompt]

/-- There is one prompt for each line. -/
theorem count_prompt_answers (m : Machine) (texts : List (List Char)) :
    ((answers m texts).flatMap (prompt :: ·)).count prompt = texts.length := by
  induction texts generalizing m with
  | nil => rfl
  | cons text texts ih =>
    have hnone := List.count_eq_zero.2 (prompt_notMem_converse m text)
    rw [answers, List.flatMap_cons, List.count_append, List.count_cons_self, hnone, ih,
      List.length_cons]
    omega

theorem count_prompt_of_stop {rest : List (List UInt8)} {last : Transcript} (h : Stop rest last) :
    last.output.count prompt = 0 := by
  cases h with
  | broken h => simp [Output.errLine, prompt]
  | exit h => rfl
  | finished => rfl

/-- What is written on the channel for errors. -/
def errors (output : List Output) : String := String.join (output.map Output.errText)

theorem errors_append (first second : List Output) :
    errors (first ++ second) = errors first ++ errors second := by
  simp [errors, String.join_append]

/-- An answer that reports no error can be left out. -/
theorem errors_eraseIdx {outputs : List (List Output)} {k : Nat} {output : List Output}
    (h : outputs[k]? = some output) (hnone : ∀ o ∈ output, o.errText = "") :
    errors ((outputs.eraseIdx k).flatMap (prompt :: ·)) =
      errors (outputs.flatMap (prompt :: ·)) := by
  induction outputs generalizing k with
  | nil => simp at h
  | cons first outputs ih =>
    cases k with
    | zero =>
      obtain rfl : first = output := by simpa using h
      have hempty : errors (prompt :: first) = "" :=
        Transcript.stderr_eq_empty (t := ⟨prompt :: first, 0⟩)
          (List.forall_mem_cons.2 ⟨rfl, hnone⟩)
      rw [List.flatMap_cons, errors_append, hempty, String.empty_append]
      rfl
    | succ k =>
      rw [List.eraseIdx_cons_succ, List.flatMap_cons, List.flatMap_cons, errors_append,
        errors_append, ih (by simpa using h)]

/-- All that a session writes. -/
def spoken (outputs : List (List Output)) (last : Transcript) : List Output :=
  banner ++ outputs.flatMap (prompt :: ·) ++ prompt :: last.output

theorem isPrefix_stdout_spoken (outputs : List (List Output)) (last : Transcript) (status : Nat) :
    "Basic Stack Calculator\nUse the exit command to quit the program.\n".toList <+:
      (Transcript.stdout ⟨spoken outputs last, status⟩).toList := by
  rw [Transcript.stdout, spoken, List.append_assoc, List.map_append, String.join_append,
    String.toList_append]
  exact List.prefix_append _ _

theorem count_prompt_spoken {rest : List (List UInt8)} {last : Transcript} (h : Stop rest last)
    (m : Machine) (texts : List (List Char)) :
    (spoken (answers m texts) last).count prompt = texts.length + 1 := by
  have hbanner : banner.count prompt = 0 := by decide
  simp [spoken, hbanner, count_prompt_answers, count_prompt_of_stop h]

theorem errors_spoken_eraseIdx {outputs : List (List Output)} {k : Nat} {output : List Output}
    (h : outputs[k]? = some output) (hnone : ∀ o ∈ output, o.errText = "") (last : Transcript) :
    errors (spoken (outputs.eraseIdx k) last) = errors (spoken outputs last) := by
  simp only [spoken, errors_append, errors_eraseIdx h hnone]

theorem errText_of_words {m : Machine} {text : List Char} (h : Text.trim text = "words".toList) :
    ∀ o ∈ (converse m text).2, o.errText = "" := by
  rw [converse, if_pos h]
  intro o ho
  obtain ⟨w, -, rfl⟩ := List.mem_map.1 ho
  rfl

/-- A session says what the lines before its stop are answered by, between the banner and its last
words. -/
theorem Course.interact_of_dialogue {bytes : List UInt8} {texts : List (List Char)}
    {rest : List (List UInt8)} {last : Transcript} (h : Course bytes texts rest last)
    {s s' : Session} {outputs : List (List Output)}
    (hdialogue : s.dialogue (texts.map Text.encode) = some (s', outputs)) :
    s.interact bytes = ⟨spoken outputs last, last.status⟩ := by
  rw [interact, Text.byteLines, ← h.cut.eq_terminated, answer_append hdialogue,
    answer_of_stop h.stop, Transcript.prepend_prepend, Transcript.prepend_prepend,
    Transcript.prepend, spoken]
  simp only [List.append_assoc, List.singleton_append]

/-- The answers to a line that is no command: the stack, or a fault that names a word of the line
and the column where this word starts. -/
inductive IsAnswer (line : List Char) : Output → Prop
  | stack (st : Stack) : IsAnswer line (.line st.render)
  | fault {before word after : List Char} (place : line = before ++ word ++ after)
      (ne_nil : word ≠ []) (cause : Fault.Cause) :
      IsAnswer line (.errLine ("Error: " ++
        Fault.message ⟨String.ofList word, ⟨none, 1, before.length + 1⟩, cause⟩))

theorem converse_of_line (m : Machine) {text line : List Char} (hline : Text.lines text = [line])
    (hwords : Text.trim text ≠ "words".toList) :
    ∃ answer, (converse m text).2 = [answer] ∧ IsAnswer line answer := by
  rw [converse, if_neg hwords]
  cases hrun : m.run (Scanner.initial.feed none (String.ofList text)).tokens with
  | mk m' fault =>
    cases fault with
    | none => exact ⟨_, rfl, .stack m'.stack⟩
    | some x =>
      obtain ⟨before, word, after, cause, hplace, hne, rfl⟩ :=
        Scanner.exists_place_of_fault hline hrun
      exact ⟨_, rfl, .fault hplace hne cause⟩

end Session

namespace Invocation

open Text (IsComplete IsCut IsUtf8)

theorem run_of_session {i : Invocation} {echo : Bool}
    (hargs : Request.parse i.args = .run ⟨echo, none⟩) (hlog : i.log = none) :
    i.run = (Session.start echo .warn).interact i.input := by
  rw [Invocation.run, hlog, hargs]
  rfl

theorem IsSession.run_of_course {i : Invocation} {bytes : List UInt8} (h : i.IsSession bytes)
    {texts : List (List Char)} {rest : List (List UInt8)} {last : Transcript}
    (hcourse : Session.Course bytes texts rest last) :
    i.run = ⟨Session.spoken (Session.answers .initial texts) last, last.status⟩ := by
  have hquiet := Session.quiet_start (show Level.warn.showsDebug = false from rfl)
  obtain ⟨s', hdialogue⟩ :=
    hquiet.dialogue_of_lines (fun _ => hcourse.exists_line) hcourse.goesOn
  rw [run_of_session h.args h.log, h.input, hcourse.interact_of_dialogue hdialogue]
  rfl

/-- The law of sessions. The input has its cut into lines; the session answers those that are UTF-8
up to the first `exit`, and where it stops decides on the status and the last words. It prompts for
each line and where it stops. A line that is no command has one answer, a stack or a fault, and the
place of a fault is in that line. If a line with the command `words` is taken out of the input, its
answer is missing and all else is the same. What follows the line where the session stops does not
matter. -/
theorem session_law {i : Invocation} {bytes : List UInt8} (h : i.IsSession bytes) :
    ∃ (texts : List (List Char)) (rest : List (List UInt8)) (last : Transcript),
      Session.Course bytes texts rest last ∧
      let answers := Session.answers .initial texts
      i.run.status = last.status ∧ i.run.output = Session.spoken answers last ∧
      "Basic Stack Calculator\nUse the exit command to quit the program.\n".toList <+:
        i.run.stdout.toList ∧
      answers.length = texts.length ∧ i.run.output.count Session.prompt = texts.length + 1 ∧
      (∀ (k : Nat) text, texts[k]? = some text → Text.trim text ≠ "words".toList →
        ∃ line answer, Text.linesOf text = [line] ∧ answers[k]? = some [answer] ∧
          Session.IsAnswer line answer) ∧
      (∀ (k : Nat) text, texts[k]? = some text → Text.trim text = "words".toList →
        ∀ other : Invocation,
          other.IsSession ((texts.eraseIdx k).map Text.encode ++ rest).flatten →
          other.run.status = i.run.status ∧ other.run.stderr = i.run.stderr ∧
          other.run.output = Session.spoken (answers.eraseIdx k) last) ∧
      ∀ line after, rest = line :: after → IsComplete 10 line →
        ∀ (more : List UInt8) (other : Invocation),
          other.IsSession ((texts.map Text.encode).flatten ++ line ++ more) →
          other.run = i.run := by
  obtain ⟨texts, rest, last, hcourse⟩ := Session.exists_course bytes
  refine ⟨texts, rest, last, hcourse, ?_⟩
  rw [h.run_of_course hcourse]
  refine ⟨rfl, rfl, Session.isPrefix_stdout_spoken _ _ _, Session.length_answers .initial texts,
    Session.count_prompt_spoken hcourse.stop .initial texts, ?_, ?_, ?_⟩
  · intro k text htext hwords
    obtain ⟨line, hline⟩ := hcourse.exists_line (List.mem_of_getElem? htext)
    obtain ⟨m, hconverse⟩ := Session.getElem?_answers htext .initial
    obtain ⟨answer, hsingle, hanswer⟩ := Session.converse_of_line m hline hwords
    rw [hsingle] at hconverse
    rw [Text.lines_eq_linesOf] at hline
    exact ⟨line, answer, hline, hconverse, hanswer⟩
  · intro k text htext hwords other hother
    obtain ⟨m, hconverse⟩ := Session.getElem?_answers htext .initial
    have hk : k < texts.length := (List.getElem?_eq_some_iff.1 htext).1
    rw [hother.run_of_course (hcourse.eraseIdx hk), Session.answers_eraseIdx htext hwords]
    exact ⟨rfl, Session.errors_spoken_eraseIdx hconverse (Session.errText_of_words hwords) last,
      rfl⟩
  · rintro line after rfl hline more other hother
    rw [hother.run_of_course (hcourse.append hline more)]

theorem session_law_division :
    let i : Invocation := ⟨[], Text.encode "1 0 /\nwords\nexit\n+".toList, ⟨[], []⟩, none⟩
    i.IsSession i.input ∧
    ∃ texts rest last, Session.Course i.input texts rest last ∧ texts.length = 2 ∧
      last.status = 0 ∧ i.run.output = Session.spoken (Session.answers .initial texts) last := by
  intro i
  have hsession : i.IsSession i.input := ⟨rfl, rfl, rfl⟩
  have hstatus : i.run.status = 0 := by decide +kernel
  have hprompts : i.run.output.count Session.prompt = 3 := by decide +kernel
  obtain ⟨texts, rest, last, hcourse, hlast, houtput, -, -, hcount, -⟩ := session_law hsession
  refine ⟨hsession, texts, rest, last, hcourse, ?_, hlast.symm.trans hstatus, houtput⟩
  omega

end Invocation
end Console
end Rpn
