import Rpn.Console.Invocation
import Rpn.Proofs.Dialogue
import Rpn.Proofs.WordPattern
import Rpn.Proofs.Words

/-!
Scripts and sessions on the same bytes. A script is scanned as a whole before it runs, a session
takes it line by line. Main statement: as long as no line raises a fault both go through the same
stacks, and the first fault of the script is the first fault of the session, in the same line.
-/

namespace Rpn

namespace Scanner

/-- A fault in the tokens of several lines is a fault in one line, after lines that raise none. -/
theorem exists_line_of_fault {p : Pattern.Program} {source : Option String} {number : Nat}
    {lines : List (List Char)} {m m' : Machine} {x : Fault}
    (h : m.run (gather p source number lines) = (m', some x)) :
    ∃ before line after m₁, lines = before ++ line :: after ∧
      m.run (gather p source number before) = (m₁, none) ∧
      m₁.run (lineTokens p source (number + before.length) line) = (m', some x) := by
  induction lines generalizing m number with
  | nil => cases h
  | cons line lines ih =>
    rw [gather_cons] at h
    cases hline : m.run (lineTokens p source number line) with
    | mk m₁ fault =>
      cases fault with
      | some y =>
        rw [Machine.run_append_of_fault hline] at h
        cases h
        exact ⟨[], line, lines, m, rfl, rfl, hline⟩
      | none =>
        rw [Machine.run_append_of_ok hline] at h
        obtain ⟨before, faulty, after, m₂, rfl, hbefore, hfaulty⟩ := ih h
        refine ⟨line :: before, faulty, after, m₂, rfl, ?_, ?_⟩
        · rw [gather_cons, Machine.run_append_of_ok hline, hbefore]
        · rwa [List.length_cons, Nat.add_comm before.length 1, ← Nat.add_assoc]

end Scanner

namespace Console

namespace Session

open Scanner (gather lineTokens)
open Text (IsLine)

/-- A line with a command in it is an error in a script: the command is part of a token, and no
base word and no literal has such a part. -/
theorem not_isCommand_of_ok {m m' : Machine} (hbase : m.vocabulary = .base)
    {source : Option String} {number : Nat} {line : List Char}
    (h : m.run (lineTokens Pattern.word.compile source number line) = (m', none)) :
    ¬ IsCommand line := by
  intro hcommand
  have hcore : Text.trim line ≠ [] ∧ (Text.trim line).all (!Text.isGap ·) = true ∧
      (Text.trim line).any (!Decimal.isMark ·) = true ∧
      ∀ w ∈ Word.baseWords, ¬ Text.trim line <:+: w.name.toList := by
    rcases hcommand with hexit | hwords
    · rw [hexit]
      decide
    · rw [hwords]
      decide
  obtain ⟨hne, hsolid, hmark, hnone⟩ := hcore
  simp only [List.all_eq_true, List.any_eq_true, Bool.not_eq_true'] at hsolid hmark
  obtain ⟨before, after, hsplit⟩ := Text.trim_isInfix line
  obtain ⟨span, hspan, hpart⟩ := Text.exists_run_of_isInfix hne hsolid hsplit.symm 0
  rw [Scanner.lineTokens_word] at h
  obtain ⟨s, s', heffect⟩ := Machine.exists_effect_of_mem h (List.mem_map_of_mem hspan)
  rw [hbase, Machine.effect_of_isInfix (by rwa [String.toList_ofList]) hmark hnone] at heffect
  cases heffect

/-- Lines that raise no fault in a script raise none in a session, which shows the stack after each
of them, and in the end has the same machine. -/
theorem Quiet.dialogue_of_ok {texts lines : List (List Char)}
    (hlines : List.Forall₂ IsLine texts lines) {s : Session} (hs : s.Quiet)
    {source : Option String} {number : Nat} {m : Machine}
    (h : s.machine.run (gather Pattern.word.compile source number lines) = (m, none)) :
    ∃ (s' : Session) (history : List Stack),
      s.dialogue (texts.map Text.encode) = some (s', history.map fun st => [.line st.render]) ∧
      s'.machine = m ∧ s'.Quiet ∧ history.length = lines.length ∧
      history.getLast?.getD s.machine.stack = m.stack := by
  induction hlines generalizing s number with
  | nil =>
    cases h
    exact ⟨s, [], rfl, rfl, hs, rfl, rfl⟩
  | @cons text line texts lines hline hrest ih =>
    rw [Scanner.gather_cons] at h
    have hresponse := hs.respond_encode hline
    cases hrun : s.machine.run (lineTokens Pattern.word.compile source number line) with
    | mk m₁ fault =>
      cases fault with
      | some x =>
        rw [Machine.run_append_of_fault hrun] at h
        cases h
      | none =>
        rw [Machine.run_append_of_ok hrun] at h
        -- A command would have raised a fault in the script, so the session runs this line too.
        have hanswer := hresponse (not_isCommand_of_ok hs.vocabulary hrun) source number
        simp only [hrun] at hanswer
        obtain ⟨s₁, rfl, hquiet, hmore⟩ := hanswer
        obtain ⟨s', history, hdialogue, hmachine, hs', hlength, hlast⟩ := ih hquiet h
        refine ⟨s', s₁.machine.stack :: history, dialogue_cons hmore hdialogue, hmachine, hs', ?_,
          ?_⟩
        · rw [List.length_cons, List.length_cons, hlength]
        · rw [List.getLast?_cons, Option.getD_some, hlast]

/-- A fault in a script is raised in a session too, by the same line unless that is a command. -/
theorem Quiet.dialogue_of_fault {texts lines : List (List Char)}
    (hlines : List.Forall₂ IsLine texts lines) {s : Session} (hs : s.Quiet)
    {source : Option String} {number : Nat} {m : Machine} {x : Fault}
    (h : s.machine.run (gather Pattern.word.compile source number lines) = (m, some x)) :
    ∃ i line, x.location.line = number + i ∧ lines[i]? = some line ∧
      (¬ IsCommand line →
        ∃ (before after : List (List UInt8)) (text : List UInt8) (s₁ s' : Session)
          (history : List Stack), texts.map Text.encode = before ++ text :: after ∧
          before.length = i ∧ history.length = i ∧
          s.dialogue before = some (s₁, history.map fun st => [.line st.render]) ∧
          s₁.respond text =
            .more s' [report (.fault ⟨x.word, ⟨none, 1, x.location.column⟩, x.cause⟩)] ∧
          s'.machine = m) := by
  obtain ⟨before, line, after, m₁, rfl, hbefore, hline⟩ := Scanner.exists_line_of_fault h
  refine ⟨before.length, line, ?_, by simp, fun hcommand => ?_⟩
  · obtain ⟨t, ht, -, hlocation⟩ := Machine.exists_token_of_fault hline
    rw [hlocation, (Scanner.location_of_mem_lineTokens ht).2]
  · obtain ⟨text, rest, hisLine, -, hdrop⟩ :=
      List.forall₂_cons_right_iff.1 (List.forall₂_drop_append _ _ _ hlines)
    obtain ⟨s₁, history, hdialogue, rfl, hquiet, hlength, -⟩ :=
      hs.dialogue_of_ok (List.forall₂_take_append _ _ _ hlines) hbefore
    have hanswer := hquiet.respond_encode hisLine hcommand source (number + before.length)
    simp only [hline] at hanswer
    obtain ⟨s', hmachine, -, hmore⟩ := hanswer
    have htake := (List.forall₂_take_append _ _ _ hlines).length_eq
    refine ⟨_, rest.map Text.encode, Text.encode text, s₁, s', history, ?_, ?_, hlength, hdialogue,
      hmore, hmachine⟩
    · rw [← List.map_cons, ← hdrop, ← List.map_append, List.take_append_drop]
    · rw [List.length_map, htake]

theorem Quiet.runScript_eq {s : Session} (h : s.Quiet) :
    s.runScript =
      match s.machine.run s.scanner.tokens with
      | (m, none) => ⟨[.line m.stack.render], 0⟩
      | (_, some x) => fail (.fault x) := by
  rw [runScript, h.execute_eq, h.echo_eq]
  cases s.machine.run s.scanner.tokens with
  | mk m fault =>
    cases fault with
    | none => rfl
    | some x => rfl

end Session

namespace Invocation

/-- A run of the file at `path`, without echo and with the log as it is by default. -/
structure IsScript (i : Invocation) (path : String) (bytes : List UInt8) : Prop where
  args : Request.parse i.args = .run ⟨false, some path⟩
  file : i.files.openPath path = .ok ⟨bytes, none⟩
  log : i.log = none

/-- A session on `bytes`, without echo and with the log as it is by default. -/
structure IsSession (i : Invocation) (bytes : List UInt8) : Prop where
  args : Request.parse i.args = .run ⟨false, none⟩
  input : i.input = bytes
  log : i.log = none

/-- The machine after the script, and the fault that ends it. -/
def scriptOutcome (path : String) (bytes : List UInt8) : Machine × Option Fault :=
  Machine.initial.run (Scanner.initial.feedStream (some path) ⟨bytes, none⟩).1.tokens

theorem scriptOutcome_encode (path : String) (cs : List Char) :
    scriptOutcome path (Text.encode cs) =
      Machine.initial.run
        (Scanner.gather Pattern.word.compile (some path) 1 (Text.lines cs)) := by
  rw [scriptOutcome, Scanner.feedStream_encode]
  rfl

theorem IsScript.run_encode {i : Invocation} {path : String} {cs : List Char}
    (h : i.IsScript path (Text.encode cs)) :
    i.run =
      match scriptOutcome path (Text.encode cs) with
      | (m, none) => ⟨[.line m.stack.render], 0⟩
      | (_, some x) => Session.fail (.fault x) := by
  rw [Invocation.run, h.log, h.args]
  simp only [Level.ofVariable, Request.settle, h.file, Session.runFile, Scanner.feedStream_encode]
  rw [Session.Quiet.runScript_eq ⟨rfl, rfl, rfl, rfl⟩, scriptOutcome, Scanner.feedStream_encode]
  rfl

theorem IsSession.run_encode {i : Invocation} {cs : List Char}
    (h : i.IsSession (Text.encode cs)) :
    i.run =
      ((Session.start false .warn).answer
        (((Text.Lines.split '\n' cs).terminated '\n').map Text.encode)).prepend Session.banner := by
  rw [Invocation.run, h.log, h.args]
  simp only [Level.ofVariable, Request.settle, h.input, Session.interact, Text.byteLines_encode,
    Text.terminated_map_encode]
  rfl

/-- A script and a session on the same text agree. If the script runs to its end, the session shows
one stack for each line, the last of them that of the script, and nothing else. If a fault ends the
script in a line that is no command, the session shows one stack for each line before it, and then
the same fault in that line, which leaves it the stack that the script had. -/
theorem script_session_agree {script session : Invocation} {path : String} {bytes : List UInt8}
    {cs : List Char} (hbytes : Text.decode? bytes = some cs) (hscript : script.IsScript path bytes)
    (hsession : session.IsSession bytes) :
    (script.run.status = 0 →
      session.run.status = 0 ∧ session.run.stderr = "" ∧
      ∃ history : List Stack, history.length = (Text.linesOf cs).length ∧
        session.run.output =
          Session.banner ++ Session.shown history ++ [Session.prompt] ∧
        ∀ st ∈ history.getLast?, script.run.output = [.line st.render]) ∧
    ∀ x, (scriptOutcome path bytes).2 = some x →
      script.run = Session.fail (.fault x) ∧
      ∃ i line, x.location.line = i + 1 ∧ (Text.linesOf cs)[i]? = some line ∧
        (Text.trim line ≠ "exit".toList → Text.trim line ≠ "words".toList →
          ∃ (before after : List (List UInt8)) (text : List UInt8) (s s' : Session)
            (history : List Stack) (reported : Output),
            reported = Session.report (.fault ⟨x.word, ⟨none, 1, x.location.column⟩, x.cause⟩) ∧
            (Text.byteLines bytes).terminated 10 = before ++ text :: after ∧
            before.length = i ∧ history.length = i ∧
            (Session.start false .warn).dialogue before =
              some (s, history.map fun st => [.line st.render]) ∧
            s.respond text = .more s' [reported] ∧
            s'.machine.stack = (scriptOutcome path bytes).1.stack ∧
            session.run.output =
              Session.banner ++ Session.shown history ++
                Session.prompt :: reported :: (s'.answer after).output) := by
  obtain rfl := Text.decode?_eq_some_iff.1 hbytes
  have hquiet := Session.quiet_start (show Level.warn.showsDebug = false from rfl)
  have hlines := Text.forall₂_isLine cs
  have hfile := hscript.run_encode
  rw [← Text.lines_eq_linesOf, hsession.run_encode]
  cases hrun : scriptOutcome path (Text.encode cs) with
  | mk m fault =>
    rw [hrun] at hfile
    rw [scriptOutcome_encode] at hrun
    rw [hfile]
    cases fault with
    | none =>
      obtain ⟨s', history, hdialogue, -, -, hlength, hlast⟩ := hquiet.dialogue_of_ok hlines hrun
      have hanswer := Session.answer_of_shown hdialogue []
      rw [List.append_nil] at hanswer
      rw [hanswer, Transcript.prepend_prepend]
      refine ⟨fun _ => ⟨rfl, ?_, history, hlength, rfl, ?_⟩, fun x hx => by cases hx⟩
      · apply Transcript.stderr_eq_empty
        have hshown : ∀ o ∈ Session.shown history, o.errText = "" :=
          fun _ => Session.errText_of_mem_shown
        have hprompt : ∀ o ∈ [Session.prompt], o.errText = "" := by decide
        exact List.forall_mem_append.2 ⟨List.forall_mem_append.2 ⟨by decide, hshown⟩, hprompt⟩
      · intro st hst
        rw [Option.mem_def.1 hst, Option.getD_some] at hlast
        rw [hlast]
    | some x =>
      refine ⟨fun h => absurd h Nat.one_ne_zero, ?_⟩
      rintro _ ⟨rfl⟩
      obtain ⟨i, line, hnumber, hline, hfault⟩ := hquiet.dialogue_of_fault hlines hrun
      refine ⟨rfl, i, line, by rw [hnumber, Nat.add_comm], hline, fun hexit hwords => ?_⟩
      obtain ⟨before, after, text, s, s', history, htexts, hbefore, hlength, hdialogue, hmore,
        rfl⟩ := hfault (not_or.2 ⟨hexit, hwords⟩)
      refine ⟨before, after, text, s, s', history, _, rfl, ?_, hbefore, hlength, hdialogue, hmore,
        rfl, ?_⟩
      · rw [Text.byteLines_encode, Text.terminated_map_encode, htexts]
      · rw [htexts, Session.answer_of_shown hdialogue, Session.answer_of_more hmore]
        simp

theorem script_session_agree_sum :
    let bytes (text : String) := Text.encode text.toList
    let script (text : String) : Invocation := ⟨["sum"], [], ⟨[(["sum"], bytes text)], []⟩, none⟩
    let session (text : String) : Invocation := ⟨[], bytes text, ⟨[], []⟩, none⟩
    ((script "1 2\r\n+").run.status = 0 ∧ (session "1 2\r\n+").run.stderr = "") ∧
    (scriptOutcome "sum" (bytes "1 2\r\n+ +")).2 = some ⟨"+", ⟨some "sum", 2, 3⟩, .underflow 2 1⟩ ∧
    ∃ history after, (session "1 2\r\n+ +").run.output =
      Session.banner ++ Session.shown history ++
        Session.prompt :: Session.report (.fault ⟨"+", ⟨none, 1, 3⟩, .underflow 2 1⟩) :: after := by
  intro bytes script session
  have hscript (text : String) : (script text).IsScript "sum" (bytes text) := ⟨rfl, rfl, rfl⟩
  have hsession (text : String) : (session text).IsSession (bytes text) := ⟨rfl, rfl, rfl⟩
  have hagree (text : String) :=
    script_session_agree (Text.decode?_encode text.toList) (hscript text) (hsession text)
  have hstatus : (script "1 2\r\n+").run.status = 0 := by
    rw [(hscript _).run_encode, scriptOutcome_encode]
    rfl
  have hfault : (scriptOutcome "sum" (bytes "1 2\r\n+ +")).2 =
      some ⟨"+", ⟨some "sum", 2, 3⟩, .underflow 2 1⟩ := by
    rw [scriptOutcome_encode]
    rfl
  refine ⟨⟨hstatus, ((hagree _).1 hstatus).2.1⟩, hfault, ?_⟩
  obtain ⟨-, i, line, hi, hline, hsame⟩ := (hagree _).2 _ hfault
  obtain rfl : i = 1 := by simpa using hi.symm
  obtain rfl : line = "+ +".toList := by
    rw [← Text.lines_eq_linesOf] at hline
    exact (Option.some.inj hline).symm
  obtain ⟨before, after, text, s, s', history, _, rfl, -, -, -, -, -, -, houtput⟩ :=
    hsame (by decide) (by decide)
  exact ⟨history, (s'.answer after).output, houtput⟩

end Invocation
end Console
end Rpn
