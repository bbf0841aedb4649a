import Rpn.Proofs.Conversation
import Rpn.Proofs.Simulation

/-!
Runs with echo. The tokens of an input are shown before they run, and nothing else depends on that.
Main statement: a run with echo has the status and the errors of the run without, and writes the
same with one more line for each input that is tokenized: at the start for a script, and between
the prompt and the answer in a session.
-/

namespace Rpn

/-- Tokens in quotes, with single spaces between them. -/
def Token.quoted : List Token → String
  | [] => ""
  | [t] => "'" ++ t.text ++ "'"
  | t :: u :: ts => "'" ++ t.text ++ "'" ++ " " ++ quoted (u :: ts)

theorem Token.echo_eq_quoted (ts : List Token) : echo ts = quoted ts := by
  induction ts using quoted.induct with
  | case1 => rfl
  | case2 t => simp [echo, quoted]
  | case3 t u ts ih =>
    rw [quoted, ← ih, echo, List.map_cons, List.map_cons, String.intercalate_cons_cons]
    rfl

namespace Console

namespace Session

/-- The session with echo. -/
def withEcho (s : Session) : Session := { s with machine := { s.machine with echo := true } }

/-- The session with the tokens of a line. -/
def fed (s : Session) (text : List Char) : Session :=
  { s with scanner := s.scanner.clear.feed none (String.ofList text) }

theorem fed_withEcho (s : Session) (text : List Char) :
    s.withEcho.fed text = (s.fed text).withEcho := rfl

theorem execute_withEcho (s : Session) :
    s.withEcho.execute = (s.execute.1.withEcho, s.execute.2) := by
  simp only [execute, withEcho, Machine.run_echo, Machine.attempted_echo]

theorem echo_withEcho (s : Session) :
    s.withEcho.echo = [.line (Token.quoted s.scanner.tokens)] := by
  rw [← Token.echo_eq_quoted]
  rfl

/-- With echo a line is answered by its tokens, and then as it is without. -/
theorem runLine_withEcho {s : Session} (h : s.machine.echo = false) (text : List Char) :
    s.withEcho.runLine text =
      ((s.runLine text).1.withEcho,
        .line (Token.quoted (s.fed text).scanner.tokens) :: (s.runLine text).2) := by
  have hecho : (s.fed text).echo = [] := echo_of_false h
  rw [runLine, runLine, ← fed, ← fed, fed_withEcho, execute_withEcho, echo_withEcho, hecho]
  cases (s.fed text).execute with
  | mk s' rest =>
    obtain ⟨logged, fault⟩ := rest
    cases fault with
    | none => rfl
    | some f => rfl

/-- The answer to a line if there is echo: its tokens come first, unless the line is the command for
the list of words. -/
def echoed (text : List Char) (answer : List Output) : List Output :=
  if Text.trim text = "words".toList then answer
  else .line (Token.quoted (Scanner.initial.feed none (String.ofList text)).tokens) :: answer

theorem Quiet.tokens_fed {s : Session} (h : s.Quiet) (text : List Char) :
    (s.fed text).scanner.tokens = (Scanner.initial.feed none (String.ofList text)).tokens := by
  simp only [fed, Scanner.feed, Scanner.feedLines_eq, Scanner.clear, h.pattern]
  rfl

theorem Quiet.respond_withEcho {s s' : Session} (h : s.Quiet) {text : List Char}
    {output : List Output} (hmore : s.respond (Text.encode text) = .more s' output) :
    s.withEcho.respond (Text.encode text) = .more s'.withEcho (echoed text output) := by
  rw [respond, Text.decode?_encode] at hmore ⊢
  simp only at hmore ⊢
  by_cases hexit : Text.trim text = "exit".toList
  · rw [if_pos hexit] at hmore
    cases hmore
  · rw [if_neg hexit] at hmore ⊢
    by_cases hwords : Text.trim text = "words".toList
    · rw [if_pos hwords] at hmore ⊢
      cases hmore
      rw [echoed, if_pos hwords]
      rfl
    · rw [if_neg hwords] at hmore ⊢
      cases hmore
      rw [echoed, if_neg hwords, runLine_withEcho h.echo, h.tokens_fed]

/-- With echo the same lines are answered, each after its tokens. -/
theorem Quiet.dialogue_withEcho {texts : List (List Char)}
    (hlines : ∀ text ∈ texts, ∃ line, Text.lines text = [line])
    (hexit : ∀ text ∈ texts, Text.trim text ≠ "exit".toList) {s : Session} (h : s.Quiet) :
    ∃ s', s.withEcho.dialogue (texts.map Text.encode) =
      some (s', List.zipWith echoed texts (answers s.machine texts)) := by
  induction texts generalizing s with
  | nil => exact ⟨_, rfl⟩
  | cons text texts ih =>
    obtain ⟨⟨line, hline⟩, hlines⟩ := List.forall_mem_cons.1 hlines
    obtain ⟨htext, hexit⟩ := List.forall_mem_cons.1 hexit
    obtain ⟨s₁, hmachine, hquiet, hmore⟩ := h.respond_of_line hline htext
    obtain ⟨s', hdialogue⟩ := ih hlines hexit hquiet
    rw [hmachine] at hdialogue
    exact ⟨s', dialogue_cons (h.respond_withEcho hmore) hdialogue⟩

/-- The tokens are no errors. -/
theorem errors_line_cons (text : String) (output : List Output) :
    errors (.line text :: output) = errors output := by
  simp [errors, Output.line, Output.errText]

theorem errors_echoed (text : List Char) (answer : List Output) :
    errors (echoed text answer) = errors answer := by
  rw [echoed]
  split
  · rfl
  · exact errors_line_cons _ answer

theorem errors_flatMap_prompt (outputs : List (List Output)) :
    errors (outputs.flatMap (prompt :: ·)) = String.join (outputs.map errors) := by
  induction outputs with
  | nil => rfl
  | cons output outputs ih =>
    rw [List.flatMap_cons, errors_append, ih, List.map_cons, String.join_cons]
    rfl

theorem errors_spoken_echoed {texts : List (List Char)} {outputs : List (List Output)}
    (h : outputs.length = texts.length) (last : Transcript) :
    errors (spoken (List.zipWith echoed texts outputs) last) = errors (spoken outputs last) := by
  have heach : (List.zipWith echoed texts outputs).map errors = outputs.map errors := by
    apply List.ext_getElem
    · simp [h]
    · simp [errors_echoed]
  simp only [spoken, errors_append, errors_flatMap_prompt, heach]

/-- With echo a script writes its tokens first. -/
theorem runScript_withEcho {s : Session} (h : s.machine.echo = false) :
    s.withEcho.runScript = s.runScript.prepend [.line (Token.quoted s.scanner.tokens)] := by
  rw [runScript, runScript, execute_withEcho, echo_withEcho, echo_of_false h,
    Transcript.prepend_prepend]
  rfl

/-- Tokens are shown if the whole of a script has been read, and otherwise nothing is different. -/
theorem runFile_withEcho_cases {s : Session} (h : s.machine.echo = false) (path : String)
    (opened : Except OpenError ByteStream) :
    (∃ stream scanner, opened = .ok stream ∧
      s.scanner.feedStream (some path) stream = (scanner, none) ∧
      s.withEcho.runFile path opened =
        (s.runFile path opened).prepend [.line (Token.quoted scanner.tokens)]) ∨
    (∀ stream scanner, opened = .ok stream →
      s.scanner.feedStream (some path) stream ≠ (scanner, none)) ∧
      s.withEcho.runFile path opened = s.runFile path opened := by
  cases opened with
  | error e => exact .inr ⟨by simp, rfl⟩
  | ok stream =>
    cases hread : s.scanner.feedStream (some path) stream with
    | mk scanner error =>
      have hwith : s.withEcho.scanner.feedStream (some path) stream = (scanner, error) := hread
      simp only [runFile, hread, hwith]
      cases error with
      | none =>
        exact .inl ⟨stream, scanner, rfl, hread, runScript_withEcho (s := { s with scanner }) h⟩
      | some e =>
        refine .inr ⟨?_, rfl⟩
        rintro stream' scanner' ⟨⟩
        simp [hread]

end Session

namespace Request

/-- What a flag can lead to: there is echo from then on, or nothing is run at all. -/
def Flagged : Except Request Options → Prop
  | .ok o => o.echo = true
  | .error r => ∀ o, r ≠ .run o

theorem flagged_set (o : Options) (f : Flag) : Flagged (set o f) := by
  unfold set
  by_cases hfile : o.file = some ""
  · simp [hfile, Flagged]
  · cases f with
    | debug => by_cases hecho : o.echo = true <;> simp [hfile, hecho, Flagged]
    | help | version => simp [hfile, Flagged]

theorem flagged_cluster_cons {cs : List Char}
    (h : ∀ o : Options, o.echo = true → Flagged (cluster o cs)) (o : Options) (c : Char) :
    Flagged (cluster o (c :: cs)) := by
  rw [cluster]
  cases Flag.ofShort? c with
  | none => simp [Flagged]
  | some f =>
    have hset := flagged_set o f
    cases hf : set o f with
    | error r => simpa [hf] using hset
    | ok o' =>
      rw [hf] at hset
      simpa [hf] using h o' hset

theorem flagged_cluster (o : Options) (c : Char) (cs : List Char) :
    Flagged (cluster o (c :: cs)) := by
  induction cs generalizing o c with
  | nil => exact flagged_cluster_cons (fun o' hecho => by rwa [cluster, Flagged]) o c
  | cons d ds ih => exact flagged_cluster_cons (fun o' _ => ih o' d) o c

theorem flagged_longOption (o : Options) (cs : List Char) : Flagged (longOption o cs) := by
  rw [longOption]
  split
  · simp [Flagged]
  · exact flagged_set o _
  · simp [Flagged]

/-- An argument is a flag, or else the name of a file. -/
theorem take_cases (onlyFiles : Bool) (arg : String) :
    (∀ o, Flagged (take o onlyFiles arg)) ∨ ∀ o, take o onlyFiles arg = file o arg := by
  unfold take
  cases onlyFiles with
  | true => exact .inr fun o => rfl
  | false =>
    simp only [Bool.false_eq_true, if_false]
    split
    · exact .inl fun o => flagged_longOption o _
    · exact .inl fun o => flagged_cluster o _ _
    · exact .inr fun o => rfl

/-- Arguments that lead to a run ask for echo or have nothing to do with it. -/
theorem parseFrom_cases {o o' : Options} {onlyFiles : Bool} {args : List String}
    (h : parseFrom o onlyFiles args = .run o') :
    o'.echo = true ∨
      ∀ echo, parseFrom { o with echo } onlyFiles args = .run { o' with echo } := by
  induction args generalizing o onlyFiles with
  | nil =>
    rw [parseFrom] at h
    split at h
    · cases h
    · next hfile =>
      cases h
      exact .inr fun echo => if_neg hfile
  | cons arg args ih =>
    rw [parseFrom] at h
    simp only [parseFrom]
    split at h
    · next hend =>
      simp only [hend]
      exact ih h
    · next hend =>
      simp only [hend, if_false]
      rcases take_cases onlyFiles arg with hflag | hfile
      · have hflagged := hflag o
        cases htake : take o onlyFiles arg with
        | error r =>
          rw [htake] at h hflagged
          exact absurd h (hflagged o')
        | ok o₁ =>
          rw [htake] at h hflagged
          rcases ih h with hecho | hecho
          · exact .inl hecho
          · -- There is echo from here on, and what follows does not take it away.
            have hkept : o' = { o' with echo := o₁.echo } :=
              Request.run.inj (h.symm.trans (hecho o₁.echo))
            exact .inl ((congrArg Options.echo hkept).trans hflagged)
      · -- The name of a file is taken if there is none so far, with echo or without.
        simp only [hfile] at h ⊢
        unfold file at h ⊢
        cases hnone : o.file with
        | none =>
          simp only [hnone] at h ⊢
          exact ih h
        | some name =>
          rw [hnone] at h
          cases h

theorem parse_debug {args : List String} {file : Option String}
    (h : parse args = .run ⟨false, file⟩) : parse ("--debug" :: args) = .run ⟨true, file⟩ := by
  have hdebug : parse ("--debug" :: args) = parseFrom ⟨true, none⟩ false args := rfl
  rcases parseFrom_cases h with hecho | hecho
  · cases hecho
  · exact hdebug.trans (hecho true)

end Request

namespace Invocation

theorem run_of_script {i : Invocation} {echo : Bool} {path : String}
    (hargs : Request.parse i.args = .run ⟨echo, some path⟩) (hlog : i.log = none) :
    i.run = (Session.start echo .warn).runFile path (i.files.openPath path) := by
  rw [Invocation.run, hlog, hargs]
  rfl

theorem run_echo_of_course {i : Invocation}
    (hargs : Request.parse i.args = .run ⟨true, none⟩) (hlog : i.log = none)
    {texts : List (List Char)} {rest : List (List UInt8)} {last : Transcript}
    (hcourse : Session.Course i.input texts rest last) :
    i.run =
      ⟨Session.spoken (List.zipWith Session.echoed texts (Session.answers .initial texts)) last,
        last.status⟩ := by
  have hquiet := Session.quiet_start (show Level.warn.showsDebug = false from rfl)
  obtain ⟨s', hdialogue⟩ :=
    hquiet.dialogue_withEcho (fun _ => hcourse.exists_line) hcourse.goesOn
  rw [run_of_session hargs hlog]
  exact hcourse.interact_of_dialogue hdialogue

/-- Echo is for watching only. Arguments that lead to a run without it can be given one more flag
to ask for it; and whatever arguments ask for it, the status and the errors are the same. A session
answers each line that is no command after its tokens, and all else is as it is without echo. A
script shows its tokens before all else if the whole file has been tokenized; if it has not, there
is no difference. -/
theorem echo_only_shows {plain : Invocation} {file : Option String}
    (hargs : Request.parse plain.args = .run ⟨false, file⟩) (hlog : plain.log = none) :
    Request.parse ("--debug" :: plain.args) = .run ⟨true, file⟩ ∧
    ∀ args, Request.parse args = .run ⟨true, file⟩ →
      let echoing : Invocation := { plain with args }
      echoing.run.status = plain.run.status ∧ echoing.run.stderr = plain.run.stderr ∧
      (file = none → ∃ texts rest last, Session.Course plain.input texts rest last ∧
        let answers := Session.answers .initial texts
        answers.length = texts.length ∧ plain.run.output = Session.spoken answers last ∧
        echoing.run.output = Session.spoken (List.zipWith Session.echoed texts answers) last) ∧
      ∀ path, file = some path →
        (∃ stream scanner, plain.files.openPath path = .ok stream ∧
          Scanner.initial.feedStream (some path) stream = (scanner, none) ∧
          echoing.run.output = .line (Token.quoted scanner.tokens) :: plain.run.output) ∨
        (∀ stream scanner, plain.files.openPath path = .ok stream →
          Scanner.initial.feedStream (some path) stream ≠ (scanner, none)) ∧
          echoing.run.output = plain.run.output := by
  refine ⟨Request.parse_debug hargs, fun args hechoing => ?_⟩
  intro echoing
  cases file with
  | none =>
    obtain ⟨texts, rest, last, hcourse⟩ := Session.exists_course plain.input
    have hlength := Session.length_answers .initial texts
    rw [IsSession.run_of_course ⟨hargs, rfl, hlog⟩ hcourse,
      run_echo_of_course (i := echoing) hechoing hlog hcourse]
    refine ⟨rfl, Session.errors_spoken_echoed hlength last, fun _ => ?_, nofun⟩
    exact ⟨texts, rest, last, hcourse, hlength, rfl, rfl⟩
  | some path =>
    have hwith : Session.start true .warn = (Session.start false .warn).withEcho := rfl
    rw [run_of_script hargs hlog, run_of_script (i := echoing) hechoing hlog, hwith]
    rcases Session.runFile_withEcho_cases (s := Session.start false .warn) rfl path
        (plain.files.openPath path) with
      ⟨stream, scanner, hopen, hread, hrun⟩ | ⟨hbroken, hrun⟩
    · rw [show echoing.files = plain.files from rfl, hrun]
      refine ⟨rfl, Session.errors_line_cons _ _, nofun, ?_⟩
      rintro _ ⟨⟩
      exact .inl ⟨stream, scanner, hopen, hread, rfl⟩
    · rw [show echoing.files = plain.files from rfl, hrun]
      refine ⟨rfl, rfl, nofun, ?_⟩
      rintro _ ⟨⟩
      exact .inr ⟨hbroken, rfl⟩

/-- A session with a fault, a command and an end; a script that raises a fault; and a script that
is not UTF-8. -/
theorem echo_only_shows_division :
    let session : Invocation := ⟨[], Text.encode "1 0 /\nwords\nexit\n".toList, ⟨[], []⟩, none⟩
    let script (bytes : List UInt8) : Invocation := ⟨["sum"], [], ⟨[(["sum"], bytes)], []⟩, none⟩
    let division := script (Text.encode "1 0\n/".toList)
    let broken := script [43, 10, 255]
    (∃ texts rest last, Session.Course session.input texts rest last ∧
      { session with args := ["-d"] }.run.output =
        Session.spoken (List.zipWith Session.echoed texts (Session.answers .initial texts)) last) ∧
    { session with args := ["-d"] }.run.stderr =
      "Error: (1, 5): Arithmetic fault in '/', division by zero.\n" ∧
    { division with args := ["sum", "--debug"] }.run.output =
      .line "'1' '0' '/'" :: division.run.output ∧
    { broken with args := ["--debug", "sum"] }.run.output = broken.run.output := by
  intro session script division broken
  have hstderr : session.run.stderr =
      "Error: (1, 5): Arithmetic fault in '/', division by zero.\n" := by decide +kernel
  have hargs : Request.parse session.args = .run ⟨false, none⟩ := rfl
  have hscript (bytes : List UInt8) :
      Request.parse (script bytes).args = .run ⟨false, some "sum"⟩ := rfl
  have hopened (bytes : List UInt8) :
      (script bytes).files.openPath "sum" = .ok ⟨bytes, none⟩ := rfl
  obtain ⟨-, hsession⟩ := echo_only_shows hargs rfl
  obtain ⟨-, hsame, hcourse, -⟩ := hsession ["-d"] rfl
  obtain ⟨texts, rest, last, hcourse, -, -, houtput⟩ := hcourse rfl
  refine ⟨⟨texts, rest, last, hcourse, houtput⟩, hsame.trans hstderr, ?_, ?_⟩
  · obtain ⟨-, hechoing⟩ := echo_only_shows (hscript (Text.encode "1 0\n/".toList)) rfl
    obtain ⟨-, -, -, houtput⟩ := hechoing ["sum", "--debug"] rfl
    rcases houtput "sum" rfl with ⟨stream, scanner, hopen, hread, houtput⟩ | ⟨hnot, -⟩
    · obtain rfl := Except.ok.inj ((hopened _).symm.trans hopen)
      have htokens : Token.quoted (Scanner.initial.feedStream (some "sum")
          ⟨Text.encode "1 0\n/".toList, none⟩).1.tokens = "'1' '0' '/'" := by decide +kernel
      rw [hread] at htokens
      rw [htokens] at houtput
      exact houtput
    · exact absurd rfl (hnot _ _ (hopened _))
  · obtain ⟨-, hechoing⟩ := echo_only_shows (hscript [43, 10, 255]) rfl
    obtain ⟨-, -, -, houtput⟩ := hechoing ["--debug", "sum"] rfl
    rcases houtput "sum" rfl with ⟨stream, scanner, hopen, hread, -⟩ | ⟨-, houtput⟩
    · obtain rfl := Except.ok.inj ((hopened _).symm.trans hopen)
      have hfails : (Scanner.initial.feedStream (some "sum") ⟨[43, 10, 255], none⟩).2 =
          some (.io Error.notUtf8) := by decide +kernel
      rw [hread] at hfails
      cases hfails
    · exact houtput

end Invocation
end Console
end Rpn
