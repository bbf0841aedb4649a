import Rpn.Proofs.ScriptSession
import Rpn.Proofs.Stream

/-!
Scripts from their bytes to all that a run writes. The file is read as a whole before its first
token runs, so a line that is not UTF-8 decides before any fault. Main statement: a script that can
be read and raises no fault writes its last stack and nothing else, and any other script writes one
message of error and nothing else.
-/

namespace Rpn

namespace Text

/-- Bytes are UTF-8 if their lines are. -/
theorem IsCut.isUtf8_iff {bytes : List UInt8} {lines : List (List UInt8)}
    (h : IsCut 10 bytes lines) : IsUtf8 bytes ↔ ∀ line ∈ lines, IsUtf8 line := by
  induction h with
  | nil => simp [isUtf8_nil]
  | last hne h => simp
  | cons h rest ih => rw [h.isUtf8_append, ih, List.forall_mem_cons]

theorem encode_injective : Function.Injective encode := by
  intro cs ds h
  have hdecode := congrArg decode? h
  rw [decode?_encode, decode?_encode] at hdecode
  exact Option.some.inj hdecode

end Text

namespace Scanner

open Text (IsRun isSpacing linesOf)

/-- A stream that ends and is not UTF-8 is refused, wherever its broken line is. -/
theorem feedStream_of_not_isUtf8 {bytes : List UInt8} (h : ¬ Text.IsUtf8 bytes) (s : Scanner)
    (source : Option String) :
    (s.feedStream source ⟨bytes, none⟩).2 = some (.io Error.notUtf8) := by
  have hcut := Text.isCut_terminated 10 bytes
  cases hread : s.feedStream source ⟨bytes, none⟩ with
  | mk s' error =>
    cases error with
    | none =>
      have hnone := feedStream_eq_none_iff hcut s source none
      rw [hread] at hnone
      exact absurd (hnone.1 rfl).2 h
    | some e =>
      obtain ⟨before, rest, -, -, -, hstop⟩ := exists_stopped hcut hread
      cases hstop with
      | broken hutf8 reached => rfl
      | failed hfailure lost => cases hfailure

/-- A word that is found in a text, and where it stands. -/
theorem exists_place_of_mem_feed {source : Option String} {text : String} {t : Token}
    (h : t ∈ (initial.feed source text).tokens) :
    ∃ k before word after, (linesOf text.toList)[k]? = some (before ++ word ++ after) ∧
      IsRun isSpacing before word after ∧
      t = ⟨String.ofList word, ⟨source, k + 1, before.length + 1⟩⟩ := by
  obtain ⟨k, line, hline, ht⟩ := mem_gather.1 h
  have hnewline := Text.newline_notMem_lines (List.mem_of_getElem? hline)
  obtain ⟨before, word, after, rfl, hrun, rfl⟩ := (mem_lineTokens_word hnewline).1 ht
  rw [Text.lines_eq_linesOf] at hline
  refine ⟨k, before, word, after, hline, hrun, ?_⟩
  rw [Nat.add_comm k 1]
  rfl

end Scanner

namespace Console

theorem Transcript.stdout_fail (e : Error) : (Session.fail e).stdout = "" := by
  simp [stdout, Session.fail, Session.report, Output.errLine, Output.outText]

theorem Transcript.stderr_fail (e : Error) :
    (Session.fail e).stderr = "Error: " ++ e.message ++ "\n" := by
  simp [stderr, Session.fail, Session.report, Output.errLine, Output.errText]

namespace Invocation

open Text (IsCut IsRun IsUtf8 isSpacing linesOf)

theorem IsScript.run_of_not_isUtf8 {i : Invocation} {path : String} {bytes : List UInt8}
    (h : i.IsScript path bytes) (hutf8 : ¬ IsUtf8 bytes) :
    i.run = Session.fail (.io Error.notUtf8) := by
  have hread := Scanner.feedStream_of_not_isUtf8 hutf8 Scanner.initial (some path)
  cases hstream : Scanner.initial.feedStream (some path) ⟨bytes, none⟩ with
  | mk scanner error =>
    rw [hstream] at hread
    obtain rfl := hread
    have hfile : (Session.start false .warn).runFile path (.ok ⟨bytes, none⟩) =
        Session.fail (.io Error.notUtf8) := by
      simp only [Session.runFile, Session.start, hstream]
    rw [Invocation.run, h.log, h.args]
    simp only [Level.ofVariable, Request.settle, h.file, hfile]
    rfl

/-- The tokens of a script that is UTF-8. -/
def scriptTokens (path : String) (cs : List Char) : List Token :=
  (Scanner.initial.feed (some path) (String.ofList cs)).tokens

theorem scriptOutcome_eq_run (path : String) (cs : List Char) :
    scriptOutcome path (Text.encode cs) = Machine.initial.run (scriptTokens path cs) := by
  rw [scriptOutcome, Scanner.feedStream_encode, scriptTokens, Scanner.feed, String.toList_ofList]

theorem IsScript.run_of_fault {i : Invocation} {path : String} {cs : List Char}
    (h : i.IsScript path (Text.encode cs)) {m : Machine} {x : Fault}
    (hrun : Machine.initial.run (scriptTokens path cs) = (m, some x)) :
    i.run = Session.fail (.fault x) := by
  rw [h.run_encode, scriptOutcome_eq_run, hrun]

/-- A fault in a script is that of the first token that raises one, at the place of this token. -/
theorem exists_first_fault {path : String} {cs : List Char} {m : Machine} {x : Fault}
    (h : Machine.initial.run (scriptTokens path cs) = (m, some x)) :
    ∃ before t after, scriptTokens path cs = before ++ t :: after ∧
      Machine.initial.run before = (m, none) ∧ m.step t = .error x ∧
      ∃ k front word back cause, (linesOf cs)[k]? = some (front ++ word ++ back) ∧
        IsRun isSpacing front word back ∧
        x = ⟨String.ofList word, ⟨some path, k + 1, front.length + 1⟩, cause⟩ := by
  obtain ⟨t, after, hsplit, hstep⟩ := Machine.exists_faulting h
  have hbefore := Machine.run_accepted .initial (scriptTokens path cs)
  rw [h] at hbefore
  have ht : t ∈ scriptTokens path cs := by
    rw [hsplit]
    simp
  obtain ⟨k, front, word, back, hline, hword, rfl⟩ := Scanner.exists_place_of_mem_feed ht
  rw [String.toList_ofList] at hline
  obtain ⟨cause, -, rfl⟩ := Machine.step_eq_error_iff.1 hstep
  exact ⟨_, _, after, hsplit, hbefore, hstep, k, front, word, back, cause, hline, hword, rfl⟩

/-- What comes of a script. If its bytes are UTF-8 and all its tokens run, it writes the stack that
they leave, with status 0. Otherwise it writes nothing but one message, with status 1. The message
says that the file is not UTF-8 if any line of it is not. Else it is the fault of the first token
that raises one, in the file, line and column where this token stands. -/
theorem script_outcome {i : Invocation} {path : String} {bytes : List UInt8}
    (h : i.IsScript path bytes) {lines : List (List UInt8)} (hcut : IsCut 10 bytes lines) :
    (∀ cs m, bytes = Text.encode cs →
      Machine.initial.run (scriptTokens path cs) = (m, none) →
      i.run.status = 0 ∧ i.run.stdout = m.stack.render ++ "\n" ∧ i.run.stderr = "") ∧
    ((¬ ∃ cs m, bytes = Text.encode cs ∧
        Machine.initial.run (scriptTokens path cs) = (m, none)) →
      i.run.status = 1 ∧ i.run.stdout = "" ∧
      ∃ message, i.run.stderr = "Error: " ++ message ++ "\n" ∧
        ((∃ line ∈ lines, ¬ IsUtf8 line) →
          message = "I/O error: stream did not contain valid UTF-8") ∧
        ((∀ line ∈ lines, IsUtf8 line) →
          ∃ cs before t after m x, bytes = Text.encode cs ∧
            scriptTokens path cs = before ++ t :: after ∧
            Machine.initial.run before = (m, none) ∧ m.step t = .error x ∧ message = x.message ∧
            ∃ k front word back cause, (linesOf cs)[k]? = some (front ++ word ++ back) ∧
              IsRun isSpacing front word back ∧
              x = ⟨String.ofList word, ⟨some path, k + 1, front.length + 1⟩, cause⟩)) := by
  constructor
  · rintro cs m rfl hrun
    rw [h.run_encode, scriptOutcome_eq_run, hrun]
    refine ⟨rfl, ?_, ?_⟩
    · simp [Transcript.stdout, Output.line, Output.outText]
    · simp [Transcript.stderr, Output.line, Output.errText]
  · intro hnot
    by_cases hutf8 : IsUtf8 bytes
    · have hlines := hcut.isUtf8_iff.1 hutf8
      obtain ⟨cs, rfl⟩ := hutf8
      cases hrun : Machine.initial.run (scriptTokens path cs) with
      | mk m fault =>
        cases fault with
        | none => exact absurd ⟨cs, m, rfl, hrun⟩ hnot
        | some x =>
          obtain ⟨before, t, after, hsplit, hbefore, hstep, hplace⟩ := exists_first_fault hrun
          rw [h.run_of_fault hrun]
          refine ⟨rfl, Transcript.stdout_fail _, x.message, Transcript.stderr_fail _, ?_, ?_⟩
          · rintro ⟨line, hline, hbroken⟩
            exact absurd (hlines line hline) hbroken
          · intro _
            exact ⟨cs, before, t, after, m, x, rfl, hsplit, hbefore, hstep, rfl, hplace⟩
    · rw [h.run_of_not_isUtf8 hutf8]
      refine ⟨rfl, Transcript.stdout_fail _, _, Transcript.stderr_fail _, fun _ => rfl, ?_⟩
      intro hlines
      exact absurd (hcut.isUtf8_iff.2 hlines) hutf8

/-- A sum, a sum with a word missing, and a broken line after a word that would raise a fault. -/
theorem script_outcome_sum :
    let script (bytes : List UInt8) : Invocation := ⟨["sum"], [], ⟨[(["sum"], bytes)], []⟩, none⟩
    let sum := Text.encode "1 2\r\n+".toList
    let missing := Text.encode "1\n +".toList
    let broken : List UInt8 := [43, 10, 255]
    ((script sum).run.status = 0 ∧ (script sum).run.stdout = "[3]\n") ∧
    ((script missing).run.status = 1 ∧ ∃ x : Fault,
      (script missing).run.stderr = "Error: " ++ x.message ++ "\n" ∧ x.word = "+" ∧
      x.location = ⟨some "sum", 2, 2⟩) ∧
    (IsCut 10 broken [[43, 10], [255]] ∧ ¬ IsUtf8 [255] ∧ (script broken).run.stderr =
      "Error: I/O error: stream did not contain valid UTF-8\n") := by
  intro script sum missing broken
  have hscript (bytes : List UInt8) : (script bytes).IsScript "sum" bytes := ⟨rfl, rfl, rfl⟩
  refine ⟨?_, ?_, ?_⟩
  · have hrun : Machine.initial.run (scriptTokens "sum" "1 2\r\n+".toList) =
        ({ Machine.initial with stack := .ofList [3] }, none) := by rfl
    have hcut := Text.isCut_terminated 10 sum
    have houtcome := (script_outcome (hscript sum) hcut).1 _ _ rfl hrun
    exact ⟨houtcome.1, houtcome.2.1⟩
  · have hrun : Machine.initial.run (scriptTokens "sum" "1\n +".toList) =
        ({ Machine.initial with stack := .ofList [1] },
          some ⟨"+", ⟨some "sum", 2, 2⟩, .underflow 2 1⟩) := by rfl
    have hcut := Text.isCut_terminated 10 missing
    have hnot : ¬ ∃ cs m, missing = Text.encode cs ∧
        Machine.initial.run (scriptTokens "sum" cs) = (m, none) := by
      rintro ⟨cs, m, hcs, hok⟩
      obtain rfl := Text.encode_injective hcs
      rw [hrun] at hok
      cases hok
    obtain ⟨hstatus, -, message, hstderr, -, hfault⟩ := (script_outcome (hscript _) hcut).2 hnot
    obtain ⟨cs, before, t, after, m, x, hcs, hsplit, hbefore, hstep, rfl, -⟩ :=
      hfault (hcut.isUtf8_iff.1 (Text.isUtf8_encode _))
    obtain rfl := Text.encode_injective hcs
    rw [hsplit, Machine.run_append_of_ok hbefore, Machine.run_cons_error hstep] at hrun
    cases hrun
    exact ⟨hstatus, _, hstderr, rfl, rfl⟩
  · have hcut : IsCut 10 broken [[43, 10], [255]] :=
      .cons ⟨[43], by decide, rfl⟩ (.last (by decide) (by decide))
    have hbroken : ¬ IsUtf8 [255] := Text.decode?_eq_none_iff.1 (by decide +kernel)
    have hnot : ¬ ∃ cs m, broken = Text.encode cs ∧
        Machine.initial.run (scriptTokens "sum" cs) = (m, none) := by
      rintro ⟨cs, m, hcs, -⟩
      exact hbroken (hcut.isUtf8_iff.1 ⟨cs, hcs⟩ _ (by decide))
    obtain ⟨-, -, message, hstderr, hmessage, -⟩ := (script_outcome (hscript _) hcut).2 hnot
    obtain rfl := hmessage ⟨_, by decide, hbroken⟩
    exact ⟨hcut, hbroken, hstderr⟩

end Invocation
end Console
end Rpn
