import Rpn.Console.Session
import Rpn.Proofs.Joined

/-!
Stacks as they are shown. Between its brackets a shown stack has its values in decimal notation,
with a comma and a space after each but the last. Main statement: without brackets and commas the
line is an input that puts these values on a stack, so that it shows which stack it came from.
-/

namespace Rpn

namespace Text

theorem mem_of_mem_intercalate {separator : List Char} {parts : List (List Char)} {c : Char}
    (h : c ∈ separator.intercalate parts) : c ∈ separator ∨ ∃ part ∈ parts, c ∈ part := by
  induction parts with
  | nil => simp at h
  | cons part parts ih =>
    cases parts with
    | nil => exact .inr ⟨part, List.mem_cons_self, by simpa using h⟩
    | cons next others =>
      rw [List.intercalate_cons_cons, List.mem_append, List.mem_append] at h
      rcases h with (h | h) | h
      · exact .inr ⟨part, List.mem_cons_self, h⟩
      · exact .inl h
      · rcases ih h with hc | ⟨other, hother, hc⟩
        · exact .inl hc
        · exact .inr ⟨other, List.mem_cons_of_mem part hother, hc⟩

theorem filter_intercalate (p : Char → Bool) (separator : List Char) (parts : List (List Char)) :
    (separator.intercalate parts).filter p =
      (separator.filter p).intercalate (parts.map (List.filter p)) := by
  induction parts with
  | nil => simp
  | cons part parts ih =>
    cases parts with
    | nil => simp
    | cons next others =>
      rw [List.intercalate_cons_cons, List.filter_append, List.filter_append, ih]
      exact List.intercalate_cons_cons.symm

theorem chomp_of_notMem {line : List Char} (h : '\r' ∉ line) : Lines.chomp '\r' line = line :=
  if_neg fun hlast => h (List.mem_of_getLast? hlast)

/-- Brackets and commas. -/
def isListMark (c : Char) : Bool := decide (c ∈ ['[', ']', ','])

/-- The text without its brackets and commas. -/
def unlisted (text : String) : String := String.ofList (text.toList.filter (!isListMark ·))

end Text

theorem Decimal.isMark_of_mem_write {n : Int} {c : Char} (h : c ∈ (write n).toList) :
    isMark c = true :=
  isMark_of_read? (read?_write n) c h

theorem Decimal.filter_write (n : Int) :
    (write n).toList.filter (!Text.isListMark ·) = (write n).toList := by
  apply List.filter_eq_self.2
  intro c hc
  have hmark := isMark_of_mem_write hc
  rw [Bool.not_eq_true', Text.isListMark, decide_eq_false_iff_not]
  intro hlist
  simp only [List.mem_cons, List.not_mem_nil, or_false] at hlist
  rcases hlist with rfl | rfl | rfl <;> cases hmark

namespace Stack

/-- The values in decimal notation, from the bottom. -/
def numerals (s : Stack) : List String := s.toList.map fun v => Decimal.write v.toInt

theorem unlisted_render (s : Stack) :
    Text.unlisted (s.render ++ "\n") = " ".intercalate s.numerals ++ "\n" := by
  have hrender : s.render = "[" ++ ", ".intercalate s.numerals ++ "]" := rfl
  have hnumerals : (s.numerals.map String.toList).map (List.filter (!Text.isListMark ·)) =
      s.numerals.map String.toList := by
    simp [numerals, Decimal.filter_write]
  have hseparator : ", ".toList.filter (!Text.isListMark ·) = " ".toList := by decide
  apply String.toList_inj.1
  rw [Text.unlisted, hrender]
  simp only [String.toList_ofList, String.toList_append, String.toList_intercalate,
    List.filter_append, Text.filter_intercalate, hnumerals, hseparator]
  -- Of the marks around the values only the newline is left.
  have hopen : "[".toList.filter (!Text.isListMark ·) = [] := by decide
  have hclose : "]".toList.filter (!Text.isListMark ·) = [] := by decide
  have hnewline : "\n".toList.filter (!Text.isListMark ·) = "\n".toList := by decide
  rw [hopen, hclose, hnewline, List.nil_append, List.append_nil]

theorem isWord_of_mem_numerals {s : Stack} {word : String} (h : word ∈ s.numerals) :
    Text.IsWord word.toList := by
  obtain ⟨v, -, rfl⟩ := List.mem_map.1 h
  exact Decimal.isWord_write v.toInt

theorem return_notMem_numerals (s : Stack) :
    '\r' ∉ [' '].intercalate (s.numerals.map String.toList) := by
  intro hreturn
  rcases Text.mem_of_mem_intercalate hreturn with h | ⟨word, hword, h⟩
  · revert h
    decide
  · obtain ⟨_, hnumeral, rfl⟩ := List.mem_map.1 hword
    obtain ⟨v, -, rfl⟩ := List.mem_map.1 hnumeral
    cases Decimal.isMark_of_mem_write h

end Stack

namespace Scanner

/-- The values of a shown stack are found in it one by one. -/
theorem tokens_feed_unlisted (s : Stack) (source : Option String) :
    (initial.feed source (Text.unlisted (s.render ++ "\n"))).tokens = row source 1 s.numerals := by
  have hwords : ∀ word ∈ s.numerals, Text.IsWord word.toList :=
    fun _ => Stack.isWord_of_mem_numerals
  have htext : (" ".intercalate s.numerals ++ "\n").toList =
      [' '].intercalate (s.numerals.map String.toList) ++ ['\n'] := by
    rw [String.toList_append, String.toList_intercalate]
    rfl
  rw [Stack.unlisted_render, feed, htext,
    Text.lines_append_newline (newline_notMem_intercalate hwords),
    Text.chomp_of_notMem s.return_notMem_numerals, feedLines_eq, gather_cons, gather_nil,
    List.append_nil]
  exact (lineTokens_word source 1 _).trans (map_runs_intercalate hwords source 0)

end Scanner

namespace Machine

theorem step_write (m : Machine) (v : Value) (location : Location) :
    m.step ⟨Decimal.write v.toInt, location⟩ = .ok { m with stack := m.stack.push v } := by
  simp only [step, effect, Token.classify_write]

/-- Values that are written out are pushed in order. -/
theorem run_row_write (m : Machine) (source : Option String) (column : Nat) (vs : List Value) :
    m.run (Scanner.row source column (vs.map fun v => Decimal.write v.toInt)) =
      ({ m with stack := .ofList (m.stack.toList ++ vs) }, none) := by
  induction vs generalizing m column with
  | nil =>
    rw [List.append_nil, Stack.ofList_toList]
    rfl
  | cons v vs ih =>
    rw [List.map_cons, Scanner.row, run_cons_ok (m.step_write v _), ih]
    simp

end Machine

namespace Console.Session

/-- The tokens of what is shown of a stack, without brackets and commas. -/
def shownTokens (s : Session) (source : Option String) : List Token :=
  (Scanner.initial.feed source (Text.unlisted s.showStack.outText)).tokens

theorem run_shownTokens (s : Session) (source : Option String) (m : Machine) :
    m.run (s.shownTokens source) =
      ({ m with stack := .ofList (m.stack.toList ++ s.machine.stack.toList) }, none) := by
  have htokens : s.shownTokens source = Scanner.row source 1 s.machine.stack.numerals :=
    Scanner.tokens_feed_unlisted s.machine.stack source
  rw [htokens]
  exact m.run_row_write source 1 s.machine.stack.toList

theorem stack_run_shownTokens (s : Session) (source : Option String) :
    (Machine.initial.run (s.shownTokens source)).1.stack = s.machine.stack := by
  rw [run_shownTokens]
  exact Stack.ofList_toList s.machine.stack

/-- What is shown of a stack, without its brackets and commas, puts the values of that stack on any
other, in the same order. From the start it leads to a stack that is shown in the same way. Stacks
that are shown in the same way are the same. -/
theorem showStack_reads_back (s : Session) (source : Option String) :
    (∀ m : Machine, m.run (s.shownTokens source) =
      ({ m with stack := .ofList (m.stack.toList ++ s.machine.stack.toList) }, none)) ∧
    (∀ t : Session, { t with machine := (Machine.initial.run (s.shownTokens source)).1 }.showStack =
      s.showStack) ∧
    ∀ t : Session, t.showStack = s.showStack ↔ t.machine.stack = s.machine.stack := by
  refine ⟨s.run_shownTokens source, fun t => ?_, fun t => ⟨fun h => ?_, fun h => ?_⟩⟩
  · simp only [showStack, stack_run_shownTokens]
  · have htokens : t.shownTokens source = s.shownTokens source := by
      rw [shownTokens, shownTokens, h]
    rw [← t.stack_run_shownTokens source, htokens, s.stack_run_shownTokens]
  · rw [showStack, showStack, h]

/-- Both limits of the range are read back. -/
example : Text.unlisted (Stack.ofList [-9223372036854775808, 9223372036854775807]).render =
    "-9223372036854775808 9223372036854775807" := by
  decide

end Console.Session
end Rpn
