import Rpn.Proofs.Cut
import Rpn.Proofs.Joined
import Rpn.Proofs.Simulation

/-!
Words laid out in a text, with spaces, tabs and line ends between them. Main statement: a scanner
for words finds the words in every layout, and the machine does the same with them; only the places
of the tokens, and so that of a fault, depend on the layout.
-/

namespace Rpn

namespace Text

/-- What may stand between words. -/
inductive Spacing
  | space
  | tab
  | newline
  | returnNewline

def Spacing.chars : Spacing → List Char
  | space => [' ']
  | tab => ['\t']
  | newline => ['\n']
  | returnNewline => ['\r', '\n']

def spaces (gap : List Spacing) : List Char := gap.flatMap Spacing.chars

/-- Words with a gap after each. -/
def layOut : List String → List (List Spacing) → List Char
  | word :: words, gap :: gaps => word.toList ++ (spaces gap ++ layOut words gaps)
  | _, _ => []

/-- A way to lay words out. No two words stand together. -/
structure Layout (words : List String) where
  before : List Spacing
  /-- What follows each of the words. -/
  after : List (List Spacing)
  length_after : after.length = words.length
  divided : ∀ gap ∈ after.dropLast, gap ≠ []

def Layout.text {words : List String} (l : Layout words) : String :=
  String.ofList (spaces l.before ++ layOut words l.after)

/-- The words that are found in a text, line by line. -/
def found (cs : List Char) : List (List Char) :=
  (lines cs).flatMap fun line => (runs isGap 0 line).map Pattern.Span.text

/-! Lines of a text with more characters in front. -/

theorem lines_cons_newline (cs : List Char) : lines ('\n' :: cs) = [] :: lines cs :=
  lines_append (.inr ⟨[], rfl⟩) cs

theorem lines_cons_return_newline (cs : List Char) :
    lines ('\r' :: '\n' :: cs) = [] :: lines cs :=
  lines_append (.inr ⟨['\r'], rfl⟩) cs

theorem chomp_append {front : List Char} (h : '\r' ∉ front) (line : List Char) :
    Lines.chomp '\r' (front ++ line) = front ++ Lines.chomp '\r' line := by
  by_cases hline : line = []
  · have hlast : front.getLast? ≠ some '\r' := fun hlast => h (List.mem_of_getLast? hlast)
    simp [hline, Lines.chomp, hlast]
  · rw [Lines.chomp, Lines.chomp, List.getLast?_append_of_ne_nil front hline,
      List.dropLast_append_of_ne_nil hline]
    split
    · rfl
    · rfl

/-- Characters that end no line stand in the first line. -/
theorem lines_append_of_notMem {front : List Char} (hne : front ≠ []) (hnewline : '\n' ∉ front)
    (hreturn : '\r' ∉ front) (cs : List Char) :
    lines (front ++ cs) =
      match lines cs with
      | [] => [front]
      | line :: rest => (front ++ line) :: rest := by
  rw [lines, lines, Lines.split_append hnewline]
  cases Lines.split '\n' cs with
  | mk complete rest =>
    by_cases hrest : rest = []
    · cases complete with
      | nil => simp [Lines.glue, Lines.all, Lines.closed, hrest, hne]
      | cons line complete =>
        simp [Lines.glue, Lines.all, Lines.closed, hrest, chomp_append hreturn]
    · cases complete with
      | nil => simp [Lines.glue, Lines.all, Lines.closed, hrest]
      | cons line complete =>
        simp [Lines.glue, Lines.all, Lines.closed, hrest, chomp_append hreturn]

theorem lines_cons {c : Char} (hnewline : c ≠ '\n') (hreturn : c ≠ '\r') (cs : List Char) :
    lines (c :: cs) =
      match lines cs with
      | [] => [[c]]
      | line :: rest => (c :: line) :: rest :=
  lines_append_of_notMem (List.cons_ne_nil c []) (by simpa using hnewline.symm)
    (by simpa using hreturn.symm) cs

/-! Words of a text with more in front. -/

theorem map_text_runs (gap : Char → Bool) (start : Nat) (cs : List Char) :
    (runs gap start cs).map Pattern.Span.text = (runs gap 0 cs).map Pattern.Span.text := by
  induction cs using run_induction gap generalizing start with
  | nil => simp [runs]
  | cons c cs hc ih => rw [runs_cons_gap hc, runs_cons_gap hc, ih, ih (0 + 1)]
  | append run after hrun ih =>
    rw [runs_append hrun, runs_append hrun, List.map_cons, List.map_cons, ih,
      ih (0 + run.length)]

/-- A gap within a line is passed over. -/
theorem found_cons_gap {c : Char} (hgap : isGap c = true) (hnewline : c ≠ '\n')
    (hreturn : c ≠ '\r') (cs : List Char) : found (c :: cs) = found cs := by
  rw [found, found, lines_cons hnewline hreturn]
  cases lines cs with
  | nil => simp [runs, hgap]
  | cons line rest => simp only [List.flatMap_cons, runs_cons_gap hgap, map_text_runs]

theorem found_spacing (s : Spacing) (cs : List Char) : found (s.chars ++ cs) = found cs := by
  cases s with
  | space => exact found_cons_gap (by decide) (by decide) (by decide) cs
  | tab => exact found_cons_gap (by decide) (by decide) (by decide) cs
  | newline =>
    have hlines := lines_cons_newline cs
    simp only [found, Spacing.chars, List.singleton_append, hlines, List.flatMap_cons, runs,
      List.map_nil, List.nil_append]
  | returnNewline =>
    have hlines := lines_cons_return_newline cs
    simp only [found, Spacing.chars, List.cons_append, List.nil_append, hlines,
      List.flatMap_cons, runs, List.map_nil]

theorem found_spaces (gap : List Spacing) (cs : List Char) :
    found (spaces gap ++ cs) = found cs := by
  induction gap with
  | nil => rfl
  | cons s gap ih =>
    rw [spaces, List.flatMap_cons, List.append_assoc, found_spacing]
    exact ih

/-- Whether a word that stands before the text ends there. -/
def EndsWord (cs : List Char) : Prop :=
  ∀ line ∈ (lines cs).head?, ∀ c ∈ line.head?, isGap c = true

theorem endsWord_cons_gap {c : Char} (hgap : isGap c = true) (hnewline : c ≠ '\n')
    (hreturn : c ≠ '\r') (cs : List Char) : EndsWord (c :: cs) := by
  intro line hline d hd
  rw [lines_cons hnewline hreturn] at hline
  have hc : line.head? = some c := by
    cases hlines : lines cs with
    | nil =>
      rw [hlines] at hline
      cases hline
      rfl
    | cons first rest =>
      rw [hlines] at hline
      cases hline
      rfl
  rw [hc] at hd
  cases hd
  exact hgap

theorem endsWord_spaces {gap : List Spacing} (hgap : gap ≠ []) (cs : List Char) :
    EndsWord (spaces gap ++ cs) := by
  obtain ⟨s, gap, rfl⟩ := List.exists_cons_of_ne_nil hgap
  rw [spaces, List.flatMap_cons, List.append_assoc]
  cases s with
  | space => exact endsWord_cons_gap (by decide) (by decide) (by decide) _
  | tab => exact endsWord_cons_gap (by decide) (by decide) (by decide) _
  | newline =>
    have hlines := lines_cons_newline (gap.flatMap Spacing.chars ++ cs)
    simp [EndsWord, Spacing.chars, hlines]
  | returnNewline =>
    have hlines := lines_cons_return_newline (gap.flatMap Spacing.chars ++ cs)
    simp [EndsWord, Spacing.chars, hlines]

/-- A word that ends where the rest begins is found first. -/
theorem found_append {word : List Char} (hword : IsWord word) (hreturn : '\r' ∉ word)
    {rest : List Char} (hrest : EndsWord rest) : found (word ++ rest) = word :: found rest := by
  rw [found, found, lines_append_of_notMem hword.ne_nil hword.newline_notMem hreturn]
  cases hlines : lines rest with
  | nil =>
    have hrun : IsRun isGap [] word [] := hword.isRun (by simp)
    have hruns := runs_append hrun 0
    rw [List.append_nil] at hruns
    simp [hruns, runs]
  | cons line others =>
    rw [EndsWord, hlines] at hrest
    have hrun : IsRun isGap [] word line := hword.isRun (hrest line rfl)
    simp only [List.flatMap_cons, runs_append hrun, List.map_cons, map_text_runs,
      List.cons_append]

theorem found_layOut {words : List String}
    (h : ∀ word ∈ words, IsWord word.toList ∧ '\r' ∉ word.toList) {gaps : List (List Spacing)}
    (hlength : gaps.length = words.length) (hdivided : ∀ gap ∈ gaps.dropLast, gap ≠ []) :
    found (layOut words gaps) = words.map String.toList := by
  induction words generalizing gaps with
  | nil => rfl
  | cons word words ih =>
    obtain ⟨⟨hword, hreturn⟩, hwords⟩ := List.forall_mem_cons.1 h
    obtain ⟨gap, gaps, rfl⟩ := List.exists_cons_of_length_eq_add_one hlength
    have hrest : EndsWord (spaces gap ++ layOut words gaps) := by
      by_cases hgap : gap = []
      · -- Only the last word can have nothing after it.
        have hgaps : gaps = [] := by
          by_contra hne
          apply hdivided gap _ hgap
          rw [List.dropLast_cons_of_ne_nil hne]
          exact List.mem_cons_self
        have hlast : words = [] := by
          rw [hgaps] at hlength
          exact List.length_eq_zero_iff.1 (Nat.succ.inj hlength).symm
        rw [hgap, hgaps, hlast]
        simp [EndsWord, spaces, layOut]
      · exact endsWord_spaces hgap _
    have hlater : ∀ gap ∈ gaps.dropLast, gap ≠ [] := by
      intro other hother
      have hne : gaps ≠ [] := by
        rintro rfl
        cases hother
      apply hdivided
      rw [List.dropLast_cons_of_ne_nil hne]
      exact List.mem_cons_of_mem gap hother
    rw [layOut, found_append hword hreturn hrest, found_spaces,
      ih hwords (Nat.succ.inj hlength) hlater, List.map_cons]

end Text

namespace Scanner

open Text (Layout found runs isGap)

theorem map_text_gather (source : Option String) (number : Nat) (lines : List (List Char)) :
    (gather Pattern.word.compile source number lines).map Token.text =
      (lines.flatMap fun line => (runs isGap 0 line).map Pattern.Span.text).map
        String.ofList := by
  induction lines generalizing number with
  | nil => rfl
  | cons line lines ih =>
    rw [gather_cons, List.map_append, ih, lineTokens_word, List.flatMap_cons, List.map_append,
      List.map_map, List.map_map]
    rfl

theorem map_text_feed (source : Option String) (text : String) :
    (initial.feed source text).tokens.map Token.text =
      (found text.toList).map String.ofList :=
  map_text_gather source 1 (Text.lines text.toList)

/-- In every layout of some words a scanner finds these words. -/
theorem map_text_feed_layout {words : List String}
    (h : ∀ word ∈ words, word ≠ "" ∧ ∀ c ∈ word.toList, c ∉ [' ', '\t', '\n', '\r'])
    (l : Layout words) (source : Option String) :
    (initial.feed source l.text).tokens.map Token.text = words := by
  have hwords : ∀ word ∈ words, Text.IsWord word.toList ∧ '\r' ∉ word.toList := by
    intro word hword
    obtain ⟨hne, hchars⟩ := h word hword
    refine ⟨⟨by simpa using hne, fun c hc => ?_⟩, fun hreturn => hchars _ hreturn (by decide)⟩
    have hc := hchars c hc
    simp only [List.mem_cons, List.not_mem_nil, or_false, not_or] at hc
    simp [isGap, hc]
  rw [map_text_feed, Layout.text, String.toList_ofList, Text.found_spaces,
    Text.found_layOut hwords l.length_after l.divided, List.map_map]
  simp

end Scanner

/-- The layout of a text has no meaning. If words without spaces, tabs, newlines and carriage
returns are laid out in two ways, both texts have these words for tokens. A machine does the same
with both: it accepts as many of the words, leaves the same stack, and raises a fault over the same
word for the same reason, or none. -/
theorem layouts_agree {words : List String}
    (h : ∀ word ∈ words, word ≠ "" ∧ ∀ c ∈ word.toList, c ∉ [' ', '\t', '\n', '\r'])
    (first second : Text.Layout words) (source source' : Option String) (m : Machine) :
    let tokens := (Scanner.initial.feed source first.text).tokens
    let tokens' := (Scanner.initial.feed source' second.text).tokens
    tokens.map Token.text = words ∧ tokens'.map Token.text = words ∧
      (m.outcome tokens').unplaced = (m.outcome tokens).unplaced := by
  intro tokens tokens'
  have hfirst : tokens.map Token.text = words := Scanner.map_text_feed_layout h first source
  have hsecond : tokens'.map Token.text = words := Scanner.map_text_feed_layout h second source'
  refine ⟨hfirst, hsecond, ?_⟩
  rw [Machine.outcome_eq, Machine.outcome_eq]
  exact Effects.unplaced_run (hsecond.trans hfirst.symm) _ _

/-- A division by zero on one line and on three. -/
theorem layouts_agree_division :
    let words := ["1", "0", "/"]
    let first : Text.Layout words := ⟨[], [[.space], [.space], []], rfl, by decide⟩
    let second : Text.Layout words :=
      ⟨[.newline, .tab], [[.returnNewline], [.space, .newline], [.returnNewline]], rfl, by decide⟩
    let tokens := (Scanner.initial.feed none first.text).tokens
    let tokens' := (Scanner.initial.feed none second.text).tokens
    (∀ word ∈ words, word ≠ "" ∧ ∀ c ∈ word.toList, c ∉ [' ', '\t', '\n', '\r']) ∧
    first.text = "1 0 /" ∧ second.text = "\n\t1\r\n0 \n/\r\n" ∧
    tokens.map Token.text = words ∧ tokens'.map Token.text = words ∧
    (Machine.initial.outcome tokens').unplaced = (Machine.initial.outcome tokens).unplaced ∧
    (Machine.initial.run tokens).2 = some ⟨"/", ⟨none, 1, 5⟩, .arithmetic .divisionByZero⟩ ∧
    (Machine.initial.run tokens').2 = some ⟨"/", ⟨none, 4, 1⟩, .arithmetic .divisionByZero⟩ := by
  intro words first second tokens tokens'
  have hwords : ∀ word ∈ words, word ≠ "" ∧ ∀ c ∈ word.toList, c ∉ [' ', '\t', '\n', '\r'] := by
    simp [words]
  obtain ⟨hfirst, hsecond, hsame⟩ := layouts_agree hwords first second none none .initial
  refine ⟨hwords, by decide, by decide, hfirst, hsecond, hsame, ?_, ?_⟩
  · decide +kernel
  · decide +kernel

end Rpn
