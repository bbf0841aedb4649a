import Rpn.Proofs.WordPattern
import Rpn.Proofs.Words

/-!
Words on one line with single spaces between them. Main statement: a scanner for words finds the
words that the line was put together from, each in the column where those before it end.
-/

namespace Rpn

namespace Text

/-- A text that a scanner for words takes as a whole. -/
structure IsWord (word : List Char) : Prop where
  ne_nil : word ≠ []
  solid : ∀ c ∈ word, isGap c = false

theorem IsWord.isRun {word after : List Char} (h : IsWord word)
    (hafter : ∀ c ∈ after.head?, isGap c = true) : IsRun isGap [] word after :=
  ⟨h.ne_nil, h.solid, by simp, hafter⟩

theorem IsWord.newline_notMem {word : List Char} (h : IsWord word) : '\n' ∉ word := by
  intro hmem
  have hsolid := h.solid _ hmem
  revert hsolid
  decide

end Text

theorem Decimal.isGap_of_isMark {c : Char} (h : isMark c = true) : Text.isGap c = false := by
  rw [Text.isGap, decide_eq_false_iff_not]
  intro hgap
  simp only [List.mem_cons, List.not_mem_nil, or_false] at hgap
  rcases hgap with rfl | rfl | rfl <;> cases h

/-- The decimal notation of a number is one word. -/
theorem Decimal.isWord_write (n : Int) : Text.IsWord (write n).toList where
  ne_nil hnil := by
    have hread := read?_write n
    rw [hnil] at hread
    cases hread
  solid c hc := isGap_of_isMark (isMark_of_read? (read?_write n) c hc)

namespace Scanner

open Text (IsRun IsWord runs isGap)

/-- How far words reach in a line, with the space after each of them. -/
def width : List String → Nat
  | [] => 0
  | word :: words => word.length + 1 + width words

/-- Words as the tokens of one line, from a column on. -/
def row (source : Option String) (column : Nat) : List String → List Token
  | [] => []
  | word :: words =>
    ⟨word, ⟨source, 1, column⟩⟩ :: row source (column + (word.length + 1)) words

theorem width_append (first second : List String) :
    width (first ++ second) = width first + width second := by
  induction first with
  | nil => simp [width]
  | cons word words ih => simp [width, ih, Nat.add_assoc]

theorem row_append (source : Option String) (column : Nat) (first second : List String) :
    row source column (first ++ second) =
      row source column first ++ row source (column + width first) second := by
  induction first generalizing column with
  | nil => rfl
  | cons word words ih => simp [row, ih, width, Nat.add_assoc]

/-- The runs of a line that is put together from words are these words. -/
theorem map_runs_intercalate {words : List String} (h : ∀ word ∈ words, IsWord word.toList)
    (source : Option String) (start : Nat) :
    (runs isGap start ([' '].intercalate (words.map String.toList))).map
        (fun span => ⟨String.ofList span.text, ⟨source, 1, span.start + 1⟩⟩) =
      row source (start + 1) words := by
  induction words generalizing start with
  | nil => simp [row, runs]
  | cons word words ih =>
    have hword := h word List.mem_cons_self
    have hrest := ih (fun w hw => h w (List.mem_cons_of_mem word hw))
    cases words with
    | nil =>
      have hrun : IsRun isGap [] word.toList [] := hword.isRun (by simp)
      have hruns := Text.runs_append hrun start
      rw [List.append_nil] at hruns
      simp [hruns, row, runs]
    | cons next others =>
      have hrun : IsRun isGap [] word.toList
          (' ' :: [' '].intercalate ((next :: others).map String.toList)) :=
        hword.isRun (by simp [isGap])
      have hcolumn : start + word.toList.length + 1 + 1 = start + 1 + (word.length + 1) := by
        rw [String.length_toList]
        omega
      rw [List.map_cons, List.map_cons, List.intercalate_cons_cons, ← List.map_cons,
        List.append_assoc, List.singleton_append, Text.runs_append hrun,
        Text.runs_cons_gap (by decide), List.map_cons, hrest, hcolumn, String.ofList_toList]
      rfl

theorem newline_notMem_intercalate {words : List String}
    (h : ∀ word ∈ words, IsWord word.toList) :
    '\n' ∉ [' '].intercalate (words.map String.toList) := by
  induction words with
  | nil => simp
  | cons word words ih =>
    have hword := (h word List.mem_cons_self).newline_notMem
    have hrest := ih (fun w hw => h w (List.mem_cons_of_mem word hw))
    cases words with
    | nil => simpa using hword
    | cons next others => simpa [hword] using hrest

/-- A line of words is read word by word. -/
theorem tokens_feed_intercalate {words : List String} (h : ∀ word ∈ words, IsWord word.toList)
    (source : Option String) :
    (initial.feed source (" ".intercalate words)).tokens = row source 1 words := by
  have hnewline := newline_notMem_intercalate h
  have hruns := map_runs_intercalate h source 0
  have htext : (" ".intercalate words).toList = [' '].intercalate (words.map String.toList) :=
    String.toList_intercalate
  rw [feed, htext, feedLines_eq]
  by_cases hempty : [' '].intercalate (words.map String.toList) = []
  · rw [hempty] at hruns ⊢
    simpa [runs, initial, ofPattern] using hruns
  · rw [Text.lines_of_notMem hempty hnewline, gather_cons, gather_nil, List.append_nil]
    exact (lineTokens_word source 1 _).trans hruns

end Scanner
end Rpn
