import Rpn.Proofs.Feed
import Rpn.Proofs.WordRuns

/-!
The pattern for words. Its matches in a line are the longest runs of characters other than space,
tab and newline. Main statement: the tokens that a scanner with this pattern adds for a text are
those runs, each once and in order, with the places where they stand.
-/

namespace Rpn

/-- What divides words in a line. -/
def Text.isSpacing (c : Char) : Bool := c == ' ' || c == '\t'

/-- The characters that are in no word. -/
def Text.isGap (c : Char) : Bool := decide (c ∈ [' ', '\t', '\n'])

namespace Pattern

open Text (runs IsRun isGap)

/-- The program reads one character of a word, and then goes back or accepts. -/
theorem compile_word :
    word.compile =
      #[.one (CharSet.ofChars [' ', '\t', '\n']).compl, .fork 0 2, .accept] := rfl

namespace Program

theorem threads_word_start (before after : Option Char) :
    threads word.compile before after [0] = ⟨[0], false⟩ := by
  rw [compile_word]
  rfl

theorem threads_word_again (before after : Option Char) :
    threads word.compile before after [1] = ⟨[0], true⟩ := by
  rw [compile_word]
  rfl

theorem read?_word (c : Char) :
    read? word.compile c 0 = if isGap c then none else some 1 := by
  have hset : read? word.compile c 0 =
      if (CharSet.ofChars [' ', '\t', '\n']).compl.mem c then some 1 else none := by
    rw [compile_word]
    rfl
  rw [hset, CharSet.mem_compl, CharSet.mem_ofChars, isGap]
  cases decide (c ∈ [' ', '\t', '\n']) with
  | false => rfl
  | true => rfl

/-- After the first character of a word the rest of it is read. -/
theorem matchLength?_word_again (before : Option Char) (rest : List Char) :
    matchLength? word.compile [1] before rest =
      some (rest.takeWhile (!isGap ·)).length := by
  induction rest generalizing before with
  | nil => rfl
  | cons c cs ih =>
    rw [matchLength?, threads_word_again]
    cases hc : isGap c with
    | true => simp [read?_word, hc]
    | false => simp [read?_word, hc, ih]

theorem matchLength?_word (before : Option Char) (c : Char) (cs : List Char) :
    matchLength? word.compile [0] before (c :: cs) =
      if isGap c then none else some ((cs.takeWhile (!isGap ·)).length + 1) := by
  rw [matchLength?, threads_word_start]
  cases hc : isGap c with
  | true => simp [read?_word, hc]
  | false => simp [read?_word, hc, matchLength?_word_again]

/-- The first match is the first run; the other runs are those after it. -/
theorem runs_eq_of_find? (before : Option Char) (rest : List Char) (start : Nat) :
    runs isGap start rest =
      match find? word.compile before rest with
      | none => []
      | some (skipped, n) =>
        ⟨start + skipped, (rest.drop skipped).take n⟩ ::
          runs isGap (start + skipped + n) ((rest.drop skipped).drop n) := by
  induction rest generalizing before start with
  | nil => simp [find?, matchLength?, threads_word_start, runs]
  | cons c cs ih =>
    rw [find?, matchLength?_word]
    cases hc : isGap c with
    | true =>
      rw [Text.runs_cons_gap hc, ih (some c)]
      cases find? word.compile (some c) cs with
      | none => rfl
      | some found =>
        obtain ⟨skipped, n⟩ := found
        simp only [if_true, Option.map_some, List.drop_succ_cons, Nat.add_right_comm start 1,
          Nat.add_assoc start skipped 1]
    | false =>
      have hrun := Text.isRun_takeWhile hc cs
      have htext : c :: cs = (c :: cs.takeWhile (!isGap ·)) ++ cs.dropWhile (!isGap ·) := by
        rw [List.cons_append, List.takeWhile_append_dropWhile]
      have hlen : (cs.takeWhile (!isGap ·)).length + 1 = (c :: cs.takeWhile (!isGap ·)).length :=
        rfl
      rw [htext, Text.runs_append hrun, hlen]
      simp only [Bool.false_eq_true, if_false, Nat.add_zero, List.drop_zero, List.take_left,
        List.drop_left]

/-- A match and what follows it are no longer than the rest of the line. -/
theorem length_findFrom?_le {p : Program} {here after : Cursor} {span : Span}
    (h : p.findFrom? here = some (span, after)) :
    span.text.length + after.rest.length ≤ here.rest.length := by
  rw [findFrom?] at h
  obtain ⟨⟨skipped, n⟩, hf, he⟩ := Option.map_eq_some_iff.1 h
  cases he
  simp only [Cursor.rest_advance, List.length_take, List.length_drop]
  omega

theorem findFrom?_word (here : Cursor) :
    runs isGap here.index here.rest =
      match findFrom? word.compile here with
      | none => []
      | some (span, after) => span :: runs isGap after.index after.rest := by
  rw [runs_eq_of_find? here.before here.rest here.index, findFrom?]
  cases hf : find? word.compile here.before here.rest with
  | none => rfl
  | some found =>
    obtain ⟨skipped, n⟩ := found
    have hle := find?_le hf
    have hskipped : (here.advance skipped).index = here.index + skipped :=
      Cursor.index_advance (by omega)
    have hn : n ≤ (here.advance skipped).rest.length := by
      rw [Cursor.rest_advance, List.length_drop]
      omega
    simp only [Option.map_some, Cursor.index_advance hn, hskipped, Cursor.rest_advance]

/-- No match is empty, so that the search goes on where the last match ended. -/
theorem findRest_word {fuel : Nat} {here : Cursor} (h : here.rest.length < fuel) :
    findRest word.compile fuel here = runs isGap here.index here.rest := by
  induction fuel generalizing here with
  | zero => omega
  | succ fuel ih =>
    have hfrom := findFrom?_word here
    rw [findRest, findNext?]
    cases hf : findFrom? word.compile here with
    | none =>
      rw [hf] at hfrom
      simp [hfrom]
    | some found =>
      obtain ⟨span, after⟩ := found
      rw [hf] at hfrom
      simp only [] at hfrom
      have hmem : span ∈ runs isGap here.index here.rest := by
        rw [hfrom]
        exact List.mem_cons_self
      obtain ⟨front, back, hrest, hstart, hrun⟩ := (Text.mem_runs isGap).1 hmem
      have hpos := List.length_pos_iff.2 hrun.ne_nil
      have hle := length_findFrom?_le hf
      simp only [hrun.ne_nil, false_and, if_false]
      rw [hfrom, ih (by omega)]

theorem findAll_word (line : List Char) :
    findAll word.compile line = runs isGap 0 line := by
  have hfrom := findFrom?_word ⟨0, none, line⟩
  rw [findAll]
  cases hf : findFrom? word.compile ⟨0, none, line⟩ with
  | none =>
    rw [hf] at hfrom
    exact hfrom.symm
  | some found =>
    obtain ⟨span, after⟩ := found
    rw [hf] at hfrom
    have hle := length_findFrom?_le hf
    have hshort : after.rest.length < line.length + 1 := by
      simp only [] at hle
      omega
    simp only [findRest_word hshort]
    exact hfrom.symm

end Program
end Pattern

namespace Scanner

open Text (runs IsRun isGap isSpacing linesOf)

/-- The tokens of a line are its runs. -/
theorem lineTokens_word (source : Option String) (number : Nat) (line : List Char) :
    lineTokens Pattern.word.compile source number line =
      (runs isGap 0 line).map fun span =>
        ⟨String.ofList span.text, ⟨source, number, span.start + 1⟩⟩ := by
  have hall : (runs isGap 0 line).filter (!·.text.isEmpty) = runs isGap 0 line := by
    apply List.filter_eq_self.2
    intro span hspan
    obtain ⟨before, after, -, -, hrun⟩ := (Text.mem_runs isGap).1 hspan
    simpa using hrun.ne_nil
  rw [lineTokens, Pattern.Program.findAll_word, hall]

/-- Without newlines, only spaces and tabs divide words. -/
theorem isRun_isGap_iff {before run after : List Char} (h : '\n' ∉ before ++ run ++ after) :
    IsRun isGap before run after ↔ IsRun isSpacing before run after := by
  have hgap : ∀ c ∈ before ++ run ++ after, isGap c = isSpacing c := by
    intro c hc
    have hne : c ≠ '\n' := fun e => h (e ▸ hc)
    rw [Bool.eq_iff_iff]
    simp [isGap, isSpacing, hne]
  exact ⟨fun hrun => hrun.congr hgap, fun hrun => hrun.congr fun c hc => (hgap c hc).symm⟩

theorem mem_lineTokens_word {source : Option String} {number : Nat} {line : List Char}
    (hline : '\n' ∉ line) {t : Token} :
    t ∈ lineTokens Pattern.word.compile source number line ↔
      ∃ before run after, line = before ++ run ++ after ∧ IsRun isSpacing before run after ∧
        t = ⟨String.ofList run, ⟨source, number, before.length + 1⟩⟩ := by
  rw [lineTokens_word, List.mem_map]
  constructor
  · rintro ⟨span, hspan, rfl⟩
    obtain ⟨before, after, rfl, hstart, hrun⟩ := (Text.mem_runs isGap).1 hspan
    refine ⟨before, span.text, after, rfl, (isRun_isGap_iff hline).1 hrun, ?_⟩
    rw [hstart, Nat.zero_add]
  · rintro ⟨before, run, after, rfl, hrun, rfl⟩
    refine ⟨⟨before.length, run⟩, ?_, rfl⟩
    exact (Text.mem_runs isGap).2
      ⟨before, after, rfl, (Nat.zero_add _).symm, (isRun_isGap_iff hline).2 hrun⟩

theorem pairwise_lineTokens_word (source : Option String) (number : Nat) (line : List Char) :
    (lineTokens Pattern.word.compile source number line).Pairwise fun t u =>
      t.location.column < u.location.column := by
  rw [lineTokens_word, List.pairwise_map]
  exact (Text.pairwise_runs isGap 0 line).imp fun h => Nat.succ_lt_succ h

/-- A scanner for words, whatever it holds already, adds for a text just the runs between spaces,
tabs and the ends of its lines: each of them once, in order, and at the line and column where it
stands. -/
theorem feed_word_exact (tokens : List Token) (n : Nat) (source : Option String)
    (text : String) :
    ofText "[^ \\t\\n]+" = .ok initial ∧
    let s := { initial with tokens, line := n }.feed source text
    s.pattern = initial.pattern ∧ s.line = n + (linesOf text.toList).length ∧
    ∃ found, s.tokens = tokens ++ found ∧ found.Pairwise Precedes ∧
      ∀ t, t ∈ found ↔
        ∃ i before run after, (linesOf text.toList)[i]? = some (before ++ run ++ after) ∧
          IsRun isSpacing before run after ∧
          t = ⟨String.ofList run, ⟨source, n + (i + 1), before.length + 1⟩⟩ := by
  rw [← Text.lines_eq_linesOf]
  refine ⟨?_, rfl, rfl, gather initial.pattern source (n + 1) (Text.lines text.toList), rfl, ?_,
    fun t => ?_⟩
  · rw [ofText, Pattern.parse_word]
    rfl
  · exact pairwise_gather (pairwise_lineTokens_word source) _ _
  · rw [mem_gather]
    constructor
    · rintro ⟨i, line, hline, ht⟩
      have hnewline := Text.newline_notMem_lines (List.mem_of_getElem? hline)
      obtain ⟨before, run, after, rfl, hrun, rfl⟩ := (mem_lineTokens_word hnewline).1 ht
      refine ⟨i, before, run, after, hline, hrun, ?_⟩
      rw [Nat.add_right_comm, Nat.add_assoc]
    · rintro ⟨i, before, run, after, hline, hrun, rfl⟩
      have hnewline := Text.newline_notMem_lines (List.mem_of_getElem? hline)
      refine ⟨i, _, hline, (mem_lineTokens_word hnewline).2 ⟨before, run, after, rfl, hrun, ?_⟩⟩
      rw [Nat.add_right_comm, Nat.add_assoc]

end Scanner
end Rpn
