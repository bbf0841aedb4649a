import Mathlib.Algebra.Ring.Nat
import Mathlib.Data.List.Induction
import Rpn.Proofs.Matches
import Rpn.Proofs.Stream

/-!
What a scanner holds, for any pattern and after any history of texts, streams and clearings. Main
statement: its number of lines is that of the lines read since it was last cleared; its tokens are
not empty, are in lines that it has read, and stand one after another without overlapping.
-/

namespace Rpn

namespace ByteStream

/-- Whether a line can be read that a stream comes to: it has to be UTF-8, and to end with a
newline if the stream fails. -/
def isReadable (failure : Option String) (line : List UInt8) : Bool :=
  (Text.decode? line).isSome && (failure.isNone || line.getLast? == some 10)

/-- How many lines of a stream are read. -/
def linesRead (bs : ByteStream) : Nat :=
  (((Text.byteLines bs.bytes).terminated 10).takeWhile (isReadable bs.failure)).length

end ByteStream

namespace Scanner

open Text (IsComplete IsCut IsUtf8)

/-- The second token comes later, and the first one ends before it. -/
def Apart (t u : Token) : Prop :=
  t.location.line < u.location.line ∨
    t.location.line = u.location.line ∧ t.location.column + t.text.length ≤ u.location.column

/-- What is done with a scanner. -/
inductive Action
  | feed (source : Option String) (text : String)
  | stream (source : Option String) (bytes : ByteStream)
  | clear

namespace Action

def isClear : Action → Bool
  | clear => true
  | _ => false

/-- The source that is given for what an action reads. -/
def source? : Action → Option (Option String)
  | feed source _ => some source
  | stream source _ => some source
  | clear => none

def linesRead : Action → Nat
  | feed _ text => (Text.linesOf text.toList).length
  | stream _ bytes => bytes.linesRead
  | clear => 0

/-- The actions after the last one that clears. -/
def sinceClear (actions : List Action) : List Action :=
  (actions.reverse.takeWhile (!·.isClear)).reverse

theorem sinceClear_concat (actions : List Action) (a : Action) :
    sinceClear (actions ++ [a]) = if a.isClear then [] else sinceClear actions ++ [a] := by
  cases ha : a.isClear with
  | true => simp [sinceClear, ha]
  | false => simp [sinceClear, ha]

end Action

/-- The scanner after one action. A stream that fails is read as far as it goes. -/
def act (s : Scanner) : Action → Scanner
  | .feed source text => s.feed source text
  | .stream source bytes => (s.feedStream source bytes).1
  | .clear => s.clear

/-- The scanner after some actions. -/
def acts (s : Scanner) (actions : List Action) : Scanner := actions.foldl act s

theorem acts_concat (s : Scanner) (actions : List Action) (a : Action) :
    s.acts (actions ++ [a]) = (s.acts actions).act a :=
  List.foldl_concat act s a actions

/-- A token with a text, and a place after line `low` and not after line `high`. -/
structure IsPlaced (low high : Nat) (t : Token) : Prop where
  ne_empty : t.text ≠ ""
  newline_notMem : '\n' ∉ t.text.toList
  column_pos : 1 ≤ t.location.column
  lt_line : low < t.location.line
  line_le : t.location.line ≤ high

theorem IsPlaced.mono {low high low' high' : Nat} {t : Token} (h : IsPlaced low high t)
    (hlow : low' ≤ low) (hhigh : high ≤ high') : IsPlaced low' high' t :=
  { h with lt_line := Nat.lt_of_le_of_lt hlow h.lt_line, line_le := Nat.le_trans h.line_le hhigh }

/-- A scanner whose tokens are in the lines that it has read, in order. -/
structure Sound (s : Scanner) : Prop where
  placed : ∀ t ∈ s.tokens, IsPlaced 0 s.line t
  apart : s.tokens.Pairwise Apart

/-! Tokens of one line. -/

section Line

variable {p : Pattern.Program} {source : Option String} {number : Nat} {line : List Char}

/-- A token is a part of its line, in the column where it starts. -/
theorem exists_part_of_mem_lineTokens {t : Token} (h : t ∈ lineTokens p source number line) :
    ∃ before after, line = before ++ t.text.toList ++ after ∧ t.text ≠ "" ∧
      t.location = ⟨source, number, before.length + 1⟩ := by
  obtain ⟨span, hspan, rfl⟩ := List.mem_map.1 h
  obtain ⟨hmem, hne⟩ := List.mem_filter.1 hspan
  obtain ⟨after, hafter⟩ := Pattern.Program.isPrefix_of_mem_findAll hmem
  have hnil : span.text ≠ [] := by simpa using hne
  have hstart : span.start ≤ line.length := by
    by_contra hlt
    rw [List.drop_eq_nil_of_le (by omega)] at hafter
    exact hnil (List.append_eq_nil_iff.1 hafter).1
  refine ⟨line.take span.start, after, ?_, ?_, ?_⟩
  · rw [String.toList_ofList, List.append_assoc, hafter, List.take_append_drop]
  · intro hempty
    apply hnil
    simpa using congrArg String.toList hempty
  · rw [List.length_take, Nat.min_eq_left hstart]

theorem pairwise_lineTokens (p : Pattern.Program) (source : Option String) (number : Nat)
    (line : List Char) : (lineTokens p source number line).Pairwise Apart := by
  rw [lineTokens, List.pairwise_map]
  apply ((p.pairwise_findAll line).filter _).imp
  intro s t hbefore
  rw [Pattern.Span.IsBefore] at hbefore
  refine .inr ⟨rfl, ?_⟩
  rw [String.length_ofList]
  show s.start + 1 + s.text.length ≤ t.start + 1
  omega

end Line

/-! What one action does. -/

theorem newline_notMem_streamLines {bs : ByteStream} {l : List UInt8} (h : l ∈ streamLines bs) :
    10 ∉ l := by
  have hclosed : ∀ l ∈ (Text.byteLines bs.bytes).closed Text.carriageReturn, 10 ∉ l := by
    intro l hl
    obtain ⟨piece, hpiece, rfl⟩ := List.mem_map.1 hl
    have hnewline := Text.Lines.newline_notMem_complete hpiece
    rw [Text.Lines.chomp]
    split
    · exact fun hmem => hnewline (List.dropLast_subset _ hmem)
    · exact hnewline
  rw [streamLines] at h
  split at h
  · exact hclosed l h
  · rcases List.mem_append.1 h with h | h
    · exact hclosed l h
    · split at h
      · cases h
      · rw [List.mem_singleton] at h
        rw [h]
        exact Text.Lines.newline_notMem_rest 10 bs.bytes

theorem encode_mem_of_mem_decodeLines {ls : List (List UInt8)} {cs : List Char}
    (h : cs ∈ (Text.decodeLines ls).1) : Text.encode cs ∈ ls := by
  induction ls with
  | nil => cases h
  | cons l ls ih =>
    rw [Text.decodeLines] at h
    cases hl : Text.decode? l with
    | none => simp [hl] at h
    | some text =>
      simp only [hl, List.mem_cons] at h
      rcases h with rfl | h
      · rw [Text.decode?_eq_some_iff.1 hl]
        exact List.mem_cons_self
      · exact List.mem_cons_of_mem l (ih h)

theorem line_feedLines (s : Scanner) (source : Option String) (lines : List (List Char)) :
    (s.feedLines source lines).line = s.line + lines.length := rfl

theorem line_feedStream {bytes : List UInt8} {lines : List (List UInt8)}
    (hcut : IsCut 10 bytes lines) (s : Scanner) (source failure : Option String) :
    (s.feedStream source ⟨bytes, failure⟩).1.line =
      s.line + (lines.takeWhile (ByteStream.isReadable failure)).length := by
  induction hcut generalizing s with
  | nil =>
    cases failure with
    | none => simp [feedStream_nil]
    | some message => simp [feedStream_lost]
  | @last line hne hline =>
    cases failure with
    | none =>
      rw [feedStream_last hne hline]
      cases hdecode : Text.decode? line with
      | none => simp [ByteStream.isReadable, hdecode]
      | some text => simp [ByteStream.isReadable, hdecode, line_feedLines]
    | some message =>
      have hlast : line.getLast? ≠ some 10 := fun h => hline (List.mem_of_getLast? h)
      simp [feedStream_lost hline, ByteStream.isReadable, hlast]
  | @cons line xs lines hline rest ih =>
    by_cases hutf8 : IsUtf8 line
    · obtain ⟨text, hread⟩ := feedStream_append_of_isUtf8 hline hutf8 source
      obtain ⟨cs, hcs⟩ := hutf8
      obtain ⟨body, -, hbody⟩ := hline
      have hlast : line.getLast? = some 10 := by rw [hbody, List.getLast?_concat]
      have hreadable : ByteStream.isReadable failure line = true := by
        simp [ByteStream.isReadable, Text.decode?_eq_some_iff.2 hcs, hlast]
      rw [hread, ih, line_feedLines, List.takeWhile_cons_of_pos hreadable]
      simp only [List.length_cons, List.length_nil]
      omega
    · rw [feedStream_append_of_not_isUtf8 hline hutf8]
      simp [ByteStream.isReadable, Text.decode?_eq_none_iff.2 hutf8]

/-- An action clears the scanner, or feeds it as many lines as it reads. -/
theorem act_cases (s : Scanner) (a : Action) :
    a.isClear = true ∧ s.act a = s.clear ∨
      a.isClear = false ∧ ∃ source lines, a.source? = some source ∧
        s.act a = s.feedLines source lines ∧ lines.length = a.linesRead ∧
        ∀ l ∈ lines, '\n' ∉ l := by
  cases a with
  | feed source text =>
    refine .inr ⟨rfl, source, Text.lines text.toList, rfl, rfl, ?_,
      fun _ => Text.newline_notMem_lines⟩
    rw [Text.lines_eq_linesOf]
    rfl
  | stream source bytes =>
    have hcount := line_feedStream (Text.isCut_terminated 10 bytes.bytes) s source bytes.failure
    refine .inr ⟨rfl, source, (Text.decodeLines (streamLines bytes)).1, rfl, rfl, ?_,
      fun l hl => ?_⟩
    · exact Nat.add_left_cancel hcount
    · apply Text.newline_notMem_of_encode
      exact newline_notMem_streamLines (encode_mem_of_mem_decodeLines hl)
  | clear => exact .inl ⟨rfl, rfl⟩

/-! What any number of actions does. -/

theorem Sound.clear (s : Scanner) : s.clear.Sound := by
  constructor <;> simp [Scanner.clear]

/-- A new token is part of one of the lines, which are numbered on from those read before. -/
theorem isPlaced_of_mem_gather {p : Pattern.Program} {source : Option String} {number : Nat}
    {lines : List (List Char)} (hlines : ∀ l ∈ lines, '\n' ∉ l) {t : Token}
    (h : t ∈ gather p source (number + 1) lines) : IsPlaced number (number + lines.length) t := by
  obtain ⟨i, line, hline, ht⟩ := mem_gather.1 h
  obtain ⟨before, after, rfl, hne, hlocation⟩ := exists_part_of_mem_lineTokens ht
  have hi : i < lines.length := (List.getElem?_eq_some_iff.1 hline).1
  have hnewline := hlines _ (List.mem_of_getElem? hline)
  refine ⟨hne, fun hmem => hnewline (by simp [hmem]), ?_, ?_, ?_⟩
  all_goals
    simp only [hlocation]
    omega

theorem Sound.feedLines {s : Scanner} (h : s.Sound) (source : Option String)
    {lines : List (List Char)} (hlines : ∀ l ∈ lines, '\n' ∉ l) :
    (s.feedLines source lines).Sound := by
  rw [feedLines_eq]
  constructor
  · intro t ht
    rcases List.mem_append.1 ht with ht | ht
    · exact (h.placed t ht).mono (Nat.le_refl 0) (Nat.le_add_right _ _)
    · exact (isPlaced_of_mem_gather hlines ht).mono (Nat.zero_le _) (Nat.le_refl _)
  · refine List.pairwise_append.2 ⟨h.apart, ?_, fun t ht u hu => ?_⟩
    · exact pairwise_gather_of (pairwise_lineTokens s.pattern source) (fun _ _ => .inl) _ _
    · have hold := (h.placed t ht).line_le
      have hnew := (isPlaced_of_mem_gather hlines hu).lt_line
      exact .inl (Nat.lt_of_le_of_lt hold hnew)

theorem Sound.act {s : Scanner} (h : s.Sound) (a : Action) : (s.act a).Sound := by
  rcases s.act_cases a with ⟨-, hact⟩ | ⟨-, source, lines, -, hact, -, hlines⟩
  · rw [hact]
    exact .clear s
  · rw [hact]
    exact h.feedLines source hlines

theorem Sound.acts {s : Scanner} (h : s.Sound) (actions : List Action) :
    (s.acts actions).Sound := by
  induction actions using List.reverseRecOn with
  | nil => exact h
  | append_singleton actions a ih =>
    rw [acts_concat]
    exact ih.act a

/-- The number of lines is that of the lines read since the last clearing. -/
theorem line_acts {s : Scanner} (h : s.line = 0) (actions : List Action) :
    (s.acts actions).line = ((Action.sinceClear actions).map Action.linesRead).sum := by
  induction actions using List.reverseRecOn with
  | nil => exact h
  | append_singleton actions a ih =>
    rw [acts_concat, Action.sinceClear_concat]
    rcases (s.acts actions).act_cases a with ⟨ha, hact⟩ | ⟨ha, source, lines, -, hact, hlines, -⟩
    · rw [hact, ha]
      rfl
    · rw [hact, ha, line_feedLines, ih, hlines]
      simp

theorem pattern_acts (s : Scanner) (actions : List Action) :
    (s.acts actions).pattern = s.pattern := by
  induction actions using List.reverseRecOn with
  | nil => rfl
  | append_singleton actions a ih =>
    rw [acts_concat]
    rcases (s.acts actions).act_cases a with ⟨-, hact⟩ | ⟨-, source, lines, -, hact, -⟩
    · rw [hact]
      exact ih
    · rw [hact]
      exact ih

/-- A token is held because a line has it that was read since the last clearing. -/
theorem exists_line_of_mem_acts {s : Scanner} (h : s.tokens = []) {actions : List Action}
    {t : Token} (ht : t ∈ (s.acts actions).tokens) :
    ∃ a ∈ Action.sinceClear actions, ∃ source number line,
      a.source? = some source ∧ t ∈ lineTokens s.pattern source number line := by
  induction actions using List.reverseRecOn with
  | nil =>
    have hnil : t ∈ s.tokens := ht
    rw [h] at hnil
    cases hnil
  | append_singleton actions a ih =>
    rw [acts_concat] at ht
    rw [Action.sinceClear_concat]
    rcases (s.acts actions).act_cases a with ⟨-, hact⟩ | ⟨ha, source, lines, hsource, hact, -⟩
    · rw [hact] at ht
      cases ht
    · rw [hact, feedLines_eq, pattern_acts] at ht
      simp only [ha, Bool.false_eq_true, if_false]
      rcases List.mem_append.1 ht with ht | ht
      · obtain ⟨b, hb, hline⟩ := ih ht
        exact ⟨b, List.mem_append_left _ hb, hline⟩
      · obtain ⟨i, line, -, hline⟩ := mem_gather.1 ht
        exact ⟨a, by simp, source, _, line, hsource, hline⟩

/-- Tokens that are apart are in the order of their places. -/
theorem Sound.pairwise_precedes {s : Scanner} (h : s.Sound) : s.tokens.Pairwise Precedes := by
  apply h.apart.imp_of_mem
  intro t u ht _ hapart
  have hpos : 0 < t.text.length := by
    rw [← String.length_toList, List.length_pos_iff, ne_eq, String.toList_eq_nil_iff]
    exact (h.placed t ht).ne_empty
  rcases hapart with hlt | ⟨heq, hle⟩
  · exact .inl hlt
  · exact .inr ⟨heq, by omega⟩

/-- Whatever a scanner for any pattern is given, its number of lines is that of the lines read since
it was last cleared. Each of its tokens has a text without a newline and stands in one of these
lines; and of two tokens one ends before the other starts, in the order in which they are held. -/
theorem acts_sound {s : Scanner} (h : s = initial ∨ ∃ pattern, ofText pattern = .ok s)
    (actions : List Action) :
    (s.acts actions).line = ((Action.sinceClear actions).map Action.linesRead).sum ∧
    (∀ t ∈ (s.acts actions).tokens, t.text ≠ "" ∧ '\n' ∉ t.text.toList ∧
      1 ≤ t.location.column ∧ 1 ≤ t.location.line ∧ t.location.line ≤ (s.acts actions).line) ∧
    ((s.acts actions).tokens.Pairwise fun t u =>
      t.location.line < u.location.line ∨
        t.location.line = u.location.line ∧
          t.location.column + t.text.length ≤ u.location.column) ∧
    (s.acts actions).tokens.Pairwise Precedes := by
  obtain ⟨hline, hsound⟩ : s.line = 0 ∧ s.Sound := by
    rcases h with rfl | ⟨pattern, h⟩
    · exact ⟨rfl, .clear initial⟩
    · rw [ofText] at h
      split at h
      · cases h
        exact ⟨rfl, .clear (ofPattern _)⟩
      · cases h
  have hacts := hsound.acts actions
  refine ⟨line_acts hline actions, fun t ht => ?_, hacts.apart, hacts.pairwise_precedes⟩
  have hplaced := hacts.placed t ht
  exact ⟨hplaced.ne_empty, hplaced.newline_notMem, hplaced.column_pos, hplaced.lt_line,
    hplaced.line_le⟩

/-- A pattern that matches nothing in many places, a stream that breaks off, and a text after it. -/
theorem acts_sound_digits :
    let actions : List Action :=
      [.feed none "0", .clear, .stream (some "a") ⟨[49, 32, 50, 50, 10, 51], some "gone"⟩,
        .feed none "é45\n6"]
    ∃ s, ofText "[0-9]*" = .ok s ∧
      (s.acts actions).tokens.map (fun t => (t.text, t.location.line, t.location.column)) =
        [("1", 1, 1), ("22", 1, 3), ("45", 2, 2), ("6", 3, 1)] ∧
      (s.acts actions).line = 3 ∧ (s.acts actions).tokens.Pairwise Precedes := by
  intro actions
  obtain ⟨s, hs⟩ : ∃ s, ofText "[0-9]*" = .ok s := ⟨_, rfl⟩
  obtain ⟨hline, -, -, hprecedes⟩ := acts_sound (.inr ⟨_, hs⟩) actions
  refine ⟨s, hs, ?_, ?_, hprecedes⟩
  · cases hs
    decide +kernel
  · rw [hline]
    decide +kernel

end Scanner
end Rpn
