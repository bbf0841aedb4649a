import Rpn.Proofs.Gathering
import Rpn.Proofs.Joined

/-!
Messages read back. The name of a source may hold anything, also what looks like a message, but it
stands in front; so a message is cut at its spaces and read from the end, where the last piece but
one tells the kind of the fault. Main statement: if no word has a space in it, a message tells which
fault it is of; and the faults of a machine on the tokens of a scanner for words are such.
-/

namespace Rpn

/-! Texts cut at their spaces. -/

namespace Text

/-- What stands between the spaces of a text. -/
def pieces (text : String) : List String := (text.toList.splitOn ' ').map String.ofList

theorem pieces_ne_nil (text : String) : pieces text ≠ [] := by
  rw [pieces, ne_eq, List.map_eq_nil_iff]
  exact List.splitOn_ne_nil ' ' text.toList

theorem pieces_of_notMem {text : String} (h : ' ' ∉ text.toList) : pieces text = [text] := by
  rw [pieces, List.splitOn_eq_singleton h, List.map_singleton, String.ofList_toList]

theorem intercalate_pieces (text : String) : " ".intercalate (pieces text) = text := by
  apply String.toList_injective
  have hpieces : (pieces text).map String.toList = text.toList.splitOn ' ' := by
    simp [pieces]
  have hspace : " ".toList = [' '] := rfl
  rw [String.toList_intercalate, hpieces, hspace, List.intercalate_splitOn]

/-- Parts that are joined by spaces are cut one by one. -/
theorem pieces_intercalate {parts : List String} (h : parts ≠ []) :
    pieces (" ".intercalate parts) = parts.flatMap pieces := by
  induction parts with
  | nil => exact absurd rfl h
  | cons part parts ih =>
    cases parts with
    | nil => simp
    | cons next others =>
      have hjoin : (" ".intercalate (part :: next :: others)).toList =
          part.toList ++ ' ' :: (" ".intercalate (next :: others)).toList := by
        simp [String.toList_intercalate]
      rw [pieces, hjoin, List.splitOn_append_cons_self, List.map_append, List.flatMap_cons,
        ← ih (List.cons_ne_nil next others)]
      rfl

end Text

namespace Decimal

theorem space_notMem_toDigits (n : Nat) : ' ' ∉ Nat.toDigits 10 n := by
  intro h
  cases Nat.isDigit_of_mem_toDigits (by decide) (by decide) h

theorem filter_toDigits (n : Nat) :
    (Nat.toDigits 10 n).filter Char.isDigit = Nat.toDigits 10 n := by
  apply List.filter_eq_self.2
  intro c hc
  exact Nat.isDigit_of_mem_toDigits (by decide) (by decide) hc

end Decimal

/-! Messages by their pieces. -/

/-- A place but for the name of its source, with the colon after it. -/
def Location.pieces (l : Location) : List String :=
  ["(" ++ l.line.repr ++ ",", l.column.repr ++ "):"]

theorem Location.render_eq (l : Location) :
    l.render ++ ":" = " ".intercalate (l.source.toList ++ l.pieces) := by
  apply String.toList_injective
  rw [render, pieces]
  cases l.source with
  | none => simp
  | some source => simp

namespace Fault

open Decimal (space_notMem_toDigits filter_toDigits)

/-- A word in quotes, and a mark after it. -/
def quoted (word : String) (mark : Char) : String := "'" ++ word ++ "'" ++ mark.toString

def Cause.pieces (word : String) : Cause → List String
  | .unrecognized => ["Unrecognized", "word", quoted word '.']
  | .underflow required depth =>
    ["Stack", "underflow", "in", quoted word ',', "required", required.repr, "but", "have",
      depth.repr ++ "."]
  | .arithmetic .divisionByZero =>
    ["Arithmetic", "fault", "in", quoted word ',', "division", "by", "zero."]
  | .arithmetic .overflow =>
    ["Arithmetic", "fault", "in", quoted word ',', "integer", "overflow."]

theorem Cause.message_eq (word : String) (cause : Cause) :
    cause.message word = " ".intercalate (cause.pieces word) := by
  apply String.toList_injective
  cases cause with
  | unrecognized =>
    change ("Unrecognized word '" ++ word ++ "'.").toList = _
    simp [pieces, quoted]
  | underflow required depth =>
    change ("Stack underflow in '" ++ word ++ "', required " ++ required.repr ++ " but have "
      ++ depth.repr ++ ".").toList = _
    simp [pieces, quoted]
  | arithmetic fault =>
    change ("Arithmetic fault in '" ++ word ++ "', " ++ fault.message ++ ".").toList = _
    cases fault with
    | divisionByZero => simp [pieces, quoted, ArithmeticFault.message]
    | overflow => simp [pieces, quoted, ArithmeticFault.message]

/-- The message but for the name of the source. -/
def pieces (f : Fault) : List String := f.location.pieces ++ f.cause.pieces f.word

theorem message_eq (f : Fault) :
    f.message = " ".intercalate (f.location.source.toList ++ f.pieces) := by
  have hplace : f.location.source.toList ++ f.location.pieces ≠ [] := by simp [Location.pieces]
  have hcause : f.cause.pieces f.word ≠ [] := by
    rcases f.cause with _ | _ | (_ | _) <;> exact List.cons_ne_nil _ _
  have hcolon : ": " = ":" ++ " " := rfl
  rw [message, hcolon, ← String.append_assoc, pieces, ← List.append_assoc,
    String.intercalate_append_of_ne_nil hplace hcause, ← Location.render_eq, ← Cause.message_eq]

theorem space_notMem_of_mem_pieces {f : Fault} (h : ' ' ∉ f.word.toList) {piece : String}
    (hpiece : piece ∈ f.pieces) : ' ' ∉ piece.toList := by
  have hplace : ∀ p ∈ f.location.pieces, ' ' ∉ p.toList := by
    simp [Location.pieces, space_notMem_toDigits]
  have hcause : ∀ p ∈ f.cause.pieces f.word, ' ' ∉ p.toList := by
    rcases f.cause with _ | _ | (_ | _)
    all_goals simp [Cause.pieces, quoted, h, space_notMem_toDigits]
  rcases List.mem_append.1 hpiece with hp | hp
  · exact hplace piece hp
  · exact hcause piece hp

/-- Cut at its spaces, a message is what the name of its source is cut into, and its pieces. -/
theorem pieces_message {f : Fault} (h : ' ' ∉ f.word.toList) :
    Text.pieces f.message = f.location.source.toList.flatMap Text.pieces ++ f.pieces := by
  have hne : f.location.source.toList ++ f.pieces ≠ [] := by simp [pieces, Location.pieces]
  have hpieces : f.pieces.flatMap Text.pieces = f.pieces := by
    calc f.pieces.flatMap Text.pieces
      _ = f.pieces.flatMap fun piece => [piece] :=
        List.flatMap_congr fun _ hp => Text.pieces_of_notMem (space_notMem_of_mem_pieces h hp)
      _ = f.pieces := List.flatMap_singleton' f.pieces
  rw [message_eq, Text.pieces_intercalate hne, List.flatMap_append, hpieces]

/-! Reading. -/

/-- The number that the digits of a piece denote. -/
def number (piece : String) : Nat := Nat.ofDigitChars 10 (piece.toList.filter Char.isDigit) 0

/-- The word between the quotes of a piece. -/
def unquoted (piece : String) : String := String.ofList piece.toList.tail.dropLast.dropLast

/-- The place that the pieces in front of a cause show, the last of them first. -/
def readLocation? : List String → Option Location
  | column :: line :: source =>
    some ⟨if source = [] then none else some (" ".intercalate source.reverse), number line,
      number column⟩
  | _ => none

/-- The fault that pieces show, the last of them first. -/
def readPieces? : List String → Option Fault
  -- The second piece alone tells the kinds apart; no count and no word can stand there.
  | word :: "word" :: _ :: place =>
    (readLocation? place).map fun l => ⟨unquoted word, l, .unrecognized⟩
  | depth :: "have" :: _ :: required :: _ :: word :: _ :: _ :: _ :: place =>
    (readLocation? place).map fun l =>
      ⟨unquoted word, l, .underflow (number required) (number depth)⟩
  | _ :: "by" :: _ :: word :: _ :: _ :: _ :: place =>
    (readLocation? place).map fun l => ⟨unquoted word, l, .arithmetic .divisionByZero⟩
  | _ :: "integer" :: word :: _ :: _ :: _ :: place =>
    (readLocation? place).map fun l => ⟨unquoted word, l, .arithmetic .overflow⟩
  | _ => none

/-- The fault that a message is of. -/
def read? (text : String) : Option Fault := readPieces? (Text.pieces text).reverse

theorem unquoted_quoted (word : String) (mark : Char) : unquoted (quoted word mark) = word := by
  simp [unquoted, quoted]

/-- The cause and the word are read from the end of a message, and the place from what is left. -/
theorem readPieces?_reverse (word : String) (cause : Cause) (place : List String) :
    readPieces? ((cause.pieces word).reverse ++ place) =
      (readLocation? place).map fun l => ⟨word, l, cause⟩ := by
  cases cause with
  | unrecognized => simp [Cause.pieces, readPieces?, unquoted_quoted]
  | underflow required depth =>
    have hrequired : number required.repr = required := by simp [number, filter_toDigits]
    have hdepth : number (depth.repr ++ ".") = depth := by simp [number, filter_toDigits]
    simp [Cause.pieces, readPieces?, unquoted_quoted, hrequired, hdepth]
  | arithmetic fault =>
    cases fault with
    | divisionByZero => simp [Cause.pieces, readPieces?, unquoted_quoted]
    | overflow => simp [Cause.pieces, readPieces?, unquoted_quoted]

theorem readLocation?_reverse (l : Location) :
    readLocation? (l.pieces.reverse ++ (l.source.toList.flatMap Text.pieces).reverse) = some l := by
  obtain ⟨source, line, column⟩ := l
  have hline : number ("(" ++ line.repr ++ ",") = line := by simp [number, filter_toDigits]
  have hcolumn : number (column.repr ++ "):") = column := by simp [number, filter_toDigits]
  cases source with
  | none => simp [Location.pieces, readLocation?, hline, hcolumn]
  | some source =>
    simp [Location.pieces, readLocation?, hline, hcolumn, Text.pieces_ne_nil,
      Text.intercalate_pieces]

/-- A message reads back as the fault that it is of. -/
theorem read?_message {f : Fault} (h : ' ' ∉ f.word.toList) : read? f.message = some f := by
  rw [read?, pieces_message h, pieces, List.reverse_append, List.reverse_append, List.append_assoc,
    readPieces?_reverse, readLocation?_reverse]
  rfl

theorem eq_of_message_eq {f g : Fault} (hf : ' ' ∉ f.word.toList) (hg : ' ' ∉ g.word.toList)
    (h : f.message = g.message) : f = g := by
  have hread := read?_message hf
  rw [h, read?_message hg] at hread
  exact (Option.some.inj hread).symm

end Fault

/-! Words that a scanner finds. -/

theorem Scanner.space_notMem_of_mem_acts {actions : List Action} {t : Token}
    (h : t ∈ (initial.acts actions).tokens) : ' ' ∉ t.text.toList := by
  obtain ⟨-, -, source, number, line, -, hline⟩ := exists_line_of_mem_acts rfl h
  have hpattern : initial.pattern = Pattern.word.compile := rfl
  rw [hpattern, lineTokens_word] at hline
  obtain ⟨span, hspan, rfl⟩ := List.mem_map.1 hline
  obtain ⟨before, after, -, -, hrun⟩ := (Text.mem_runs Text.isGap).1 hspan
  intro hspace
  rw [String.toList_ofList] at hspace
  cases hrun.solid ' ' hspace

namespace Error

/-- No space is in the word that an error names, if it names one. -/
def IsSpaceless : Error → Prop
  | fault f => ' ' ∉ f.word.toList
  | _ => True

/-- Two errors after which a session can go on are the same if their messages are the same and their
words have no space in them, whatever their places and the names of the sources. A fault that a
machine raises on tokens of scanners for words has no space in its word. -/
theorem message_exact :
    (∀ e e' : Error, e.recoverable = true → e'.recoverable = true → e.IsSpaceless →
      e'.IsSpaceless → e.message = e'.message → e = e') ∧
    ∀ (m m' : Machine) (ts : List Token) (f : Fault),
      (∀ t ∈ ts, ∃ actions, t ∈ (Scanner.initial.acts actions).tokens) →
      m.run ts = (m', some f) → IsSpaceless (.fault f) := by
  refine ⟨fun e e' he he' hword hword' hmessage => ?_, fun m m' ts f hts hrun => ?_⟩
  · cases e with
    | fault f =>
      cases e' with
      | fault g => exact congrArg Error.fault (Fault.eq_of_message_eq hword hword' hmessage)
      | invalidPattern why => cases he'
      | io text => cases he'
    | invalidPattern why => cases he
    | io text => cases he
  · obtain ⟨t, ht, hword, -⟩ := Machine.exists_token_of_fault hrun
    obtain ⟨actions, hmem⟩ := hts t ht
    rw [IsSpaceless, hword]
    exact Scanner.space_notMem_of_mem_acts hmem

/-- The name of the source looks like a message of another fault. -/
theorem message_exact_disguised :
    let source := "(1, 1): Unrecognized word 'x'."
    let text := source ++ " (1, 3): Stack underflow in '+', required 2 but have 1."
    let f : Fault := ⟨"+", ⟨some source, 1, 3⟩, .underflow 2 1⟩
    let ts := (Scanner.initial.acts [.feed (some source) "5 +"]).tokens
    (Machine.initial.run ts).2 = some f ∧ message (.fault f) = text ∧
      ∀ e : Error, e.recoverable = true → e.IsSpaceless → e.message = text → e = .fault f := by
  intro source text f ts
  obtain ⟨hmessage, hword⟩ := message_exact
  have hfault : (Machine.initial.run ts).2 = some f := by decide +kernel
  have htext : message (.fault f) = text := by decide +kernel
  have hspaceless : IsSpaceless (.fault f) :=
    hword _ (Machine.initial.run ts).1 ts f (fun t ht => ⟨_, ht⟩) (Prod.ext rfl hfault)
  refine ⟨hfault, htext, fun e he hspace hsame => ?_⟩
  exact hmessage _ _ he rfl hspace hspaceless (hsame.trans htext.symm)

/-- With spaces in a word the end of a message may be part of the word or not. -/
example :
    let f : Fault := ⟨"y", ⟨some "(1, 1): Unrecognized word 'x", 2, 2⟩, .unrecognized⟩
    let g : Fault := ⟨"x (2, 2): Unrecognized word 'y", ⟨none, 1, 1⟩, .unrecognized⟩
    f.message = g.message ∧ f ≠ g := by
  decide

end Error
end Rpn
