import Rpn.Proofs.Lines
import Rpn.Proofs.Run
import Rpn.Scanner

/-!
What scanners gather, for any pattern. The tokens of several lines are those of one line after
another; the number of the line and the source show in their places only. A stream of the bytes of
a text is read like the text.
-/

namespace Rpn.Scanner

/-- The tokens of lines that are numbered from `number` on. -/
def gather (p : Pattern.Program) (source : Option String) (number : Nat)
    (lines : List (List Char)) : List Token :=
  (lines.zipIdx number).flatMap fun (line, number) => lineTokens p source number line

/-- The order of places in one source: by line, and in a line by column. -/
def Precedes (t u : Token) : Prop :=
  t.location.line < u.location.line ∨
    t.location.line = u.location.line ∧ t.location.column < u.location.column

variable {p : Pattern.Program} {source : Option String} {number : Nat}

@[simp] theorem gather_nil : gather p source number [] = [] := rfl

theorem gather_cons (line : List Char) (lines : List (List Char)) :
    gather p source number (line :: lines) =
      lineTokens p source number line ++ gather p source (number + 1) lines := rfl

theorem feedLines_eq (s : Scanner) (source : Option String) (lines : List (List Char)) :
    s.feedLines source lines =
      ⟨s.pattern, s.tokens ++ gather s.pattern source (s.line + 1) lines,
        s.line + lines.length⟩ := rfl

theorem mem_gather {lines : List (List Char)} {t : Token} :
    t ∈ gather p source number lines ↔
      ∃ i line, lines[i]? = some line ∧ t ∈ lineTokens p source (number + i) line := by
  rw [gather, List.mem_flatMap]
  constructor
  · rintro ⟨⟨line, k⟩, hmem, ht⟩
    obtain ⟨hle, hline⟩ := List.mk_mem_zipIdx_iff_le_and_getElem?_sub.1 hmem
    refine ⟨k - number, line, hline, ?_⟩
    rwa [Nat.add_sub_cancel' hle]
  · rintro ⟨i, line, hline, ht⟩
    exact ⟨(line, number + i), List.mk_add_mem_zipIdx_iff_getElem?.2 hline, ht⟩

theorem location_of_mem_lineTokens {line : List Char} {t : Token}
    (h : t ∈ lineTokens p source number line) :
    t.location.source = source ∧ t.location.line = number := by
  obtain ⟨span, -, rfl⟩ := List.mem_map.1 h
  exact ⟨rfl, rfl⟩

/-- What holds within lines and from one line to the next holds of all tokens. -/
theorem pairwise_gather_of {R : Token → Token → Prop}
    (hline : ∀ number line, (lineTokens p source number line).Pairwise R)
    (hlines : ∀ t u : Token, t.location.line < u.location.line → R t u)
    (number : Nat) (lines : List (List Char)) : (gather p source number lines).Pairwise R := by
  induction lines generalizing number with
  | nil => exact .nil
  | cons line lines ih =>
    rw [gather_cons]
    refine List.pairwise_append.2 ⟨hline number line, ih (number + 1), ?_⟩
    intro t ht u hu
    obtain ⟨i, line', -, hu⟩ := mem_gather.1 hu
    have htl := (location_of_mem_lineTokens ht).2
    have hul := (location_of_mem_lineTokens hu).2
    apply hlines
    omega

/-- Lines in order have their tokens in order. -/
theorem pairwise_gather
    (h : ∀ number line, (lineTokens p source number line).Pairwise fun t u =>
      t.location.column < u.location.column)
    (number : Nat) (lines : List (List Char)) :
    (gather p source number lines).Pairwise Precedes := by
  refine pairwise_gather_of (fun number line => ?_) (fun t u hlt => .inl hlt) number lines
  apply (h number line).imp_of_mem
  intro t u ht hu hlt
  have hline := (location_of_mem_lineTokens ht).2.trans (location_of_mem_lineTokens hu).2.symm
  exact .inr ⟨hline, hlt⟩

/-- A line elsewhere has the same tokens but for the source and the number of the line. -/
theorem lineTokens_relocate (p : Pattern.Program) (source source' : Option String)
    (number number' : Nat) (line : List Char) :
    (lineTokens p source number line).map
        (Token.relocate fun l => { l with source := source', line := number' }) =
      lineTokens p source' number' line := by
  rw [lineTokens, lineTokens, List.map_map]
  rfl

theorem feedStream_encode (s : Scanner) (source : Option String) (cs : List Char) :
    s.feedStream source ⟨Text.encode cs, none⟩ = (s.feedLines source (Text.lines cs), none) := by
  have hlines : streamLines ⟨Text.encode cs, none⟩ = (Text.lines cs).map Text.encode := by
    rw [streamLines, Text.byteLines_encode]
    exact Text.all_map_encode _
  rw [feedStream, hlines, Text.decodeLines_map_encode]
  rfl

end Rpn.Scanner
