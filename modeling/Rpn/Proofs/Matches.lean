import Rpn.Pattern.Search

/-!
The matches of any program in a line. A search starts where the last match ended, or one character
further on, and never goes back. Main statement: the matches are parts of the line, each at the
place that it is given for; one ends before the next one starts, and none is left out.
-/

namespace Rpn.Pattern

/-- A place in a line: what is before it and what is left are the line. -/
structure Cursor.IsIn (line : List Char) (here : Cursor) : Prop where
  le : here.index ≤ line.length
  rest_eq : here.rest = line.drop here.index

namespace Cursor.IsIn

variable {line : List Char} {here after : Cursor}

theorem start (line : List Char) : Cursor.IsIn line ⟨0, none, line⟩ := ⟨Nat.zero_le _, rfl⟩

theorem length_rest (h : here.IsIn line) : here.rest.length = line.length - here.index := by
  rw [h.rest_eq, List.length_drop]

theorem advance (h : here.IsIn line) {n : Nat} (hn : n ≤ here.rest.length) :
    (here.advance n).IsIn line where
  le := by
    have hlength := h.length_rest
    have hle := h.le
    rw [index_advance hn]
    omega
  rest_eq := by rw [rest_advance, index_advance hn, h.rest_eq, List.drop_drop]

theorem next? (h : here.IsIn line) (hnext : here.next? = some after) :
    after.IsIn line ∧ after.index = here.index + 1 := by
  obtain ⟨index, before, rest⟩ := here
  cases rest with
  | nil => cases hnext
  | cons c cs =>
    cases hnext
    have hone := h.advance (n := 1) (by simp)
    exact ⟨hone, rfl⟩

end Cursor.IsIn

/-- A match that is found from a place on, and the place right after it. -/
structure IsFound (line : List Char) (here : Cursor) (span : Span) (after : Cursor) : Prop where
  le : here.index ≤ span.start
  part : span.text <+: line.drop span.start
  after_isIn : after.IsIn line
  after_eq : after.index = span.start + span.text.length

/-- One match ends before the other starts. -/
def Span.IsBefore (s t : Span) : Prop := s.start + s.text.length ≤ t.start

namespace Program

variable {p : Program} {line : List Char} {here after : Cursor} {span : Span}

theorem isFound_of_findFrom? (hin : here.IsIn line) (h : p.findFrom? here = some (span, after)) :
    IsFound line here span after := by
  obtain ⟨⟨skipped, n⟩, hfind, hspan⟩ := Option.map_eq_some_iff.1 h
  cases hspan
  have hle := find?_le hfind
  have hskipped : skipped ≤ here.rest.length := by omega
  have hn : n ≤ (here.advance skipped).rest.length := by
    rw [Cursor.rest_advance, List.length_drop]
    omega
  have hfirst := hin.advance hskipped
  have hlength : ((here.advance skipped).rest.take n).length = n := by
    rw [List.length_take, Nat.min_eq_left hn]
  constructor
  · rw [Cursor.index_advance hskipped]
    exact Nat.le_add_right _ _
  · rw [← hfirst.rest_eq]
    exact List.take_prefix _ _
  · exact hfirst.advance hn
  · rw [hlength]
    exact Cursor.index_advance hn

/-- The next match is the first one from the last end on, or, if that one is empty and right there,
the first one from the next character on. -/
theorem findNext?_cases (h : p.findNext? here = some (span, after)) :
    (p.findFrom? here = some (span, after) ∧ ¬ (span.text = [] ∧ span.start = here.index)) ∨
      ∃ next, here.next? = some next ∧ p.findFrom? next = some (span, after) := by
  rw [findNext?] at h
  cases hfrom : p.findFrom? here with
  | none =>
    rw [hfrom] at h
    cases h
  | some found =>
    obtain ⟨first, rest⟩ := found
    simp only [hfrom] at h
    split at h
    · exact .inr (Option.bind_eq_some_iff.1 h)
    · next hnonempty =>
      cases h
      exact .inl ⟨rfl, hnonempty⟩

theorem isFound_of_findNext? (hin : here.IsIn line) (h : p.findNext? here = some (span, after)) :
    IsFound line here span after := by
  rcases findNext?_cases h with ⟨hfrom, -⟩ | ⟨next, hnext, hagain⟩
  · exact isFound_of_findFrom? hin hfrom
  · obtain ⟨hnextIn, hindex⟩ := hin.next? hnext
    have hfound := isFound_of_findFrom? hnextIn hagain
    have hle := hfound.le
    exact ⟨by omega, hfound.part, hfound.after_isIn, hfound.after_eq⟩

/-- The next match ends further on. -/
theorem index_lt_of_findNext? (hin : here.IsIn line) (h : p.findNext? here = some (span, after)) :
    here.index < after.index := by
  rcases findNext?_cases h with ⟨hfrom, hnonempty⟩ | ⟨next, hnext, hagain⟩
  · have hfound := isFound_of_findFrom? hin hfrom
    have hle := hfound.le
    have hend := hfound.after_eq
    by_cases htext : span.text = []
    · have hstart : span.start ≠ here.index := fun heq => hnonempty ⟨htext, heq⟩
      omega
    · have hlength := List.length_pos_iff.2 htext
      omega
  · obtain ⟨hnextIn, hindex⟩ := hin.next? hnext
    have hfound := isFound_of_findFrom? hnextIn hagain
    have hle := hfound.le
    have hend := hfound.after_eq
    omega

theorem of_mem_findRest {fuel : Nat} (hin : here.IsIn line) (h : span ∈ p.findRest fuel here) :
    here.index ≤ span.start ∧ span.text <+: line.drop span.start := by
  induction fuel generalizing here with
  | zero => cases h
  | succ fuel ih =>
    rw [findRest] at h
    cases hnext : p.findNext? here with
    | none => simp [hnext] at h
    | some found =>
      obtain ⟨first, rest⟩ := found
      have hfound := isFound_of_findNext? hin hnext
      simp only [hnext, List.mem_cons] at h
      rcases h with rfl | h
      · exact ⟨hfound.le, hfound.part⟩
      · obtain ⟨hle, hpart⟩ := ih hfound.after_isIn h
        have hstart := hfound.le
        have hend := hfound.after_eq
        exact ⟨by omega, hpart⟩

theorem isBefore_of_mem_findRest {fuel : Nat} (h : IsFound line here span after) {t : Span}
    (ht : t ∈ p.findRest fuel after) : span.IsBefore t := by
  rw [Span.IsBefore, ← h.after_eq]
  exact (of_mem_findRest h.after_isIn ht).1

theorem pairwise_findRest {fuel : Nat} (hin : here.IsIn line) :
    (p.findRest fuel here).Pairwise Span.IsBefore := by
  induction fuel generalizing here with
  | zero => exact .nil
  | succ fuel ih =>
    rw [findRest]
    cases hnext : p.findNext? here with
    | none => exact .nil
    | some found =>
      obtain ⟨first, rest⟩ := found
      have hfound := isFound_of_findNext? hin hnext
      exact List.pairwise_cons.2
        ⟨fun _ => isBefore_of_mem_findRest hfound, ih hfound.after_isIn⟩

/-- The matches of a line are parts of it. -/
theorem isPrefix_of_mem_findAll (h : span ∈ p.findAll line) :
    span.text <+: line.drop span.start := by
  rw [findAll] at h
  cases hfrom : p.findFrom? ⟨0, none, line⟩ with
  | none => simp [hfrom] at h
  | some found =>
    obtain ⟨first, rest⟩ := found
    have hfound := isFound_of_findFrom? (.start line) hfrom
    simp only [hfrom, List.mem_cons] at h
    rcases h with rfl | h
    · exact hfound.part
    · exact (of_mem_findRest hfound.after_isIn h).2

/-- The matches of a line are in order and do not overlap. -/
theorem pairwise_findAll (p : Program) (line : List Char) :
    (p.findAll line).Pairwise Span.IsBefore := by
  rw [findAll]
  cases hfrom : p.findFrom? ⟨0, none, line⟩ with
  | none => exact .nil
  | some found =>
    obtain ⟨first, rest⟩ := found
    have hfound := isFound_of_findFrom? (.start line) hfrom
    exact List.pairwise_cons.2
      ⟨fun _ => isBefore_of_mem_findRest hfound, pairwise_findRest hfound.after_isIn⟩

/-- The matches after one that ended at a place: each is the next one, and there is none after the
last. -/
inductive FindsOn (p : Program) : Cursor → List Span → Prop
  | done {here : Cursor} (h : p.findNext? here = none) : FindsOn p here []
  | next {here after : Cursor} {span : Span} {spans : List Span}
      (h : p.findNext? here = some (span, after)) (rest : FindsOn p after spans) :
      FindsOn p here (span :: spans)

/-- All matches in a line, without a bound on their number. -/
inductive FindsAll (p : Program) (line : List Char) : List Span → Prop
  | none (h : p.findFrom? ⟨0, none, line⟩ = none) : FindsAll p line []
  | first {after : Cursor} {span : Span} {spans : List Span}
      (h : p.findFrom? ⟨0, none, line⟩ = some (span, after)) (rest : FindsOn p after spans) :
      FindsAll p line (span :: spans)

/-- As many matches as there are characters left are all of them. -/
theorem findsOn_findRest {fuel : Nat} (hin : here.IsIn line)
    (hfuel : line.length ≤ here.index + fuel) : p.FindsOn here (p.findRest fuel here) := by
  induction fuel generalizing here with
  | zero =>
    cases hnext : p.findNext? here with
    | none => exact .done hnext
    | some found =>
      have hlt := index_lt_of_findNext? hin hnext
      have hle := (isFound_of_findNext? hin hnext).after_isIn.le
      omega
  | succ fuel ih =>
    rw [findRest]
    cases hnext : p.findNext? here with
    | none => exact .done hnext
    | some found =>
      have hlt := index_lt_of_findNext? hin hnext
      have hfound := isFound_of_findNext? hin hnext
      exact .next hnext (ih hfound.after_isIn (by omega))

/-- No match in a line is left out. -/
theorem findsAll_findAll (p : Program) (line : List Char) : p.FindsAll line (p.findAll line) := by
  rw [findAll]
  cases hfrom : p.findFrom? ⟨0, none, line⟩ with
  | none => exact .none hfrom
  | some found =>
    have hfound := isFound_of_findFrom? (.start line) hfrom
    exact .first hfrom (findsOn_findRest hfound.after_isIn (by omega))

end Program
end Rpn.Pattern
