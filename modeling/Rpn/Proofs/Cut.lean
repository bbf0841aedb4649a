import Rpn.Proofs.Lines

/-!
Cuts into lines. Each line keeps the newline that ends it, and only the last may have none. Main
statements: every sequence has one such cut, which stays a cut if a line is taken out; and bytes
are UTF-8 if and only if that holds of what is before and after any newline.
-/

namespace Rpn.Text

section Cut

variable {α : Type} {newline : α}

/-- A line with the newline that ends it. -/
def IsComplete (newline : α) (line : List α) : Prop :=
  ∃ body, newline ∉ body ∧ line = body ++ [newline]

/-- A sequence and its lines. -/
inductive IsCut (newline : α) : List α → List (List α) → Prop
  | nil : IsCut newline [] []
  | last {line : List α} (ne_nil : line ≠ []) (h : newline ∉ line) : IsCut newline line [line]
  | cons {line xs : List α} {lines : List (List α)} (h : IsComplete newline line)
      (rest : IsCut newline xs lines) : IsCut newline (line ++ xs) (line :: lines)

namespace Lines

variable [DecidableEq α]

theorem split_append_newline (xs ys : List α) :
    split newline (xs ++ newline :: ys) =
      ⟨(split newline xs).complete ++ (split newline xs).rest :: (split newline ys).complete,
        (split newline ys).rest⟩ := by
  induction xs with
  | nil => simp [cons]
  | cons x xs ih =>
    rw [List.cons_append, split_cons, split_cons, ih]
    by_cases hx : x = newline
    · simp [cons, hx]
    · cases h : (split newline xs).complete with
      | nil => simp [cons, hx, h]
      | cons l ls => simp [cons, hx, h]

theorem split_of_notMem {xs : List α} (h : newline ∉ xs) : split newline xs = ⟨[], xs⟩ := by
  have hsplit := split_append h []
  rw [List.append_nil] at hsplit
  simp [hsplit, glue]

/-- The first line of a sequence is split off. -/
theorem split_body_append {body : List α} (h : newline ∉ body) (xs : List α) :
    split newline (body ++ newline :: xs) =
      ⟨body :: (split newline xs).complete, (split newline xs).rest⟩ := by
  rw [split_append_newline, split_of_notMem h]
  rfl

theorem flatten_terminated_split (xs : List α) :
    ((split newline xs).terminated newline).flatten = xs := by
  induction xs with
  | nil => rfl
  | cons x xs ih =>
    have hcons (ls : Lines α) :
        ((cons newline x ls).terminated newline).flatten =
          x :: (ls.terminated newline).flatten := by
      by_cases hx : x = newline
      · simp [cons, terminated, hx]
      · cases h : ls.complete with
        | nil =>
          by_cases hrest : ls.rest = []
          · simp [cons, terminated, hx, h, hrest]
          · simp [cons, terminated, hx, h, hrest]
        | cons l rest => simp [cons, terminated, hx, h]
    rw [split_cons, hcons, ih]

end Lines

namespace IsCut

variable {xs : List α} {lines : List (List α)}

theorem flatten_eq (h : IsCut newline xs lines) : lines.flatten = xs := by
  induction h with
  | nil => rfl
  | last hne h => simp
  | cons h rest ih => rw [List.flatten_cons, ih]

/-- The lines of a cut are lines also one by one. -/
theorem of_mem {line : List α} (h : IsCut newline xs lines) (hmem : line ∈ lines) :
    IsComplete newline line ∨ line ≠ [] ∧ newline ∉ line := by
  induction h with
  | nil => cases hmem
  | last hne h =>
    rw [List.mem_singleton] at hmem
    subst hmem
    exact .inr ⟨hne, h⟩
  | cons h rest ih =>
    rcases List.mem_cons.1 hmem with rfl | hmem
    · exact .inl h
    · exact ih hmem

/-- There is no other cut. -/
theorem eq_terminated [DecidableEq α] (h : IsCut newline xs lines) :
    lines = (Lines.split newline xs).terminated newline := by
  induction h with
  | nil => rfl
  | last hne h => simp [Lines.split_of_notMem h, Lines.terminated, hne]
  | cons h rest ih =>
    obtain ⟨body, hbody, rfl⟩ := h
    rw [List.append_assoc, List.singleton_append, Lines.split_body_append hbody, ih]
    rfl

/-- Lines put in front of a cut. -/
theorem append {first : List (List α)} (hfirst : ∀ line ∈ first, IsComplete newline line)
    (h : IsCut newline xs lines) : IsCut newline (first.flatten ++ xs) (first ++ lines) := by
  induction first with
  | nil => exact h
  | cons line first ih =>
    obtain ⟨hline, hrest⟩ := List.forall_mem_cons.1 hfirst
    rw [List.flatten_cons, List.append_assoc]
    exact .cons hline (ih hrest)

theorem tail {line : List α} (h : IsCut newline xs (line :: lines)) :
    IsCut newline lines.flatten lines := by
  cases h with
  | last hne h => exact .nil
  | cons h rest =>
    rw [rest.flatten_eq]
    exact rest

/-- What comes before a line is complete. -/
theorem complete_of_append {before after : List (List α)} {line : List α}
    (h : IsCut newline xs (before ++ line :: after)) :
    ∀ l ∈ before, IsComplete newline l := by
  induction before generalizing xs with
  | nil => simp
  | cons l before ih =>
    have htail : ∀ l ∈ before, IsComplete newline l := ih h.tail
    generalize hlines : l :: before ++ line :: after = lines at h
    cases h with
    | nil => cases hlines
    | last hne h => simp at hlines
    | cons h rest =>
      obtain ⟨rfl, -⟩ := List.cons.inj hlines
      exact List.forall_mem_cons.2 ⟨h, htail⟩

/-- A line is taken out. -/
theorem eraseIdx (h : IsCut newline xs lines) (k : Nat) :
    IsCut newline (lines.eraseIdx k).flatten (lines.eraseIdx k) := by
  induction h generalizing k with
  | nil => exact .nil
  | @last line hne hline =>
    cases k with
    | zero => exact .nil
    | succ k => simpa using IsCut.last hne hline
  | cons h rest ih =>
    cases k with
    | zero => simpa [rest.flatten_eq] using rest
    | succ k => exact .cons h (ih k)

end IsCut

theorem isCut_terminated [DecidableEq α] (newline : α) (xs : List α) :
    IsCut newline xs ((Lines.split newline xs).terminated newline) := by
  have hcomplete : ∀ line ∈ (Lines.split newline xs).complete.map (· ++ [newline]),
      IsComplete newline line := by
    intro line hline
    obtain ⟨body, hbody, rfl⟩ := List.mem_map.1 hline
    exact ⟨body, Lines.newline_notMem_complete hbody, rfl⟩
  have hrest : IsCut newline (Lines.split newline xs).rest
      (if (Lines.split newline xs).rest = [] then [] else [(Lines.split newline xs).rest]) := by
    by_cases h : (Lines.split newline xs).rest = []
    · rw [if_pos h, h]
      exact .nil
    · rw [if_neg h]
      exact .last h (Lines.newline_notMem_rest newline xs)
  have h := hrest.append hcomplete
  have hxs := h.flatten_eq
  rw [← Lines.terminated, Lines.flatten_terminated_split] at hxs
  rw [← hxs] at h
  exact h

end Cut

theorem lines_append {xs : List Char} (h : xs = [] ∨ ∃ front, xs = front ++ ['\n'])
    (ys : List Char) : lines (xs ++ ys) = lines xs ++ lines ys := by
  rcases h with rfl | ⟨front, rfl⟩
  · rfl
  · simp [lines, Lines.split_append_newline, Lines.all, Lines.closed]

/-! Bytes that encode a text. -/

def IsUtf8 (bs : List UInt8) : Prop := ∃ cs, bs = encode cs

theorem isUtf8_encode (cs : List Char) : IsUtf8 (encode cs) := ⟨cs, rfl⟩

theorem isUtf8_nil : IsUtf8 [] := isUtf8_encode []

theorem decode?_eq_none_iff {bs : List UInt8} : decode? bs = none ↔ ¬ IsUtf8 bs := by
  rw [Option.eq_none_iff_forall_ne_some, IsUtf8, not_exists]
  simp only [ne_eq, decode?_eq_some_iff]

/-- A byte below 128 divides the text where it divides the bytes. -/
theorem exists_of_encode_eq_append {c : Char} {b : UInt8} (hc : String.utf8EncodeChar c = [b])
    (hb : b.toNat < 128) {cs : List Char} {xs ys : List UInt8}
    (h : encode cs = xs ++ b :: ys) :
    ∃ before after, cs = before ++ c :: after ∧ xs = encode before ∧ ys = encode after := by
  induction cs generalizing xs with
  | nil => simp at h
  | cons d cs ih =>
    rw [encode_cons] at h
    rcases List.append_eq_append_iff.1 h with ⟨more, rfl, hmore⟩ | ⟨more, hd, hmore⟩
    · obtain ⟨before, after, rfl, rfl, rfl⟩ := ih hmore
      exact ⟨d :: before, after, rfl, rfl, rfl⟩
    · cases more with
      | nil =>
        rw [List.append_nil] at hd
        have hrest : encode cs = [] ++ b :: ys := hmore.symm
        obtain ⟨before, after, rfl, hbefore, rfl⟩ := ih hrest
        obtain rfl := encode_eq_nil_iff.1 hbefore.symm
        exact ⟨[d], after, rfl, by simp [hd], rfl⟩
      | cons b' more =>
        -- The byte is one of the character's, which then is this character and has no other.
        obtain ⟨rfl, rfl⟩ := List.cons.inj hmore
        by_cases hdc : d = c
        · subst hdc
          rw [hc] at hd
          cases xs with
          | nil =>
            obtain ⟨-, rfl⟩ := List.cons.inj hd
            exact ⟨[], cs, rfl, rfl, rfl⟩
          | cons x xs => simp at hd
        · exact absurd (by rw [hd]; simp) (notMem_utf8EncodeChar hc hb hdc)

theorem isUtf8_append_cons {c : Char} {b : UInt8} (hc : String.utf8EncodeChar c = [b])
    (hb : b.toNat < 128) {xs ys : List UInt8} :
    IsUtf8 (xs ++ b :: ys) ↔ IsUtf8 xs ∧ IsUtf8 ys := by
  constructor
  · rintro ⟨cs, h⟩
    obtain ⟨before, after, -, hxs, hys⟩ := exists_of_encode_eq_append hc hb h.symm
    exact ⟨⟨before, hxs⟩, ⟨after, hys⟩⟩
  · rintro ⟨⟨before, rfl⟩, ⟨after, rfl⟩⟩
    exact ⟨before ++ c :: after, by simp [hc]⟩

theorem isUtf8_append_newline {xs ys : List UInt8} :
    IsUtf8 (xs ++ 10 :: ys) ↔ IsUtf8 xs ∧ IsUtf8 ys :=
  isUtf8_append_cons utf8EncodeChar_newline (by decide)

theorem IsComplete.isUtf8_append {line : List UInt8} (h : IsComplete 10 line) {xs : List UInt8} :
    IsUtf8 (line ++ xs) ↔ IsUtf8 line ∧ IsUtf8 xs := by
  obtain ⟨body, -, rfl⟩ := h
  rw [List.append_assoc, List.singleton_append, isUtf8_append_newline, isUtf8_append_newline,
    and_iff_left isUtf8_nil]

theorem isUtf8_chomp {l : List UInt8} : IsUtf8 (Lines.chomp carriageReturn l) ↔ IsUtf8 l := by
  rw [Lines.chomp]
  by_cases h : l.getLast? = some carriageReturn
  · obtain ⟨init, rfl⟩ := List.getLast?_eq_some_iff.1 h
    rw [if_pos h, List.dropLast_concat, isUtf8_append_cons utf8EncodeChar_return (by decide)]
    exact (and_iff_left isUtf8_nil).symm
  · rw [if_neg h]

theorem newline_notMem_of_encode {cs : List Char} (h : 10 ∉ encode cs) : '\n' ∉ cs := by
  intro hmem
  apply h
  rw [encode, List.mem_flatMap]
  exact ⟨'\n', hmem, by decide⟩

/-- A text that is a line in bytes has one line. -/
theorem exists_line_of_encode {text : List Char}
    (h : IsComplete 10 (encode text) ∨ encode text ≠ [] ∧ 10 ∉ encode text) :
    ∃ line, lines text = [line] := by
  rcases h with ⟨body, hbody, htext⟩ | ⟨hne, htext⟩
  · obtain ⟨before, after, rfl, rfl, hafter⟩ :=
      exists_of_encode_eq_append utf8EncodeChar_newline (by decide) htext
    obtain rfl := encode_eq_nil_iff.1 hafter.symm
    exact ⟨_, lines_append_newline (newline_notMem_of_encode hbody)⟩
  · rw [ne_eq, encode_eq_nil_iff] at hne
    exact ⟨text, lines_of_notMem hne (newline_notMem_of_encode htext)⟩

end Rpn.Text
