import Mathlib.Data.List.Forall2
import Rpn.Text.Blank
import Rpn.Text.Lines

/-!
Lines of texts and of their bytes. The lines are the pieces between newlines, with a carriage
return taken off where a newline follows, and without a last piece that is empty. Bytes that encode
a text have the lines of the text, encoded one by one: the bytes for newline and carriage return
are no part of any other character.
-/

namespace Rpn.Text

/-- A piece without a carriage return at its end. -/
def dropReturn (piece : List Char) : List Char :=
  match piece.reverse with
  | '\r' :: rest => rest.reverse
  | _ => piece

/-- The lines of a text by its pieces between newlines. -/
def linesOf (cs : List Char) : List (List Char) :=
  let pieces := cs.splitOn '\n'
  pieces.dropLast.map dropReturn ++ pieces.getLast?.toList.filter (!·.isEmpty)

/-- The bytes of a text in UTF-8. -/
def encode (cs : List Char) : List UInt8 := cs.flatMap String.utf8EncodeChar

namespace Lines

variable {α β : Type} [DecidableEq α] [DecidableEq β]

/-- Puts elements at the start of the first line. -/
def glue (xs : List α) (ls : Lines α) : Lines α :=
  match ls.complete with
  | [] => ⟨[], xs ++ ls.rest⟩
  | l :: rest => ⟨(xs ++ l) :: rest, ls.rest⟩

/-- All lines by a function of each. -/
def map (f : List α → List β) (ls : Lines α) : Lines β := ⟨ls.complete.map f, f ls.rest⟩

theorem pieces_split (newline : α) (xs : List α) :
    (split newline xs).complete ++ [(split newline xs).rest] = xs.splitOn newline := by
  induction xs with
  | nil => rfl
  | cons x xs ih =>
    rw [List.splitOn_cons_eq_if_modifyHead, ← ih, split_cons, cons]
    by_cases hx : x = newline
    · simp [hx]
    · cases h : (split newline xs).complete with
      | nil => simp [hx]
      | cons l rest => simp [hx]

theorem glue_cons {newline x : α} (hx : x ≠ newline) (xs : List α) (ls : Lines α) :
    cons newline x (glue xs ls) = glue (x :: xs) ls := by
  cases h : ls.complete with
  | nil => simp [cons, glue, h, hx]
  | cons l rest => simp [cons, glue, h, hx]

omit [DecidableEq α] in
@[simp] theorem glue_nil (ls : Lines α) : glue [] ls = ls := by
  obtain ⟨complete, rest⟩ := ls
  cases complete with
  | nil => rfl
  | cons l ls => rfl

theorem split_append {newline : α} {xs : List α} (h : newline ∉ xs) (ys : List α) :
    split newline (xs ++ ys) = glue xs (split newline ys) := by
  induction xs with
  | nil => simp
  | cons x xs ih =>
    rw [List.mem_cons, not_or] at h
    rw [List.cons_append, split_cons, ih h.2, glue_cons (Ne.symm h.1)]

theorem newline_notMem_piece {newline : α} {xs l : List α} (h : l ∈ xs.splitOn newline) :
    newline ∉ l := by
  induction xs generalizing l with
  | nil =>
    rw [List.splitOn_nil, List.mem_singleton] at h
    simp [h]
  | cons x xs ih =>
    rw [List.splitOn_cons_eq_if_modifyHead] at h
    cases hs : xs.splitOn newline with
    | nil => exact absurd hs (List.splitOn_ne_nil newline xs)
    | cons first others =>
      rw [hs] at h ih
      by_cases hx : x = newline
      · simp only [hx, BEq.rfl, if_true, List.mem_cons] at h
        rcases h with rfl | h
        · exact List.not_mem_nil
        · exact ih (List.mem_cons.2 h)
      · simp only [beq_eq_false_iff_ne.2 hx, Bool.false_eq_true, if_false, List.modifyHead_cons,
          List.mem_cons] at h
        rcases h with rfl | h
        · rw [List.mem_cons, not_or]
          exact ⟨Ne.symm hx, ih List.mem_cons_self⟩
        · exact ih (List.mem_cons_of_mem first h)

theorem newline_notMem_complete {newline : α} {xs l : List α}
    (h : l ∈ (split newline xs).complete) : newline ∉ l := by
  have hpiece : l ∈ xs.splitOn newline := by
    rw [← pieces_split]
    exact List.mem_append_left _ h
  exact newline_notMem_piece hpiece

theorem newline_notMem_rest (newline : α) (xs : List α) :
    newline ∉ (split newline xs).rest := by
  have hpiece : (split newline xs).rest ∈ xs.splitOn newline := by
    rw [← pieces_split]
    exact List.mem_append_right _ List.mem_cons_self
  exact newline_notMem_piece hpiece

end Lines

theorem chomp_eq (l : List Char) : Lines.chomp '\r' l = dropReturn l := by
  rcases List.eq_nil_or_concat l with rfl | ⟨init, c, rfl⟩
  · rfl
  · by_cases hc : c = '\r'
    · simp [Lines.chomp, dropReturn, hc]
    · simp only [Lines.chomp, dropReturn, List.concat_eq_append, List.getLast?_append,
        List.getLast?_singleton, Option.some_or, Option.some.injEq, hc, if_false,
        List.reverse_append, List.reverse_singleton, List.singleton_append]
      split
      · next h => exact absurd (List.cons.inj h).1 hc
      · rfl

theorem lines_eq_linesOf (cs : List Char) : lines cs = linesOf cs := by
  rw [lines, linesOf, ← Lines.pieces_split, Lines.all, Lines.closed]
  generalize Lines.split '\n' cs = ls
  have hchomp : Lines.chomp '\r' = dropReturn := funext chomp_eq
  by_cases hrest : ls.rest = []
  · simp [hchomp, hrest]
  · simp [hchomp, hrest]

theorem mem_dropReturn {c : Char} {piece : List Char} (h : c ∈ dropReturn piece) : c ∈ piece := by
  rw [← chomp_eq, Lines.chomp] at h
  split at h
  · exact (List.dropLast_subset _) h
  · exact h

theorem newline_notMem_lines {cs l : List Char} (h : l ∈ lines cs) : '\n' ∉ l := by
  rw [lines_eq_linesOf, linesOf, List.mem_append, List.mem_map] at h
  rcases h with ⟨piece, hpiece, rfl⟩ | h
  · exact fun hc => Lines.newline_notMem_piece (List.dropLast_subset _ hpiece) (mem_dropReturn hc)
  · have hlast := (List.mem_filter.1 h).1
    rw [Option.mem_toList] at hlast
    exact Lines.newline_notMem_piece (List.mem_of_getLast? hlast)

/-! The bytes of a text. -/

@[simp] theorem encode_nil : encode [] = [] := rfl

@[simp] theorem encode_cons (c : Char) (cs : List Char) :
    encode (c :: cs) = String.utf8EncodeChar c ++ encode cs := rfl

@[simp] theorem encode_append (cs ds : List Char) : encode (cs ++ ds) = encode cs ++ encode ds :=
  List.flatMap_append

theorem utf8EncodeChar_newline : String.utf8EncodeChar '\n' = [10] := rfl

theorem utf8EncodeChar_return : String.utf8EncodeChar '\r' = [carriageReturn] := rfl

theorem decode?_eq_some_iff {bs : List UInt8} {cs : List Char} :
    decode? bs = some cs ↔ bs = encode cs := by
  rw [decode?]
  constructor
  · intro h
    obtain ⟨chars, hchars, rfl⟩ := Option.map_eq_some_iff.1 h
    have hsome : bs.toByteArray.utf8Decode?.isSome := by rw [hchars]; rfl
    have hback := ByteArray.utf8Encode_get_utf8Decode? (h := hsome)
    simp only [hchars, Option.get_some] at hback
    exact List.toByteArray_inj.1 hback.symm
  · rintro rfl
    have h : (encode cs).toByteArray = cs.utf8Encode := rfl
    rw [h, List.utf8Decode?_utf8Encode]
    simp

@[simp] theorem decode?_encode (cs : List Char) : decode? (encode cs) = some cs :=
  decode?_eq_some_iff.2 rfl

/-- A byte below 128 is a character of its own. -/
theorem toNat_of_mem_utf8EncodeChar {b : UInt8} {c : Char} (h : b ∈ String.utf8EncodeChar c)
    (hb : b.toNat < 128) : c.toNat = b.toNat := by
  have hbyte (n : Nat) : (UInt8.ofNat n).toNat = n % 256 := UInt8.toNat_ofNat
  simp only [String.utf8EncodeChar] at h
  split at h
  · rw [List.mem_singleton] at h
    rw [h, hbyte, Char.toNat]
    omega
  · have hhigh : 128 ≤ b.toNat := by
      split at h
      · simp only [List.mem_cons, List.not_mem_nil, or_false] at h
        rcases h with rfl | rfl <;> rw [hbyte] <;> omega
      · split at h
        · simp only [List.mem_cons, List.not_mem_nil, or_false] at h
          rcases h with rfl | rfl | rfl <;> rw [hbyte] <;> omega
        · simp only [List.mem_cons, List.not_mem_nil, or_false] at h
          rcases h with rfl | rfl | rfl | rfl <;> rw [hbyte] <;> omega
    omega

theorem notMem_utf8EncodeChar {b : UInt8} {c d : Char} (hd : String.utf8EncodeChar d = [b])
    (hb : b.toNat < 128) (hc : c ≠ d) : b ∉ String.utf8EncodeChar c := by
  intro h
  have hcb := toNat_of_mem_utf8EncodeChar h hb
  have hdb := toNat_of_mem_utf8EncodeChar (hd ▸ List.mem_singleton_self b) hb
  exact hc (Char.toNat_inj.1 (hcb.trans hdb.symm))

theorem encode_eq_nil_iff {cs : List Char} : encode cs = [] ↔ cs = [] := by
  constructor
  · intro h
    have hdecode := decode?_encode cs
    rw [h, decode?_eq_some_iff.2 encode_nil.symm] at hdecode
    exact (Option.some.inj hdecode).symm
  · rintro rfl
    rfl

/-- The lines of the bytes are the bytes of the lines. -/
theorem byteLines_encode (cs : List Char) :
    byteLines (encode cs) = (Lines.split '\n' cs).map encode := by
  unfold byteLines
  induction cs with
  | nil => rfl
  | cons c cs ih =>
    rw [encode_cons, Lines.split_cons]
    by_cases hc : c = '\n'
    · simp [hc, utf8EncodeChar_newline, ih, Lines.cons, Lines.map]
    · have hmem := notMem_utf8EncodeChar utf8EncodeChar_newline (by decide) hc
      rw [Lines.split_append hmem, ih]
      cases h : (Lines.split '\n' cs).complete with
      | nil => simp [Lines.cons, Lines.map, Lines.glue, h, hc]
      | cons l rest => simp [Lines.cons, Lines.map, Lines.glue, h, hc]

theorem chomp_encode (l : List Char) :
    Lines.chomp carriageReturn (encode l) = encode (Lines.chomp '\r' l) := by
  rcases List.eq_nil_or_concat l with rfl | ⟨init, c, rfl⟩
  · rfl
  · by_cases hc : c = '\r'
    · simp [Lines.chomp, hc, utf8EncodeChar_return]
    · have hlast : (encode (init ++ [c])).getLast? ≠ some carriageReturn := by
        intro h
        have hmem := notMem_utf8EncodeChar utf8EncodeChar_return (by decide) hc
        rw [encode_append, encode_cons, encode_nil, List.append_nil, List.getLast?_append] at h
        cases hb : (String.utf8EncodeChar c).getLast? with
        | none =>
          have := String.length_utf8EncodeChar c
          have := c.utf8Size_pos
          simp_all
        | some b =>
          rw [hb, Option.some_or, Option.some.injEq] at h
          exact hmem (h ▸ List.mem_of_getLast? hb)
      rw [List.concat_eq_append, Lines.chomp, if_neg hlast, Lines.chomp]
      simp [hc]

theorem all_map_encode (ls : Lines Char) :
    (ls.map encode).all carriageReturn = (ls.all '\r').map encode := by
  have hclosed : (ls.map encode).closed carriageReturn = (ls.closed '\r').map encode := by
    simp [Lines.closed, Lines.map, chomp_encode]
  rw [Lines.all, Lines.all, hclosed, List.map_append]
  by_cases hrest : ls.rest = []
  · simp [Lines.map, hrest]
  · simp [Lines.map, encode_eq_nil_iff, hrest]

theorem terminated_map_encode (ls : Lines Char) :
    (ls.map encode).terminated 10 = (ls.terminated '\n').map encode := by
  by_cases hrest : ls.rest = []
  · simp [Lines.terminated, Lines.map, hrest, utf8EncodeChar_newline]
  · simp [Lines.terminated, Lines.map, encode_eq_nil_iff, hrest, utf8EncodeChar_newline]

theorem decodeLines_map_encode (ls : List (List Char)) :
    decodeLines (ls.map encode) = (ls, false) := by
  induction ls with
  | nil => rfl
  | cons l ls ih => simp [decodeLines, ih]

@[simp] theorem lines_nil : lines [] = [] := rfl

theorem lines_append_newline {l : List Char} (h : '\n' ∉ l) :
    lines (l ++ ['\n']) = [Lines.chomp '\r' l] := by
  rw [lines, Lines.split_append h]
  simp [Lines.cons, Lines.glue, Lines.all, Lines.closed]

theorem lines_of_notMem {l : List Char} (hne : l ≠ []) (h : '\n' ∉ l) : lines l = [l] := by
  have hsplit := Lines.split_append h []
  rw [List.append_nil] at hsplit
  simp [lines, hsplit, Lines.glue, Lines.all, Lines.closed, hne]

/-! Blanks at the ends of a text. -/

theorem trim_append_blank {c : Char} (hc : isBlank c = true) (cs : List Char) :
    trim (cs ++ [c]) = trim cs := by
  rw [trim, trim, List.dropWhile_append]
  split
  · next h =>
    rw [List.isEmpty_iff.1 h]
    simp [hc]
  · simp [hc]

theorem trim_chomp (l : List Char) : trim (Lines.chomp '\r' l) = trim l := by
  rw [Lines.chomp]
  split
  · next h =>
    obtain ⟨init, rfl⟩ := List.getLast?_eq_some_iff.1 h
    rw [List.dropLast_concat, trim_append_blank (by decide)]
  · rfl

theorem trim_isInfix (cs : List Char) : trim cs <:+: cs := by
  have hfront := List.dropWhile_suffix isBlank (l := cs)
  have hback := List.dropWhile_suffix isBlank (l := (cs.dropWhile isBlank).reverse)
  have hprefix := List.reverse_prefix.2 hback
  rw [List.reverse_reverse] at hprefix
  exact hprefix.isInfix.trans hfront.isInfix

/-- A text that is one line, with or without the newline that ends it. -/
structure IsLine (text line : List Char) : Prop where
  lines_eq : lines text = [line]
  trim_eq : trim text = trim line

theorem IsLine.ofComplete {l : List Char} (h : '\n' ∉ l) :
    IsLine (l ++ ['\n']) (Lines.chomp '\r' l) where
  lines_eq := lines_append_newline h
  trim_eq := by rw [trim_append_blank (by decide), trim_chomp]

theorem IsLine.ofRest {l : List Char} (hne : l ≠ []) (h : '\n' ∉ l) : IsLine l l :=
  ⟨lines_of_notMem hne h, rfl⟩

/-- Line by line a text has the lines that it has as a whole. -/
theorem forall₂_isLine (cs : List Char) :
    List.Forall₂ IsLine ((Lines.split '\n' cs).terminated '\n') (lines cs) := by
  rw [lines, Lines.terminated, Lines.all, Lines.closed]
  apply List.rel_append
  · rw [List.forall₂_map_left_iff, List.forall₂_map_right_iff, List.forall₂_same]
    exact fun l hl => .ofComplete (Lines.newline_notMem_complete hl)
  · by_cases hrest : (Lines.split '\n' cs).rest = []
    · simp [hrest]
    · have h := IsLine.ofRest hrest (Lines.newline_notMem_rest '\n' cs)
      simp [hrest, h]

end Rpn.Text
