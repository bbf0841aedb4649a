import Rpn.Proofs.Cut
import Rpn.Proofs.Feed

/-!
Texts in pieces and streams that fail, for any pattern. A text that is cut at ends of lines may be
fed piece by piece, as text or as the bytes of a stream. A stream is read line by line, up to its
end, to a line that is not UTF-8, or to its failure. Main statements: the pieces are read like the
text as a whole; and a stream that is not read to its end has been read exactly as far as the
complete lines before the place where reading stopped.
-/

namespace Rpn.Scanner

open Text (IsComplete IsCut IsUtf8)

@[simp] theorem feedLines_nil (s : Scanner) (source : Option String) :
    s.feedLines source [] = s := by
  simp [feedLines_eq]

theorem feedLines_append (s : Scanner) (source : Option String) (first second : List (List Char)) :
    s.feedLines source (first ++ second) =
      (s.feedLines source first).feedLines source second := by
  simp [feedLines, List.zipIdx_append, Nat.add_assoc, Nat.add_comm, Nat.add_left_comm]

theorem feed_append (s : Scanner) (source : Option String) {first : String}
    (h : first = "" ∨ ∃ front, first = front ++ "\n") (second : String) :
    s.feed source (first ++ second) = (s.feed source first).feed source second := by
  have hlist : first.toList = [] ∨ ∃ front, first.toList = front ++ ['\n'] := by
    rcases h with rfl | ⟨front, rfl⟩
    · exact .inl rfl
    · exact .inr ⟨front.toList, by simp⟩
  rw [feed, feed, feed, String.toList_append, Text.lines_append hlist, feedLines_append]

/-- A piece of a text, and whether it comes as text or as the bytes of a stream. -/
structure Piece where
  text : String
  streamed : Bool

def feedPiece (s : Scanner) (source : Option String) (p : Piece) : Scanner × Option Error :=
  if p.streamed then s.feedStream source ⟨Text.encode p.text.toList, none⟩
  else (s.feed source p.text, none)

/-- Feeds pieces one after another, and keeps the error of each. -/
def feedPieces (s : Scanner) (source : Option String) : List Piece → Scanner × List (Option Error)
  | [] => (s, [])
  | p :: ps =>
    let (s', error) := s.feedPiece source p
    let (s'', errors) := feedPieces s' source ps
    (s'', error :: errors)

/-- The bytes of a piece are read like its text. -/
theorem feedPiece_eq (s : Scanner) (source : Option String) (p : Piece) :
    s.feedPiece source p = (s.feed source p.text, none) := by
  rw [feedPiece]
  by_cases h : p.streamed = true
  · rw [if_pos h, feedStream_encode, feed]
  · rw [if_neg h]

/-- A text whose pieces but the last end with a line is read as a whole if it is read piece by
piece, and no stream among the pieces fails. -/
theorem feedPieces_eq_feed (s : Scanner) (source : Option String) (pieces : List Piece)
    (h : ∀ p ∈ pieces.dropLast, p.text = "" ∨ ∃ front, p.text = front ++ "\n") :
    s.feedPieces source pieces =
      (s.feed source (String.join (pieces.map Piece.text)), pieces.map fun _ => none) := by
  induction pieces generalizing s with
  | nil => simp [feedPieces, feed]
  | cons p pieces ih =>
    rw [feedPieces, feedPiece_eq]
    cases pieces with
    | nil => simp [feedPieces]
    | cons q others =>
      rw [List.dropLast_cons_cons, List.forall_mem_cons] at h
      have hjoin : String.join ((p :: q :: others).map Piece.text) =
          p.text ++ String.join ((q :: others).map Piece.text) := String.join_cons
      rw [hjoin, feed_append s source h.1]
      simp only [ih (s.feed source p.text) h.2]
      rfl

theorem feedPieces_eq_feed_three :
    let pieces : List Piece := [⟨"1 2\r\n", true⟩, ⟨"", false⟩, ⟨"+", false⟩]
    (∀ p ∈ pieces.dropLast, p.text = "" ∨ ∃ front, p.text = front ++ "\n") ∧
      initial.feedPieces none pieces = (initial.feed none "1 2\r\n+", [none, none, none]) := by
  intro pieces
  have hends : ∀ p ∈ pieces.dropLast, p.text = "" ∨ ∃ front, p.text = front ++ "\n" := by
    intro p hp
    simp only [pieces, List.dropLast_cons_cons, List.dropLast_singleton, List.mem_cons,
      List.not_mem_nil, or_false] at hp
    rcases hp with rfl | rfl
    · exact .inr ⟨"1 2\r", by decide⟩
    · exact .inl rfl
  exact ⟨hends, feedPieces_eq_feed initial none pieces hends⟩

/-! Streams that are read line by line. -/

theorem streamLines_append {body : List UInt8} (h : 10 ∉ body) (xs : List UInt8)
    (failure : Option String) :
    streamLines ⟨body ++ 10 :: xs, failure⟩ =
      Text.Lines.chomp Text.carriageReturn body :: streamLines ⟨xs, failure⟩ := by
  rw [streamLines, Text.byteLines, Text.Lines.split_body_append h]
  cases failure with
  | none => rfl
  | some message => rfl

theorem streamLines_of_notMem {line : List UInt8} (h : 10 ∉ line) (failure : Option String) :
    streamLines ⟨line, failure⟩ = if failure.isSome ∨ line = [] then [] else [line] := by
  rw [streamLines, Text.byteLines, Text.Lines.split_of_notMem h]
  cases failure with
  | none => simp [Text.Lines.all, Text.Lines.closed]
  | some message => simp [Text.Lines.closed]

/-- A complete line is read, if it is UTF-8, and the stream goes on after it. -/
theorem feedStream_append_of_isUtf8 {line : List UInt8} (hline : IsComplete 10 line)
    (hutf8 : IsUtf8 line) (source : Option String) :
    ∃ text, ∀ (s : Scanner) (xs : List UInt8) (failure : Option String),
      s.feedStream source ⟨line ++ xs, failure⟩ =
        (s.feedLines source [text]).feedStream source ⟨xs, failure⟩ := by
  obtain ⟨body, hbody, rfl⟩ := hline
  obtain ⟨text, htext⟩ := Text.isUtf8_chomp.2 (Text.isUtf8_append_newline.1 hutf8).1
  refine ⟨text, fun s xs failure => ?_⟩
  rw [List.append_assoc, List.singleton_append, feedStream, streamLines_append hbody, htext,
    Text.decodeLines, Text.decode?_encode, feedStream]
  simp only [← feedLines_append, List.singleton_append]

theorem feedStream_append_of_not_isUtf8 {line : List UInt8} (hline : IsComplete 10 line)
    (hutf8 : ¬ IsUtf8 line) (s : Scanner) (source : Option String) (xs : List UInt8)
    (failure : Option String) :
    s.feedStream source ⟨line ++ xs, failure⟩ = (s, some (.io Error.notUtf8)) := by
  obtain ⟨body, hbody, rfl⟩ := hline
  have hbroken : ¬ IsUtf8 (Text.Lines.chomp Text.carriageReturn body) := by
    intro h
    exact hutf8 (Text.isUtf8_append_newline.2 ⟨Text.isUtf8_chomp.1 h, Text.isUtf8_nil⟩)
  rw [List.append_assoc, List.singleton_append, feedStream, streamLines_append hbody,
    Text.decodeLines, Text.decode?_eq_none_iff.2 hbroken]
  simp

theorem feedStream_nil (s : Scanner) (source : Option String) :
    s.feedStream source ⟨[], none⟩ = (s, none) := by
  simp [feedStream, streamLines_of_notMem, Text.decodeLines]

/-- What follows the last newline is read if the stream ends there. -/
theorem feedStream_last {line : List UInt8} (hne : line ≠ []) (hline : 10 ∉ line) (s : Scanner)
    (source : Option String) :
    s.feedStream source ⟨line, none⟩ =
      match Text.decode? line with
      | some text => (s.feedLines source [text], none)
      | none => (s, some (.io Error.notUtf8)) := by
  have hlines : streamLines ⟨line, none⟩ = [line] := by
    simp [streamLines_of_notMem hline, hne]
  rw [feedStream, hlines, Text.decodeLines]
  cases Text.decode? line with
  | none => simp
  | some text => simp [Text.decodeLines]

/-- What follows the last newline is lost if the stream fails there. -/
theorem feedStream_lost {line : List UInt8} (hline : 10 ∉ line) (s : Scanner)
    (source : Option String) (message : String) :
    s.feedStream source ⟨line, some message⟩ = (s, some (.io message)) := by
  simp [feedStream, streamLines_of_notMem hline, Text.decodeLines]

theorem not_isComplete {line : List UInt8} (h : 10 ∉ line) : ¬ IsComplete 10 line := by
  rintro ⟨body, -, rfl⟩
  simp at h

/-- A stream is read to its end if it does not fail and all of it is UTF-8. -/
theorem feedStream_eq_none_iff {bytes : List UInt8} {lines : List (List UInt8)}
    (hcut : IsCut 10 bytes lines) (s : Scanner) (source failure : Option String) :
    (s.feedStream source ⟨bytes, failure⟩).2 = none ↔ failure = none ∧ IsUtf8 bytes := by
  induction hcut generalizing s with
  | nil =>
    cases failure with
    | none => simp [feedStream_nil, Text.isUtf8_nil]
    | some message => simp [feedStream_lost]
  | @last line hne hline =>
    cases failure with
    | none =>
      rw [feedStream_last hne hline]
      cases hdecode : Text.decode? line with
      | none => simp [Text.decode?_eq_none_iff.1 hdecode]
      | some text =>
        obtain rfl := Text.decode?_eq_some_iff.1 hdecode
        simp [Text.isUtf8_encode]
    | some message => simp [feedStream_lost hline]
  | @cons line xs lines hline rest ih =>
    by_cases hutf8 : IsUtf8 line
    · obtain ⟨text, hread⟩ := feedStream_append_of_isUtf8 hline hutf8 source
      rw [hread, ih, hline.isUtf8_append, and_iff_right hutf8]
    · rw [feedStream_append_of_not_isUtf8 hline hutf8, hline.isUtf8_append]
      simp [hutf8]

/-- Why reading stops at the first of some lines: it is not UTF-8, or the stream has failed and no
complete line is left. -/
inductive Stopped (failure : Option String) : List (List UInt8) → Error → Prop
  | broken {line : List UInt8} {after : List (List UInt8)} (h : ¬ IsUtf8 line)
      (reached : failure = none ∨ IsComplete 10 line) :
      Stopped failure (line :: after) (.io Error.notUtf8)
  | failed {rest : List (List UInt8)} {message : String} (h : failure = some message)
      (lost : ∀ line ∈ rest, ¬ IsComplete 10 line) : Stopped failure rest (.io message)

/-- A stream that is not read to its end is read like its complete lines before some line. -/
theorem exists_stopped {bytes : List UInt8} {lines : List (List UInt8)}
    (hcut : IsCut 10 bytes lines) {s s' : Scanner} {source failure : Option String} {e : Error}
    (h : s.feedStream source ⟨bytes, failure⟩ = (s', some e)) :
    ∃ before rest, lines = before ++ rest ∧ (∀ line ∈ before, IsComplete 10 line ∧ IsUtf8 line) ∧
      s.feedStream source ⟨before.flatten, none⟩ = (s', none) ∧ Stopped failure rest e := by
  have hhere (s : Scanner) {lines : List (List UInt8)} (hstop : Stopped failure lines e) :
      ∃ before rest, lines = before ++ rest ∧
        (∀ line ∈ before, IsComplete 10 line ∧ IsUtf8 line) ∧
        s.feedStream source ⟨before.flatten, none⟩ = (s, none) ∧ Stopped failure rest e :=
    ⟨[], lines, rfl, by simp, feedStream_nil s source, hstop⟩
  induction hcut generalizing s with
  | nil =>
    cases failure with
    | none =>
      rw [feedStream_nil] at h
      cases h
    | some message =>
      rw [feedStream_lost List.not_mem_nil] at h
      cases h
      exact hhere _ (.failed rfl (by simp))
  | @last line hne hline =>
    cases failure with
    | none =>
      rw [feedStream_last hne hline] at h
      cases hdecode : Text.decode? line with
      | none =>
        rw [hdecode] at h
        cases h
        exact hhere _ (.broken (Text.decode?_eq_none_iff.1 hdecode) (.inl rfl))
      | some text =>
        rw [hdecode] at h
        cases h
    | some message =>
      rw [feedStream_lost hline] at h
      cases h
      exact hhere _ (.failed rfl (by simpa using not_isComplete hline))
  | @cons line xs lines hline hxs ih =>
    by_cases hutf8 : IsUtf8 line
    · obtain ⟨text, hread⟩ := feedStream_append_of_isUtf8 hline hutf8 source
      rw [hread] at h
      obtain ⟨before, rest, rfl, hbefore, hprefix, hstop⟩ := ih h
      refine ⟨line :: before, rest, rfl, List.forall_mem_cons.2 ⟨⟨hline, hutf8⟩, hbefore⟩, ?_,
        hstop⟩
      rw [List.flatten_cons, hread, hprefix]
    · rw [feedStream_append_of_not_isUtf8 hline hutf8] at h
      cases h
      exact hhere _ (.broken hutf8 (.inr hline))

/-- A stream is read to its end if and only if it does not fail and its bytes are UTF-8. Otherwise
there is an error: that of the first line that is not UTF-8, where the line after the last newline
counts unless the stream fails, or else that of the stream. The scanner is then as it is after the
complete lines before this place. What it had gathered earlier stays in front. -/
theorem feedStream_exact (s : Scanner) (source : Option String) (bs : ByteStream) :
    let (s', error) := s.feedStream source bs
    (error = none ↔ bs.failure = none ∧ IsUtf8 bs.bytes) ∧
    s.tokens <+: s'.tokens ∧
    ∀ e, error = some e → ∃ before rest text, e = .io text ∧
      IsCut 10 bs.bytes (before ++ rest) ∧ (∀ line ∈ before, IsComplete 10 line ∧ IsUtf8 line) ∧
      s.feedStream source ⟨before.flatten, none⟩ = (s', none) ∧
      ((∃ line after, rest = line :: after ∧ ¬ IsUtf8 line ∧
          (bs.failure = none ∨ IsComplete 10 line) ∧ text = Error.notUtf8) ∨
        bs.failure = some text ∧ ∀ line ∈ rest, ¬ IsComplete 10 line) := by
  have hcut := Text.isCut_terminated 10 bs.bytes
  refine ⟨feedStream_eq_none_iff hcut s source bs.failure, List.prefix_append _ _, ?_⟩
  intro e he
  obtain ⟨before, rest, hlines, hbefore, hread, hstop⟩ := exists_stopped hcut (Prod.ext rfl he)
  rw [hlines] at hcut
  cases hstop with
  | @broken line after hutf8 reached =>
    exact ⟨before, line :: after, _, rfl, hcut, hbefore, hread,
      .inl ⟨line, after, rfl, hutf8, reached, rfl⟩⟩
  | failed hfailure hlost =>
    exact ⟨before, rest, _, rfl, hcut, hbefore, hread, .inr ⟨hfailure, hlost⟩⟩

theorem feedStream_exact_broken :
    let bs : ByteStream := ⟨[49, 10, 255, 10, 50], some "gone"⟩
    (initial.feedStream none bs).2 = some (.io Error.notUtf8) ∧
    ∃ before line after, IsCut 10 bs.bytes (before ++ line :: after) ∧ ¬ IsUtf8 line ∧
      initial.feedStream none ⟨before.flatten, none⟩ = ((initial.feedStream none bs).1, none) := by
  intro bs
  have herror : (initial.feedStream none bs).2 = some (.io Error.notUtf8) := by decide +kernel
  obtain ⟨-, -, hstop⟩ := feedStream_exact initial none bs
  obtain ⟨before, rest, text, htext, hcut, -, hread, hcases⟩ := hstop _ herror
  obtain rfl := Error.io.inj htext
  rcases hcases with ⟨line, after, rfl, hutf8, -⟩ | ⟨hfailure, -⟩
  · exact ⟨herror, before, line, after, hcut, hutf8, hread⟩
  · exact absurd hfailure (by decide)

end Rpn.Scanner
