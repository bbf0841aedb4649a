import Mathlib.Data.List.Infix
import Rpn.Proofs.Gathering

/-!
Columns by counting on. A match is given by the bytes of the line where it starts and ends, and its
column by the characters before it. To count these once only, the characters between two tokens are
added to those before the first one. Main statement: for any pattern this never cuts a character
apart, and gives the tokens of the line with the columns that are counted from its start.
-/

namespace Rpn

/-! Parts of a text by their bytes. -/

namespace Text

/-- A number of bytes that some characters at the start of a text take up. -/
def IsBoundary (cs : List Char) (n : Nat) : Prop :=
  ∃ before ∈ cs.inits, (encode before).length = n

instance (cs : List Char) (n : Nat) : Decidable (IsBoundary cs n) :=
  inferInstanceAs (Decidable (∃ before ∈ cs.inits, _))

/-- The part of a text from one of its bytes up to another. There is none if a character would be
cut apart, or if the second byte is before the first. -/
def slice? (cs : List Char) (first last : Nat) : Option (List Char) :=
  if first ≤ last ∧ IsBoundary cs first ∧ IsBoundary cs last then
    decode? (((encode cs).take last).drop first)
  else none

variable {cs part : List Char} {first last : Nat}

theorem isBoundary_iff :
    IsBoundary cs first ↔ ∃ before, before <+: cs ∧ (encode before).length = first := by
  simp only [IsBoundary, List.mem_inits]

theorem isBoundary_take (cs : List Char) (k : Nat) :
    IsBoundary cs (encode (cs.take k)).length :=
  isBoundary_iff.2 ⟨_, List.take_prefix k cs, rfl⟩

theorem length_encode_le_of_prefix {before upTo : List Char} (h : before <+: upTo) :
    (encode before).length ≤ (encode upTo).length := by
  obtain ⟨rest, rfl⟩ := h
  rw [encode_append, List.length_append]
  exact Nat.le_add_right _ _

/-- Of two starts of a text, the one that takes up no more bytes is a start of the other. -/
theorem prefix_of_length_encode_le {before upTo : List Char} (hbefore : before <+: cs)
    (hupTo : upTo <+: cs) (h : (encode before).length ≤ (encode upTo).length) :
    before <+: upTo := by
  rcases List.prefix_or_prefix_of_prefix hbefore hupTo with hprefix | ⟨rest, rfl⟩
  · exact hprefix
  · rw [encode_append, List.length_append] at h
    have hrest : encode rest = [] := List.eq_nil_of_length_eq_zero (by omega)
    rw [encode_eq_nil_iff.1 hrest, List.append_nil]

theorem eq_of_length_encode {before upTo : List Char} (hbefore : before <+: cs)
    (hupTo : upTo <+: cs) (h : (encode before).length = (encode upTo).length) :
    before = upTo := by
  have hforth := prefix_of_length_encode_le hbefore hupTo h.le
  have hback := prefix_of_length_encode_le hupTo hbefore h.ge
  exact hforth.eq_of_length_le hback.length_le

theorem exists_between (hle : first ≤ last) (hfirst : IsBoundary cs first)
    (hlast : IsBoundary cs last) :
    ∃ before part after, cs = before ++ part ++ after ∧ (encode before).length = first ∧
      (encode (before ++ part)).length = last := by
  obtain ⟨before, hbefore, rfl⟩ := isBoundary_iff.1 hfirst
  obtain ⟨upTo, hupTo, rfl⟩ := isBoundary_iff.1 hlast
  obtain ⟨part, rfl⟩ := prefix_of_length_encode_le hbefore hupTo hle
  obtain ⟨after, rfl⟩ := hupTo
  exact ⟨before, part, after, rfl, rfl, rfl⟩

theorem slice?_between (before part after : List Char) :
    slice? (before ++ part ++ after) (encode before).length (encode (before ++ part)).length =
      some part := by
  have hbefore : IsBoundary (before ++ part ++ after) (encode before).length :=
    isBoundary_iff.2 ⟨before, ⟨part ++ after, (List.append_assoc ..).symm⟩, rfl⟩
  have hupTo : IsBoundary (before ++ part ++ after) (encode (before ++ part)).length :=
    isBoundary_iff.2 ⟨before ++ part, List.prefix_append _ _, rfl⟩
  have hle := length_encode_le_of_prefix (List.prefix_append before part)
  rw [slice?, if_pos ⟨hle, hbefore, hupTo⟩, encode_append (before ++ part), List.take_left,
    encode_append, List.drop_left, decode?_encode]

/-- What stands between two boundaries is a part of the text. -/
theorem slice?_eq_some_iff :
    slice? cs first last = some part ↔
      ∃ before after, cs = before ++ part ++ after ∧ (encode before).length = first ∧
        (encode (before ++ part)).length = last := by
  constructor
  · intro h
    have hboundaries : first ≤ last ∧ IsBoundary cs first ∧ IsBoundary cs last := by
      by_contra hnot
      rw [slice?, if_neg hnot] at h
      cases h
    obtain ⟨hle, hfirst, hlast⟩ := hboundaries
    obtain ⟨before, between, after, rfl, rfl, rfl⟩ := exists_between hle hfirst hlast
    rw [slice?_between] at h
    cases h
    exact ⟨before, after, rfl, rfl, rfl⟩
  · rintro ⟨before, after, rfl, rfl, rfl⟩
    exact slice?_between before part after

theorem isBoundary_of_slice? (h : slice? cs first last = some part) : IsBoundary cs last := by
  obtain ⟨before, after, rfl, -, hlast⟩ := slice?_eq_some_iff.1 h
  exact isBoundary_iff.2 ⟨before ++ part, List.prefix_append _ _, hlast⟩

theorem exists_slice? (hle : first ≤ last) (hfirst : IsBoundary cs first)
    (hlast : IsBoundary cs last) : ∃ part, slice? cs first last = some part := by
  obtain ⟨before, part, after, h⟩ := exists_between hle hfirst hlast
  exact ⟨part, slice?_eq_some_iff.2 ⟨before, after, h⟩⟩

theorem eq_nil_of_slice? (h : slice? cs first first = some part) : part = [] := by
  obtain ⟨before, after, -, hfirst, hlast⟩ := slice?_eq_some_iff.1 h
  rw [encode_append, List.length_append] at hlast
  exact encode_eq_nil_iff.1 (List.eq_nil_of_length_eq_zero (by omega))

theorem slice?_zero (cs : List Char) : slice? cs 0 0 = some [] :=
  slice?_eq_some_iff.2 ⟨[], cs, rfl, rfl, rfl⟩

/-- Parts that follow each other make up one part. -/
theorem slice?_append {more : List Char} {next : Nat} (h : slice? cs first last = some part)
    (hmore : slice? cs last next = some more) : slice? cs first next = some (part ++ more) := by
  obtain ⟨before, after, hcs, hfirst, hlast⟩ := slice?_eq_some_iff.1 h
  obtain ⟨before', after', hcs', hlast', hnext⟩ := slice?_eq_some_iff.1 hmore
  have hleft : before ++ part <+: cs := by
    rw [hcs]
    exact List.prefix_append _ _
  have hright : before' <+: cs := by
    rw [hcs', List.append_assoc]
    exact List.prefix_append _ _
  have hsame : before ++ part = before' :=
    eq_of_length_encode hleft hright (hlast.trans hlast'.symm)
  subst hsame
  refine slice?_eq_some_iff.2 ⟨before, after', ?_, hfirst, ?_⟩
  · rw [hcs', List.append_assoc before]
  · rw [← List.append_assoc]
    exact hnext

end Text

/-! Tokens by counting on. -/

namespace Scanner

open Text (IsBoundary slice? encode)

/-- A match by the bytes of the line where it starts and ends. -/
structure ByteSpan where
  first : Nat
  last : Nat
deriving DecidableEq

/-- Matches in a line that cut no character apart, each of them before the next. -/
structure IsMatched (line : List Char) (ms : List ByteSpan) : Prop where
  le : ∀ m ∈ ms, m.first ≤ m.last
  first_isBoundary : ∀ m ∈ ms, IsBoundary line m.first
  last_isBoundary : ∀ m ∈ ms, IsBoundary line m.last
  pairwise : ms.Pairwise fun m n => m.last ≤ n.first

/-- The bytes of a match. -/
def bytesOf (line : List Char) (span : Pattern.Span) : ByteSpan where
  first := (encode (line.take span.start)).length
  last := (encode (line.take (span.start + span.text.length))).length

section Count

variable (source : Option String) (number : Nat) (line : List Char)

/-- The token of a match, with the column counted from the start of the line. -/
def tokenOf? (m : ByteSpan) : Option Token := do
  let before ← slice? line 0 m.first
  let text ← slice? line m.first m.last
  return ⟨String.ofList text, ⟨source, number, before.length + 1⟩⟩

/-- The tokens of the matches that are not empty. The characters before the byte `last`, where the
token before starts, are counted already. There are no tokens if a part of the line that is asked
for is none. -/
def countOn (last characters : Nat) : List ByteSpan → Option (List Token)
  | [] => some []
  | m :: ms =>
    if m.first = m.last then countOn last characters ms
    else do
      let between ← slice? line last m.first
      let text ← slice? line m.first m.last
      let column := characters + between.length + 1
      let tokens ← countOn m.first (characters + between.length) ms
      return ⟨String.ofList text, ⟨source, number, column⟩⟩ :: tokens

end Count

variable {source : Option String} {number : Nat} {line : List Char}

theorem IsMatched.tail {m : ByteSpan} {ms : List ByteSpan} (h : IsMatched line (m :: ms)) :
    IsMatched line ms where
  le n hn := h.le n (List.mem_cons_of_mem m hn)
  first_isBoundary n hn := h.first_isBoundary n (List.mem_cons_of_mem m hn)
  last_isBoundary n hn := h.last_isBoundary n (List.mem_cons_of_mem m hn)
  pairwise := (List.pairwise_cons.1 h.pairwise).2

theorem tokenOf?_eq {m : ByteSpan} {before text : List Char}
    (hbefore : slice? line 0 m.first = some before)
    (htext : slice? line m.first m.last = some text) :
    tokenOf? source number line m =
      some ⟨String.ofList text, ⟨source, number, before.length + 1⟩⟩ := by
  simp [tokenOf?, hbefore, htext]

theorem countOn_cons {m : ByteSpan} {ms : List ByteSpan} {last characters : Nat}
    {between text : List Char} {tokens : List Token} (hempty : m.first ≠ m.last)
    (hbetween : slice? line last m.first = some between)
    (htext : slice? line m.first m.last = some text)
    (hrest : countOn source number line m.first (characters + between.length) ms = some tokens) :
    countOn source number line last characters (m :: ms) =
      some (⟨String.ofList text, ⟨source, number, characters + between.length + 1⟩⟩ :: tokens) := by
  simp [countOn, hempty, hbetween, htext, hrest]

/-- Counting on gives what counting from the start gives, as long as the number counted so far is
that of the characters before the last byte that was come to. -/
theorem exists_countOn {ms : List ByteSpan} (h : IsMatched line ms) {last : Nat}
    {before : List Char} (hbefore : slice? line 0 last = some before)
    (hlast : ∀ m ∈ ms, last ≤ m.first) :
    ∃ tokens, countOn source number line last before.length ms = some tokens ∧
      (ms.filter fun m => m.first ≠ m.last).map (tokenOf? source number line) =
        tokens.map some := by
  induction ms generalizing last before with
  | nil => exact ⟨[], rfl, rfl⟩
  | cons m ms ih =>
    obtain ⟨hm, hms⟩ := List.forall_mem_cons.1 hlast
    by_cases hempty : m.first = m.last
    · obtain ⟨tokens, hcount, htokens⟩ := ih h.tail hbefore hms
      refine ⟨tokens, ?_, ?_⟩
      · rw [countOn, if_pos hempty, hcount]
      · rw [List.filter_cons_of_neg (by simpa using hempty), htokens]
    · -- What is before this match is what was counted and what is in between.
      obtain ⟨between, hbetween⟩ := Text.exists_slice? hm (Text.isBoundary_of_slice? hbefore)
        (h.first_isBoundary m List.mem_cons_self)
      obtain ⟨text, htext⟩ := Text.exists_slice? (h.le m List.mem_cons_self)
        (h.first_isBoundary m List.mem_cons_self) (h.last_isBoundary m List.mem_cons_self)
      have hnext := Text.slice?_append hbefore hbetween
      have hafter : ∀ n ∈ ms, m.first ≤ n.first := fun n hn =>
        (h.le m List.mem_cons_self).trans ((List.pairwise_cons.1 h.pairwise).1 n hn)
      obtain ⟨tokens, hcount, htokens⟩ := ih h.tail hnext hafter
      rw [List.length_append] at hcount
      refine ⟨_ :: tokens, countOn_cons hempty hbetween htext hcount, ?_⟩
      rw [List.filter_cons_of_pos (by simpa using hempty), List.map_cons, htokens,
        tokenOf?_eq hnext htext, List.length_append, List.map_cons]

/-- The matches that a search finds are in order and cut no character apart. -/
theorem isMatched_findAll (p : Pattern.Program) (line : List Char) :
    IsMatched line ((p.findAll line).map (bytesOf line)) := by
  have hmono {j k : Nat} (h : j ≤ k) :
      (encode (line.take j)).length ≤ (encode (line.take k)).length :=
    Text.length_encode_le_of_prefix (List.take_prefix_take_left h)
  constructor
  · rw [List.forall_mem_map]
    exact fun span _ => hmono (Nat.le_add_right _ _)
  · rw [List.forall_mem_map]
    exact fun span _ => Text.isBoundary_take line _
  · rw [List.forall_mem_map]
    exact fun span _ => Text.isBoundary_take line _
  · rw [List.pairwise_map]
    exact (p.pairwise_findAll line).imp hmono

/-- The bytes of a match are those of its text. -/
theorem slice?_bytesOf {span : Pattern.Span} (h : span.text <+: line.drop span.start) :
    slice? line (bytesOf line span).first (bytesOf line span).last = some span.text := by
  obtain ⟨after, hafter⟩ := h
  have htake : line.take (span.start + span.text.length) = line.take span.start ++ span.text := by
    rw [List.take_add, ← hafter, List.take_left]
  refine Text.slice?_eq_some_iff.2 ⟨line.take span.start, after, ?_, rfl, by rw [← htake]; rfl⟩
  rw [List.append_assoc, hafter, List.take_append_drop]

theorem bytesOf_first_eq_last_iff {span : Pattern.Span} (h : span.text <+: line.drop span.start) :
    (bytesOf line span).first = (bytesOf line span).last ↔ span.text = [] := by
  constructor
  · intro heq
    have htext := slice?_bytesOf h
    rw [← heq] at htext
    exact Text.eq_nil_of_slice? htext
  · intro hnil
    simp [bytesOf, hnil]

theorem tokenOf?_bytesOf {span : Pattern.Span} (h : span.text <+: line.drop span.start)
    (hne : span.text ≠ []) :
    tokenOf? source number line (bytesOf line span) =
      some ⟨String.ofList span.text, ⟨source, number, span.start + 1⟩⟩ := by
  have hstart : span.start ≤ line.length := by
    by_contra hlt
    rw [List.drop_eq_nil_of_le (by omega), List.prefix_nil] at h
    exact hne h
  have hbefore : slice? line 0 (bytesOf line span).first = some (line.take span.start) :=
    Text.slice?_eq_some_iff.2 ⟨[], line.drop span.start, by simp, rfl, rfl⟩
  rw [tokenOf?_eq hbefore (slice?_bytesOf h), List.length_take, Nat.min_eq_left hstart]

/-- The tokens of a line have the columns that are counted from the bytes of its matches. -/
theorem map_tokenOf?_findAll (p : Pattern.Program) (source : Option String) (number : Nat)
    (line : List Char) :
    (((p.findAll line).map (bytesOf line)).filter fun m => m.first ≠ m.last).map
        (tokenOf? source number line) =
      (lineTokens p source number line).map some := by
  have hfilter : (p.findAll line).filter ((fun m => decide (m.first ≠ m.last)) ∘ bytesOf line) =
      (p.findAll line).filter (!·.text.isEmpty) := by
    apply List.filter_congr
    intro span hspan
    have hiff := bytesOf_first_eq_last_iff (Pattern.Program.isPrefix_of_mem_findAll hspan)
    by_cases htext : span.text = []
    · simp [hiff.2 htext, htext]
    · simp [mt hiff.1 htext, htext]
  rw [List.filter_map, hfilter, lineTokens, List.map_map, List.map_map]
  apply List.map_congr_left
  intro span hspan
  obtain ⟨hmem, hne⟩ := List.mem_filter.1 hspan
  exact tokenOf?_bytesOf (Pattern.Program.isPrefix_of_mem_findAll hmem) (by simpa using hne)

/-- A token stands in its line where its column says. -/
theorem prefix_of_tokenOf? {m : ByteSpan} {t : Token}
    (h : tokenOf? source number line m = some t) :
    t.text.toList <+: line.drop (t.location.column - 1) := by
  obtain ⟨before, hbefore, h⟩ := Option.bind_eq_some_iff.1 h
  obtain ⟨text, htext, h⟩ := Option.bind_eq_some_iff.1 h
  cases h
  obtain ⟨_, after, hline, hnil, -⟩ := Text.slice?_eq_some_iff.1 (Text.slice?_append hbefore htext)
  rw [Text.encode_eq_nil_iff.1 (List.eq_nil_of_length_eq_zero hnil), List.nil_append] at hline
  rw [hline, String.toList_ofList, Nat.add_sub_cancel, List.append_assoc, List.drop_left]
  exact List.prefix_append _ _

/-- Whatever the matches in a line are, if they are in order and cut no character apart, then
counting on finds every part of the line that it asks for. It gives one token for each match that is
not empty, in the column that is counted from the start of the line, where the text of the token is
to be found. The matches of any pattern are such, and a scanner takes from the line the tokens that
are given for them. -/
theorem feedLine_columns (s : Scanner) (source : Option String) (line : List Char) :
    let number := s.line + 1
    (∀ ms, IsMatched line ms →
      ∃ tokens, countOn source number line 0 0 ms = some tokens ∧
        (ms.filter fun m => m.first ≠ m.last).map (tokenOf? source number line) =
          tokens.map some ∧
        ∀ t ∈ tokens, t.text.toList <+: line.drop (t.location.column - 1)) ∧
    ∃ spans, s.pattern.FindsAll line spans ∧
      (∀ span ∈ spans,
        slice? line (bytesOf line span).first (bytesOf line span).last = some span.text) ∧
      IsMatched line (spans.map (bytesOf line)) ∧
      ∃ tokens, countOn source number line 0 0 (spans.map (bytesOf line)) = some tokens ∧
        s.feedLines source [line] = ⟨s.pattern, s.tokens ++ tokens, number⟩ := by
  intro number
  have hcount {ms : List ByteSpan} (h : IsMatched line ms) :
      ∃ tokens, countOn source number line 0 0 ms = some tokens ∧
        (ms.filter fun m => m.first ≠ m.last).map (tokenOf? source number line) =
          tokens.map some :=
    exists_countOn h (Text.slice?_zero line) fun m _ => Nat.zero_le m.first
  refine ⟨fun ms hms => ?_, s.pattern.findAll line, s.pattern.findsAll_findAll line, ?_,
    isMatched_findAll s.pattern line, ?_⟩
  · obtain ⟨tokens, htokens, hmap⟩ := hcount hms
    refine ⟨tokens, htokens, hmap, fun t ht => ?_⟩
    have hmem : some t ∈ tokens.map some := List.mem_map_of_mem ht
    rw [← hmap] at hmem
    obtain ⟨m, -, hm⟩ := List.mem_map.1 hmem
    exact prefix_of_tokenOf? hm
  · exact fun span hspan => slice?_bytesOf (Pattern.Program.isPrefix_of_mem_findAll hspan)
  · obtain ⟨tokens, htokens, hmap⟩ := hcount (isMatched_findAll s.pattern line)
    rw [map_tokenOf?_findAll] at hmap
    have hline := List.map_injective_iff.2 (fun _ _ => Option.some.inj) hmap
    refine ⟨tokens, htokens, ?_⟩
    rw [feedLines_eq, gather_cons, gather_nil, List.append_nil, hline]
    rfl

/-- Characters of two and of four bytes before a token. -/
example : countOn none 1 "é 𝄞x".toList 0 0 [⟨0, 2⟩, ⟨2, 2⟩, ⟨3, 8⟩] =
    some (initial.feedLines none ["é 𝄞x".toList]).tokens := by
  decide +kernel

end Scanner
end Rpn
