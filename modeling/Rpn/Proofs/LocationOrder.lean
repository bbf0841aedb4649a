import Rpn.Proofs.ByteOrder
import Rpn.Proofs.Gathering

/-!
The order of places. Main statement: of two places one is before the other unless they are the same,
and what decides is the source, by the bytes of its name, then the line and then the column. While a
scanner is given one source only, its tokens are held in this order.
-/

namespace Rpn

namespace Text

def codePoints (text : String) : List Nat := text.toList.map Char.toNat

theorem codePoints_lt_codePoints_iff {x y : String} : codePoints x < codePoints y ↔ x < y := by
  rw [String.lt_iff]
  apply lt_iff_lt_of_mono (f := List.map Char.toNat)
  intro cs ds h
  exact List.map_lt (fun _ _ => id) h

end Text

namespace Location

/-- No source comes before any source, and sources go by the bytes of their names. -/
inductive SourceBefore : Option String → Option String → Prop
  | unnamed (name : String) : SourceBefore none (some name)
  | bytes {name name' : String} (h : Text.encode name.toList < Text.encode name'.toList) :
      SourceBefore (some name) (some name')

/-- The source decides, then the line, then the column. -/
inductive Before (a b : Location) : Prop
  | source (h : SourceBefore a.source b.source)
  | line (hsource : a.source = b.source) (h : a.line < b.line)
  | column (hsource : a.source = b.source) (hline : a.line = b.line) (h : a.column < b.column)

theorem compare_source_eq_lt_iff {x y : Option String} :
    compare x y = .lt ↔ SourceBefore x y := by
  cases x with
  | none =>
    cases y with
    | none =>
      constructor
      · intro h
        cases h
      · intro h
        cases h
    | some name => exact ⟨fun _ => .unnamed name, fun _ => rfl⟩
  | some name =>
    cases y with
    | none =>
      constructor
      · intro h
        cases h
      · intro h
        cases h
    | some name' =>
      have hlt : compare name name' = .lt ↔ name < name' := compareOfLessAndEq_eq_lt
      constructor
      · intro h
        exact .bytes (Text.encode_toList_lt_iff.2 (hlt.1 h))
      · intro h
        cases h with
        | bytes h => exact hlt.2 (Text.encode_toList_lt_iff.1 h)

theorem compare_eq_lt_iff {a b : Location} : compare a b = .lt ↔ a.Before b := by
  have hcompare : compare a b = (compare a.source b.source).then
    ((compare a.line b.line).then (compare a.column b.column)) := rfl
  rw [hcompare, Ordering.then_eq_lt, Ordering.then_eq_lt, compare_source_eq_lt_iff,
    Std.compare_eq_iff_eq, Std.compare_eq_iff_eq, Nat.compare_eq_lt, Nat.compare_eq_lt]
  constructor
  · rintro (h | ⟨hsource, h | ⟨hline, h⟩⟩)
    · exact .source h
    · exact .line hsource h
    · exact .column hsource hline h
  · rintro (h | ⟨hsource, h⟩ | ⟨hsource, hline, h⟩)
    · exact .inl h
    · exact .inr ⟨hsource, .inl h⟩
    · exact .inr ⟨hsource, .inr ⟨hline, h⟩⟩

instance : Std.TransOrd Location :=
  inferInstanceAs (Std.TransCmp
    (compareLex (compareOn source) (compareLex (compareOn line) (compareOn column))))

instance : Std.LawfulEqOrd Location where
  eq_of_compare {a b} h := by
    obtain ⟨hsource, hrest⟩ := Ordering.then_eq_eq.1 h
    obtain ⟨hline, hcolumn⟩ := Ordering.then_eq_eq.1 hrest
    rw [Std.compare_eq_iff_eq] at hsource hline hcolumn
    cases a
    cases b
    cases hsource
    cases hline
    cases hcolumn
    rfl

theorem compare_eq_gt_iff {a b : Location} : compare a b = .gt ↔ b.Before a := by
  rw [Std.OrientedCmp.gt_iff_lt, compare_eq_lt_iff]

theorem before_trichotomy (a b : Location) : a.Before b ∨ a = b ∨ b.Before a := by
  cases h : compare a b with
  | lt => exact .inl (compare_eq_lt_iff.1 h)
  | eq => exact .inr (.inl (Std.compare_eq_iff_eq.1 h))
  | gt => exact .inr (.inr (compare_eq_gt_iff.1 h))

theorem compare_isLE_total (a b : Location) : (compare a b).isLE ∨ (compare b a).isLE := by
  rw [Std.OrientedOrd.eq_swap (a := b)]
  cases compare a b with
  | lt => exact .inl rfl
  | eq => exact .inl rfl
  | gt => exact .inr rfl

end Location

namespace Scanner

theorem clear_eq_self {s : Scanner} (h : s = initial ∨ ∃ pattern, ofText pattern = .ok s) :
    s.clear = s := by
  rcases h with rfl | ⟨pattern, h⟩
  · rfl
  · rw [ofText] at h
    split at h
    · cases h
      rfl
    · cases h

/-- Tokens have the source that all actions since the last clearing are given. -/
theorem source_of_mem_acts {s : Scanner} (h : s.tokens = []) {actions : List Action}
    {source : Option String} (hsource : ∀ a ∈ Action.sinceClear actions, a.source? = some source)
    {t : Token} (ht : t ∈ (s.acts actions).tokens) : t.location.source = source := by
  obtain ⟨a, ha, source', number, line, hsource', hline⟩ := exists_line_of_mem_acts h ht
  rw [hsource a ha] at hsource'
  cases hsource'
  exact (location_of_mem_lineTokens hline).1

/-- In one source the order of the lines and columns is the order of places. -/
theorem Precedes.before {t u : Token} (h : Precedes t u)
    (hsource : t.location.source = u.location.source) : t.location.Before u.location := by
  rcases h with hlt | ⟨heq, hlt⟩
  · exact .line hsource hlt
  · exact .column hsource heq hlt

theorem pairwise_before_acts {s : Scanner} (h : s.clear = s) {actions : List Action}
    {source : Option String} (hsource : ∀ a ∈ Action.sinceClear actions, a.source? = some source) :
    (s.acts actions).tokens.Pairwise fun t u => t.location.Before u.location := by
  have hempty : s.tokens = [] := by
    rw [← h]
    rfl
  have hsound : s.Sound := by
    rw [← h]
    exact .clear s
  apply (hsound.acts actions).pairwise_precedes.imp_of_mem
  intro t u ht hu hprecedes
  apply hprecedes.before
  rw [source_of_mem_acts hempty hsource ht, source_of_mem_acts hempty hsource hu]

end Scanner

open Scanner (Action)

/-- Of two places one is before the other unless they are the same; comparing them tells which it
is, and exchanging them reverses the answer. Not to come later is reflexive, transitive and total.
The sources decide by their bytes, whose order is that of the code points, then the lines and then
the columns. The tokens of a scanner for any pattern ascend strictly in this order if it was given
one source only since it was last cleared. -/
theorem Location.compare_exact :
    (∀ a b : Location, (compare a b = .lt ↔ a.Before b) ∧ (compare a b = .eq ↔ a = b) ∧
      (compare a b = .gt ↔ b.Before a) ∧ (a.Before b ∨ a = b ∨ b.Before a) ∧
      compare b a = (compare a b).swap) ∧
    (∀ a : Location, (compare a a).isLE) ∧
    (∀ a b c : Location, (compare a b).isLE → (compare b c).isLE → (compare a c).isLE) ∧
    (∀ a b : Location, (compare a b).isLE ∨ (compare b a).isLE) ∧
    (∀ x y : String, Text.encode x.toList < Text.encode y.toList ↔
      Text.codePoints x < Text.codePoints y) ∧
    ∀ s : Scanner, (s = .initial ∨ ∃ pattern, Scanner.ofText pattern = .ok s) →
      ∀ (actions : List Action) (source : Option String),
        (∀ a ∈ Action.sinceClear actions, a.source? = some source) →
        (s.acts actions).tokens.Pairwise fun t u => compare t.location u.location = .lt := by
  refine ⟨fun a b => ⟨compare_eq_lt_iff, Std.compare_eq_iff_eq, compare_eq_gt_iff,
      before_trichotomy a b, Std.OrientedOrd.eq_swap⟩,
    fun a => ?_, fun a b c => Std.TransOrd.isLE_trans, compare_isLE_total, fun x y => ?_,
    fun s hs actions source hsource => ?_⟩
  · rw [Std.ReflOrd.compare_self]
    rfl
  · rw [Text.encode_toList_lt_iff, Text.codePoints_lt_codePoints_iff]
  · apply (Scanner.pairwise_before_acts (Scanner.clear_eq_self hs) hsource).imp
    intro t u hbefore
    exact compare_eq_lt_iff.2 hbefore

/-- Names on both sides of the surrogates, an empty name, and a scanner that was given another
source before it was cleared. -/
theorem Location.compare_exact_digits :
    let actions : List Action :=
      [.feed none "7 8", .clear, .feed (some "a") "é10 2\n3",
        .stream (some "a") ⟨[52, 32, 53, 10, 54], some "gone"⟩]
    compare (⟨some "ﬀ", 2, 2⟩ : Location) ⟨some "𝄞", 1, 1⟩ = .lt ∧
      compare (⟨some "", 1, 1⟩ : Location) ⟨none, 2, 2⟩ = .gt ∧
      ∃ s, Scanner.ofText "[0-9]*" = .ok s ∧
        (s.acts actions).tokens.map Token.location =
          [⟨some "a", 1, 2⟩, ⟨some "a", 1, 5⟩, ⟨some "a", 2, 1⟩, ⟨some "a", 3, 1⟩,
            ⟨some "a", 3, 3⟩] ∧
        (s.acts actions).tokens.Pairwise fun t u => compare t.location u.location = .lt := by
  intro actions
  obtain ⟨horder, -, -, -, -, hascending⟩ := compare_exact
  obtain ⟨s, hs⟩ : ∃ s, Scanner.ofText "[0-9]*" = .ok s := ⟨_, rfl⟩
  refine ⟨?_, ?_, s, hs, ?_, hascending s (.inr ⟨_, hs⟩) actions (some "a") (by decide)⟩
  · exact (horder _ _).1.2 (.source (.bytes (by decide)))
  · exact (horder _ _).2.2.1.2 (.source (.unnamed ""))
  · cases hs
    decide +kernel

end Rpn
