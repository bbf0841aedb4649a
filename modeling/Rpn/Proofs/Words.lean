import Rpn.Machine

/-!
The texts that mean something to a machine with the base vocabulary: literals, which are made of
digits and signs, and the names of the base words.
-/

namespace Rpn

namespace Vocabulary

theorem get?_insertAll {π : Type} (V : Vocabulary π) (ws : List (Word π)) (name : String) :
    (V.insertAll ws).get? name = (ws.reverse.find? (·.name == name)).or (V.get? name) := by
  induction ws generalizing V with
  | nil => rfl
  | cons w ws ih =>
    have h := ih (V.insert w)
    rw [insertAll] at h ⊢
    rw [List.foldl_cons, h, get?_insert, List.reverse_cons, List.find?_append]
    by_cases hw : w.name = name
    · simp [hw]
    · simp [hw]

theorem get?_base (name : String) :
    base.get? name = Word.baseWords.reverse.find? (·.name == name) := by
  rw [base, get?_insertAll, get?_empty, Option.or_none]

theorem mem_baseWords_of_get? {name : String} {w : Word}
    (h : base.get? name = some w) : w ∈ Word.baseWords ∧ w.name = name := by
  rw [get?_base] at h
  exact ⟨List.mem_reverse.1 (List.mem_of_find?_eq_some h), by simpa using List.find?_some h⟩

theorem get?_base_of_mem : ∀ w ∈ Word.baseWords, base.get? w.name = some w := by decide

end Vocabulary

namespace Decimal

/-- The characters of decimal notation. -/
def isMark (c : Char) : Bool := c.isDigit || c == '+' || c == '-'

theorem isMark_of_digits? {cs : List Char} {n : Nat} (h : digits? cs = some n) :
    ∀ c ∈ cs, isMark c = true := by
  intro c hc
  rw [digits?] at h
  split at h
  · next hdigits => simp [isMark, List.all_eq_true.1 hdigits.2 c hc]
  · cases h

/-- Only digits and signs are read. -/
theorem isMark_of_read? {cs : List Char} {n : Int} (h : read? cs = some n) :
    ∀ c ∈ cs, isMark c = true := by
  unfold read? at h
  split at h
  all_goals obtain ⟨k, hk, -⟩ := Option.map_eq_some_iff.1 h
  · exact List.forall_mem_cons.2 ⟨rfl, isMark_of_digits? hk⟩
  · exact List.forall_mem_cons.2 ⟨rfl, isMark_of_digits? hk⟩
  · exact isMark_of_digits? hk

end Decimal

theorem Token.classify_of_notMark {text : String} {c : Char} (hc : c ∈ text.toList)
    (hmark : Decimal.isMark c = false) : classify text = .word text := by
  rw [classify]
  cases h : Decimal.read? text.toList with
  | none => rfl
  | some n =>
    rw [Decimal.isMark_of_read? h c hc] at hmark
    cases hmark

/-- A text is not recognized if a part of it is in no base word and in no literal. -/
theorem Machine.effect_of_isInfix {core : List Char} {text : String}
    (hpart : core <:+: text.toList) (hmark : ∃ c ∈ core, Decimal.isMark c = false)
    (hwords : ∀ w ∈ Word.baseWords, ¬ core <:+: w.name.toList) (s : Stack) :
    effect .base text s = .error .unrecognized := by
  obtain ⟨c, hc, hmark⟩ := hmark
  rw [effect, Token.classify_of_notMark (hpart.subset hc) hmark]
  cases h : Vocabulary.base.get? text with
  | none => simp only [h]
  | some w =>
    obtain ⟨hw, rfl⟩ := Vocabulary.mem_baseWords_of_get? h
    exact absurd hpart (hwords w hw)

end Rpn
