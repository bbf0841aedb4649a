import Rpn.Proofs.Frame

/-!
Stacks by their history of pushes and replacements. Looking at the top of a stack and replacing it
go together like reading and writing: what was written is read, writing what was read changes
nothing, and of two writings the second counts. Main statement: these laws hold after every history
and for every count; where a count exceeds the depth nothing is read and all is replaced.
-/

namespace Rpn.Stack

/-- What changes a stack. -/
inductive Edit
  | push (v : Value)
  | replaceTop (n : Nat) (vs : List Value)

/-- What an edit makes of values that are listed from the oldest to the newest. -/
def Edit.onValues (vs : List Value) : Edit → List Value
  | push v => vs ++ [v]
  | replaceTop n results => vs.take (vs.length - n) ++ results

def edit (s : Stack) : Edit → Stack
  | .push v => s.push v
  | .replaceTop n vs => s.replaceTop n vs

def edits (s : Stack) (es : List Edit) : Stack := es.foldl edit s

theorem toList_edit (s : Stack) (e : Edit) : (s.edit e).toList = e.onValues s.toList := by
  cases e with
  | push v => rw [edit, toList_push, Edit.onValues]
  | replaceTop n vs => rw [edit, toList_replaceTop, Edit.onValues, length_toList]

theorem toList_edits (s : Stack) (es : List Edit) :
    (s.edits es).toList = es.foldl Edit.onValues s.toList := by
  induction es generalizing s with
  | nil => rfl
  | cons e es ih =>
    rw [edits, List.foldl_cons, List.foldl_cons, ← toList_edit]
    exact ih (s.edit e)

/-! What is on top. -/

theorem top?_eq_none_iff {s : Stack} {n : Nat} : s.top? n = none ↔ s.depth < n := by
  rw [top?_eq]
  split
  · next h => simpa using h
  · next h => simpa using h

theorem replaceTop_of_lt {s : Stack} {n : Nat} (h : s.depth < n) (results : List Value) :
    s.replaceTop n results = ofList results := by
  apply toList_inj.1
  rw [toList_replaceTop, Nat.sub_eq_zero_of_le (Nat.le_of_lt h), List.take_zero, List.nil_append,
    toList_ofList]

/-- Whatever the count, the replacement stands on what is left of the stack. -/
theorem exists_base (s : Stack) (n : Nat) :
    ∃ base, ∀ results, s.replaceTop n results = ofList (base ++ results) := by
  by_cases h : n ≤ s.depth
  · obtain ⟨base, vs, rfl, rfl⟩ := exists_operands h
    exact ⟨base, replaceTop_ofList base vs⟩
  · exact ⟨[], replaceTop_of_lt (Nat.not_le.1 h)⟩

theorem top?_replaceTop (s : Stack) (n : Nat) (results : List Value) :
    (s.replaceTop n results).top? results.length = some results := by
  obtain ⟨base, hbase⟩ := s.exists_base n
  rw [hbase, top?_ofList]

theorem replaceTop_replaceTop (s : Stack) (n : Nat) (first second : List Value) :
    (s.replaceTop n first).replaceTop first.length second = s.replaceTop n second := by
  obtain ⟨base, hbase⟩ := s.exists_base n
  rw [hbase, hbase, replaceTop_ofList]

/-- After any pushes and replacements a stack holds what the same edits leave in a list. A count
finds nothing on top just if it exceeds the depth, and then a replacement is all that is left;
otherwise it finds that many of the newest values, and a replacement goes on what is below them. The
replacement is found on top afterwards, putting back what was found changes nothing, and putting it
in place of the replacement restores the stack. -/
theorem edits_top_laws (es : List Edit) (n : Nat) (results : List Value) :
    let s := empty.edits es
    let s' := s.replaceTop n results
    s.toList = es.foldl Edit.onValues [] ∧
    (s.top? n = none ↔ s.depth < n) ∧
    (s.depth < n → s'.toList = results) ∧
    (n ≤ s.depth → ∃ base vs, s.top? n = some vs ∧ vs.length = n ∧ s.toList = base ++ vs ∧
      s'.toList = base ++ results ∧ s.replaceTop n vs = s ∧
      s'.replaceTop results.length vs = s) ∧
    s'.top? results.length = some results := by
  intro s s'
  refine ⟨toList_edits empty es, top?_eq_none_iff, fun h => ?_, fun h => ?_,
    top?_replaceTop s n results⟩
  · have hall : s' = ofList results := replaceTop_of_lt h results
    rw [hall, toList_ofList]
  · obtain ⟨base, vs, hs, rfl⟩ := exists_operands h
    have hsame : s.replaceTop vs.length vs = s := by
      rw [hs, replaceTop_ofList]
    refine ⟨base, vs, ?_, rfl, ?_, ?_, hsame, ?_⟩
    · rw [hs, top?_ofList]
    · rw [hs, toList_ofList]
    · have hnew : s' = ofList (base ++ results) := by
        rw [← replaceTop_ofList base vs, ← hs]
      rw [hnew, toList_ofList]
    · exact (replaceTop_replaceTop s vs.length results vs).trans hsame

/-- A count above the depth in the history, and a replacement that is longer than what it is put in
place of. -/
theorem edits_top_laws_saturated :
    let s := empty.edits [.push 1, .push 2, .replaceTop 7 [3, 4, 5]]
    let s' := s.replaceTop 2 [6, 7, 8]
    s.toList = [3, 4, 5] ∧ s'.toList = [3, 6, 7, 8] ∧ s'.top? 3 = some [6, 7, 8] ∧
      s.top? 4 = none ∧ ∃ vs, s.top? 2 = some vs ∧ s'.replaceTop 3 vs = s := by
  intro s s'
  obtain ⟨-, -, -, hdeep, htop⟩ :=
    edits_top_laws [.push 1, .push 2, .replaceTop 7 [3, 4, 5]] 2 [6, 7, 8]
  obtain ⟨base, vs, hvs, -, -, -, -, hback⟩ := hdeep (by decide)
  exact ⟨by decide, by decide, htop, by decide, vs, hvs, hback⟩

end Rpn.Stack
