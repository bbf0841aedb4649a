import Mathlib.Data.List.Induction
import Rpn.Proofs.ByteOrder
import Rpn.Proofs.Words

/-!
Vocabularies by their history. Words are registered one by one or in the groups of the base
vocabulary, any number of times. Main statement: a vocabulary holds the word registered last under
each name, and lists these words by the bytes of their names, whatever order they are kept in.
-/

namespace Rpn

namespace Word

variable {π ρ : Type}

/-- The same word, computed by what stands for its primitive. -/
def map (f : π → ρ) (w : Word π) : Word ρ :=
  ⟨w.name, w.arity, f w.primitive, w.description, w.signature⟩

/-- The bytes of the name. -/
def key (w : Word π) : List UInt8 := Text.encode w.name.toList

theorem key_lt_key_iff {v w : Word π} : v.key < w.key ↔ v.name < w.name :=
  Text.encode_toList_lt_iff

theorem key_le_key_iff {v w : Word π} : v.key ≤ w.key ↔ v.name ≤ w.name := by
  rw [← List.not_lt, key_lt_key_iff, String.not_lt]

/-- The word inserted last under a name. -/
def IsLast (ws : List (Word π)) (name : String) (w : Word π) : Prop :=
  ∃ before after, ws = before ++ w :: after ∧ w.name = name ∧ ∀ v ∈ after, v.name ≠ name

/-- Tables after words were inserted. A word takes the place of one with the same name, and each
time the table may be in another order. -/
inductive IsTable : List (Word π) → List (Word π) → Prop
  | empty : IsTable [] []
  | insert {ws table table' : List (Word π)} (w : Word π) (h : IsTable ws table)
      (hperm : table'.Perm (w :: table.filter (·.name ≠ w.name))) :
      IsTable (ws ++ [w]) table'

theorem find?_reverse_eq_some_iff {ws : List (Word π)} {name : String} {w : Word π} :
    ws.reverse.find? (·.name == name) = some w ↔ IsLast ws name w := by
  rw [List.find?_eq_some_iff_append]
  constructor
  · rintro ⟨hname, before, after, hsplit, hbefore⟩
    refine ⟨after.reverse, before.reverse, ?_, by simpa using hname, ?_⟩
    · rw [← List.reverse_reverse ws, hsplit]
      simp
    · intro v hv
      simpa using hbefore v (List.mem_reverse.1 hv)
  · rintro ⟨before, after, hsplit, hname, hafter⟩
    refine ⟨by simpa using hname, after.reverse, before.reverse, ?_, ?_⟩
    · rw [hsplit]
      simp
    · intro v hv
      simpa using hafter v (List.mem_reverse.1 hv)

end Word

open Word

/-- What adds words to a vocabulary. -/
inductive Registration (π : Type)
  | insert (w : Word π)
  | stackWords
  | arithmeticWords
  | baseWords

variable {π : Type} (native : Primitive → π)

/-- The words that are inserted, in that order; `native` is what computes for the primitives. -/
def Registration.words : Registration π → List (Word π)
  | .insert w => [w]
  | .stackWords => Word.stackWords.map (Word.map native)
  | .arithmeticWords => Word.arithmeticWords.map (Word.map native)
  | .baseWords => Word.baseWords.map (Word.map native)

/-- The words that one registration after the other inserts. -/
def Registration.inserted (rs : List (Registration π)) : List (Word π) :=
  rs.flatMap (words native)

namespace Vocabulary

def register (V : Vocabulary π) : Registration π → Vocabulary π
  | .insert w => V.insert w
  | .stackWords => V.insertAll (Word.stackWords.map (Word.map native))
  | .arithmeticWords => V.insertAll (Word.arithmeticWords.map (Word.map native))
  | .baseWords =>
    (V.insertAll (Word.stackWords.map (Word.map native))).insertAll
      (Word.arithmeticWords.map (Word.map native))

def registerAll (V : Vocabulary π) (rs : List (Registration π)) : Vocabulary π :=
  rs.foldl (register native) V

theorem insertAll_append (V : Vocabulary π) (ws ws' : List (Word π)) :
    V.insertAll (ws ++ ws') = (V.insertAll ws).insertAll ws' :=
  List.foldl_append

theorem register_eq (V : Vocabulary π) (r : Registration π) :
    V.register native r = V.insertAll (r.words native) := by
  cases r with
  | insert w => rfl
  | stackWords => rfl
  | arithmeticWords => rfl
  | baseWords =>
    rw [register, Registration.words, Word.baseWords, List.map_append, insertAll_append]

theorem registerAll_eq (V : Vocabulary π) (rs : List (Registration π)) :
    V.registerAll native rs = V.insertAll (Registration.inserted native rs) := by
  induction rs generalizing V with
  | nil => rfl
  | cons r rs ih =>
    rw [Registration.inserted, List.flatMap_cons, insertAll_append, ← register_eq,
      ← Registration.inserted, ← ih]
    rfl

/-! A vocabulary is its look-up. -/

theorem mem_words_iff {V : Vocabulary π} {w : Word π} :
    w ∈ V.words ↔ V.get? w.name = some w := by
  constructor
  · intro hw
    obtain ⟨before, after, hsplit⟩ := List.append_of_mem hw
    refine List.find?_eq_some_iff_append.2 ⟨by simp, before, after, hsplit, fun v hv => ?_⟩
    have hsorted := V.sorted
    rw [hsplit, List.pairwise_append] at hsorted
    have hlt : v.name < w.name := hsorted.2.2 v hv w List.mem_cons_self
    simpa using String.ne_of_lt hlt
  · exact List.mem_of_find?_eq_some

theorem eq_of_mem_words {V : Vocabulary π} {v w : Word π} (hv : v ∈ V.words) (hw : w ∈ V.words)
    (hname : v.name = w.name) : v = w := by
  rw [mem_words_iff] at hv hw
  rw [hname, hw] at hv
  exact (Option.some.inj hv).symm

theorem nodup_words (V : Vocabulary π) : V.words.Nodup := by
  apply V.sorted.imp
  rintro v w hlt rfl
  exact String.lt_irrefl _ hlt

theorem pairwise_key_le (V : Vocabulary π) : V.words.Pairwise fun v w => v.key ≤ w.key :=
  V.sorted.imp fun hlt => List.le_of_lt (key_lt_key_iff.2 hlt)

/-- There is one way only to put the words in order. -/
theorem eq_words_of_perm {V : Vocabulary π} {ws : List (Word π)} (hperm : ws.Perm V.words)
    (hsorted : ws.Pairwise fun v w => v.key ≤ w.key) : ws = V.words := by
  apply List.Perm.eq_of_pairwise _ hsorted V.pairwise_key_le hperm
  intro v w hv hw hvw hwv
  apply eq_of_mem_words (hperm.subset hv) hw
  exact String.le_antisymm (key_le_key_iff.1 hvw) (key_le_key_iff.1 hwv)

theorem words_eq_of_get? {V W : Vocabulary π} (h : ∀ name, V.get? name = W.get? name) :
    V.words = W.words := by
  apply eq_words_of_perm _ V.pairwise_key_le
  rw [List.perm_ext_iff_of_nodup V.nodup_words W.nodup_words]
  intro w
  rw [mem_words_iff, mem_words_iff, h]

/-! Tables hold the words of the vocabulary. -/

theorem mergeSort_eq_words {V : Vocabulary π} {table : List (Word π)}
    (hperm : table.Perm V.words) :
    (table.mergeSort fun v w => v.key ≤ w.key) = V.words := by
  apply eq_words_of_perm ((List.mergeSort_perm _ _).trans hperm)
  have hsorted : (table.mergeSort fun v w => v.key ≤ w.key).Pairwise
      fun v w => decide (v.key ≤ w.key) = true := by
    apply List.pairwise_mergeSort
    · intro u v w huv hvw
      rw [decide_eq_true_eq] at huv hvw ⊢
      exact List.le_trans huv hvw
    · intro v w
      simpa using List.le_total v.key w.key
  simpa using hsorted

theorem find?_eq_get? {V : Vocabulary π} {table : List (Word π)} (hperm : table.Perm V.words)
    (name : String) : table.find? (·.name == name) = V.get? name := by
  cases hfind : table.find? (·.name == name) with
  | none =>
    refine (List.find?_eq_none.2 fun w hw => ?_).symm
    exact List.find?_eq_none.1 hfind w (hperm.symm.subset hw)
  | some w =>
    have hw := hperm.subset (List.mem_of_find?_eq_some hfind)
    have hname : w.name = name := by simpa using List.find?_some hfind
    rw [← hname, mem_words_iff.1 hw]

theorem perm_words_insert (V : Vocabulary π) (w : Word π) :
    (V.insert w).words.Perm (w :: V.words.filter (·.name ≠ w.name)) := by
  have hnodup : (w :: V.words.filter (·.name ≠ w.name)).Nodup := by
    refine List.nodup_cons.2 ⟨?_, V.nodup_words.filter _⟩
    simp
  -- Neither list has a word twice, so that the same words are in both is enough.
  rw [List.perm_ext_iff_of_nodup (V.insert w).nodup_words hnodup]
  intro v
  rw [mem_words_iff, get?_insert, List.mem_cons, List.mem_filter, mem_words_iff]
  by_cases hname : w.name = v.name
  · simp [hname, eq_comm]
  · have hne : v ≠ w := fun heq => hname (heq ▸ rfl)
    simp [hname, hne, Ne.symm hname]

theorem insertAll_concat (V : Vocabulary π) (ws : List (Word π)) (w : Word π) :
    V.insertAll (ws ++ [w]) = (V.insertAll ws).insert w :=
  insertAll_append V ws [w]

theorem perm_words_of_isTable {ws table : List (Word π)} (h : IsTable ws table) :
    table.Perm (empty.insertAll ws).words := by
  induction h with
  | empty => exact .nil
  | insert w _ hperm ih =>
    rw [insertAll_concat]
    exact (hperm.trans ((ih.filter _).cons w)).trans (perm_words_insert _ w).symm

theorem isTable_words (ws : List (Word π)) :
    IsTable ws (empty.insertAll ws).words := by
  induction ws using List.reverseRecOn with
  | nil => exact .empty
  | append_singleton ws w ih =>
    rw [insertAll_concat]
    exact .insert w ih (perm_words_insert _ w)

/-! What was ws last. -/

theorem get?_eq_some_iff_isLast {ws : List (Word π)} {name : String} {w : Word π} :
    (empty.insertAll ws).get? name = some w ↔ IsLast ws name w := by
  rw [get?_insertAll, get?_empty, Option.or_none, find?_reverse_eq_some_iff]

theorem get?_eq_none_iff {ws : List (Word π)} {name : String} :
    (empty.insertAll ws).get? name = none ↔ ∀ w ∈ ws, w.name ≠ name := by
  rw [get?_insertAll, get?_empty, Option.or_none, List.find?_eq_none]
  simp

theorem mem_names_iff {ws : List (Word π)} {name : String} :
    name ∈ (empty.insertAll ws).words.map Word.name ↔ name ∈ ws.map Word.name := by
  have hnone : ((empty.insertAll ws).get? name = none) ↔ ∀ w ∈ ws, w.name ≠ name :=
    get?_eq_none_iff
  rw [get?, List.find?_eq_none] at hnone
  simpa using not_congr hnone

theorem nodup_names (V : Vocabulary π) : (V.words.map Word.name).Nodup :=
  List.pairwise_map.2 (V.sorted.imp String.ne_of_lt)

theorem count_names (ws : List (Word π)) (name : String) :
    ((empty.insertAll ws).words.map Word.name).count name =
      if name ∈ ws.map Word.name then 1 else 0 := by
  rw [(nodup_names _).count]
  exact if_congr mem_names_iff rfl rfl

theorem get?_register_baseWords (V : Vocabulary π) (name : String) :
    (V.register native .baseWords).get? name =
      ((base.get? name).map (Word.map native)).or (V.get? name) := by
  rw [register_eq, get?_insertAll, Registration.words, ← List.map_reverse, List.find?_map,
    get?_base]
  rfl

/-- Whatever was registered, a look-up gives the word inserted last under that name. Each name is
listed once, with this word, and the bytes of the names ascend. A table of the words, in whatever
order it is kept, has the same look-up and size, and sorting it gives the same list. Hence what was
inserted last under each name decides on the list, and registering the base words changes nothing
under other names. -/
theorem registerAll_last (rs : List (Registration π)) :
    let ws := Registration.inserted native rs
    let V := empty.registerAll native rs
    (∀ name w, V.get? name = some w ↔ IsLast ws name w) ∧
    (∀ name, V.get? name = none ↔ ∀ w ∈ ws, w.name ≠ name) ∧
    (∀ w, w ∈ V.words ↔ IsLast ws w.name w) ∧
    (∀ name, (V.words.map Word.name).count name = if name ∈ ws.map Word.name then 1 else 0) ∧
    V.words.Pairwise (fun v w => v.key < w.key) ∧
    V.size = V.words.length ∧ (V.isEmpty ↔ V.size = 0) ∧
    IsTable ws V.words ∧
    (∀ table, IsTable ws table →
      (∀ name, table.find? (·.name == name) = V.get? name) ∧ table.length = V.size ∧
        (table.mergeSort fun v w => v.key ≤ w.key) = V.words) ∧
    (∀ rs', (∀ name w, IsLast (Registration.inserted native rs') name w ↔ IsLast ws name w) →
      (empty.registerAll native rs').words = V.words) ∧
    (∀ w ∈ Word.baseWords, (V.register native .baseWords).get? w.name = some (w.map native)) ∧
    (∀ name, (∀ w ∈ Word.baseWords, w.name ≠ name) →
      (V.register native .baseWords).get? name = V.get? name) := by
  intro ws V
  have hV : V = empty.insertAll ws := registerAll_eq native empty rs
  refine ⟨?_, ?_, ?_, ?_, ?_, rfl, ?_, ?_, ?_, ?_, ?_, ?_⟩
  · intro name w
    rw [hV, get?_eq_some_iff_isLast]
  · intro name
    rw [hV, get?_eq_none_iff]
  · intro w
    rw [mem_words_iff, hV, get?_eq_some_iff_isLast]
  · intro name
    rw [hV, count_names]
  · exact V.sorted.imp key_lt_key_iff.2
  · simp [isEmpty, size]
  · rw [hV]
    exact isTable_words ws
  · intro table htable
    have hperm := perm_words_of_isTable htable
    rw [← hV] at hperm
    exact ⟨find?_eq_get? hperm, hperm.length_eq, mergeSort_eq_words hperm⟩
  · intro rs' hsame
    apply words_eq_of_get?
    intro name
    rw [hV, registerAll_eq]
    apply Option.ext
    intro w
    rw [get?_eq_some_iff_isLast, get?_eq_some_iff_isLast, hsame]
  · intro w hw
    rw [get?_register_baseWords, get?_base_of_mem w hw]
    rfl
  · intro name hname
    have hbase : base.get? name = none := get?_eq_none_iff.2 hname
    rw [get?_register_baseWords, hbase]
    rfl

/-- Beyond the first 65536 code points the order is still that of the code points. -/
example : ((empty : Vocabulary).registerAll id
      [.insert ⟨"𝄞", 0, .drop, "", "--"⟩, .insert ⟨"ﬀ", 1, .dup, "", ""⟩,
        .insert ⟨"𝄞", 2, .add, "", ""⟩]).words =
    [⟨"ﬀ", 1, .dup, "", ""⟩, ⟨"𝄞", 2, .add, "", ""⟩] := by
  decide

end Vocabulary
end Rpn
