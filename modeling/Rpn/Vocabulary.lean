import Rpn.Word

/-!
Vocabularies: words by name, one for each name, in the order of their names. Main statements: a
look-up gives the word inserted last under that name, and the names ascend strictly.
-/

namespace Rpn

/-- Words in the order of their names; code points decide. -/
structure Vocabulary (π : Type := Primitive) where
  words : List (Word π)
  sorted : words.Pairwise fun v w => v.name < w.name

namespace Vocabulary

variable {π : Type}

/-- Puts a word where its name belongs, in place of a word of the same name. -/
def place (w : Word π) : List (Word π) → List (Word π)
  | [] => [w]
  | v :: vs =>
    if w.name < v.name then w :: v :: vs
    else if w.name = v.name then w :: vs
    else v :: place w vs

theorem mem_place {w v : Word π} {vs : List (Word π)} (h : v ∈ place w vs) : v = w ∨ v ∈ vs := by
  induction vs with
  | nil => simpa [place] using h
  | cons u vs ih =>
    unfold place at h
    split at h
    · simpa using h
    · split at h
      · exact (List.mem_cons.1 h).imp_right (List.mem_cons_of_mem u)
      · rcases List.mem_cons.1 h with rfl | h
        · exact .inr List.mem_cons_self
        · exact (ih h).imp_right (List.mem_cons_of_mem u)

theorem pairwise_place (w : Word π) {vs : List (Word π)}
    (h : vs.Pairwise fun v w => v.name < w.name) :
    (place w vs).Pairwise fun v w => v.name < w.name := by
  induction vs with
  | nil => simp [place]
  | cons u vs ih =>
    obtain ⟨hu, hvs⟩ := List.pairwise_cons.1 h
    unfold place
    split
    · next hlt =>
      refine List.pairwise_cons.2 ⟨fun v hv => ?_, h⟩
      rcases List.mem_cons.1 hv with rfl | hv
      · exact hlt
      · exact String.lt_trans hlt (hu v hv)
    · next hlt =>
      split
      · next heq => exact List.pairwise_cons.2 ⟨fun v hv => heq ▸ hu v hv, hvs⟩
      · next hne =>
        refine List.pairwise_cons.2 ⟨fun v hv => ?_, ih hvs⟩
        rcases mem_place hv with rfl | hv
        · exact String.not_le.1 fun hle => hne (String.le_antisymm hle (String.not_lt.1 hlt))
        · exact hu v hv

def empty : Vocabulary π := ⟨[], .nil⟩

def insert (V : Vocabulary π) (w : Word π) : Vocabulary π :=
  ⟨place w V.words, pairwise_place w V.sorted⟩

def insertAll (V : Vocabulary π) (ws : List (Word π)) : Vocabulary π :=
  ws.foldl insert V

def get? (V : Vocabulary π) (name : String) : Option (Word π) :=
  V.words.find? (·.name == name)

def size (V : Vocabulary π) : Nat := V.words.length

def isEmpty (V : Vocabulary π) : Bool := V.words.isEmpty

/-- The vocabulary that every machine starts with. -/
def base : Vocabulary := empty.insertAll Word.baseWords

@[simp] theorem get?_empty (name : String) : (empty : Vocabulary π).get? name = none := rfl

theorem find?_place (w : Word π) (vs : List (Word π)) (name : String)
    (h : vs.Pairwise fun v w => v.name < w.name) :
    (place w vs).find? (·.name == name) =
      if w.name = name then some w else vs.find? (·.name == name) := by
  induction vs with
  | nil => by_cases hw : w.name = name <;> simp [place, hw]
  | cons u vs ih =>
    obtain ⟨hu, hvs⟩ := List.pairwise_cons.1 h
    unfold place
    split
    · by_cases hw : w.name = name <;> simp [hw]
    · split
      · next heq => by_cases hw : w.name = name <;> simp [hw, ← heq]
      · next hne =>
        by_cases hun : u.name = name
        · have hw : w.name ≠ name := fun hw => hne (hw.trans hun.symm)
          simp [hun, hw]
        · simp [hun, ih hvs]

theorem get?_insert (V : Vocabulary π) (w : Word π) (name : String) :
    (V.insert w).get? name = if w.name = name then some w else V.get? name :=
  find?_place w V.words name V.sorted

end Vocabulary
end Rpn
