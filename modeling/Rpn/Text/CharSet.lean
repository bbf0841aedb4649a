import Rpn.Text.Case
import Rpn.Text.Hex
import Rpn.Text.Lines

/-!
Sets of characters. A set is a list of ranges, in order and with gaps between them. Characters are
numbered without a gap where the surrogates would be, so that ranges which touch there are one
range.
-/

namespace Rpn

/-- A range of numbers, both ends included. -/
structure Range where
  lo : Nat
  hi : Nat
  lo_le_hi : lo ≤ hi := by omega
deriving DecidableEq

namespace Range

def mem (r : Range) (n : Nat) : Bool := r.lo ≤ n && n ≤ r.hi

/-- The smallest range that holds both. -/
def cover (r s : Range) : Range :=
  ⟨min r.lo s.lo, max r.hi s.hi, by have := r.lo_le_hi; have := s.lo_le_hi; omega⟩

/-- Neither holds a number of the other, nor the one right after it. -/
def before (r s : Range) : Bool := r.hi + 1 < s.lo

/-- What is left of `r` without `s`. -/
def cut (s r : Range) : List Range :=
  (if h : r.lo < s.lo then [⟨r.lo, min r.hi (s.lo - 1), by have := r.lo_le_hi; omega⟩] else [])
    ++ (if h : s.hi < r.hi then [⟨max r.lo (s.hi + 1), r.hi, by have := r.lo_le_hi; omega⟩] else [])

@[simp] theorem mem_eq_true {r : Range} {n : Nat} : r.mem n = true ↔ r.lo ≤ n ∧ n ≤ r.hi := by
  simp [mem]

theorem mem_cover {r s : Range} (n : Nat) (hr : r.before s = false) (hs : s.before r = false) :
    (r.cover s).mem n = (r.mem n || s.mem n) := by
  have := r.lo_le_hi
  have := s.lo_le_hi
  simp only [before, decide_eq_false_iff_not] at hr hs
  rw [Bool.eq_iff_iff]
  simp only [mem_eq_true, cover, Bool.or_eq_true]
  omega

theorem any_cut (s r : Range) (n : Nat) :
    ((s.cut r).any fun t => t.mem n) = (r.mem n && !s.mem n) := by
  have := r.lo_le_hi
  have := s.lo_le_hi
  rw [Bool.eq_iff_iff]
  simp only [cut, List.any_append, Bool.or_eq_true, Bool.and_eq_true, Bool.not_eq_true', mem,
    Bool.and_eq_false_iff, decide_eq_false_iff_not]
  split <;> split <;> simp <;> omega

end Range

structure CharSet where
  ranges : List Range
deriving DecidableEq

namespace CharSet

/-- The number of characters before `c`. -/
def rank (c : Char) : Nat := if c.toNat < 0xD800 then c.toNat else c.toNat - 0x800

/-- The code point of the character with `n` characters before it. -/
def codePoint (n : Nat) : Nat := if n < 0xD800 then n else n + 0x800

def mem (s : CharSet) (c : Char) : Bool := s.ranges.any fun r => r.mem (rank c)

def empty : CharSet := ⟨[]⟩

def all : CharSet := ⟨[⟨0, 0x10F7FF, by decide⟩]⟩

/-- Puts a range among others, and joins it with those that it touches. -/
def insertRange (r : Range) : List Range → List Range
  | [] => [r]
  | s :: ss =>
    if r.before s then r :: s :: ss
    else if s.before r then s :: insertRange r ss
    else insertRange (r.cover s) ss

def insert (s : CharSet) (r : Range) : CharSet := ⟨insertRange r s.ranges⟩

/-- All characters from `a` to `b`, which may stand in either order. -/
def range (a b : Char) : Range :=
  ⟨min (rank a) (rank b), max (rank a) (rank b), by omega⟩

def ofRanges (rs : List Range) : CharSet := ⟨rs.foldr insertRange []⟩

def single (c : Char) : CharSet := ⟨[range c c]⟩

def ofChars (cs : List Char) : CharSet := ofRanges (cs.map fun c => range c c)

def ofPairs (ps : List (Char × Char)) : CharSet := ofRanges (ps.map fun p => range p.1 p.2)

def ofCodePoints (ps : List (Nat × Nat)) : CharSet :=
  ofPairs (ps.map fun p => (Char.ofNat p.1, Char.ofNat p.2))

/-- Puts `r` in its place among ranges in order; `rest` goes on with those after it. -/
def mergeOne (r : Range) (rest : List Range → List Range) : List Range → List Range
  | [] => r :: rest []
  | s :: ss => if r.lo ≤ s.lo then r :: rest (s :: ss) else s :: mergeOne r rest ss

/-- All ranges of two lists, in order if these are. -/
def merge : List Range → List Range → List Range
  | [], ss => ss
  | r :: rs, ss => mergeOne r (merge rs) ss

def union (s t : CharSet) : CharSet := ofRanges (merge s.ranges t.ranges)

def unionOf (sets : List CharSet) : CharSet := sets.foldl union empty

def diff (s t : CharSet) : CharSet := ⟨t.ranges.foldl (fun rs r => rs.flatMap r.cut) s.ranges⟩

def compl (s : CharSet) : CharSet := all.diff s

def inter (s t : CharSet) : CharSet := s.diff t.compl

def symmDiff (s t : CharSet) : CharSet := (s.diff t).union (t.diff s)

def isAscii (s : CharSet) : Bool := s.ranges.all fun r => r.hi < 128

/-- The only member, if there is just one. -/
def only? (s : CharSet) : Option Char :=
  match s.ranges with
  | [r] => if r.lo = r.hi then some (Char.ofNat (codePoint r.lo)) else none
  | _ => none

/-- The members of a row of code points, moved by the row's shift, one way or the other. -/
def shifted (s : CharSet) (row : Text.Case.Row) : List Range :=
  row.sources.flatMap fun n =>
    let a := Char.ofNat n
    let b := Char.ofNat (row.apply n)
    (if s.mem a then [range b b] else []) ++ (if s.mem b then [range a a] else [])

/-- The characters that differ from a member at most in case. What a character folds to has been
added by the first step, what folds to it by the second. -/
def folded (s : CharSet) : CharSet :=
  let step (s : CharSet) := (ofRanges (Text.Case.rows.flatMap s.shifted)).union s
  step (step s)

/-- The same for the letters of ASCII only. -/
def foldedAscii (s : CharSet) : CharSet :=
  (ofRanges (s.shifted Text.Case.ascii)).union s

/-- Reads a part of a table: `41-5A` is a range of code points, `100/12E` every second one of a
range, and `AA` a single one. -/
def tableEntry (cs : List Char) : List (Nat × Nat) :=
  let lo := Text.Hex.value (cs.takeWhile Text.Hex.isDigit)
  match cs.dropWhile Text.Hex.isDigit with
  | '-' :: hi => [(lo, Text.Hex.value hi)]
  | '/' :: hi =>
    (List.range ((Text.Hex.value hi - lo) / 2 + 1)).map fun i => (lo + 2 * i, lo + 2 * i)
  | _ => [(lo, lo)]

/-- The set that the lines of a table describe; there is a blank between two parts. -/
def ofTable (lines : List String) : CharSet :=
  ofCodePoints (lines.flatMap fun line =>
    let parts := Text.Lines.split ' ' line.toList
    (parts.complete ++ [parts.rest]).flatMap tableEntry)

theorem any_insertRange (r : Range) (rs : List Range) (n : Nat) :
    ((insertRange r rs).any fun t => t.mem n) = (r.mem n || rs.any fun t => t.mem n) := by
  induction rs generalizing r with
  | nil => simp [insertRange]
  | cons s ss ih =>
    unfold insertRange
    split
    · simp
    · split
      · simp [ih, Bool.or_left_comm]
      · simp_all [Range.mem_cover, Bool.or_assoc]

@[simp] theorem mem_empty (c : Char) : empty.mem c = false := rfl

theorem rank_lt (c : Char) : rank c < 0x10F800 := by
  have h := c.valid
  simp only [UInt32.isValidChar, Nat.isValidChar] at h
  simp only [rank, Char.toNat]
  split <;> omega

@[simp] theorem mem_all (c : Char) : all.mem c = true := by
  have := rank_lt c
  simp [all, mem]
  omega

theorem rank_inj {c d : Char} (h : rank c = rank d) : c = d := by
  have hc := c.valid
  have hd := d.valid
  simp only [UInt32.isValidChar, Nat.isValidChar] at hc hd
  simp only [rank, Char.toNat] at h
  apply Char.ext
  apply UInt32.toNat_inj.1
  split at h <;> split at h <;> omega

@[simp] theorem mem_single (c d : Char) : (single c).mem d = decide (d = c) := by
  rw [Bool.eq_iff_iff]
  simp only [single, mem, range, List.any_cons, List.any_nil, Bool.or_false, Range.mem_eq_true,
    decide_eq_true_eq]
  exact ⟨fun h => rank_inj (by omega), fun h => by subst h; omega⟩

theorem mem_ofRanges (rs : List Range) (c : Char) :
    (ofRanges rs).mem c = rs.any fun r => r.mem (rank c) := by
  unfold ofRanges mem
  induction rs with
  | nil => rfl
  | cons r rs ih => simp [any_insertRange, ih]

@[simp] theorem mem_ofChars (cs : List Char) (c : Char) :
    (ofChars cs).mem c = decide (c ∈ cs) := by
  rw [ofChars, mem_ofRanges]
  induction cs with
  | nil => rfl
  | cons d ds ih =>
    have h := mem_single d c
    simp only [single, mem, List.any_cons, List.any_nil, Bool.or_false] at h
    simp [ih, h]

theorem any_merge (p : Range → Bool) (rs ss : List Range) :
    (merge rs ss).any p = (rs.any p || ss.any p) := by
  induction rs generalizing ss with
  | nil => rfl
  | cons r rs ih =>
    simp only [merge]
    induction ss with
    | nil => simp [mergeOne, ih]
    | cons s ss ih' =>
      unfold mergeOne
      split
      · simp [ih, Bool.or_assoc]
      · simp only [List.any_cons, ih', Bool.or_left_comm]

@[simp] theorem mem_union (s t : CharSet) (c : Char) :
    (s.union t).mem c = (s.mem c || t.mem c) := by
  rw [union, mem_ofRanges, any_merge, mem, mem]

@[simp] theorem mem_diff (s t : CharSet) (c : Char) :
    (s.diff t).mem c = (s.mem c && !t.mem c) := by
  obtain ⟨rs⟩ := s
  obtain ⟨ts⟩ := t
  unfold diff mem
  induction ts generalizing rs with
  | nil => simp
  | cons t ts ih =>
    have h : ((rs.flatMap t.cut).any fun r => r.mem (rank c))
        = ((rs.any fun r => r.mem (rank c)) && !t.mem (rank c)) := by
      induction rs with
      | nil => rfl
      | cons r rs ih =>
        rw [List.flatMap_cons, List.any_append, Range.any_cut, ih, List.any_cons,
          Bool.and_or_distrib_right]
    simp only [List.foldl_cons, List.any_cons] at ih ⊢
    rw [ih, h, Bool.not_or, Bool.and_assoc]

@[simp] theorem mem_compl (s : CharSet) (c : Char) : s.compl.mem c = !s.mem c := by
  simp [compl]

@[simp] theorem mem_inter (s t : CharSet) (c : Char) :
    (s.inter t).mem c = (s.mem c && t.mem c) := by
  simp [inter]

@[simp] theorem mem_symmDiff (s t : CharSet) (c : Char) :
    (s.symmDiff t).mem c = (s.mem c != t.mem c) := by
  cases h : s.mem c <;> cases h' : t.mem c <;> simp [symmDiff, h, h']

end CharSet
end Rpn
