import Rpn.Pattern.Basic
import Rpn.Pattern.Places

/-!
Patterns as programs. A program is a list of instructions; a thread is the place of one, and all
threads read the line together, one character at a time. They are kept in the order of preference,
and a place is entered once for each character. Therefore the work for a character is bounded by
the length of the program.
-/

namespace Rpn.Pattern

inductive Instr
  | one (s : CharSet)
  | look (l : Look)
  /-- Goes on in two places, the first preferred. -/
  | fork (first second : Nat)
  | jump (target : Nat)
  | accept
deriving DecidableEq

abbrev Program := Array Instr

/-- Goes on at `inner`, or else at `outer`; a reluctant repetition prefers `outer`. -/
def Instr.choice (reluctant : Bool) (inner outer : Nat) : Instr :=
  if reluctant then .fork outer inner else .fork inner outer

/-- The number of instructions for a pattern. -/
def codeSize : Pattern → Nat
  | empty => 0
  | text cs => cs.length
  | set _ => 1
  | look _ => 1
  | group _ p => p.codeSize
  | seq p q => p.codeSize + q.codeSize
  | alt p q => p.codeSize + q.codeSize + 2
  | times least (some most) _ p => least * p.codeSize + (most - least) * (p.codeSize + 1)
  | times 0 none _ p => p.codeSize + 2
  | times (n + 1) none _ p => (n + 1) * p.codeSize + 1

/-- Appends the code of a pattern. It is left at its end only.

The repetition of a pattern that always reads something is decided in one place. If it may read
nothing, that place could not be entered again before a character is read, so the first decision
has a place of its own. -/
def emit : Pattern → Program → Program
  | empty, code => code
  | text cs, code => cs.foldl (fun code c => code.push (.one (.single c))) code
  | set s, code => code.push (.one s)
  | look l, code => code.push (.look l)
  | group _ p, code => emit p code
  | seq p q, code => emit q (emit p code)
  | alt p q, code =>
    let second := code.size + p.codeSize + 2
    let code := emit p (code.push (.fork (code.size + 1) second))
    emit q (code.push (.jump (second + q.codeSize)))
  | times least (some most) reluctant p, code =>
    let code := Nat.repeat (emit p) least code
    let finish := code.size + (most - least) * (p.codeSize + 1)
    Nat.repeat (fun code => emit p (code.push (.choice reluctant (code.size + 1) finish)))
      (most - least) code
  | times 0 none reluctant p, code =>
    let body := code.size + 1
    let finish := body + p.codeSize + 1
    let again := if p.reads then .jump code.size else .choice reluctant body finish
    (emit p (code.push (.choice reluctant body finish))).push again
  | times (n + 1) none reluctant p, code =>
    let code := Nat.repeat (emit p) n code
    let body := code.size
    (emit p code).push (.choice reluctant body (body + p.codeSize + 1))

theorem size_repeat {f : Program → Program} {k : Nat} (hf : ∀ code, (f code).size = code.size + k)
    (n : Nat) (code : Program) : (Nat.repeat f n code).size = code.size + n * k := by
  induction n with
  | zero => simp [Nat.repeat]
  | succ n ih => rw [Nat.repeat, hf, ih, Nat.succ_mul, Nat.add_assoc]

theorem size_foldl_push (cs : List Char) (code : Program) :
    (cs.foldl (fun code c => code.push (.one (.single c))) code).size = code.size + cs.length := by
  induction cs generalizing code with
  | nil => rfl
  | cons c cs ih => rw [List.foldl_cons, ih, Array.size_push, List.length_cons]; omega

@[simp] theorem size_emit (p : Pattern) (code : Program) :
    (emit p code).size = code.size + p.codeSize := by
  induction p generalizing code with
  | empty => rfl
  | text cs => exact size_foldl_push cs code
  | set s => exact Array.size_push ..
  | look l => exact Array.size_push ..
  | group _ p ih => exact ih code
  | seq p q ihp ihq => simp only [emit, codeSize, ihq, ihp, Nat.add_assoc]
  | alt p q ihp ihq =>
    simp only [emit, codeSize, ihq, ihp, Array.size_push]
    omega
  | times least most reluctant p ih =>
    match least, most with
    | least, some most =>
      have hstep (finish : Nat) (code : Program) :
          (emit p (code.push (.choice reluctant (code.size + 1) finish))).size
            = code.size + (p.codeSize + 1) := by
        rw [ih, Array.size_push]
        omega
      simp only [emit, codeSize, size_repeat ih, size_repeat (hstep _), Nat.add_assoc]
    | 0, none =>
      simp only [emit, codeSize, Array.size_push, ih]
      omega
    | n + 1, none =>
      simp only [emit, codeSize, Array.size_push, ih, size_repeat ih, Nat.succ_mul]
      omega

def compile (p : Pattern) : Program := (emit p #[]).push .accept

/-- The places that wait for a character, in the order of preference, and whether one accepts that
comes after them. -/
structure Threads where
  places : List Nat
  accepted : Bool

namespace Program

/-- Enters places, and from each all places reached without reading a character, unless that has
happened before. Found places stand in reverse order. What comes after a place that accepts is not
preferred to it, and left out. -/
def enter (p : Program) (before after : Option Char) :
    Nat → Places → List Nat → List Nat → Threads
  | 0, _, found, _ => ⟨found.reverse, false⟩
  | _, _, found, [] => ⟨found.reverse, false⟩
  | fuel + 1, seen, found, place :: todo =>
    if seen.mem place then enter p before after fuel seen found todo
    else
      let seen := seen.insert place
      match p[place]? with
      | some (.one _) => enter p before after fuel seen (place :: found) todo
      | some (.look l) =>
        enter p before after fuel seen found
          (if l.holds before after then (place + 1) :: todo else todo)
      | some (.fork first second) =>
        enter p before after fuel seen found (first :: second :: todo)
      | some (.jump target) => enter p before after fuel seen found (target :: todo)
      | some .accept => ⟨found.reverse, true⟩
      | none => enter p before after fuel seen found todo

/-- The threads that start at `starts`. A place is entered once and leads to two others at most. -/
def threads (p : Program) (before after : Option Char) (starts : List Nat) : Threads :=
  p.enter before after (2 * p.size + starts.length + 1) (.empty p.size) [] starts

/-- Where a thread goes on after reading `c`. -/
def read? (p : Program) (c : Char) (place : Nat) : Option Nat :=
  match p[place]? with
  | some (.one s) => if s.mem c then some (place + 1) else none
  | _ => none

/-- The length of the preferred match at the start of `rest`, for threads that start at `starts`.
-/
def matchLength? (p : Program) (starts : List Nat) (before : Option Char) :
    (rest : List Char) → Option Nat
  | [] => if (p.threads before none starts).accepted then some 0 else none
  | c :: cs =>
    let threads := p.threads before (some c) starts
    let here := if threads.accepted then some 0 else none
    match threads.places.filterMap (p.read? c) with
    | [] => here
    | next =>
      match matchLength? p next (some c) cs with
      | some n => some (n + 1)
      | none => here

/-- The first match: how many characters come before it, and its length. -/
def find? (p : Program) (before : Option Char) (rest : List Char) : Option (Nat × Nat) :=
  match p.matchLength? [0] before rest with
  | some n => some (0, n)
  | none =>
    match rest with
    | [] => none
    | c :: cs => (find? p (some c) cs).map fun (skipped, n) => (skipped + 1, n)

theorem matchLength?_le {p : Program} {starts : List Nat} {before : Option Char}
    {rest : List Char} {n : Nat} (h : p.matchLength? starts before rest = some n) :
    n ≤ rest.length := by
  induction rest generalizing starts before n with
  | nil =>
    unfold matchLength? at h
    split at h
    · exact Nat.le_of_eq (Option.some.inj h).symm
    · cases h
  | cons c cs ih =>
    have here : ∀ {b : Bool}, (if b then some 0 else none) = some n → n ≤ (c :: cs).length := by
      intro b hb
      split at hb
      · exact Option.some.inj hb ▸ Nat.zero_le _
      · cases hb
    simp only [matchLength?] at h
    split at h
    · exact here h
    · split at h
      · next hm =>
        obtain rfl := Option.some.inj h
        exact Nat.succ_le_succ (ih hm)
      · exact here h

theorem find?_le {p : Program} {before : Option Char} {rest : List Char} {skipped n : Nat}
    (h : p.find? before rest = some (skipped, n)) : skipped + n ≤ rest.length := by
  induction rest generalizing before skipped n with
  | nil =>
    unfold find? at h
    split at h
    · next hm =>
      cases h
      simpa using matchLength?_le hm
    · cases h
  | cons c cs ih =>
    unfold find? at h
    split at h
    · next hm =>
      cases h
      simpa using matchLength?_le hm
    · obtain ⟨⟨k, m⟩, hf, he⟩ := Option.map_eq_some_iff.1 h
      cases he
      have := ih hf
      simp only [List.length_cons]
      omega

end Program
end Rpn.Pattern
