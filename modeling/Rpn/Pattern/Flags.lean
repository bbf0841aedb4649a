import Rpn.Pattern.Error
import Rpn.Text.Blank
import Rpn.Text.CharSet

/-!
Flags: what the text of a pattern means, from the place on where they are set to the end of the
group.
-/

namespace Rpn.Pattern

inductive Flag
  | ignoreCase
  | multiLine
  | dotAll
  | swapGreed
  | unicode
  | crlf
  | verbose
deriving DecidableEq

def Flag.ofChar? : Char → Option Flag
  | 'i' => some ignoreCase
  | 'm' => some multiLine
  | 's' => some dotAll
  | 'U' => some swapGreed
  | 'u' => some unicode
  | 'R' => some crlf
  | 'x' => some verbose
  | _ => none

structure Flags where
  ignoreCase : Bool
  /-- `^` and `$` match at the ends of lines too. -/
  multiLine : Bool
  /-- `.` matches a newline too. -/
  dotAll : Bool
  /-- Repetitions are reluctant, unless a `?` follows. -/
  swapGreed : Bool
  /-- Classes and letter case are not limited to ASCII. -/
  unicode : Bool
  /-- A carriage return ends a line too. -/
  crlf : Bool
  /-- Blanks are skipped, and comments, from a `#` to the end of the line. -/
  verbose : Bool

namespace Flags

def initial : Flags := ⟨false, false, false, false, true, false, false⟩

def set (f : Flags) (on : Bool) : Flag → Flags
  | .ignoreCase => { f with ignoreCase := on }
  | .multiLine => { f with multiLine := on }
  | .dotAll => { f with dotAll := on }
  | .swapGreed => { f with swapGreed := on }
  | .unicode => { f with unicode := on }
  | .crlf => { f with crlf := on }
  | .verbose => { f with verbose := on }

/-- Sets flags in order, and clears the ones that come after a hyphen. -/
def setAll (f : Flags) (on : Bool) : List (Option Flag) → Flags
  | [] => f
  | none :: items => f.setAll false items
  | some flag :: items => (f.set on flag).setAll on items

/-- Reads flags up to the `:` or `)` after them. A hyphen counts as none. -/
def items : List Char → Except Error (List (Option Flag) × Char × List Char)
  | [] => .error .badFlag
  | c :: cs =>
    if c = ':' ∨ c = ')' then .ok ([], c, cs)
    else if c = '-' then do
      let (rest, stop, cs) ← items cs
      return (none :: rest, stop, cs)
    else
      match Flag.ofChar? c with
      | none => .error .badFlag
      | some flag => do
        let (rest, stop, cs) ← items cs
        return (some flag :: rest, stop, cs)

/-- Reads flags and sets them. None may be repeated, and a hyphen may not come last. -/
def read (f : Flags) (cs : List Char) : Except Error (Flags × Char × List Char) := do
  let (items, stop, rest) ← items cs
  if ¬ items.Nodup then .error .repeatedFlag
  else if items.getLast? = some none ∨ (items = [] ∧ stop = ')') then .error .badFlag
  else return (f.setAll true items, stop, rest)

/-- What follows blanks and comments; at the start, there may be a comment. -/
def skipBlanks (comment : Bool) : List Char → List Char
  | [] => []
  | c :: cs =>
    if comment then skipBlanks (c != '\n') cs
    else if Text.isBlank c then skipBlanks false cs
    else if c = '#' then skipBlanks true cs
    else c :: cs

def skip (f : Flags) (cs : List Char) : List Char := if f.verbose then skipBlanks false cs else cs

/-- What stands before a closing brace, without what is skipped, and what follows the brace. -/
def braced? (f : Flags) (comment : Bool) : List Char → Option (List Char × List Char)
  | [] => none
  | c :: cs =>
    if comment then f.braced? (c != '\n') cs
    else if c = '\x7d' then some ([], cs)
    else if f.verbose && Text.isBlank c then f.braced? false cs
    else if f.verbose && c == '#' then f.braced? true cs
    else (f.braced? false cs).map fun (content, rest) => (c :: content, rest)

/-- The digits at the start of a text, without what is skipped, and what follows. -/
def digits (f : Flags) (comment : Bool) : List Char → List Char × List Char
  | [] => ([], [])
  | c :: cs =>
    if comment then f.digits (c != '\n') cs
    else if c.isDigit then
      let (ds, rest) := f.digits false cs
      (c :: ds, rest)
    else if f.verbose && Text.isBlank c then f.digits false cs
    else if f.verbose && c == '#' then f.digits true cs
    else ([], c :: cs)

/-- The characters that are not told from members of `s`. -/
def fold (f : Flags) (s : CharSet) : CharSet :=
  if f.ignoreCase then if f.unicode then s.folded else s.foldedAscii else s

/-- The set that a class stands for. Case is ignored before the rest of the characters is taken. -/
def close (f : Flags) (negated : Bool) (s : CharSet) : Except Error CharSet :=
  let s := if negated then (f.fold s).compl else f.fold s
  if f.unicode || s.isAscii then .ok s else .error .notInBytes

end Flags
end Rpn.Pattern
