import Rpn.Pattern.Basic
import Rpn.Pattern.Flags

/-!
Escapes. A backslash gives the character after it another meaning: that of a character, of a set or
of a condition. Punctuation stands for itself.
-/

namespace Rpn.Pattern

inductive Escape
  /-- A character; `byte` says that it was given as the number of a byte. -/
  | char (c : Char) (byte : Bool)
  | set (s : CharSet)
  | look (l : Look)

namespace Escape

def isPunctuation (c : Char) : Bool := c.toNat < 128 && !c.isAlphanum && c != '<' && c != '>'

/-- The character with a number in base sixteen. -/
def ofHex (ds : List Char) : Except Error Char :=
  if ds ≠ [] ∧ ds.all Text.Hex.isDigit ∧ (Text.Hex.value ds).isValidChar then
    .ok (Char.ofNat (Text.Hex.value ds))
  else .error .badCodePoint

/-- Takes `n` characters. -/
def take (f : Flags) : Nat → List Char → Except Error (List Char × List Char)
  | 0, cs => .ok ([], cs)
  | _ + 1, [] => .error .unfinishedEscape
  | n + 1, c :: cs => do
    let (ds, rest) ← take f n (f.skip cs)
    return (c :: ds, rest)

/-- Reads a number, of `n` digits or in braces. -/
def hex (f : Flags) (n : Nat) (cs : List Char) : Except Error (Escape × List Char) :=
  match f.skip cs with
  | '\x7b' :: cs =>
    match f.braced? false cs with
    | some (ds, rest) => do return (.char (← ofHex ds) false, rest)
    | none => .error .unclosedEscape
  | cs => do
    let (ds, rest) ← take f n cs
    return (.char (← ofHex ds) (n == 2), rest)

/-- The texts before and after the first `sep`. -/
def cut? (sep : List Char) : List Char → Option (List Char × List Char)
  | [] => none
  | c :: cs =>
    if sep.isPrefixOf (c :: cs) then some ([], (c :: cs).drop sep.length)
    else (cut? sep cs).map fun (first, rest) => (c :: first, rest)

/-- The set that the text in the braces of a property describes. -/
def named? (text : List Char) : Option CharSet :=
  match cut? ['!', '='] text <|> cut? [':'] text <|> cut? ['='] text with
  | some (name, value) => Names.findValue? name value
  | none => Names.find? text

/-- Reads a property, a single letter or in braces. -/
def property (f : Flags) (negated : Bool) (cs : List Char) : Except Error (Escape × List Char) := do
  let (set?, rest) ← match f.skip cs with
    | [] => .error .unfinishedEscape
    | '\x7b' :: cs =>
      match f.braced? false cs with
      | some (name, rest) => pure (named? name, rest)
      | none => .error .unclosedEscape
    | c :: cs => pure (Names.find? [c], cs)
  match set? with
  | none => .error .unknownProperty
  | some s => if f.unicode then return (.set (← f.close negated s), rest) else .error .notInBytes

/-- One of the sets with a letter of their own. -/
def shorthand (f : Flags) (negated : Bool) (wide : CharSet) (ascii : String) (cs : List Char) :
    Except Error (Escape × List Char) :=
  let s := if f.unicode then wide else (Names.ascii? ascii).getD .empty
  if negated ∧ ¬ f.unicode then .error .notInBytes
  else .ok (.set (if negated then s.compl else s), cs)

def wordPlace? : List Char → Option WordPlace
  | ['s', 't', 'a', 'r', 't'] => some .start
  | ['e', 'n', 'd'] => some .finish
  | ['s', 't', 'a', 'r', 't', '-', 'h', 'a', 'l', 'f'] => some .notAfter
  | ['e', 'n', 'd', '-', 'h', 'a', 'l', 'f'] => some .notBefore
  | _ => none

/-- Reads what follows the letter for a place in a word. A brace with a letter or a hyphen in it
names the place, and any other one is a number of repetitions. -/
def word (f : Flags) (cs : List Char) : Except Error (Escape × List Char) :=
  let look (place : WordPlace) := Escape.look (.word (!f.unicode) place)
  match cs with
  | '\x7b' :: inner =>
    match f.skip inner with
    | [] => .error .unclosedEscape
    | c :: _ =>
      if c.isAlpha || c == '-' then
        match f.braced? false inner with
        | none => .error .unclosedEscape
        | some (name, rest) =>
          match wordPlace? name with
          | some place => .ok (look place, rest)
          | none => .error .badWordPlace
      else .ok (look .edge, cs)
  | _ => .ok (look .edge, cs)

/-- Reads an escape, of which the backslash has been read. -/
def read (f : Flags) : List Char → Except Error (Escape × List Char)
  | [] => .error .unfinishedEscape
  | c :: cs =>
    if isPunctuation c then .ok (.char c false, cs)
    else if c.isDigit then .error .backReference
    else
      match c with
      | 'a' => .ok (.char '\x07' false, cs)
      | 'f' => .ok (.char '\x0c' false, cs)
      | 't' => .ok (.char '\t' false, cs)
      | 'n' => .ok (.char '\n' false, cs)
      | 'r' => .ok (.char '\r' false, cs)
      | 'v' => .ok (.char '\x0b' false, cs)
      | 'x' => hex f 2 cs
      | 'u' => hex f 4 cs
      | 'U' => hex f 8 cs
      | 'p' => property f false cs
      | 'P' => property f true cs
      | 'd' => shorthand f false Names.digit "digit" cs
      | 'D' => shorthand f true Names.digit "digit" cs
      | 's' => shorthand f false Names.blank "space" cs
      | 'S' => shorthand f true Names.blank "space" cs
      | 'w' => shorthand f false Names.wordChar "word" cs
      | 'W' => shorthand f true Names.wordChar "word" cs
      | 'A' => .ok (.look .start, cs)
      | 'z' => .ok (.look .finish, cs)
      | 'b' => word f cs
      | 'B' => .ok (.look (.word (!f.unicode) .noEdge), cs)
      | '<' => .ok (.look (.word (!f.unicode) .start), cs)
      | '>' => .ok (.look (.word (!f.unicode) .finish), cs)
      | _ => .error (.unknownEscape c)

end Escape
end Rpn.Pattern
