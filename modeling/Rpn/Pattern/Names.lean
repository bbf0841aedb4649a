import Rpn.Text.Blank
import Rpn.Text.Property
import Rpn.Text.Script

/-!
Sets of characters that patterns know by name. Patterns know the characters of version 16 of
Unicode; to them, later ones are not assigned.
-/

namespace Rpn.Pattern.Names

open Text (Category)

/-- The characters of all the categories. -/
def ofCategories (gs : List Category) : CharSet :=
  if .cn ∈ gs then (Category.setOf gs).union Category.recent
  else (Category.setOf gs).diff Category.recent

def digit : CharSet := ofCategories [.nd]

/-- Letters, marks, digits and what connects them, and letters and numerals that are symbols. -/
def wordChar : CharSet :=
  (ofCategories (Category.letters ++ Category.marks ++ [.nd, .nl, .pc])).union
    (.ofTable ["200C-200D 24B6-24E9 1F130-1F149 1F150-1F169 1F170-1F189"])

def blank : CharSet := .ofCodePoints Text.blankRanges

/-- The classes of ASCII characters that have a name. -/
def ascii? : String → Option CharSet
  | "alnum" => some (.ofPairs [('a', 'z'), ('A', 'Z'), ('0', '9')])
  | "alpha" => some (.ofPairs [('a', 'z'), ('A', 'Z')])
  | "ascii" => some (.ofPairs [('\x00', '\x7f')])
  | "blank" => some (.ofChars ['\t', ' '])
  | "cntrl" => some (.ofPairs [('\x00', '\x1f'), ('\x7f', '\x7f')])
  | "digit" => some (.ofPairs [('0', '9')])
  | "graph" => some (.ofPairs [('!', '~')])
  | "lower" => some (.ofPairs [('a', 'z')])
  | "print" => some (.ofPairs [(' ', '~')])
  | "punct" => some (.ofPairs [('!', '/'), (':', '@'), ('[', '\x60'), ('\x7b', '~')])
  | "space" => some (.ofPairs [('\t', '\r'), (' ', ' ')])
  | "upper" => some (.ofPairs [('A', 'Z')])
  | "word" => some (.ofPairs [('a', 'z'), ('A', 'Z'), ('0', '9'), ('_', '_')])
  | "xdigit" => some (.ofPairs [('0', '9'), ('A', 'F'), ('a', 'f')])
  | _ => none

/-- Categories and groups of them with their names. -/
def categories : List (List String × List Category) :=
  [(["c", "other"], [.cc, .cf, .co, .cn]), (["cc", "control", "cntrl"], [.cc]),
   (["cf", "format"], [.cf]), (["cn", "unassigned"], [.cn]), (["co", "privateuse"], [.co]),
   (["l", "letter"], Category.letters), (["lc", "casedletter"], [.lu, .ll, .lt]),
   (["ll", "lowercaseletter"], [.ll]), (["lm", "modifierletter"], [.lm]),
   (["lo", "otherletter"], [.lo]), (["lt", "titlecaseletter"], [.lt]),
   (["lu", "uppercaseletter"], [.lu]), (["m", "mark", "combiningmark"], Category.marks),
   (["mc", "spacingmark"], [.mc]), (["me", "enclosingmark"], [.me]),
   (["mn", "nonspacingmark"], [.mn]), (["n", "number"], Category.numbers),
   (["nd", "decimalnumber", "digit"], [.nd]), (["nl", "letternumber"], [.nl]),
   (["no", "othernumber"], [.no]), (["p", "punctuation", "punct"], Category.punctuation),
   (["pc", "connectorpunctuation"], [.pc]), (["pd", "dashpunctuation"], [.pd]),
   (["pe", "closepunctuation"], [.pe]), (["pf", "finalpunctuation"], [.pf]),
   (["pi", "initialpunctuation"], [.pi]), (["po", "otherpunctuation"], [.po]),
   (["ps", "openpunctuation"], [.ps]), (["s", "symbol"], Category.symbols),
   (["sc", "currencysymbol"], [.sc]), (["sk", "modifiersymbol"], [.sk]),
   (["sm", "mathsymbol"], [.sm]), (["so", "othersymbol"], [.so]),
   (["z", "separator"], Category.separators), (["zl", "lineseparator"], [.zl]),
   (["zp", "paragraphseparator"], [.zp]), (["zs", "spaceseparator"], [.zs])]

def category? : String → Option CharSet
  | "any" => some .all
  | "assigned" => some (ofCategories [.cn]).compl
  | "ascii" => ascii? "ascii"
  | name => (categories.find? (·.1.contains name)).map fun g => ofCategories g.2

def script? (name : String) : Option Text.Script :=
  Text.Script.all.find? (·.names.contains name)

def property? (name : String) : Option CharSet :=
  (Text.Property.table.find? (·.names.contains name)).map (·.set)

/-- A name in small letters, without blanks, hyphens and underscores. An `is` at its start does not
count, unless only a `c` is left. -/
def normalize (name : List Char) : String :=
  let letters (cs : List Char) :=
    (cs.filter fun c => c.toNat < 128 ∧ c ∉ ['_', '-', ' ']).map Char.toLower
  match name with
  | i :: s :: cs =>
    if i.toLower = 'i' ∧ s.toLower = 's' ∧ letters cs ≠ ['c'] then .ofList (letters cs)
    else .ofList (letters name)
  | _ => .ofList (letters name)

/-- The set that a name stands for: of a property, of a category or of a script. -/
def find? (name : List Char) : Option CharSet :=
  let name := normalize name
  property? name <|> category? name <|> (script? name).map (·.set)

/-- The set of the characters with the value for what `name` asks for. -/
def findValue? (name value : List Char) : Option CharSet :=
  match normalize name with
  | "gc" | "generalcategory" => category? (normalize value)
  | "sc" | "script" => (script? (normalize value)).map (·.set)
  | "scx" | "scriptextensions" => (script? (normalize value)).map (·.extended)
  | _ => none

end Rpn.Pattern.Names
