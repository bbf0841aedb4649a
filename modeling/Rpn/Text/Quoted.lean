import Rpn.Text.Category

/-!
Quoted text: in double quotes, with escapes for quotes, backslashes and characters that cannot be
seen by themselves.
-/

namespace Rpn.Text.Quoted

/-- Letters without a shape, and spacing marks that change the character before them. -/
def elusive : CharSet :=
  .ofTable
    ["9BE 9D7 B3E B57 BBE BD7 CC0 CC2 CC7-CC8 CCA-CCB CD5-CD6 D3E D57 DCF DDF 115F-1160 1715 1734",
     "1B35 1B3B 1B3D 1B43-1B44 1BAA 1BF2-1BF3 302E-302F 3164 A953 A9C0 FFA0 111C0 11235 1133E",
     "1134D 11357 113B8 113C2 113C5 113C7-113C9 113CF 114B0 114BD 115AF 116B6 11930 1193D 11F41",
     "16FF0-16FF1 1D165-1D166 1D16D-1D172"]

/-- The characters that are written as they are: letters, numbers, punctuation, symbols and spacing
marks. -/
def visible : CharSet :=
  let gs := Category.letters ++ Category.numbers ++ Category.punctuation ++ Category.symbols
  (Category.setOf (.mc :: gs)).diff elusive

def escape (c : Char) : String :=
  match c with
  | '"' => "\\\""
  | '\\' => "\\\\"
  | '\n' => "\\n"
  | '\r' => "\\r"
  | '\t' => "\\t"
  | '\x00' => "\\0"
  | ' ' => " "
  | c =>
    if visible.mem c then c.toString
    else "\\u\x7b" ++ String.ofList (Nat.toDigits 16 c.toNat) ++ "\x7d"

def quote (text : String) : String :=
  "\"" ++ String.join (text.toList.map escape) ++ "\""

end Rpn.Text.Quoted
