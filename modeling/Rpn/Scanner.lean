import Rpn.Error
import Rpn.Pattern.Parser
import Rpn.Pattern.Search
import Rpn.Text.Lines
import Rpn.Token

/-!
Scanners gather the tokens of the text they are fed, line by line. Tokens and the number of lines
add up from one text to the next until the scanner is cleared.
-/

namespace Rpn

/-- Bytes from a file or another source, which may break off with an error after them. -/
structure ByteStream where
  bytes : List UInt8
  failure : Option String

structure Scanner where
  pattern : Pattern.Program
  tokens : List Token
  /-- The number of lines read. -/
  line : Nat

namespace Scanner

def ofPattern (p : Pattern) : Scanner := ⟨p.compile, [], 0⟩

/-- A scanner for tokens between spaces, tabs and line ends. -/
def initial : Scanner := ofPattern .word

/-- A scanner for the matches of a pattern. -/
def ofText (pattern : String) : Except Error Scanner :=
  match Pattern.parse pattern with
  | .ok p => .ok (ofPattern p)
  | .error why => .error (.invalidPattern why)

def clear (s : Scanner) : Scanner := { s with tokens := [], line := 0 }

/-- The tokens in a line: all matches but the empty ones. -/
def lineTokens (p : Pattern.Program) (source : Option String) (number : Nat) (line : List Char) :
    List Token :=
  ((p.findAll line).filter (!·.text.isEmpty)).map fun span =>
    ⟨String.ofList span.text, ⟨source, number, span.start + 1⟩⟩

def feedLines (s : Scanner) (source : Option String) (lines : List (List Char)) : Scanner :=
  { s with
    tokens := s.tokens ++ (lines.zipIdx (s.line + 1)).flatMap fun (line, number) =>
      lineTokens s.pattern source number line
    line := s.line + lines.length }

def feed (s : Scanner) (source : Option String) (text : String) : Scanner :=
  s.feedLines source (Text.lines text.toList)

/-- The lines of a stream. If it breaks off, what follows the last newline is lost. -/
def streamLines (bs : ByteStream) : List (List UInt8) :=
  let ls := Text.byteLines bs.bytes
  if bs.failure.isSome then ls.closed Text.carriageReturn else ls.all Text.carriageReturn

/-- Reads a stream up to its end, or to the first line that is not UTF-8. -/
def feedStream (s : Scanner) (source : Option String) (bs : ByteStream) :
    Scanner × Option Error :=
  let (lines, broken) := Text.decodeLines (streamLines bs)
  (s.feedLines source lines,
    if broken then some (.io Error.notUtf8) else bs.failure.map .io)

end Scanner
end Rpn
