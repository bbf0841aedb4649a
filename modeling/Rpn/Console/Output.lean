/-! What the program writes: texts on its two channels, in the order in which they are written. -/

namespace Rpn.Console

inductive Output
  | out (text : String)
  | err (text : String)
deriving DecidableEq

namespace Output

def outText : Output → String
  | out text => text
  | err _ => ""

def errText : Output → String
  | out _ => ""
  | err text => text

/-- A line on the standard channel. -/
def line (text : String) : Output := out (text ++ "\n")

/-- A line on the channel for errors. -/
def errLine (text : String) : Output := err (text ++ "\n")

end Output

/-- A finished run: all output, and the exit status. -/
structure Transcript where
  output : List Output
  status : Nat

namespace Transcript

def stdout (t : Transcript) : String := String.join (t.output.map Output.outText)

def stderr (t : Transcript) : String := String.join (t.output.map Output.errText)

def prepend (output : List Output) (t : Transcript) : Transcript :=
  { t with output := output ++ t.output }

end Transcript
end Rpn.Console
