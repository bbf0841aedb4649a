import Rpn.Stack
import Rpn.Token
import Rpn.Vocabulary

/-!
The machine runs tokens against its stack, one after another. A token either takes effect as a
whole or raises a fault and leaves the machine as it was; the first fault ends the run.
-/

namespace Rpn

structure Machine where
  stack : Stack
  vocabulary : Vocabulary
  /-- Whether the tokens of an input are shown before they run. -/
  echo : Bool

namespace Machine

def initial : Machine := ⟨.empty, .base, false⟩

/-- The stack after a word has run on it. -/
def call (w : Word) (s : Stack) : Except Fault.Cause Stack :=
  match s.top? w.arity with
  | none => .error (.underflow w.arity s.depth)
  | some operands =>
    match w.primitive.apply operands with
    | none => .error (.underflow w.primitive.reads operands.length)
    | some (.error fault) => .error (.arithmetic fault)
    | some (.ok results) => .ok (s.replaceTop w.arity results)

/-- The stack after the text of one token has run on it. -/
def effect (V : Vocabulary) (text : String) (s : Stack) : Except Fault.Cause Stack :=
  match Token.classify text with
  | .literal value => .ok (s.push value)
  | .word name =>
    match V.get? name with
    | none => .error .unrecognized
    | some w => call w s

def step (m : Machine) (t : Token) : Except Fault Machine :=
  match effect m.vocabulary t.text m.stack with
  | .ok stack => .ok { m with stack }
  | .error cause => .error ⟨t.text, t.location, cause⟩

/-- Runs the tokens up to the first fault. -/
def run (m : Machine) : List Token → Machine × Option Fault
  | [] => (m, none)
  | t :: ts =>
    match m.step t with
    | .ok m' => run m' ts
    | .error fault => (m, some fault)

/-- The tokens before the first one that raises a fault. -/
def accepted (m : Machine) : List Token → List Token
  | [] => []
  | t :: ts =>
    match m.step t with
    | .ok m' => t :: accepted m' ts
    | .error _ => []

/-- The tokens a run starts on: those accepted and the one that raises a fault. -/
def attempted (m : Machine) (ts : List Token) : List Token :=
  ts.take ((m.accepted ts).length + 1)

/-- The stack after each token that a run starts on. -/
def trace (m : Machine) : List Token → List Stack
  | [] => []
  | t :: ts =>
    match m.step t with
    | .ok m' => m'.stack :: trace m' ts
    | .error _ => [m.stack]

end Machine
end Rpn
