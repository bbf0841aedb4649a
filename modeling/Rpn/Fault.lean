import Rpn.Location

/-!
Faults of a running machine. A fault stops the input at the word that raised it; the session can
go on with the next input.
-/

namespace Rpn

inductive ArithmeticFault
  | divisionByZero
  | overflow
deriving DecidableEq

def ArithmeticFault.message : ArithmeticFault → String
  | .divisionByZero => "division by zero"
  | .overflow => "integer overflow"

inductive Fault.Cause
  | unrecognized
  | underflow (required depth : Nat)
  | arithmetic (fault : ArithmeticFault)
deriving DecidableEq

structure Fault where
  word : String
  location : Location
  cause : Fault.Cause
deriving DecidableEq

namespace Fault

def Cause.message (word : String) : Cause → String
  | .unrecognized => "Unrecognized word '" ++ word ++ "'."
  | .underflow required depth =>
    "Stack underflow in '" ++ word ++ "', required " ++ required.repr ++ " but have "
      ++ depth.repr ++ "."
  | .arithmetic fault => "Arithmetic fault in '" ++ word ++ "', " ++ fault.message ++ "."

def message (f : Fault) : String := f.location.render ++ ": " ++ f.cause.message f.word

end Fault
end Rpn
