import Rpn.Fault
import Rpn.Pattern.Error

/-!
Everything that can go wrong with an input. After a fault a session goes on; an error of another
kind ends it.
-/

namespace Rpn

inductive Error
  | fault (fault : Fault)
  | invalidPattern (why : Pattern.Error)
  | io (text : String)
deriving DecidableEq

namespace Error

def message : Error → String
  | fault f => f.message
  | invalidPattern why => "Invalid token pattern: " ++ why.message
  | io text => "I/O error: " ++ text

def recoverable : Error → Bool
  | fault _ => true
  | _ => false

def location? : Error → Option Location
  | fault f => some f.location
  | _ => none

/-- The text of the error for bytes that are not UTF-8. -/
def notUtf8 : String := "stream did not contain valid UTF-8"

end Error
end Rpn
