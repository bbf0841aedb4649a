import Rpn.Console.Output
import Rpn.Text.Quoted

/-!
The log of what the machine does, for whoever looks for an error in a script. Its level comes from
an environment variable; its messages are numbered, and shown at the two most talkative levels.
-/

namespace Rpn.Console

inductive Level
  | fatal
  | error
  | warn
  | info
  | debug
  | trace
deriving DecidableEq

namespace Level

def variableName : String := "IOX2_LOG_LEVEL"

/-- The level of a name, in upper or lower case. -/
def ofName? (name : String) : Option Level :=
  match String.ofList (name.toList.map Char.toLower) with
  | "fatal" => some fatal
  | "error" => some error
  | "warn" => some warn
  | "info" => some info
  | "debug" => some debug
  | "trace" => some trace
  | _ => none

/-- The level that the variable asks for, and what is said about a value that names none. -/
def ofVariable : Option String → Level × List Output
  | none => (warn, [])
  | some value =>
    match ofName? value with
    | some level => (level, [])
    | none =>
      (warn,
        [.errLine ("Invalid value for '" ++ variableName ++ "' environment variable!"),
         .errLine ("Found: " ++ Text.Quoted.quote value),
         .errLine "Allowed is one of: fatal, error, warn, info, debug, trace",
         .errLine "Setting log level as : Warn"])

def showsDebug (l : Level) : Bool := l = debug ∨ l = trace

end Level

structure Log where
  level : Level
  /-- How many messages have been shown. -/
  count : Nat

namespace Log

def ofLevel (level : Level) : Log := ⟨level, 0⟩

/-- The number fills nine columns. -/
def line (number : Nat) (message : String) : Output :=
  .errLine ("".pushn ' ' (9 - number.repr.length) ++ number.repr ++ " [D] | " ++ message ++ " ")

/-- Shows messages, if the level lets them through. -/
def debug (l : Log) (messages : List String) : Log × List Output :=
  if l.level.showsDebug then
    ({ l with count := l.count + messages.length },
      (messages.zipIdx l.count).map fun (message, number) => line number message)
  else (l, [])

end Log
end Rpn.Console
