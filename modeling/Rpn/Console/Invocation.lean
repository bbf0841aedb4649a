import Rpn.Console.Arguments
import Rpn.Console.Script

/-! One run of the program, from its arguments and inputs to all it writes. -/

namespace Rpn.Console

structure Invocation where
  args : List String
  input : List UInt8
  files : FileTree
  /-- The value of the variable for the log level, if it is set. -/
  log : Option String

namespace Invocation

def run (i : Invocation) : Transcript :=
  let (level, notice) := Level.ofVariable i.log
  let t :=
    match (Request.parse i.args).settle with
    | .error t => t
    | .ok o =>
      let s := Session.start o.echo level
      match o.file with
      | some path => s.runFile path (i.files.openPath path)
      | none => s.interact i.input
  t.prepend notice

end Invocation
end Rpn.Console
