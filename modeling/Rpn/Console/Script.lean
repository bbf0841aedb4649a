import Rpn.Console.Files
import Rpn.Console.Session

/-!
Script runs. The whole file is read before its first token runs, so a file that cannot be read to
its end has no effect. The first error ends the run.
-/

namespace Rpn.Console.Session

def fail (e : Error) : Transcript := ⟨[report e], 1⟩

def unreadable (path : String) (e : OpenError) : Error :=
  .io ("Could not read file " ++ path ++ ": " ++ e.message)

/-- Runs the tokens that have been gathered from a script. -/
def runScript (s : Session) : Transcript :=
  let (s', logged, fault) := s.execute
  let t : Transcript :=
    match fault with
    | none => ⟨[s'.showStack], 0⟩
    | some f => fail (.fault f)
  t.prepend (s.echo ++ logged)

/-- Runs the script at `path`, which the attempt to open it gave. -/
def runFile (s : Session) (path : String) : Except OpenError ByteStream → Transcript
  | .error e => fail (unreadable path e)
  | .ok stream =>
    match s.scanner.feedStream (some path) stream with
    | (_, some e) => fail e
    | (scanner, none) => runScript { s with scanner }

end Rpn.Console.Session
