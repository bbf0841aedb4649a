import Rpn.Console.Invocation

/-! The program itself: reads what the library asks for, and writes what it answers. -/

namespace Rpn.Console.Main

def emit (output : List Output) : IO Unit := do
  let stdout ← IO.getStdout
  let stderr ← IO.getStderr
  for text in output do
    match text with
    | .out text => stdout.putStr text
    | .err text => stderr.putStr text
  stdout.flush

def finish (t : Transcript) : IO UInt32 := do
  emit t.output
  return t.status.toUInt32

/-- The bytes up to the next newline, with it; none at the end of the input. -/
partial def readLine (input : IO.FS.Stream) (line : List UInt8) : IO (List UInt8) := do
  match (← input.read 1).toList with
  | [] => return line.reverse
  | byte :: _ => if byte = 10 then return (byte :: line).reverse else readLine input (byte :: line)

partial def interact (input : IO.FS.Stream) (s : Session) : IO UInt32 := do
  emit [Session.prompt]
  let line ← readLine input []
  if line.isEmpty then return 0
  match s.respond line with
  | .quit t => finish t
  | .more s output => emit output; interact input s

/-- The code of a system error, which is reported with either sign. -/
def magnitude (code : UInt32) : Nat := min code.toNat (-code).toNat

def openFile (path : String) : IO (Except OpenError ByteStream) := do
  try
    let bytes ← IO.FS.readBinFile path
    return .ok ⟨bytes.toList, none⟩
  catch e =>
    let unknown := .error (.other e.toString)
    match e with
    | .noFileOrDirectory .. => return .error .notFound
    | .inappropriateType _ code _ =>
      return if magnitude code = 20 then .error .notDirectory
        else if magnitude code = 21 then .ok FileTree.directoryStream else unknown
    | .invalidArgument _ code _ =>
      return if magnitude code = 36 then .error .nameTooLong else unknown
    | _ => return unknown

end Rpn.Console.Main

open Rpn.Console in
def main (args : List String) : IO UInt32 := do
  let (level, notice) := Level.ofVariable (← IO.getEnv Level.variableName)
  Main.emit notice
  match (Request.parse args).settle with
  | .error t => Main.finish t
  | .ok o =>
    let s := Session.start o.echo level
    match o.file with
    | some path => Main.finish (s.runFile path (← Main.openFile path))
    | none =>
      Main.emit Session.banner
      Main.interact (← IO.getStdin) s
