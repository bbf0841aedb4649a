import Rpn.Console.Log
import Rpn.Machine
import Rpn.Scanner

/-!
Interactive sessions. Each line is answered by the stack it leaves, or by the fault it raises; the
session then goes on. It ends with the line `exit`, with the input, or with a line that is not
UTF-8.
-/

namespace Rpn.Console

structure Session where
  machine : Machine
  scanner : Scanner
  log : Log

namespace Session

def start (echo : Bool) (level : Level) : Session :=
  ⟨{ Machine.initial with echo }, .initial, .ofLevel level⟩

/-- Shows the gathered tokens, if that is wanted. -/
def echo (s : Session) : List Output :=
  if s.machine.echo then [.line (Token.echo s.scanner.tokens)] else []

/-- Runs the gathered tokens. Each token that is started on is logged. -/
def execute (s : Session) : Session × List Output × Option Fault :=
  let ts := s.scanner.tokens
  let (machine, fault) := s.machine.run ts
  let (log, logged) :=
    s.log.debug ((s.machine.attempted ts).map fun t => "Executing " ++ t.describe)
  ({ s with machine, log }, logged, fault)

def showStack (s : Session) : Output := .line s.machine.stack.render

def report (e : Error) : Output := .errLine ("Error: " ++ e.message)

/-- Logs a fault and reports it. -/
def recover (s : Session) (f : Fault) : Session × List Output :=
  let (log, logged) := s.log.debug ["Recovered from fault: " ++ f.message]
  ({ s with log }, logged ++ [report (.fault f)])

/-- Runs one line of text, with the characters that end it. -/
def runLine (s : Session) (text : List Char) : Session × List Output :=
  let s := { s with scanner := s.scanner.clear.feed none (String.ofList text) }
  let (s', logged, fault) := s.execute
  match fault with
  | none => (s', s.echo ++ logged ++ [s'.showStack])
  | some f =>
    let (s'', recovered) := s'.recover f
    (s'', s.echo ++ logged ++ recovered)

def showWords (s : Session) : List Output := s.machine.vocabulary.words.map (.line ·.listing)

/-- What comes of one line of input. -/
inductive Reply
  | more (s : Session) (output : List Output)
  | quit (t : Transcript)

def respond (s : Session) (line : List UInt8) : Reply :=
  match Text.decode? line with
  | none => .quit ⟨[report (.io Error.notUtf8)], 1⟩
  | some text =>
    if Text.trim text = "exit".toList then .quit ⟨[], 0⟩
    else if Text.trim text = "words".toList then .more s s.showWords
    else
      let (s', output) := s.runLine text
      .more s' output

def banner : List Output :=
  [.line "Basic Stack Calculator", .line "Use the exit command to quit the program."]

def prompt : Output := .out "> "

/-- Answers lines until the session or the input ends. -/
def answer (s : Session) : List (List UInt8) → Transcript
  | [] => ⟨[prompt], 0⟩
  | line :: lines =>
    match s.respond line with
    | .quit t => t.prepend [prompt]
    | .more s' output => (answer s' lines).prepend (prompt :: output)

/-- The whole session on an input. -/
def interact (s : Session) (input : List UInt8) : Transcript :=
  (s.answer ((Text.byteLines input).terminated 10)).prepend banner

end Session
end Rpn.Console
