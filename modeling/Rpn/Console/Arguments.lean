import Rpn.Console.Output

/-!
The command line. Arguments are taken from left to right, and the first that asks for help or for
the version, or cannot be understood, decides.
-/

namespace Rpn.Console

structure Options where
  echo : Bool
  file : Option String

def Options.initial : Options := ⟨false, none⟩

/-- The options of the command line. -/
inductive Flag
  | debug
  | help
  | version
deriving DecidableEq

namespace Flag

def long : Flag → String
  | debug => "debug"
  | help => "help"
  | version => "version"

def short : Flag → Char
  | debug => 'd'
  | help => 'h'
  | version => 'V'

def all : List Flag := [debug, help, version]

def ofLong? (name : String) : Option Flag := all.find? (·.long == name)

def ofShort? (c : Char) : Option Flag := all.find? (·.short == c)

def shown (f : Flag) : String := "--" ++ f.long

end Flag

/-- Why a command line is refused. -/
inductive Refusal
  /-- There is no such option; `used` holds what was taken before it. -/
  | unknownOption (name : String) (used : Options)
  | unknownLetter (letter : Char)
  | furtherFile (name : String)
  | repeated (flag : Flag)
  /-- A flag was given a value; `echo` says if the one for echo was taken before. -/
  | valueGiven (flag : Flag) (value : String) (echo : Bool)
  | emptyFile

namespace Refusal

/-- The usage for what was taken so far: a file that was named is not optional any more. -/
def usageFor (used : Options) : List String :=
  if used.echo ∨ used.file.isSome then
    (if used.echo then [Flag.debug.shown] else [])
      ++ [if used.file.isSome then "<FILE>" else "[FILE]"]
  else ["[OPTIONS]", "[FILE]"]

/-- The words after the name of the program in the line that shows its usage. -/
def usageWords : Refusal → List String
  | unknownOption _ used => usageFor used
  | valueGiven flag _ false => [flag.shown, "[FILE]"]
  | valueGiven flag _ true =>
    (if flag = .debug then [] else [flag.shown]) ++ ["<" ++ Flag.debug.shown ++ "|FILE>"]
  | _ => usageFor .initial

def usage (r : Refusal) : Option String :=
  match r with
  | emptyFile => none
  | _ => some (" ".intercalate ("Usage: stackcalc" :: r.usageWords))

/-- What is said of an argument that looks like an option and is none. -/
def unexpected (name : String) : List String :=
  ["error: unexpected argument '" ++ name ++ "' found",
   "  tip: to pass '" ++ name ++ "' as a value, use '-- " ++ name ++ "'"]

def reason : Refusal → List String
  | unknownOption name _ => unexpected name
  | unknownLetter letter => unexpected ("-" ++ letter.toString)
  | furtherFile name => ["error: unexpected argument '" ++ name ++ "' found"]
  | repeated flag => ["error: the argument '" ++ flag.shown ++ "' cannot be used multiple times"]
  | valueGiven flag value _ =>
    ["error: unexpected value '" ++ value ++ "' for '" ++ flag.shown
      ++ "' found; no more were expected"]
  | emptyFile => ["error: a value is required for '[FILE]' but none was supplied"]

/-- The reason, how to do better, and where to read more, with blank lines between. -/
def message (r : Refusal) : String :=
  "\n\n".intercalate (r.reason ++ r.usage.toList ++ ["For more information, try '--help'."])

end Refusal

/-- What a command line asks for. -/
inductive Request
  | run (o : Options)
  | help
  | version
  | refuse (r : Refusal)

namespace Request

def helpText : String :=
  "A small stack based calculator.  Run a script file, or start an interactive session when no "
    ++ "file is given\n\n"
    ++ "Usage: stackcalc [OPTIONS] [FILE]\n\n"
    ++ "Arguments:\n"
    ++ "  [FILE]  Script to run instead of starting the REPL\n\n"
    ++ "Options:\n"
    ++ "  -d, --debug    Echo each line's tokens before executing them\n"
    ++ "  -h, --help     Print help\n"
    ++ "  -V, --version  Print version"

def versionText : String := "stackcalc 0.1.0"

/-- A flag takes effect. The file named before it is looked at first. -/
def set (o : Options) (f : Flag) : Except Request Options :=
  if o.file = some "" then .error (.refuse .emptyFile)
  else
    match f with
    | .debug => if o.echo then .error (.refuse (.repeated f)) else .ok { o with echo := true }
    | .help => .error .help
    | .version => .error .version

/-- Takes the flags of an argument such as `-dh`. -/
def cluster (o : Options) : List Char → Except Request Options
  | [] => .ok o
  | c :: cs =>
    match Flag.ofShort? c with
    | none => .error (.refuse (.unknownLetter c))
    | some f =>
      match set o f with
      | .ok o => cluster o cs
      | .error r => .error r

/-- Takes an argument with two hyphens, given without them. -/
def longOption (o : Options) (cs : List Char) : Except Request Options :=
  let name := String.ofList (cs.takeWhile (· != '='))
  match Flag.ofLong? name, cs.dropWhile (· != '=') with
  | none, _ => .error (.refuse (.unknownOption ("--" ++ name) o))
  | some f, [] => set o f
  | some f, _ :: value => .error (.refuse (.valueGiven f (String.ofList value) o.echo))

def file (o : Options) (name : String) : Except Request Options :=
  match o.file with
  | none => .ok { o with file := some name }
  | some _ => .error (.refuse (.furtherFile name))

/-- Takes one argument; after a `--` all arguments are files. -/
def take (o : Options) (onlyFiles : Bool) (arg : String) : Except Request Options :=
  if onlyFiles then file o arg
  else
    match arg.toList with
    | '-' :: '-' :: cs => longOption o cs
    | '-' :: c :: cs => cluster o (c :: cs)
    | _ => file o arg

def parseFrom (o : Options) (onlyFiles : Bool) : List String → Request
  | [] => if o.file = some "" then .refuse .emptyFile else .run o
  | arg :: args =>
    if arg = "--" ∧ ¬ onlyFiles then parseFrom o true args
    else
      match take o onlyFiles arg with
      | .ok o => parseFrom o onlyFiles args
      | .error r => r

def parse (args : List String) : Request := parseFrom .initial false args

/-- What is written if nothing is to be run, or the options to run with. -/
def settle : Request → Except Transcript Options
  | run o => .ok o
  | help => .error ⟨[.line helpText], 0⟩
  | version => .error ⟨[.line versionText], 0⟩
  | refuse r => .error ⟨[.errLine r.message], 2⟩

end Request
end Rpn.Console
