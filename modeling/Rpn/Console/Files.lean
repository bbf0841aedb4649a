import Rpn.Scanner

/-!
Files by path. A path is resolved component by component from the working directory; each component
but the last has to be a directory.
-/

namespace Rpn.Console

/-- Why a file cannot be opened. -/
inductive OpenError
  | notFound
  | notDirectory
  | nameTooLong
  | other (text : String)
deriving DecidableEq

def OpenError.message : OpenError → String
  | notFound => "No such file or directory (os error 2)"
  | notDirectory => "Not a directory (os error 20)"
  | nameTooLong => "File name too long (os error 36)"
  | other text => text

/-- The working directory: the files and the directories in it, by path. -/
structure FileTree where
  files : List (List String × List UInt8)
  directories : List (List String)

namespace FileTree

/-- A directory can be opened, but not read. -/
def directoryStream : ByteStream := ⟨[], some "Is a directory (os error 21)"⟩

/-- The parts of a path between its slashes. -/
def components (path : String) : List String :=
  let parts := Text.Lines.split '/' path.toList
  (parts.complete ++ [parts.rest]).map String.ofList

/-- Goes down into a directory, made where it is missing, or up. -/
def descend : List String × List (List String) → String → List String × List (List String)
  | (here, made), name =>
    if name = "" ∨ name = "." then (here, made)
    else if name = ".." then (here.dropLast, made)
    else (here ++ [name], (here ++ [name]) :: made)

/-- Where components lead to from the working directory, and the directories made on the way. -/
def descent (names : List String) : List String × List (List String) :=
  names.foldl descend ([], [])

/-- The tree after the files and directories have been made. Of two files with one path the later
one stays. -/
def ofNames (files : List (String × List UInt8)) (directories : List String) : FileTree :=
  ⟨files.reverse.map fun (name, bytes) => ((descent (components name)).1, bytes),
    (files.map (fun f => (components f.1).dropLast) ++ directories.map components).flatMap
      fun names => (descent names).2⟩

def maxName : Nat := 255

def maxPath : Nat := 4095

/-- Opens what the components lead to from the directory `here`. A place outside the tree is a
directory without files. -/
def walk (t : FileTree) : Option (List String) → List String → Except OpenError ByteStream
  | _, [] => .ok directoryStream
  | here, name :: rest =>
    if name = "" ∨ name = "." then walk t here rest
    else if name = ".." then
      walk t (here.bind fun p => if p.isEmpty then none else some p.dropLast) rest
    else if maxName < name.utf8ByteSize then .error .nameTooLong
    else
      match here with
      | none => .error .notFound
      | some p =>
        match t.files.lookup (p ++ [name]) with
        | some bytes => if rest.isEmpty then .ok ⟨bytes, none⟩ else .error .notDirectory
        | none => if p ++ [name] ∈ t.directories then walk t (some (p ++ [name])) rest
          else .error .notFound

def openPath (t : FileTree) (path : String) : Except OpenError ByteStream :=
  if path.isEmpty then .error .notFound
  else if maxPath < path.utf8ByteSize then .error .nameTooLong
  else t.walk (if path.toList.head? = some '/' then none else some []) (components path)

end FileTree
end Rpn.Console
