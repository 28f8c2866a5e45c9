import ModelFormula.Dictionary
import ModelFormula.Failure
import ModelFormula.Path

/-!
# Files

Files and directories below the root.  Names lead down and two points lead up; a path starts at the
root or at the working directory.

* `Files.locate` — where a path leads.
* `Files.read`, `Files.write`, `Files.append` — the text of a file.
* `Files.makeParents` — makes the directories on the way to a file.
-/

set_option autoImplicit false

namespace ModelFormula

/-- Where a file or directory is, from the root. -/
abbrev Place := List String

structure Files where
  workingDirectory : Place := ["tmp", "work"]
  directories : List Place := []
  texts : Dictionary Place String := []

namespace Files

/-- The working directory and those above it, up to the root, are always there. -/
def isDirectory (files : Files) (p : Place) : Bool :=
  p.isPrefixOf files.workingDirectory || files.directories.contains p

def text? (files : Files) (p : Place) : Option String := files.texts.get? p

/-- One step from a directory; up from the root is the root. -/
def step (p : Place) (name : String) : Place := if name = ".." then p.dropLast else p ++ [name]

/-- The directory that steps can be made from. -/
def enter (files : Files) (p : Place) : Except Failure Unit :=
  if files.isDirectory p then .ok ()
  else if (files.text? p).isSome then .error .notDirectory
  else .error .fileNotFound

/-- Where steps lead from a place; all but the last must lead to directories. -/
def walk (files : Files) (p : Place) : List String → Except Failure Place
  | [] => .ok p
  | name :: rest => do
    files.enter p
    files.walk (step p name) rest

/-- Where a path starts. -/
def start (files : Files) (path : FilePath) : Place :=
  match path.start with
  | .workingDirectory => files.workingDirectory
  | _ => []

/-- Where a path leads. -/
def locate (files : Files) (path : FilePath) : Except Failure Place :=
  files.walk (files.start path) path.steps

/-- Whether a path leads to a file or a directory. -/
def has (files : Files) (path : FilePath) : Bool :=
  match files.locate path with
  | .ok p => files.isDirectory p || (files.text? p).isSome
  | .error _ => false

/-- Line breaks of all kinds are read as one. -/
def universalBreaks : List Char → List Char
  | '\r' :: '\n' :: cs => '\n' :: universalBreaks cs
  | '\r' :: cs => '\n' :: universalBreaks cs
  | c :: cs => c :: universalBreaks cs
  | [] => []

/-- The text of a file. -/
def read (files : Files) (path : FilePath) : Except Failure String := do
  let p ← files.locate path
  if files.isDirectory p then throw .isDirectory
  else
    match files.text? p with
    | some s => return String.ofList (universalBreaks s.toList)
    | none => throw .fileNotFound

/-- Puts a text at a place. -/
def put (files : Files) (p : Place) (s : String) : Files :=
  { files with texts := files.texts.put p s }

/-- Where a file can be written. -/
def target (files : Files) (path : FilePath) : Except Failure Place := do
  let p ← files.locate path
  if files.isDirectory p then throw .isDirectory else return p

/-- Replaces the text of a file, which is made if it is not there. -/
def write (files : Files) (path : FilePath) (s : String) : Except Failure Files := do
  let p ← files.target path
  return files.put p s

/-- Adds to the text at a place. -/
def append (files : Files) (p : Place) (s : String) : Files :=
  files.put p ((files.text? p).getD "" ++ s)

/-- Makes the directory that a step leads to, if it is not there; `last` says that it is the one
asked for. -/
def makeDirectory (files : Files) (p : Place) (last : Bool) : Except Failure Files :=
  if files.isDirectory p then .ok files
  else if (files.text? p).isSome then .error (if last then .fileExists else .notDirectory)
  else .ok { files with directories := p :: files.directories }

/-- Makes the directories that steps lead to. -/
def makeAlong (files : Files) (p : Place) : List String → Except Failure Files
  | [] => .ok files
  | name :: rest => do
    let files ← files.makeDirectory (step p name) rest.isEmpty
    files.makeAlong (step p name) rest

/-- Makes the directories on the way to a file. -/
def makeParents (files : Files) (path : FilePath) : Except Failure Files :=
  files.makeAlong (files.start path) path.steps.dropLast

end Files

end ModelFormula
