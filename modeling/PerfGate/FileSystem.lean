import Std.Data.ExtTreeMap
import PerfGate.Text.Line

/-!
# Files

A `FileSystem` is the tree below the working directory as a value: it maps paths to files and
directories. `read` and `write` resolve a path step by step and fail for the reasons an operating
system gives. `write` changes what one path leads to and nothing else.
-/

namespace PerfGate

open Std

/-- Why a path could not be read or written. -/
inductive PathError where
  | notFound
  | notDirectory
  | isDirectory
  | nameTooLong
  | nulInName
  | notText
  | other (reason : String)
  deriving DecidableEq, Repr

/-- The operating system's words for the reason. -/
def PathError.message : PathError → String
  | notFound => "No such file or directory (os error 2)"
  | notDirectory => "Not a directory (os error 20)"
  | isDirectory => "Is a directory (os error 21)"
  | nameTooLong => "File name too long (os error 36)"
  | nulInName => "file name contained an unexpected NUL byte"
  | notText => "stream did not contain valid UTF-8"
  | other reason => reason

/-- What a path leads to. -/
inductive Node where
  | file (bytes : ByteArray)
  | directory

/-- The files and directories below the working directory, by their path from it. -/
structure FileSystem where
  nodes : ExtTreeMap String Node

namespace FileSystem

/-- An empty working directory. -/
def empty : FileSystem := ⟨∅⟩

/-- What stands at a path that is written without detours. -/
def get? (fs : FileSystem) (path : String) : Option Node :=
  fs.nodes[path]?

/-- The file system with a node at such a path. -/
def insert (fs : FileSystem) (path : String) (node : Node) : FileSystem :=
  ⟨fs.nodes.insert path node⟩

/-- A directory that the resolution of a path has reached. -/
inductive Place where
  /-- Below the working directory, at a path without detours. -/
  | within (path : String)
  /-- Elsewhere; nothing is known to be there. -/
  | outside

/-- Where the resolution of a path ends. -/
inductive Target where
  | directory
  | file (path : String) (bytes : ByteArray)
  | vacant (path : String)
  | nowhere

/-- The path of a name inside a directory. -/
def join (directory name : String) : String :=
  if directory.isEmpty then name else directory ++ "/" ++ name

/-- The directory that holds the one at a path. -/
def parent (path : String) : Place :=
  if path.isEmpty then .outside
  else .within (String.intercalate "/" ((path.splitOn "/").dropLast))

/-- The most bytes that one step of a path may have. -/
def maxNameBytes : Nat := 255

/-- The most bytes that a path may have. -/
def maxPathBytes : Nat := 4095

/-- Follows the steps of a path from a directory. -/
def follow (fs : FileSystem) : Place → List String → Except PathError Target
  | _, [] => .ok .directory
  | place, step :: steps =>
    if step = "" ∨ step = "." then fs.follow place steps
    else if step = ".." then
      match place with
      | .within path => fs.follow (parent path) steps
      | .outside => fs.follow .outside steps
    else if maxNameBytes < step.utf8ByteSize then .error .nameTooLong
    else
      match place with
      | .outside => if steps.isEmpty then .ok .nowhere else .error .notFound
      | .within directory =>
        let path := join directory step
        match fs.get? path with
        | some .directory => fs.follow (.within path) steps
        | some (.file bytes) =>
          if steps.isEmpty then .ok (.file path bytes) else .error .notDirectory
        | none => if steps.isEmpty then .ok (.vacant path) else .error .notFound

/-- A path that is not even looked for. -/
def refusal? (path : String) : Option PathError :=
  if path.isEmpty then some .notFound
  else if path.toList.contains '\x00' then some .nulInName
  else if maxPathBytes < path.utf8ByteSize then some .nameTooLong
  else none

/-- The directory from which a path is followed. -/
def start (path : String) : Place :=
  if path.toList.head? = some '/' then .outside else .within ""

/-- The target of a path. -/
def resolve (fs : FileSystem) (path : String) : Except PathError Target :=
  match refusal? path with
  | some reason => .error reason
  | none => fs.follow (start path) (path.splitOn "/")

/-- The path without the slashes at its end. -/
def withoutSlashes (path : String) : String :=
  String.ofList (path.toList.reverse.dropWhile (· == '/')).reverse

/-- Why a path that ends in a slash cannot be written: its last step would have to be a directory,
whether it is there or not. -/
def slashError (fs : FileSystem) (path : String) : PathError :=
  match fs.follow (start path) ((withoutSlashes path).splitOn "/").dropLast with
  | .error reason => reason
  | .ok .directory => .isDirectory
  | .ok (.file ..) => .notDirectory
  | .ok (.vacant _) | .ok .nowhere => .notFound

/-- The bytes of a file, or the reason why there are none. -/
inductive Opened where
  | bytes (contents : ByteArray)
  /-- A directory can be opened, but its first line cannot be read. -/
  | directory

/-- Opens a path for reading. -/
def openRead (fs : FileSystem) (path : String) : Except PathError Opened := do
  match ← fs.resolve path with
  | .directory => pure .directory
  | .file _ contents => pure (.bytes contents)
  | .vacant _ | .nowhere => throw .notFound

/-- The lines of what was opened, each of them or the reason why it cannot be read. -/
def Opened.lines : Opened → List (Except PathError (List Char))
  | .directory => [.error .isDirectory]
  | .bytes contents =>
    (Text.byteLines contents).map fun line =>
      match String.fromUTF8? ⟨line.toArray⟩ with
      | some text => .ok text.toList
      | none => .error .notText

/-- The file system after a text was written to a path, in place of the file that stood there. -/
def write (fs : FileSystem) (path : String) (text : String) : Except PathError FileSystem := do
  if let some reason := refusal? path then throw reason
  if path.toList.getLast? = some '/' then throw (fs.slashError path)
  match ← fs.resolve path with
  | .directory => throw .isDirectory
  | .nowhere => throw .notFound
  | .file key _ | .vacant key => pure (fs.insert key (.file text.toUTF8))

/-- The text of a file. -/
def text? (fs : FileSystem) (path : String) : Option String :=
  match fs.openRead path with
  | .ok (.bytes contents) => String.fromUTF8? contents
  | _ => none

end FileSystem

end PerfGate
