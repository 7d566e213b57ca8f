import MailScript.Failure
import MailScript.Files.Path

/-! # File trees

The files that scripts and attachments are read from form a tree below a working directory. Paths
are followed part by part; what lies outside the tree is known to consist of directories only. -/

namespace MailScript

/-- Files and directories below a working directory, by their parts from there. -/
structure FileTree where
  directories : List (List String)
  files : List (List String × List UInt8)
deriving Repr, Inhabited

/-- Where a path leads. -/
inductive Place where
  /-- A place in the tree. -/
  | inside (parts : List String)
  /-- A directory outside the tree. -/
  | outside
deriving DecidableEq, Repr

namespace FileTree

/-- The longest name that a file system takes, in bytes. -/
def nameLimit : Nat := 255

/-- The longest path that a file system takes, in bytes. -/
def pathLimit : Nat := 4095

/-- The size that is reported for a directory. -/
def directorySize : Nat := 4096

/-- A tree of some directories and files with all directories on the way to them. -/
def ofEntries (directories : List Path) (files : List (Path × List UInt8)) : FileTree :=
  ⟨(directories.flatMap fun path => Path.stations path.parts)
      ++ files.flatMap fun file => Path.stations file.1.parts.dropLast,
    files.map fun file => (file.1.parts, file.2)⟩

/-- The data of the file at some parts. The last file of a path counts. -/
def data? (tree : FileTree) (parts : List String) : Option (List UInt8) :=
  (tree.files.reverse.find? fun file => file.1 == parts).map (·.2)

/-- There is a directory at some parts. -/
def isDirectory (tree : FileTree) (parts : List String) : Bool :=
  parts.isEmpty || tree.directories.contains parts

/-- Follow parts from a place. -/
def follow (tree : FileTree) (path : String) : Place → List String → Except SystemError Place
  | place, [] => .ok place
  | .outside, part :: rest =>
    if part = ".." then tree.follow path .outside rest
    else if nameLimit < part.utf8ByteSize then .error (.nameTooLong path)
    else .error (.notFound path)
  | .inside here, part :: rest =>
    if !tree.isDirectory here then .error (.notDirectory path)
    else if part = ".." then
      tree.follow path (if here.isEmpty then .outside else .inside here.dropLast) rest
    else if nameLimit < part.utf8ByteSize then .error (.nameTooLong path)
    else
      let next := here ++ [part]
      if tree.isDirectory next || (tree.data? next).isSome then
        tree.follow path (.inside next) rest
      else .error (.notFound path)

/-- Find the place of a path. -/
def locate (tree : FileTree) (path : Path) : Except Fault Place :=
  let text := path.render
  if text.toList.contains '\x00' then .error .nulInPath
  else if pathLimit < text.utf8ByteSize then .error (.system (.nameTooLong text))
  else
    match tree.follow text (if path.isAbsolute then .outside else .inside []) path.parts with
    | .ok place => .ok place
    | .error e => .error (.system e)

/-- The size of what lies at a place. -/
def sizeAt (tree : FileTree) : Place → Nat
  | .inside parts =>
    match tree.data? parts with
    | some data => data.length
    | none => directorySize
  | .outside => directorySize

/-- Read the file at a place. -/
def readAt (tree : FileTree) (path : Path) : Place → Except Fault (List UInt8)
  | .inside parts =>
    match tree.data? parts with
    | some data => .ok data
    | none => .error (.system (.isDirectory path.render))
  | .outside => .error (.system (.isDirectory path.render))

def read (tree : FileTree) (path : Path) : Except Fault (List UInt8) := do
  tree.readAt path (← tree.locate path)

end FileTree

end MailScript
