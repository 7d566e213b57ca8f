import MailScript.Files.Tree
import MailScript.Files.Wildcard

/-! # Searching for scripts

A directory stands for the files below it, at any depth, that a pattern finds. A pattern may have
several parts: names, name patterns, two dots for the directory above, and two stars for any
directories. -/

namespace MailScript

/-- A part of a search pattern. -/
inductive SearchPart where
  | anywhere
  | above
  | matching (pattern : String)
  | named (name : String)
deriving DecidableEq, Repr

/-- Read a part of a search pattern. Two stars are a whole part or none of it. -/
def SearchPart.ofString (text : String) : Except Fault SearchPart :=
  if text = "**" then .ok .anywhere
  else if text = ".." then .ok .above
  else if 2 ≤ (text.splitOn "**").length then
    .error (.badSearch "Invalid pattern: '**' can only be an entire path component")
  else if Wildcard.isPattern text then .ok (.matching text)
  else .ok (.named text)

/-- Read a search pattern. With a slash at its end it finds directories only. -/
def readSearch (pattern : String) : Except Fault (List SearchPart × Bool) :=
  let path := Path.ofString pattern
  if path.isAbsolute then .error .absoluteSearch
  else do
    return (← path.parts.mapM SearchPart.ofString, pattern.toList.getLast? == some '/')

namespace FileTree

/-- There is a directory at a path; what cannot be found is none. -/
def isDirectoryAt (tree : FileTree) (path : Path) : Except Fault Bool :=
  match tree.locate path with
  | .ok (.inside parts) => .ok (tree.isDirectory parts)
  | .ok .outside => .ok true
  | .error (.system e) => if e = .nameTooLong path.render then .error (.system e) else .ok false
  | .error _ => .ok false

def isFileAt (tree : FileTree) (path : Path) : Bool :=
  match tree.locate path with
  | .ok (.inside parts) => (tree.data? parts).isSome
  | _ => false

/-- The entries of the directory at a path, with whether each is a directory. -/
def entriesAt (tree : FileTree) (path : Path) : List (String × Bool) :=
  match tree.locate path with
  | .ok (.inside parts) =>
    let childOf (entry : List String) : Option String :=
      if entry.dropLast = parts then entry.getLast? else none
    (((tree.directories.filterMap childOf).eraseDups.map fun name => (name, true))
      ++ ((tree.files.map (·.1)).filterMap childOf).eraseDups.map fun name => (name, false))
  | _ => []

/-- The path of an entry below a path. -/
def below (path : Path) (parts : List String) : Path :=
  { path with parts := path.parts ++ parts }

/-- The directory at a path and all directories below it. -/
def directoriesFrom (tree : FileTree) (path : Path) : List Path :=
  match tree.locate path with
  | .ok (.inside parts) =>
    let deeper := tree.directories.filter fun directory =>
      parts.isPrefixOf directory && parts.length < directory.length
    path :: deeper.eraseDups.map fun directory => below path (directory.drop parts.length)
  | _ => [path]

/-- The paths that the parts of a search pattern find from a path on. -/
def select (tree : FileTree) : List SearchPart → Path → Except Fault (List Path)
  | [], path => .ok [path]
  | .anywhere :: rest, path => do
    return (← (tree.directoriesFrom path).mapM (tree.select rest)).flatten.eraseDups
  | .above :: rest, path => tree.select rest (below path [".."])
  | .matching pattern :: rest, path => do
    let found := (tree.entriesAt path).filter fun entry =>
      (rest.isEmpty || entry.2) && Wildcard.accepts pattern entry.1
    return (← found.mapM fun entry => tree.select rest (below path [entry.1])).flatten
  | .named name :: rest, path => do
    let next := below path [name]
    if (← tree.isDirectoryAt next) || (rest.isEmpty && tree.isFileAt next) then
      tree.select rest next
    else return []

/-- Order paths part by part. -/
def pathOrder (a b : Path) : Bool :=
  a.root < b.root || (a.root = b.root && !List.lex b.parts a.parts fun x y => x < y)

/-- The files below a directory that a pattern finds, in order. -/
def filesBelow (tree : FileTree) (pattern : String) (directory : Path) :
    Except Fault (List Path) := do
  let (parts, directoriesOnly) ← readSearch pattern
  let found ← tree.select (.anywhere :: parts) directory
  return if directoriesOnly then []
    else (found.filter tree.isFileAt).mergeSort pathOrder

/-- The scripts that some paths stand for: those below directories, and every other path itself. -/
def discover (tree : FileTree) (pattern : String) : List Path → Except Fault (List Path)
  | [] => .ok []
  | path :: rest => do
    let scripts ←
      if ← tree.isDirectoryAt path then tree.filesBelow pattern path else pure [path]
    return scripts ++ (← tree.discover pattern rest)

end FileTree

end MailScript
