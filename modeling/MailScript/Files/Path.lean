import MailScript.Text.Cut

/-! # Paths

A path is a root and a list of parts. Empty parts and parts of a single dot are left out; two dots
are kept, because where they lead depends on the files. -/

namespace MailScript

/-- A path: its root, which is empty for a relative path, and its parts. -/
structure Path where
  root : String
  parts : List String
deriving DecidableEq, Repr, Inhabited

namespace Path

/-- The root of a path: two slashes count as another root than one or than three. -/
def rootOf : List Char → String
  | '/' :: '/' :: '/' :: _ => "/"
  | '/' :: '/' :: _ => "//"
  | '/' :: _ => "/"
  | _ => ""

def ofString (text : String) : Path :=
  ⟨rootOf text.toList,
    ((Text.splitAt '/' text.toList).map String.ofList).filter fun part => part ≠ "" ∧ part ≠ "."⟩

def render (path : Path) : String :=
  if path.root = "" ∧ path.parts = [] then "."
  else path.root ++ "/".intercalate path.parts

def isAbsolute (path : Path) : Bool :=
  path.root ≠ ""

/-- The paths that lead from the working directory to some parts, both ends included. -/
def stations : List String → List (List String)
  | [] => [[]]
  | part :: rest => [] :: (stations rest).map fun parts => part :: parts

/-- The last part of a path; nothing if there is none. -/
def name (path : Path) : String :=
  path.parts.getLastD ""

/-- The path without its last part. -/
def parent (path : Path) : Path :=
  { path with parts := path.parts.dropLast }

/-- Go on from a path along another one; an absolute one is taken as it is. -/
def join (path other : Path) : Path :=
  if other.isAbsolute then other else { path with parts := path.parts ++ other.parts }

end Path

end MailScript
