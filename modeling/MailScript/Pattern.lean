import MailScript.Pattern.Matcher
import MailScript.Pattern.Notation

/-! # Patterns

A pattern is a text in the notation of regular expressions. It can be held against a whole line, and
its occurrences in a line can be listed from left to right. -/

namespace MailScript

/-- A pattern that has been read. -/
structure Pattern where
  source : String
  node : Pattern.Node
  groups : Nat
deriving DecidableEq, Repr, Inhabited

namespace Pattern

def parse (source : String) : Except Error Pattern :=
  match readOutline source.toList with
  | .ok outline => .ok ⟨source, outline.node, outline.groups.count - 1⟩
  | .error e => .error e

def startAt (pattern : Pattern) (position : Nat) : Spot :=
  ⟨position, .none pattern.groups⟩

/-- A pattern matches a whole text. -/
def fullMatches (pattern : Pattern) (text : String) : Bool :=
  let subject := Subject.ofString text
  ((pattern.node.run subject (pattern.startAt 0)).find?
    fun spot => spot.position == subject.size).isSome

/-- An occurrence of a pattern in a text: its span and the marks of its groups. -/
structure Occurrence where
  start : Nat
  stop : Nat
  marks : Marks
deriving DecidableEq, Repr

/-- The occurrence that starts at a position, nonempty if `advancing`. -/
def occurrenceAt (pattern : Pattern) (subject : Subject) (position : Nat) (advancing : Bool) :
    Option Occurrence :=
  ((pattern.node.run subject (pattern.startAt position)).find?
    fun spot => !(advancing && spot.position == position)).map
      fun spot => ⟨position, spot.position, spot.marks⟩

/-- The first occurrence from a position on; an occurrence at the position itself must be nonempty
if `advancing`. -/
def search (pattern : Pattern) (subject : Subject) (position : Nat) (advancing : Bool) :
    Option Occurrence :=
  match pattern.occurrenceAt subject position advancing with
  | some occurrence => some occurrence
  | none =>
    (List.range' (position + 1) (subject.size - position)).findSome?
      fun later => pattern.occurrenceAt subject later false

/-- The occurrences from a position on. An occurrence starts where the one before it stopped or
later; behind an empty one it must not be empty at the same place. The fuel bounds their number. -/
def occurrencesFrom (pattern : Pattern) (subject : Subject) : Nat → Nat → Bool → List Occurrence
  | 0, _, _ => []
  | fuel + 1, position, advancing =>
    match pattern.search subject position advancing with
    | none => []
    | some occurrence =>
      occurrence ::
        occurrencesFrom pattern subject fuel occurrence.stop (occurrence.stop == occurrence.start)

/-- The occurrences of a pattern in a text, from left to right. -/
def occurrences (pattern : Pattern) (text : String) : List Occurrence :=
  let subject := Subject.ofString text
  pattern.occurrencesFrom subject (2 * subject.size + 3) 0 false

/-- What a group matched in an occurrence, if it took part. -/
def Occurrence.group? (occurrence : Occurrence) (text : String) (group : Nat) : Option String :=
  (occurrence.marks.span? group).map fun span =>
    String.ofList ((text.toList.drop span.1).take (span.2 - span.1))

end Pattern

end MailScript
