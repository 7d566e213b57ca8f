import MailScript.Failure
import MailScript.Pattern
import MailScript.Variables

/-! # Matching lines

A line of a server is held against one pattern, or against several in any order. Names in front of a
pattern capture the first group of its successive occurrences, whether the whole line matches or
not. -/

namespace MailScript

/-- Read a pattern; a text that is none is a fault. -/
def readPattern (source : String) : Except Fault Pattern :=
  match Pattern.parse source with
  | .ok pattern => .ok pattern
  | .error e => .error (.malformedPattern source e)

/-- What the names capture: each takes the first group of the next occurrence, which is unknown if
the group took no part. -/
def Pattern.captures (pattern : Pattern) (line : String) (names : List String) :
    Except Fault (List Binding) :=
  let pairs := (pattern.occurrences line).zip names
  if pattern.groups = 0 ∧ pairs ≠ [] then .error .noGroup
  else .ok (pairs.map fun pair => (pair.2, pair.1.group? line 1))

/-- What names capture from a line. -/
def capture (source line : String) (names : List String) : Except Fault (List Binding) := do
  (← readPattern source).captures line names

/-- What holding a line against a pattern yields. -/
structure LineMatch where
  captured : List Binding
  accepted : Bool
deriving DecidableEq, Repr

/-- Hold a line against a pattern that may capture. -/
def matchLine (source line : String) (names : List String) : Except Fault LineMatch := do
  let pattern ← readPattern source
  return ⟨← pattern.captures line names, pattern.fullMatches line⟩

/-- A pattern matches a whole line. -/
def accepts (source line : String) : Except Fault Bool := do
  return (← readPattern source).fullMatches line

/-! ## Lines in any order -/

/-- Take the first pattern that accepts a line out of a list of patterns; `none` if none does. -/
def takeAccepting (accepts : String → String → Except Fault Bool) (line : String) :
    List String → Except Fault (Option (List String))
  | [] => .ok none
  | pattern :: rest => do
    if ← accepts pattern line then return some rest
    else return (← takeAccepting accepts line rest).map fun remaining => pattern :: remaining

/-- Read as many lines as the count says. Each line uses up the first remaining pattern that accepts
it, and a line that none accepts is reported. The result is the lines in order of arrival. -/
def receiveUnordered {m : Type → Type} [Monad m] [MonadExceptOf Fault m]
    (accepts : String → String → Except Fault Bool) (read : m String) (report : Failure → m Unit)
    (location : String) (patterns : List String) : Nat → List String → m (List String)
  | 0, _ => pure []
  | count + 1, remaining => do
    let line ← read
    let remaining ← match takeAccepting accepts line remaining with
      | .error fault => throw fault
      | .ok (some fewer) => pure fewer
      | .ok none => do
        report (.unorderedMismatch location patterns line)
        pure remaining
    return line :: (← receiveUnordered accepts read report location patterns count remaining)

/-- Read one line per pattern and hold the lines against the patterns in any order. -/
def matchUnordered {m : Type → Type} [Monad m] [MonadExceptOf Fault m]
    (accepts : String → String → Except Fault Bool) (read : m String) (report : Failure → m Unit)
    (location : String) (patterns : List String) : m (List String) :=
  receiveUnordered accepts read report location patterns patterns.length patterns

/-! ## Lines at hand -/

/-- Lines that are still to be read, the number of lines that have been read, and the failures
handed over so far. -/
structure Feed where
  unread : List String
  reads : Nat
  failures : List Failure
deriving Repr

namespace Feed

def ofLines (lines : List String) : Feed := ⟨lines, 0, []⟩

/-- Reading lines at hand; reading beyond the last one fails. -/
abbrev Reader := ExceptT Fault (StateM Feed)

/-- The failure of reading beyond the last line. -/
def exhausted : Failure := .stated ⟨.receive, "Connection closed by peer", []⟩

def read : Reader String := do
  let feed ← get
  match feed.unread with
  | [] => throw (.failure exhausted)
  | line :: rest => do
    set { feed with unread := rest, reads := feed.reads + 1 }
    return line

def refuse (failure : Failure) : Reader Unit :=
  throw (.failure failure)

/-- Note a failure and go on. -/
def collect (failure : Failure) : Reader Unit :=
  modify fun feed => { feed with failures := feed.failures ++ [failure] }

end Feed

/-- Hold lines at hand against patterns in any order. With `collecting` failures are noted, without
it the first one ends the reading. -/
def matchLines (accepts : String → String → Except Fault Bool) (collecting : Bool)
    (location : String) (patterns lines : List String) : Except Fault (List String) × Feed :=
  (matchUnordered accepts Feed.read (if collecting then Feed.collect else Feed.refuse) location
    patterns).run.run (Feed.ofLines lines)

end MailScript
