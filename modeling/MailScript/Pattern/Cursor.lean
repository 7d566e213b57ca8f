import MailScript.Pattern.Error

/-! # Reading the notation of patterns

A pattern is read in tokens: a backslash belongs to the character behind it. The token under the
cursor is always complete, so a backslash at the very end is found as soon as the cursor reaches
it. -/

namespace MailScript.Pattern

/-- A token of the notation. -/
inductive Token where
  | char (c : Char)
  | escape (c : Char)
deriving DecidableEq, Repr

def Token.text : Token → List Char
  | .char c => [c]
  | .escape c => ['\\', c]

/-- A position in a pattern with the characters from there on. -/
structure Cursor where
  position : Nat
  rest : List Char
deriving Repr, Inhabited

/-- Reading may end in an error. -/
abbrev Attempt (α : Type) := Except Error α

/-- A broken notation at a position. -/
def malformed {α : Type} (reason : Reason) (position : Nat) : Attempt α :=
  .error (.malformed reason (some position))

namespace Cursor

/-- The token under the cursor. -/
def token? (cursor : Cursor) : Option Token :=
  match cursor.rest with
  | [] => none
  | '\\' :: c :: _ => some (.escape c)
  | c :: _ => some (.char c)

/-- A cursor at a place where no lone backslash ends the pattern. -/
def checked (cursor : Cursor) : Attempt Cursor :=
  match cursor.rest with
  | ['\\'] => malformed .escapeAtEnd cursor.position
  | _ => .ok cursor

/-- The cursor behind a number of characters. -/
def drop (cursor : Cursor) (count : Nat) : Cursor :=
  ⟨cursor.position + count, cursor.rest.drop count⟩

/-- The token under the cursor and the cursor behind it; at the end the cursor stays. -/
def next (cursor : Cursor) : Attempt (Option Token × Cursor) :=
  match cursor.token? with
  | none => .ok (none, cursor)
  | some token => do
    let cursor ← (cursor.drop token.text.length).checked
    return (some token, cursor)

/-- Step over a character if it is under the cursor. -/
def accept (cursor : Cursor) (c : Char) : Attempt (Bool × Cursor) :=
  if cursor.token? = some (.char c) then do
    let cursor ← (cursor.drop 1).checked
    return (true, cursor)
  else .ok (false, cursor)

/-- Take characters of a class, at most a given number of them. -/
def takeWhile (cursor : Cursor) (accepts : Char → Bool) : Nat → Attempt (List Char × Cursor)
  | 0 => .ok ([], cursor)
  | count + 1 =>
    match cursor.token? with
    | some (.char c) =>
      if accepts c then do
        let cursor ← (cursor.drop 1).checked
        let (taken, cursor) ← cursor.takeWhile accepts count
        return (c :: taken, cursor)
      else .ok ([], cursor)
    | _ => .ok ([], cursor)

/-- The text up to a terminator, which is stepped over. The fuel bounds the number of tokens. -/
def spanUntil (terminator : Char) (what : String) :
    Nat → List Char → Cursor → Attempt (List Char × Cursor)
  | 0, _, cursor => malformed (.missingName what) cursor.position
  | fuel + 1, name, cursor => do
    let (token, cursor) ← cursor.next
    match token with
    | none =>
      if name.isEmpty then malformed (.missingName what) cursor.position
      else malformed (.unterminatedName terminator) (cursor.position - name.length)
    | some token =>
      if token = .char terminator then
        if name.isEmpty then malformed (.missingName what) (cursor.position - 1)
        else return (name, cursor)
      else spanUntil terminator what fuel (name ++ token.text) cursor

/-- The nonempty text up to a terminator, which is stepped over. -/
def nameUntil (cursor : Cursor) (terminator : Char) (what : String) :
    Attempt (List Char × Cursor) :=
  spanUntil terminator what (cursor.rest.length + 1) [] cursor

end Cursor

end MailScript.Pattern
