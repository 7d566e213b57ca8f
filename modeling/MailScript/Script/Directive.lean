import MailScript.Failure
import MailScript.Text.Cut
import MailScript.Text.Letter

/-! # Directives

The first characters of a line say what it asks for. A directive is a tag of three characters with a
text behind it, a tag with a value behind a colon, or the opening of a block. -/

namespace MailScript.Script

/-- A line of a script. -/
abbrev Line := List Char

namespace Line

/-- The line starts with some characters. -/
def startsWith (line : Line) (start : String) : Bool :=
  start.toList.isPrefixOf line

/-- The length of a tag with the blank behind it. -/
def tagLength : Nat := 3

/-- The text behind the tag of a line. -/
def body (line : Line) : String :=
  String.ofList (line.drop tagLength)

/-- The text behind the first colon of a line, without blanks around it. -/
def value (line : Line) : Except Fault Line :=
  match Text.cutAtFirst ':' line with
  | some parts => .ok (Text.trimChars parts.2)
  | none => .error .missingColon

/-- The names in angle brackets in the rest of a line, given the name that has begun, if an opening
bracket is in front. -/
def namesBehind : Option Line → Line → List String
  | _, [] => []
  | none, c :: rest => namesBehind (if c = '<' then some [] else none) rest
  | some name, c :: rest =>
    if Text.isWord c.toNat then namesBehind (some (name ++ [c])) rest
    else if c = '>' ∧ name ≠ [] then String.ofList name :: namesBehind none rest
    else namesBehind (if c = '<' then some [] else none) rest

/-- The names in angle brackets anywhere in a line. -/
def names (line : Line) : List String :=
  namesBehind none line

/-- The digits of a number of seconds and its sign, if a text is such a number. -/
def signedDigits : Line → Option (Bool × Line)
  | '-' :: digits => checked true digits
  | '+' :: digits => checked false digits
  | digits => checked false digits
where
  /-- A sign with digits behind it. -/
  checked (negative : Bool) (digits : Line) : Option (Bool × Line) :=
    if digits ≠ [] ∧ digits.all fun c => Text.isAsciiDigit c.toNat then some (negative, digits)
    else none

/-- The milliseconds that a number of seconds behind the first colon of a line asks for: none for a
negative number and for anything that is no number. -/
def millis (line : Line) : Except Fault Nat := do
  match signedDigits (← line.value) with
  | none => return 0
  | some (negative, digits) =>
    if Text.digitLimit < digits.length then .error (.tooManyDigits digits.length)
    else if negative then return 0
    else return (Text.decimalNumber? digits).getD 0 * 1000

end Line

/-- What a line asks for. -/
inductive Directive where
  | prompt
  | request (message : String)
  | response (pattern : String)
  | capture (names : List String) (pattern : String)
  | openUnordered
  | openUpload
  /-- A comment or a blank line. -/
  | ignored
  | switch (label : String)
  | pause (millis : Nat)
  | skip
deriving DecidableEq, Repr

/-- What stops the compilation of a line: something that is reported with the place of the line, or
a fault that is passed on as it is. -/
inductive Objection where
  | cause (reason : CompileCause)
  | unreadable (filename : String) (error : SystemError)
  | fault (other : Fault)
deriving Repr

def Objection.place (script : String) (line : Nat) : Objection → Fault
  | .cause reason => .failure (.compile reason script line)
  | .unreadable filename error => .failure (.attachmentUnreadable filename error script line)
  | .fault other => other

namespace Directive

/-- The tag of a block whose lines may arrive in any order. -/
def unorderedTag : String := "SUB \x7b"

/-- The tag of a block that uploads attachments. -/
def uploadTag : String := "ATTACHMENT \x7b"

/-- The tag of a line that is read whatever it is. -/
def skipTag : String := "<BINARY_RESPONSE>"

/-- The tag of a line of a server. -/
def responseTag : String := "S:"

/-- The tag that ends a block. -/
def closingTag : String := "\x7d"

/-- A fault as an objection. -/
def unplaced {α : Type} : Except Fault α → Except Objection α
  | .ok value => .ok value
  | .error fault => .error (.fault fault)

def ofLine (line : Line) : Except Objection Directive := do
  if line = "S: \\+".toList ∨ line = "S: +".toList then return .prompt
  else if line.startsWith "C:" then return .request line.body
  else if line.startsWith responseTag then return .response line.body
  else if line.startsWith "S<" then
    return .capture line.names (String.ofList (← unplaced line.value))
  else if line.startsWith unorderedTag then return .openUnordered
  else if line.startsWith uploadTag then return .openUpload
  else if line.startsWith "#" ∨ line.all fun c => Text.isBlank c.toNat then return .ignored
  else if line.startsWith "SESSION:" then
    let label ← unplaced line.value
    if label = [] then .error (.cause .missingLabel)
    else return .switch (String.ofList label)
  else if line.startsWith "SLEEP:" then return .pause (← unplaced line.millis)
  else if line.startsWith skipTag then return .skip
  else .error (.cause (.unknownDirective (String.ofList (line.take Line.tagLength))))

end Directive

end MailScript.Script
