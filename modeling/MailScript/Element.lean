import MailScript.Failure

/-! # Elements of a script

Every directive of a script becomes one element, apart from a block that uploads attachments, which
becomes several. -/

namespace MailScript

/-- Data that is sent in place of a line. -/
structure Attachment where
  data : List UInt8
  filename : String
deriving DecidableEq, Repr

def Attachment.describe (attachment : Attachment) : String :=
  "Attachment(filename=" ++ Text.quoted attachment.filename ++ ", size="
    ++ toString attachment.data.length ++ ")"

/-- A step of a script. -/
inductive Element where
  /-- Send a line made from a template. -/
  | request (template : String)
  /-- Send an attachment. -/
  | upload (attachment : Attachment)
  /-- Read a line that a pattern must match. -/
  | response (pattern : String) (origin : Origin) (captures : List String)
  /-- Read one line for each of some patterns, in any order. -/
  | unordered (patterns : List String) (origin : Origin)
  /-- Read a line, whatever it is. -/
  | skipped (description : String) (origin : Origin)
  /-- Read the line with which the server asks for more. -/
  | prompt
  /-- Wait for a number of milliseconds. -/
  | pause (millis : Int)
  /-- Go over to the session with a label. -/
  | switch (label : String)
deriving DecidableEq, Repr

namespace Element

/-- The element sends, so it never waits for the server. -/
def isClient : Element → Bool
  | .request _ | .upload _ => true
  | _ => false

/-- The name of the kind of an element in reports. -/
def typeName : Element → String
  | .request _ => "ClientRequest"
  | .upload _ => "BinaryAttachment"
  | .response .. => "ServerResponse"
  | .unordered .. => "ServerUnorderedBlock"
  | .skipped .. => "BinaryResponse"
  | .prompt => "Continuation"
  | .pause _ => "Sleep"
  | .switch _ => "SetSession"

/-- The number of lines that an element reads. -/
def lineCount : Element → Nat
  | .response .. | .skipped .. | .prompt => 1
  | .unordered patterns _ => patterns.length
  | _ => 0

end Element

end MailScript
