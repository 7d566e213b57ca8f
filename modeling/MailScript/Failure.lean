import MailScript.Clock
import MailScript.Event
import MailScript.HostAddress
import MailScript.SystemError
import MailScript.Text.Encoding

/-! # Failures

A failure of the harness has a cause. Its kind, its wording and its details are read off the cause.
Whatever else can go wrong is a fault of another category; only failures are reported as results of
a script. -/

namespace MailScript

/-! ## Kinds -/

inductive FailureKind where
  | general
  | configuration
  | compile
  | attachment
  | execution
  | mismatch
  | continuation
  | sessionLabel
  | transport
  | connect
  | connectTimeout
  | send
  | receive
  | receiveTimeout
  | attachmentTooLarge
  | scriptLoad
  | scriptFailed
deriving DecidableEq, Repr

namespace FailureKind

/-- All kinds, general ones before special ones. -/
def all : List FailureKind :=
  [.general, .configuration, .compile, .attachment, .execution, .mismatch, .continuation,
    .sessionLabel, .transport, .connect, .connectTimeout, .send, .receive, .receiveTimeout,
    .attachmentTooLarge, .scriptLoad, .scriptFailed]

def name : FailureKind → String
  | .general => "MptError"
  | .configuration => "ConfigurationError"
  | .compile => "CompileError"
  | .attachment => "AttachmentError"
  | .execution => "ScriptExecutionError"
  | .mismatch => "MatchError"
  | .continuation => "ContinuationError"
  | .sessionLabel => "SessionAliasError"
  | .transport => "TransportError"
  | .connect => "ConnectError"
  | .connectTimeout => "ConnectionTimeoutError"
  | .send => "SendError"
  | .receive => "ReceiveError"
  | .receiveTimeout => "ReceiveTimeoutError"
  | .attachmentTooLarge => "AttachmentTooLargeError"
  | .scriptLoad => "ScriptLoadError"
  | .scriptFailed => "ScriptFailedError"

def ofName? (name : String) : Option FailureKind :=
  all.find? fun kind => kind.name == name

/-- The next more general kind. -/
def parent? : FailureKind → Option FailureKind
  | .general => none
  | .attachment => some .compile
  | .mismatch | .continuation | .sessionLabel => some .execution
  | .connectTimeout => some .connect
  | .receiveTimeout => some .receive
  | .connect | .send | .receive | .attachmentTooLarge => some .transport
  | _ => some .general

/-- A kind and the more general ones; no kind is more than three steps from the most general. -/
def ancestry (kind : FailureKind) : List FailureKind :=
  go 4 kind
where
  /-- At most `fuel` kinds upwards. -/
  go : Nat → FailureKind → List FailureKind
    | 0, _ => []
    | fuel + 1, kind =>
      kind :: match kind.parent? with
        | some parent => go fuel parent
        | none => []

/-- A kind is another one or a special case of it. -/
def isA (kind ancestor : FailureKind) : Bool :=
  kind.ancestry.contains ancestor

end FailureKind

/-! ## Reports -/

/-- What is reported of a failure. -/
structure Report where
  kind : FailureKind
  message : String
  details : Details
deriving BEq, Repr

namespace Report

/-- A number that may be missing, as it is written in places. -/
def optionalNumber : Option Int → String
  | some value => toString value
  | none => "None"

/-- A report of a kind that has a place in a script: the wording names the place if the script is
known. -/
def placed (kind : FailureKind) (text : String) (script : Option String) (line : Option Int) :
    Report :=
  let message := match script with
    | some script => text ++ " (" ++ script ++ ":" ++ optionalNumber line ++ ")"
    | none => text
  ⟨kind, message,
    [("script_name", .optionalText script),
      ("line_number", match line with | some line => .int line | none => .null)]⟩

/-- A report of a label that no session has. -/
def unknownLabel (label : String) (available : List String) : Report :=
  let listing :=
    if available.isEmpty then "" else ". Available aliases: " ++ ", ".intercalate available
  ⟨.sessionLabel, "No session found for alias " ++ label ++ listing,
    [("alias", .text label), ("available", .texts available)]⟩

/-- A text that may be missing. -/
def optionalText? : Datum → Option (Option String)
  | .null => some none
  | .text value => some (some value)
  | _ => none

/-- A whole number that may be missing. -/
def optionalNumber? : Datum → Option (Option Int)
  | .null => some none
  | .int value => some (some value)
  | _ => none

/-- Texts that may be missing. -/
def texts? : Datum → Option (List String)
  | .null => some []
  | .list items => items.mapM fun
    | .text value => some value
    | _ => none
  | _ => none

/-- The report of a kind that is given its parts: a label and the known ones, a text and a place, or
a text and details. Parts at the end may be left out. -/
def ofParts? (kind : FailureKind) : List Datum → Option Report
  | [.text text] => ofParts kind text .null .null
  | [.text text, part] => ofParts kind text part .null
  | [.text text, part, last] => ofParts kind text part last
  | _ => none
where
  /-- The report of a kind with all parts. -/
  ofParts (kind : FailureKind) (text : String) (part last : Datum) : Option Report :=
    if kind = .sessionLabel then (texts? part).map (unknownLabel text)
    else if kind.isA .compile then do
      return placed kind text (← optionalText? part) (← optionalNumber? last)
    else match part with
      | .null => some ⟨kind, text, []⟩
      | .record details => some ⟨kind, text, details⟩
      | _ => none

end Report

/-! ## Causes -/

/-- What is wrong with a script. -/
inductive CompileCause where
  | unterminated (block : String)
  | foreignLineInBlock
  | badAttachmentHead
  | missingLabel
  | invalidPattern (pattern : String) (error : Pattern.Error)
  | noCapturingGroup (pattern : String)
  | unknownDirective (start : String)
deriving DecidableEq, Repr

def CompileCause.message : CompileCause → String
  | .unterminated block => "Unterminated '" ++ block ++ "' block"
  | .foreignLineInBlock => "Only 'S: ' lines are permitted inside a 'SUB \x7b' block."
  | .badAttachmentHead =>
    "An 'ATTACHMENT \x7b' block must start with a command line and a continuation line"
  | .missingLabel => "No host alias specified"
  | .invalidPattern pattern error =>
    "Invalid server pattern '" ++ pattern ++ "': " ++ error.message pattern
  | .noCapturingGroup pattern => "Capture pattern '" ++ pattern ++ "' has no capturing group"
  | .unknownDirective start => "Invalid line prefix: " ++ start

/-- What is wrong with a configuration. -/
inductive ConfigurationCause where
  | noScripts
  | noHosts
  | duplicateLabels (labels : List String)
  | badVariable (spec : String)
  | badHost (spec : String) (error : HostError)
deriving DecidableEq, Repr

/-- A line that was expected to match. -/
structure Origin where
  location : String
  lastRequest : Option String
deriving DecidableEq, Repr

/-- The remote end of a session. -/
structure Endpoint where
  label : String
  host : String
  port : Int
deriving DecidableEq, Repr

def Endpoint.address (endpoint : Endpoint) : String :=
  endpoint.host ++ ":" ++ toString endpoint.port

/-- A failure of the harness with its cause. -/
inductive Failure where
  | configuration (cause : ConfigurationCause)
  | compile (cause : CompileCause) (script : String) (line : Nat)
  | attachmentUnreadable (filename : String) (error : SystemError) (script : String) (line : Nat)
  | attachmentTooLarge (filename : String) (size : Nat) (limit : Int)
  | mismatch (origin : Origin) (expected actual : String)
  | unorderedMismatch (location : String) (expected : List String) (actual : String)
  | continuationMissing (actual : String)
  | continuationUnexpected (state : String)
  | unknownLabel (label : String) (available : List String)
  | notConnected (label : String)
  | openFailed (endpoint : Endpoint) (error : SystemError)
  | connectRefused (endpoint : Endpoint) (number : Int)
  | connectTimedOut (endpoint : Endpoint) (timeout : Decimal)
  | sendFailed (endpoint : Endpoint) (error : SystemError) (size : Nat)
  | receiveFailed (endpoint : Endpoint) (error : SystemError)
  | peerClosed (endpoint : Endpoint)
  | receiveTimedOut (endpoint : Endpoint) (timeout : Decimal)
  | scriptMissing (path : String) (error : SystemError)
  | scriptFailed (script : String) (cause : Failure)
  /-- A failure that a session or a caller states in its own words. -/
  | stated (report : Report)
deriving Repr

/-- The wording of a line that does not match its pattern. -/
def mismatchMessage (location : String) (lastRequest : Option String) (expected actual : String) :
    String :=
  "\nLocation: " ++ location ++ "\nLastClientMsg: " ++ lastRequest.getD "None"
    ++ "\nExpected: '" ++ expected ++ "'\nActual   : '" ++ actual ++ "'"

/-- The wording of a line that matches none of several patterns. -/
def unorderedMismatchMessage (location : String) (expected : List String) (actual : String) :
    String :=
  "\nLocation: " ++ location ++ "\nExpected one of: "
    ++ String.join (expected.map fun pattern => "\n    " ++ pattern) ++ "\nActual: " ++ actual

def ConfigurationCause.report : ConfigurationCause → Report
  | .noScripts => ⟨.configuration, "Scripts must be specified", []⟩
  | .noHosts => ⟨.configuration, "At least one remote host must be specified", []⟩
  | .duplicateLabels labels =>
    ⟨.configuration, "Duplicate remote host aliases: " ++ ", ".intercalate labels,
      [("aliases", .texts labels)]⟩
  | .badVariable spec =>
    ⟨.configuration, "Invalid variable '" ++ spec ++ "', expected NAME=VALUE", []⟩
  | .badHost spec error => ⟨.configuration, error.message spec, [("host", .text spec)]⟩

def Failure.report : Failure → Report
  | .configuration cause => cause.report
  | .compile cause script line => .placed .compile cause.message (some script) (some line)
  | .attachmentUnreadable filename error script line =>
    .placed .attachment ("Could not read attachment '" ++ filename ++ "': " ++ error.message)
      (some script) (some line)
  | .attachmentTooLarge filename size limit =>
    ⟨.attachmentTooLarge, "File size is too big: " ++ toString size,
      [("filename", .text filename), ("size", .nat size), ("limit", .int limit)]⟩
  | .mismatch origin expected actual =>
    ⟨.mismatch, mismatchMessage origin.location origin.lastRequest expected actual,
      [("location", .text origin.location), ("expected", .text expected),
        ("actual", .text actual)]⟩
  | .unorderedMismatch location expected actual =>
    ⟨.mismatch, unorderedMismatchMessage location expected actual,
      [("location", .text location), ("expected", .texts expected), ("actual", .text actual)]⟩
  | .continuationMissing actual =>
    ⟨.continuation, "Expected continuation", [("actual", .text actual)]⟩
  | .continuationUnexpected state =>
    ⟨.continuation, "Unexpected continuation", [("state", .text state)]⟩
  | .unknownLabel label available => .unknownLabel label available
  | .notConnected label => ⟨.transport, "Not connected", [("alias", .text label)]⟩
  | .openFailed endpoint error =>
    ⟨.connect, "Error opening channel to " ++ endpoint.address ++ ": " ++ error.message,
      [("alias", .text endpoint.label), ("error", .text error.message)]⟩
  | .connectRefused endpoint number =>
    ⟨.connect,
      "Error opening channel to " ++ endpoint.address ++ ": "
        ++ (systemErrorName? number).getD (toString number),
      [("alias", .text endpoint.label), ("errno", .int number)]⟩
  | .connectTimedOut endpoint timeout =>
    ⟨.connectTimeout, "Connection timeout to " ++ endpoint.address,
      [("alias", .text endpoint.label), ("timeout_sec", .decimal timeout)]⟩
  | .sendFailed endpoint error size =>
    ⟨.send, "Failed to send data to " ++ endpoint.address,
      [("alias", .text endpoint.label), ("error", .text error.message), ("data_size", .nat size)]⟩
  | .receiveFailed endpoint error =>
    ⟨.receive, "Failed to read from " ++ endpoint.address,
      [("alias", .text endpoint.label), ("error", .text error.message)]⟩
  | .peerClosed endpoint =>
    ⟨.receive, "Connection closed by peer",
      [("alias", .text endpoint.label), ("host", .text endpoint.host),
        ("port", .int endpoint.port)]⟩
  | .receiveTimedOut endpoint timeout =>
    ⟨.receiveTimeout, "Receive timeout from " ++ endpoint.address,
      [("alias", .text endpoint.label), ("timeout_sec", .decimal timeout)]⟩
  | .scriptMissing path error =>
    ⟨.scriptLoad, "Test Resource '" ++ path ++ "' not found.",
      [("path", .text path), ("error", .text error.message)]⟩
  | .scriptFailed script cause =>
    ⟨.scriptFailed, "[FAILURE] in script " ++ script ++ "\n" ++ cause.report.message,
      [("script_name", .text script), ("error_type", .text cause.report.kind.name)]⟩
  | .stated report => report

namespace Failure

def kind (failure : Failure) : FailureKind := failure.report.kind

def message (failure : Failure) : String := failure.report.message

def details (failure : Failure) : Details := failure.report.details

end Failure

/-! ## Faults -/

/-- Why a date is none. -/
inductive DateError where
  | year (value : Int)
  | month
  | day
  | hour
  | minute
  | second
  | microsecond
  | offset (shown : String)
deriving DecidableEq, Repr

def DateError.message : DateError → String
  | .year value => "year " ++ toString value ++ " is out of range"
  | .month => "month must be in 1..12"
  | .day => "day is out of range for month"
  | .hour => "hour must be in 0..23"
  | .minute => "minute must be in 0..59"
  | .second => "second must be in 0..59"
  | .microsecond => "microsecond must be in 0..999999"
  | .offset shown =>
    "offset must be a timedelta strictly between -timedelta(hours=24) and timedelta(hours=24), not "
      ++ shown ++ "."

/-- Whatever ends an operation early: a failure of the harness, or something that is none. -/
inductive Fault where
  | failure (cause : Failure)
  /-- A pattern that was never checked turns out to be none. -/
  | malformedPattern (pattern : String) (error : Pattern.Error)
  /-- A capture needs a group and the pattern has none. -/
  | noGroup
  /-- A line has no colon. -/
  | missingColon
  | tooManyDigits (count : Nat)
  /-- A pause is too long for a clock in seconds. -/
  | pauseTooLong
  /-- A clock refuses a pause. -/
  | pauseRefused (error : WaitError)
  /-- The number of bytes to be received is negative. -/
  | negativeSize
  /-- An address cannot be put to the system: the category of the error and its wording. -/
  | addressRejected (category text : String)
  /-- A path holds the character NUL. -/
  | nulInPath
  | undecodable (error : Text.DecodingError)
  | unknownEncoding (name : String)
  | badHost (spec : String) (error : HostError)
  | invalidFields (fields : List FieldError)
  | unknownStatus (name : String)
  | badDate (error : DateError)
  /-- A search pattern starts at the root of the file system. -/
  | absoluteSearch
  | badSearch (text : String)
  | system (error : SystemError)
  | noElement
deriving Repr

def Fault.message : Fault → String
  | .failure cause => cause.message
  | .malformedPattern pattern error => error.message pattern
  | .noGroup => "no such group"
  | .missingColon => "substring not found"
  | .tooManyDigits count => Pattern.digitLimitMessage count
  | .pauseTooLong => "int too large to convert to float"
  | .pauseRefused error => error.message
  | .negativeSize => "negative buffersize in recv"
  | .addressRejected _ text => text
  | .nulInPath => "embedded null byte"
  | .undecodable error => error.message
  | .unknownEncoding name => "unknown encoding: " ++ name
  | .badHost spec error => error.message spec
  | .invalidFields _ => "<validation error>"
  | .unknownStatus name => Text.quoted name ++ " is not a valid ScriptStatus"
  | .badDate error => error.message
  | .absoluteSearch => "Non-relative patterns are unsupported"
  | .badSearch text => text
  | .system error => error.message
  | .noElement => "list index out of range"

/-- The name of the category of a fault. -/
def Fault.typeName : Fault → String
  | .failure cause => cause.kind.name
  | .malformedPattern _ (.malformed ..) => "RegexError"
  | .malformedPattern _ .repetitionTooLarge | .malformedPattern _ .codeTooLarge => "OverflowError"
  | .malformedPattern _ _ => "ValueError"
  | .noGroup | .noElement => "IndexError"
  | .pauseTooLong => "OverflowError"
  | .pauseRefused error => error.typeName
  | .addressRejected category _ => category
  | .undecodable _ => "UnicodeDecodeError"
  | .unknownEncoding _ => "LookupError"
  | .badHost _ (.invalid _) | .invalidFields _ => "ValidationError"
  | .absoluteSearch => "NotImplementedError"
  | .system error => error.typeName
  | _ => "ValueError"

/-- The fields that a fault finds fault with, if it is about fields. -/
def Fault.fields? : Fault → Option (List FieldError)
  | .badHost _ (.invalid fields) | .invalidFields fields => some fields
  | .failure (.configuration (.badHost _ (.invalid fields))) => some fields
  | _ => none

/-- A failure as a fault that ends an operation. -/
def fail {α : Type} (failure : Failure) : Except Fault α :=
  .error (.failure failure)

end MailScript
