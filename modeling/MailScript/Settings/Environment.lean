import MailScript.Files.Tree
import MailScript.Settings
import MailScript.Settings.Assignments
import MailScript.Text.Digit
import MailScript.Text.Encoding

/-! # Settings from the environment

Every setting can be given by an environment variable, or else by a file of assignments. A value
that makes no sense is an error of its field; the errors of all fields are reported together. -/

namespace MailScript.Settings

/-! ## Values -/

/-- A text in lower case, as far as ASCII goes. -/
def lowered (text : String) : String :=
  String.ofList (text.toList.map Char.toLower)

/-- The truth value that a word stands for. -/
def readFlag (text : String) : Option Bool :=
  let word := lowered text
  if ["1", "on", "t", "true", "y", "yes"].contains word then some true
  else if ["0", "off", "f", "false", "n", "no"].contains word then some false
  else none

/-- A text without blanks around it. -/
def trimmed (text : String) : List Char := Text.trimChars text.toList

/-- A sign and the text behind it. -/
def cutSign : List Char → Bool × List Char
  | '-' :: rest => (true, rest)
  | '+' :: rest => (false, rest)
  | rest => (false, rest)

/-- A row of ASCII digits, single underscores between them left out. -/
def plainDigits (text : List Char) : Option (List Char) :=
  let parts := Text.splitAt '_' text
  if parts.all fun part => part ≠ [] && part.all fun c => Text.isAsciiDigit c.toNat then
    some parts.flatten
  else none

/-- The number that a row of ASCII digits denotes. -/
def digitsValue (digits : List Char) : Nat := (Text.decimalNumber? digits).getD 0

/-- A whole number: a sign, digits, and perhaps a point with zeros. -/
def readWhole (text : String) : Option Int := do
  let (negative, number) := cutSign (trimmed text)
  let digits ← match Text.cutAtFirst '.' number with
    | none => some number
    | some (whole, zeros) => if zeros ≠ [] && zeros.all (· = '0') then some whole else none
  let value := digitsValue (← plainDigits digits)
  return if negative then -(value : Int) else value

/-- The digits before and behind a point. -/
def mantissaDigits (text : List Char) : Option (List Char × List Char) :=
  let isNumber (part : List Char) := part.all fun c => Text.isAsciiDigit c.toNat
  match Text.cutAtFirst '.' text with
  | none => if text ≠ [] && isNumber text then some (text, []) else none
  | some (whole, fraction) =>
    if whole ++ fraction ≠ [] && isNumber whole && isNumber fraction then some (whole, fraction)
    else none

/-- The exponent behind the letter e. -/
def readExponent (text : List Char) : Option Int :=
  let (negative, digits) := cutSign text
  if digits ≠ [] && digits.all fun c => Text.isAsciiDigit c.toNat then
    some (if negative then -(digitsValue digits : Int) else digitsValue digits)
  else none

/-- A decimal fraction with a power of ten, written with at least one place. -/
def scaled (coefficient : Int) (places : Int) : Decimal :=
  if 1 ≤ places then ⟨coefficient, places.toNat⟩
  else ⟨coefficient * Nat.pow 10 (1 - places).toNat, 1⟩

/-- A fraction: a sign, digits with a point among them, and perhaps a power of ten. -/
def readFraction (text : String) : Option Decimal := do
  let (negative, number) := cutSign (trimmed text)
  let number := number.map Char.toLower
  let (mantissa, exponent) ← match Text.cutAtFirst 'e' number with
    | none => some (number, 0)
    | some (mantissa, exponent) => (readExponent exponent).map fun e => (mantissa, e)
  let (whole, fraction) ← mantissaDigits mantissa
  let size := digitsValue (whole ++ fraction)
  return scaled (if negative then -(size : Int) else size) (fraction.length - exponent)

/-! ## Fields -/

/-- What the names of all settings start with in the environment. -/
def variableStart : String := "mpt_"

/-- The name that a file of assignments has. -/
def assignmentFile : String := ".env"

def fieldNames : List String :=
  ["shebang", "continue_after_failure", "quiet", "script_glob", "script_encoding",
    "timestamp_variable", "max_attachment_bytes", "read_buffer_size", "read_poll_interval_ms",
    "connect_poll_interval_ms", "read_timeout_sec", "connect_timeout_sec", "log_dir"]

/-- Where values come from: the environment, and then a file. Names are in lower case. -/
structure Sources where
  environment : List Assignment
  file : List Assignment
deriving DecidableEq, Repr

/-- Assignments with their names in lower case. -/
def withLoweredNames (assignments : List Assignment) : List Assignment :=
  assignments.map fun assignment => (lowered assignment.1, assignment.2)

namespace Sources

/-- The value given for a field. -/
def value? (sources : Sources) (field : String) : Option String :=
  let name := variableStart ++ field
  (lastValue? name sources.environment).or (lastValue? name sources.file)

/-- The names in the file that name no field, neither with what settings start with nor without it.
-/
def strangers (sources : Sources) : List FieldError :=
  ((sources.file.filter fun assignment =>
    lastValue? assignment.1 sources.file ≠ some "" && !fieldNames.any fun field =>
      assignment.1 = field || assignment.1 = variableStart ++ field).map
        (·.1)).eraseDups.map fun name => ⟨name, "extra_forbidden"⟩

end Sources

/-- A field: its value, or its default, and the error that the given value makes. -/
def field {α : Type} (sources : Sources) (name kind : String) (default : α)
    (read : String → Option α) : α × List FieldError :=
  match sources.value? name with
  | none => (default, [])
  | some text =>
    match read text with
    | some value => (value, [])
    | none => (default, [⟨name, kind⟩])

/-- A field of text, which has no errors. -/
def textField (sources : Sources) (name default : String) : String :=
  (sources.value? name).getD default

/-- The settings that some sources give. -/
def ofSources (sources : Sources) : Except (List FieldError) Settings :=
  let defaults : Settings := {}
  let flag (name : String) (default : Bool) := field sources name "bool_parsing" default readFlag
  let whole (name : String) (default : Int) := field sources name "int_parsing" default readWhole
  let limit (name : String) :=
    field sources name "float_parsing" none fun text => (readFraction text).map some
  let (continueAfterFailure, errors₁) := flag "continue_after_failure" defaults.continueAfterFailure
  let (quiet, errors₂) := flag "quiet" defaults.quiet
  let (maxAttachmentBytes, errors₃) := whole "max_attachment_bytes" defaults.maxAttachmentBytes
  let (readBufferSize, errors₄) := whole "read_buffer_size" defaults.readBufferSize
  let (readPollMillis, errors₅) := whole "read_poll_interval_ms" defaults.readPollMillis
  let (connectPollMillis, errors₆) := whole "connect_poll_interval_ms" defaults.connectPollMillis
  let (readTimeout, errors₇) := limit "read_timeout_sec"
  let (connectTimeout, errors₈) := limit "connect_timeout_sec"
  match errors₁ ++ errors₂ ++ errors₃ ++ errors₄ ++ errors₅ ++ errors₆ ++ errors₇ ++ errors₈
      ++ sources.strangers with
  | [] =>
    .ok
      { shebang := sources.value? "shebang"
        continueAfterFailure := continueAfterFailure
        quiet := quiet
        scriptPattern := textField sources "script_glob" defaults.scriptPattern
        scriptEncoding := textField sources "script_encoding" defaults.scriptEncoding
        timestampVariable := textField sources "timestamp_variable" defaults.timestampVariable
        maxAttachmentBytes := maxAttachmentBytes
        readBufferSize := readBufferSize
        readPollMillis := readPollMillis
        connectPollMillis := connectPollMillis
        readTimeout := readTimeout
        connectTimeout := connectTimeout
        logDirectory := (sources.value? "log_dir").map fun text => (Path.ofString text).render }
  | errors => .error errors

/-- The settings that the environment and the file of assignments give. -/
def load (environment : List Assignment) (files : FileTree) : Except Fault Settings :=
  let assigned : Except Fault (List Assignment) :=
    match files.data? [assignmentFile] with
    | none => .ok []
    | some bytes =>
      match Text.decode .utf8 bytes with
      | .ok text => .ok (readAssignments environment text)
      | .error e => .error (.undecodable e)
  match assigned with
  | .error fault => .error fault
  | .ok file =>
    (ofSources ⟨withLoweredNames environment, withLoweredNames file⟩).mapError .invalidFields

end MailScript.Settings
