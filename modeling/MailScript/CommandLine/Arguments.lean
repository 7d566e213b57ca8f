import MailScript.Text.Cut
import MailScript.Text.Digit
import MailScript.Text.Quoted

/-! # Arguments of the command line

Arguments are scripts and options. An option may be abbreviated as long as it stays the only one
that begins so; its value follows it or is joined to it by an equals sign. Two hyphens end the
options. -/

namespace MailScript.CommandLine

inductive Switch where
  | help
  | host
  | shebang
  | imapShebang
  | variable
  | continueAfterFailure
  | keepGoing
  | quiet
  | skip
  | debug
deriving DecidableEq, Repr

namespace Switch

def names : Switch → List String
  | .help => ["-h", "--help"]
  | .host => ["--host"]
  | .shebang => ["--shebang"]
  | .imapShebang => ["--imap-shebang"]
  | .variable => ["--var"]
  | .continueAfterFailure => ["--continue-after-failure"]
  | .keepGoing => ["--keep-going"]
  | .quiet => ["--quiet"]
  | .skip => ["--skip"]
  | .debug => ["--debug"]

def shown (switch : Switch) : String := "/".intercalate switch.names

def takesValue : Switch → Bool
  | .host | .shebang | .variable => true
  | _ => false

/-- The option that another one excludes. -/
def rival? : Switch → Option Switch
  | .shebang => some .imapShebang
  | .imapShebang => some .shebang
  | _ => none

def all : List Switch :=
  [.help, .host, .shebang, .imapShebang, .variable, .continueAfterFailure, .keepGoing, .quiet,
    .skip, .debug]

/-- All names of options with the options that they name. -/
def table : List (String × Switch) :=
  all.flatMap fun switch => switch.names.map fun name => (name, switch)

def ofName? (name : String) : Option Switch :=
  (table.find? fun entry => entry.1 == name).map (·.2)

end Switch

/-- What is wrong with arguments. -/
inductive UsageError where
  | ambiguous (argument : String) (candidates : List String)
  | missingValue (switch : Switch)
  | unexpectedValue (switch : Switch) (value : String)
  | excluded (switch rival : Switch)
  | missing (names : List String)
  | unknown (arguments : List String)
deriving DecidableEq, Repr

def UsageError.message : UsageError → String
  | .ambiguous argument candidates =>
    "ambiguous option: " ++ argument ++ " could match " ++ ", ".intercalate candidates
  | .missingValue switch => "argument " ++ switch.shown ++ ": expected one argument"
  | .unexpectedValue switch value =>
    "argument " ++ switch.shown ++ ": ignored explicit argument " ++ Text.quoted value
  | .excluded switch rival =>
    "argument " ++ switch.shown ++ ": not allowed with argument " ++ rival.shown
  | .missing names => "the following arguments are required: " ++ ", ".intercalate names
  | .unknown arguments => "unrecognized arguments: " ++ " ".intercalate arguments

def UsageError.line (error : UsageError) : String := "mpt: error: " ++ error.message

inductive Leave where
  | help
  | usage (error : UsageError)
deriving DecidableEq, Repr

/-! ## Tokens -/

/-- What an argument is. -/
inductive Token where
  | value (text : String)
  /-- The two hyphens behind which every argument is a value. -/
  | separator
  | option (switch : Switch) (joined : Option String)
  /-- The option for help with more letters behind it. -/
  | cluster (letters : List Char)
  | unknown (text : String)
deriving DecidableEq, Repr

/-- Cut a text at the first equals sign. -/
def cutEquals (text : String) : Option (String × String) :=
  (Text.cutAtFirst '=' text.toList).map fun parts =>
    (String.ofList parts.1, String.ofList parts.2)

/-- What an argument that begins with two hyphens may abbreviate, with the full names. -/
def abbreviated (argument : String) : List (String × Token) :=
  let (start, joined) := match cutEquals argument with
    | some (start, value) => (start, some value)
    | none => (argument, none)
  Switch.table.filterMap fun entry =>
    if start.toList.isPrefixOf entry.1.toList then some (entry.1, .option entry.2 joined) else none

/-- What an argument may stand for that names no option exactly. -/
def candidates (argument : String) : List (String × Token) :=
  match argument.toList with
  | '-' :: '-' :: _ => abbreviated argument
  | '-' :: 'h' :: letters => [("-h", .cluster letters)]
  | _ => []

/-- A row of decimal digits, perhaps with a line feed behind it. -/
def isDigits (text : List Char) : Bool :=
  let digits := if text.getLast? = some '\n' then text.dropLast else text
  digits ≠ [] && digits.all fun c => Text.isDecimal c.toNat

/-- A negative number is a value. -/
def isNegativeNumber (text : List Char) : Bool :=
  match text with
  | '-' :: number =>
    isDigits number
      || match Text.cutAtFirst '.' number with
        | some (whole, fraction) =>
          (whole.all fun c => Text.isDecimal c.toNat) && isDigits fraction
        | none => false
  | _ => false

/-- The option that an argument names exactly, perhaps with a value joined to it. -/
def exactOption? (argument : String) : Option Token :=
  match Switch.ofName? argument with
  | some switch => some (.option switch none)
  | none => do
    let (name, value) ← cutEquals argument
    let switch ← Switch.ofName? name
    return .option switch (some value)

/-- Tell what an argument in front of the separator is. -/
def Token.ofArgument (argument : String) : Except UsageError Token :=
  match argument.toList with
  | '-' :: _ :: _ =>
    match exactOption? argument with
    | some token => .ok token
    | none =>
      match candidates argument with
      | [(_, token)] => .ok token
      | [] =>
        if isNegativeNumber argument.toList || argument.toList.contains ' ' then
          .ok (.value argument)
        else .ok (.unknown argument)
      | several => .error (.ambiguous argument (several.map (·.1)))
  | _ => .ok (.value argument)

/-- Tell what arguments are. -/
def tokens : List String → Except UsageError (List Token)
  | [] => .ok []
  | argument :: rest =>
    if argument = "--" then .ok (.separator :: rest.map .value)
    else do
      let token ← Token.ofArgument argument
      return token :: (← tokens rest)

/-! ## Options -/

structure Options where
  scripts : List String := []
  hosts : List String := []
  shebang : Option String := none
  imapShebang : Bool := false
  assignments : List String := []
  continueAfterFailure : Bool := false
  keepGoing : Bool := false
  quiet : Bool := false
  skip : Bool := false
  debug : Bool := false
deriving DecidableEq, Repr

/-- What has been read of the arguments: the options, those that were seen, whether the scripts were
seen, and the arguments that nothing takes. -/
structure Progress where
  options : Options
  seen : List Switch
  scriptsSeen : Bool
  extras : List String
deriving DecidableEq, Repr

def Token.text? : Token → Option String
  | .value text => some text
  | .separator => some "--"
  | _ => none

/-- Take an option with its value. -/
def Progress.take (progress : Progress) (switch : Switch) (value : String) :
    Except Leave Progress :=
  match switch.rival?.filter fun rival => progress.seen.contains rival with
  | some rival => .error (.usage (.excluded switch rival))
  | none =>
    let options := progress.options
    let changed : Except Leave Options := match switch with
      | .help => .error .help
      | .host => .ok { options with hosts := options.hosts ++ [value] }
      | .shebang => .ok { options with shebang := some value }
      | .imapShebang => .ok { options with imapShebang := true }
      | .variable => .ok { options with assignments := options.assignments ++ [value] }
      | .continueAfterFailure => .ok { options with continueAfterFailure := true }
      | .keepGoing => .ok { options with keepGoing := true }
      | .quiet => .ok { options with quiet := true }
      | .skip => .ok { options with skip := true }
      | .debug => .ok { options with debug := true }
    changed.map fun options =>
      { progress with options := options, seen := switch :: progress.seen }

/-- What letters behind the option for help come to. Each repeats the option; the first that does
not ends them, unless it is a hyphen or joins a value, which this option does not take. -/
def Leave.ofCluster : List Char → Leave
  | 'h' :: letters => ofCluster letters
  | '=' :: value => .usage (.unexpectedValue .help (String.ofList value))
  | '-' :: rest => .usage (.unexpectedValue .help (String.ofList ('-' :: rest)))
  | _ => .help

/-- Take a row of values: the first row that holds any consists of the scripts. -/
def Progress.takeValues (progress : Progress) (row : List Token) : Progress :=
  let texts := row.filterMap Token.text?
  if !progress.scriptsSeen && row.any fun token => token ≠ .separator then
    { progress with
      options := { progress.options with scripts := texts.erase "--" }, scriptsSeen := true }
  else { progress with extras := progress.extras ++ texts }

/-- Read tokens. `row` holds the values since the last option. -/
def Progress.read (progress : Progress) : List Token → List Token → Except Leave Progress
  | row, [] => .ok (if row.isEmpty then progress else progress.takeValues row)
  | row, .value text :: rest => progress.read (row ++ [.value text]) rest
  | row, .separator :: rest => progress.read (row ++ [.separator]) rest
  | row, .unknown text :: rest =>
    let progress := if row.isEmpty then progress else progress.takeValues row
    Progress.read { progress with extras := progress.extras ++ [text] } [] rest
  | _, .cluster letters :: _ => .error (.ofCluster letters)
  | row, .option switch joined :: rest =>
    let progress := if row.isEmpty then progress else progress.takeValues row
    if switch.takesValue then
      match joined, rest with
      | some value, rest => do (← progress.take switch value).read [] rest
      | none, .value value :: rest => do (← progress.take switch value).read [] rest
      | none, _ => .error (.usage (.missingValue switch))
    else
      match joined with
      | some value => .error (.usage (.unexpectedValue switch value))
      | none => do (← progress.take switch "").read [] rest

/-- The arguments that are required and were not given. -/
def Progress.missing (progress : Progress) : List String :=
  (if progress.scriptsSeen then [] else ["scripts"])
    ++ if progress.seen.contains .host then [] else ["--host"]

/-- Read arguments. -/
def parseArguments (arguments : List String) : Except Leave Options :=
  match tokens arguments with
  | .error e => .error (.usage e)
  | .ok tokens => do
    let progress ← Progress.read ⟨{}, [], false, []⟩ [] tokens
    if progress.missing ≠ [] then .error (.usage (.missing progress.missing))
    else if progress.extras ≠ [] then .error (.usage (.unknown progress.extras))
    else return progress.options

end MailScript.CommandLine
