import MailScript.Pattern.Error
import MailScript.Text.Blank
import MailScript.Text.Cut

/-! # Host addresses

A host address names a server, the port it listens on and the label under which scripts know it,
which reports call its alias. It is written with the label in front of an equals sign and the port
behind the last colon; without a label the host name serves as label. -/

namespace MailScript

/-- A field of a record that has no acceptable value. -/
structure FieldError where
  field : String
  kind : String
deriving DecidableEq, Repr

/-- A server under a label. -/
structure HostAddress where
  label : String
  host : String
  port : Nat
deriving DecidableEq, Repr

/-- Why a text is no host address. -/
inductive HostError where
  /-- A part is missing, or the port does not consist of digits. -/
  | malformed
  /-- The port holds digits that do not form a number. -/
  | notDecimal (port : String)
  | tooManyDigits (count : Nat)
  | invalid (fields : List FieldError)
deriving DecidableEq, Repr

def HostError.message (spec : String) : HostError → String
  | .malformed => "Invalid remote host '" ++ spec ++ "', expected ALIAS=HOST:PORT"
  | .notDecimal port => "invalid literal for int() with base 10: " ++ Text.quoted port
  | .tooManyDigits count => Pattern.digitLimitMessage count
  | .invalid _ => "<validation error>"

namespace HostAddress

/-- The errors of a label and a port; missing ones are errors too. -/
def fieldErrors (label : Option String) (port : Option Int) : List FieldError :=
  let labelErrors := match label with
    | none => [⟨"alias", "missing"⟩]
    | some label => if label.isEmpty then [⟨"alias", "string_too_short"⟩] else []
  let portErrors := match port with
    | none => [⟨"port", "missing"⟩]
    | some port =>
      if port ≤ 0 then [⟨"port", "greater_than"⟩]
      else if 65536 ≤ port then [⟨"port", "less_than"⟩]
      else []
  labelErrors ++ portErrors

/-- A host address made of its parts; the local host is the default. -/
def ofParts (label : Option String) (host : Option String) (port : Option Int) :
    Except (List FieldError) HostAddress :=
  match fieldErrors label port, label, port with
  | [], some label, some port => .ok ⟨label, host.getD "localhost", port.toNat⟩
  | errors, _, _ => .error errors

/-- The port that a text of digits denotes. -/
def portNumber (digits : List Char) : Except HostError Nat :=
  let decimals := digits.takeWhile fun c => Text.isDecimal c.toNat
  if Text.digitLimit < decimals.length then .error (.tooManyDigits decimals.length)
  else match Text.decimalNumber? digits with
    | some port => .ok port
    | none => .error (.notDecimal (String.ofList digits))

def parse (spec : String) : Except HostError HostAddress :=
  let (label, address) := match Text.cutAtFirst '=' spec.toList with
    | some (label, address) => (label, address)
    | none => ([], spec.toList)
  match Text.cutAtLast ':' address with
  | none => .error .malformed
  | some (host, port) =>
    if host.isEmpty || port.isEmpty || !port.all fun c => Text.isDigit c.toNat then
      .error .malformed
    else
      match portNumber port with
      | .error e => .error e
      | .ok number =>
        let trimmed := Text.trimChars label
        let name := if trimmed.isEmpty then host else trimmed
        match ofParts (some (String.ofList name)) (some (String.ofList host)) (some number) with
        | .ok address => .ok address
        | .error fields => .error (.invalid fields)

def render (address : HostAddress) : String :=
  address.label ++ "=" ++ address.host ++ ":" ++ toString address.port

end HostAddress

end MailScript
