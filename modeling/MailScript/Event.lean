import MailScript.Datum

/-! # Events

What happens is reported as events, each with a level, a name and a context. -/

namespace MailScript

inductive Level where
  | debug
  | info
  | warning
  | error
deriving DecidableEq, Repr

def Level.name : Level → String
  | .debug => "debug"
  | .info => "info"
  | .warning => "warning"
  | .error => "error"

def Level.rank : Level → Nat
  | .debug => 10
  | .info => 20
  | .warning => 30
  | .error => 40

structure Event where
  level : Level
  name : String
  context : Details
deriving BEq, Repr

namespace Event

def debug (name : String) (context : Details) : Event := ⟨.debug, name, context⟩

def info (name : String) (context : Details) : Event := ⟨.info, name, context⟩

def warning (name : String) (context : Details) : Event := ⟨.warning, name, context⟩

def error (name : String) (context : Details) : Event := ⟨.error, name, context⟩

/-- A variable got a value. -/
def variableSet (name : String) (value : Option String) : Event :=
  .debug "variable_set" [("name", .text name), ("value", .optionalText value)]

end Event

end MailScript
