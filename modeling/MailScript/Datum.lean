import MailScript.Number.Decimal

/-! # Values of reports

The details of a failure and the context of an event are made of these values. Entries of a record
keep the order in which they are written. -/

namespace MailScript

/-- A value that a report shows. -/
inductive Datum where
  | null
  | bool (value : Bool)
  | int (value : Int)
  | decimal (value : Decimal)
  | text (value : String)
  | list (items : List Datum)
  | record (entries : List (String × Datum))
deriving BEq, Repr, Inhabited

namespace Datum

def nat (value : Nat) : Datum := .int value

/-- A text that may be missing. -/
def optionalText : Option String → Datum
  | none => .null
  | some value => .text value

def texts (values : List String) : Datum := .list (values.map .text)

end Datum

/-- Named values in the order in which they are written. -/
abbrev Details := List (String × Datum)

end MailScript
