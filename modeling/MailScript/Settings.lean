import MailScript.Number.Decimal

/-! # Settings -/

namespace MailScript

/-- What can be set for all scripts and sessions. -/
structure Settings where
  /-- The line that stands for the first line of each session. -/
  shebang : Option String := none
  continueAfterFailure : Bool := false
  quiet : Bool := false
  scriptPattern : String := "*.mpt"
  scriptEncoding : String := "utf-8"
  timestampVariable : String := "timestamp"
  maxAttachmentBytes : Int := 2147483647
  readBufferSize : Int := 2048
  readPollMillis : Int := 10
  connectPollMillis : Int := 2
  readTimeout : Option Decimal := none
  connectTimeout : Option Decimal := none
  logDirectory : Option String := none
deriving DecidableEq, Repr, Inhabited

/-- A text that is given and not empty, or else the one that is set. -/
def Settings.choose (given : Option String) (set : String) : String :=
  match given with
  | some text => if text = "" then set else text
  | none => set

end MailScript
