import MailScript.Element
import MailScript.Event

/-! # Sessions

A conversation talks to sessions, each known by a label. The sessions share a world, which every
call may change. While a line is read from a session, the session may ask the conversation to resume
ahead of the line, as often as it likes, before it delivers the line or fails. -/

namespace MailScript

/-- Where a conversation stands with respect to the line that asks for more. -/
inductive Phase where
  /-- No such line is expected. -/
  | idle
  /-- The line is expected. -/
  | paused
  /-- The line is expected, and the requests behind it have been sent already. -/
  | resuming
deriving DecidableEq, Repr

def Phase.name : Phase → String
  | .idle => "idle"
  | .paused => "paused"
  | .resuming => "resuming"

/-- What a session sees of a conversation. -/
structure View where
  position : Nat
  phase : Phase
deriving DecidableEq, Repr

/-- What a session does when a line is read from it. -/
inductive Reading (World : Type) where
  /-- Deliver a line. -/
  | line (text : String) (world : World)
  /-- End the conversation. -/
  | broken (fault : Fault) (world : World)
  /-- Ask the conversation to resume, and go on with the answer and a new view. -/
  | resume (world : World) (next : Except Fault Unit → View → World → Reading World)

/-- The outcome of a call that may fail, with the world behind it. -/
abbrev Outcome (World : Type) := Except Fault Unit × World

/-- Sessions in the order in which they were declared. -/
structure Sessions (World : Type) where
  labels : List String
  start : String → World → Outcome World
  stop : String → World → Outcome World
  readLine : String → View → World → Reading World
  writeLine : String → String → World → Outcome World
  upload : String → Attachment → World → Outcome World
  wait : Binary64 → World → Except WaitError Unit × World
  log : Event → World → World

/-- Wait for some seconds. A wait that is refused is a fault. -/
def Sessions.pause {World : Type} (sessions : Sessions World) (seconds : Binary64) (world : World) :
    Outcome World :=
  let (outcome, after) := sessions.wait seconds world
  (outcome.mapError .pauseRefused, after)

end MailScript
