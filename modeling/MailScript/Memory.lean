import MailScript.Conversation.State

/-! # Sessions in memory

A session in memory has the lines that it will deliver, and keeps a trace of what was done to it. It
may ask the conversation to resume before it delivers a line. -/

namespace MailScript.Memory

/-- When a session asks to resume. -/
inductive ResumePolicy where
  | never
  | always
  /-- When the next line is the one that asks for more. -/
  | atPromptLine
  /-- When the line that asks for more is expected. -/
  | whenPaused
deriving DecidableEq, Repr

/-- A session in memory. -/
structure Session where
  label : String
  lines : List String
  policy : ResumePolicy
  startError : Option String
  stopError : Option String
deriving DecidableEq, Repr

/-- What was done to sessions. -/
inductive Action where
  | started (label : String)
  | stopped (label : String)
  | wrote (label line : String)
  | uploaded (label : String) (attachment : Attachment)
  | resuming (label : String) (phase : Phase)
  | resumed (label : String) (view : View)
  | exhausted (label : String)
  | delivered (label line : String)
deriving DecidableEq, Repr

/-- Sessions in memory with the trace of what was done to them, a clock and the events. -/
structure World where
  sessions : List Session
  trace : List Action
  clock : Clock
  events : List Event
deriving Repr

namespace World

/-- Put a session in the place of an earlier one with its label, or behind the others. -/
def declare (session : Session) : List Session → List Session
  | [] => [session]
  | other :: rest =>
    if other.label = session.label then session :: rest else other :: declare session rest

/-- Sessions to which nothing has been done. Of two sessions with one label the later counts. -/
def ofSessions (sessions : List Session) : World :=
  ⟨sessions.foldl (fun declared session => declare session declared) [], [], .zero, []⟩

def session? (world : World) (label : String) : Option Session :=
  world.sessions.find? fun session => session.label == label

def change (world : World) (label : String) (f : Session → Session) : World :=
  { world with
    sessions := world.sessions.map fun session =>
      if session.label = label then f session else session }

def add (world : World) (action : Action) : World :=
  { world with trace := world.trace ++ [action] }

/-- Let a session deliver more lines. -/
def feed (world : World) (label : String) (lines : List String) : World :=
  world.change label fun session => { session with lines := session.lines ++ lines }

end World

/-- The failure of a session that does not start. -/
def startFailure (label text : String) : Failure :=
  .stated ⟨.connect, text, [("alias", .text label)]⟩

/-- The failure of a session without lines. -/
def exhaustedFailure (label : String) : Failure :=
  .stated ⟨.receive, "Connection closed by peer", [("alias", .text label)]⟩

/-- A session asks to resume now. -/
def Session.resumes (session : Session) (view : View) : Bool :=
  match session.policy with
  | .never => false
  | .always => true
  | .atPromptLine => session.lines.head? == some "+"
  | .whenPaused => view.phase == .paused

def start (label : String) (world : World) : Outcome World :=
  let started := world.add (.started label)
  match (world.session? label).bind Session.startError with
  | none => (.ok (), started)
  | some text => (.error (.failure (startFailure label text)), started)

def stop (label : String) (world : World) : Outcome World :=
  let stopped := world.add (.stopped label)
  match (world.session? label).bind Session.stopError with
  | none => (.ok (), stopped)
  | some text => (.error (.system (.stated text)), stopped)

/-- What reading from a session without lines ends in. -/
abbrev Exhaustion := String → Fault

/-- The fault of a peer that has closed the connection. -/
def closedByPeer : Exhaustion := fun label => .failure (exhaustedFailure label)

/-- Deliver the next line of a session. -/
def deliver (exhaustion : Exhaustion) (label : String) (world : World) : Reading World :=
  match (world.session? label).map Session.lines with
  | some (line :: rest) =>
    .line line
      ((world.change label fun session => { session with lines := rest }).add
        (.delivered label line))
  | _ => .broken (exhaustion label) (world.add (.exhausted label))

def readLine (exhaustion : Exhaustion) (label : String) (view : View) (world : World) :
    Reading World :=
  if (world.session? label).any fun session => session.resumes view then
    .resume (world.add (.resuming label view.phase)) fun outcome view world =>
      match outcome with
      | .ok _ => deliver exhaustion label (world.add (.resumed label view))
      | .error fault => .broken fault world
  else deliver exhaustion label world

def wait (seconds : Binary64) (world : World) : Except WaitError Unit × World :=
  let (outcome, clock) := world.clock.sleep (Clock.millisOf seconds)
  (outcome, { world with clock := clock })

/-- The sessions of a world as the sessions of a conversation. -/
def sessions (world : World) (exhaustion : Exhaustion := closedByPeer) : Sessions World where
  labels := world.sessions.map Session.label
  start := start
  stop := stop
  readLine := readLine exhaustion
  writeLine := fun label line world => (.ok (), world.add (.wrote label line))
  upload := fun label attachment world => (.ok (), world.add (.uploaded label attachment))
  wait := wait
  log := fun event world => { world with events := world.events ++ [event] }

end MailScript.Memory
