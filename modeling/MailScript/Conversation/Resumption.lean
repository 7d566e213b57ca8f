import MailScript.Conversation.State
import MailScript.Template

/-! # Resuming ahead of a line

While the line that asks for more is being waited for, whoever sees it coming may resume the
conversation: the requests behind the current element are sent at once, and the next element that
waits for the server is parked until the line has been read. -/

namespace MailScript.Conversation

variable {World : Type}

/-- Run an element that sends; other elements are left alone. -/
def send (conversation : Conversation World) (step : Step) : Act World Unit := do
  enter (.started step.index)
  match step.element with
  | .request template => do
    let label ← conversation.currentLabel
    let state ← get
    let line := Template.fill template state.store
    enter (.writing step.index label line state.sight)
    perform (conversation.sessions.writeLine label line)
  | .upload attachment => do
    let label ← conversation.currentLabel
    let state ← get
    enter (.uploading step.index label attachment state.sight)
    perform (conversation.sessions.upload label attachment)
  | _ => return ()

/-- Go past a step. -/
def pass (step : Step) : Act World Unit :=
  modify fun state => { state with position := step.index + 1 }

/-- Run the steps that send and park the first one that does not. -/
def runAhead (conversation : Conversation World) : List Step → Act World Unit
  | [] => return ()
  | step :: rest => do
    pass step
    if step.element.isClient then do
      conversation.send step
      conversation.runAhead rest
    else modify fun state => { state with parked := some step }

def resumedEvent (state : State World) : Event :=
  .debug "continuation_resumed"
    [("position", .nat state.position),
      ("pending", .optionalText (state.parked.map fun step => step.element.typeName))]

/-- Resume ahead of the line that asks for more; it is a failure if the line is not expected. -/
def resume (conversation : Conversation World) : Act World Unit := do
  let state ← get
  if state.phase = .paused then do
    set { state with phase := .resuming }
    conversation.runAhead (conversation.steps.drop state.position)
    conversation.log (resumedEvent (← get))
  else conversation.report (.continuationUnexpected state.phase.name)

/-- Follow what a session does until it delivers a line. -/
def follow (conversation : Conversation World) : Reading World → Act World String
  | .line text world => do
    modify fun state => { state with world := world }
    return text
  | .broken fault world => do
    modify fun state => { state with world := world }
    throw fault
  | .resume world next => do
    modify fun state => { state with world := world }
    let outcome ← ExceptT.lift conversation.resume.run
    let state ← get
    conversation.follow (next outcome state.view state.world)

/-- Read a line for the element at an index. -/
def readLine (conversation : Conversation World) (index : Nat) : Act World String := do
  let label ← conversation.currentLabel
  let state ← get
  enter (.reading index label state.sight)
  let line ← conversation.follow
    (conversation.sessions.readLine label state.view state.world)
  enter (.received index label line)
  return line

end MailScript.Conversation
