import MailScript.Conversation.Resumption
import MailScript.Matching

/-! # Running a script

The elements of a script run one after another. An element that waits for the line that asks for
more may leave a parked element behind, which runs right after it. -/

namespace MailScript.Conversation

variable {World : Type}

/-- The line with which a server asks for more. -/
def promptLine : String := "+"

/-- Expect the line that asks for more. -/
def expectPrompt : Act World Unit :=
  modify fun state => { state with phase := .paused, parked := none }

/-- Stop expecting the line, and hand over the element that was parked meanwhile. -/
def takeParked : Act World (Option Step) := do
  let state ← get
  set { state with phase := .idle, parked := none }
  return state.parked

/-- Hold a line against the pattern of an element. -/
def checkResponse (conversation : Conversation World) (index : Nat) (pattern : String)
    (origin : Origin) (captures : List String) (line : String) : Act World Unit := do
  match matchLine pattern line captures with
  | .error fault => throw fault
  | .ok found => do
    enter (.captured index found.captured)
    found.captured.forM conversation.assign
    if found.accepted then return ()
    else conversation.report (.mismatch origin pattern line)

/-- Wait for a number of milliseconds. -/
def pause (conversation : Conversation World) (index : Nat) (millis : Int) : Act World Unit := do
  conversation.log (.debug "script_sleep" [("millis", .int millis)])
  match Binary64.seconds millis with
  | none => throw .pauseTooLong
  | some seconds => do
    enter (.waiting index millis)
    perform (conversation.sessions.pause seconds)

/-- Wait for the line that asks for more. The result is the element to be run next, if one was
parked meanwhile. -/
def awaitPrompt (conversation : Conversation World) (index : Nat) : Act World (Option Step) := do
  expectPrompt
  let line ← conversation.readLine index
  if line ≠ promptLine then conversation.report (.continuationMissing line)
  takeParked

/-- Do what an element is there for that neither sends nor waits for the line that asks for
more. -/
def attend (conversation : Conversation World) (step : Step) : Act World Unit :=
  match step.element with
  | .response pattern origin captures => do
    let line ← conversation.readLine step.index
    conversation.checkResponse step.index pattern origin captures line
  | .unordered patterns origin => do
    -- A block without patterns needs a session too.
    discard conversation.currentLabel
    let lines ← matchUnordered accepts (conversation.readLine step.index) conversation.report
      origin.location patterns
    conversation.log (.debug "unordered_block_matched"
      [("location", .text origin.location), ("line_count", .nat lines.length)])
  | .skipped description origin => do
    let line ← conversation.readLine step.index
    conversation.log (.debug "binary_response_skipped"
      [("location", .text origin.location), ("description", .text description),
        ("length", .nat line.length)])
  | .pause millis => conversation.pause step.index millis
  | .switch label => conversation.switchTo label
  | .prompt | .request _ | .upload _ => return ()

/-- Run an element. The result is the element to be run next, if one was parked. -/
def runStep (conversation : Conversation World) (step : Step) : Act World (Option Step) :=
  if step.element.isClient then do
    conversation.send step
    return none
  else do
    enter (.started step.index)
    if step.element = .prompt then conversation.awaitPrompt step.index
    else do
      conversation.attend step
      return none

/-- Run an element and whatever it leaves parked. The fuel bounds the number of elements. -/
def settle (conversation : Conversation World) : Nat → Step → Act World Unit
  | 0, _ => return ()
  | fuel + 1, step => do
    match ← conversation.runStep step with
    | none => return ()
    | some parked => conversation.settle fuel parked

/-- Run an element and whatever it leaves parked, each element of the script at most once. -/
def run (conversation : Conversation World) (step : Step) : Act World Unit :=
  conversation.settle (conversation.elements.length + 1) step

/-- Stop expecting the line that asks for more, and run what was parked meanwhile. -/
def completePrompt (conversation : Conversation World) : Act World Unit := do
  match ← takeParked with
  | none => return ()
  | some parked => conversation.run parked

/-- Run the elements from the current position on. The fuel bounds the number of elements. -/
def runRest (conversation : Conversation World) : Nat → Act World Unit
  | 0 => return ()
  | fuel + 1 => do
    let state ← get
    match conversation.steps[state.position]? with
    | none => return ()
    | some step => do
      pass step
      conversation.run step
      conversation.runRest fuel

/-- Run the whole script. -/
def execute (conversation : Conversation World) : Act World Unit := do
  modify State.rewind
  conversation.log (.debug "script_execution_started"
    [("element_count", .nat conversation.elements.length)])
  conversation.runRest conversation.elements.length
  let state ← get
  conversation.log (.debug "script_execution_finished"
    [("element_count", .nat conversation.elements.length),
      ("failure_count", .nat state.failures.length)])

def describe (conversation : Conversation World) (state : State World) : String :=
  "ProtocolSession(elements=" ++ toString conversation.elements.length ++ ", position="
    ++ toString state.position ++ ", sessions=["
    ++ ", ".intercalate (conversation.sessions.labels.map Text.quoted) ++ "], continuation="
    ++ state.phase.name ++ ", continue_after_failure="
    ++ (if conversation.keepGoing then "True" else "False") ++ ")"

end MailScript.Conversation
