import MailScript.Conversation.Execution

/-! # The life of sessions

For a run all sessions are started in order and stopped in order. They are stopped whatever happened
before, and an error of stopping is only reported. -/

namespace MailScript.Conversation

variable {World : Type}

/-- Start sessions until one does not start. -/
def startAll (conversation : Conversation World) : List String → Act World Unit
  | [] => return ()
  | label :: rest => do
    perform (conversation.sessions.start label)
    conversation.startAll rest

def stopFailed (label : String) (fault : Fault) : Event :=
  .warning "session_stop_failed"
    [("alias", .text label), ("error", .text fault.message), ("error_type", .text fault.typeName)]

def stop (conversation : Conversation World) (label : String) : StateM (State World) Unit := do
  match ← (perform (conversation.sessions.stop label) : Act World Unit).run with
  | .ok _ => return ()
  | .error fault => discard (conversation.log (stopFailed label fault)).run

def stopAll (conversation : Conversation World) : List String → StateM (State World) Unit
  | [] => return ()
  | label :: rest => do
    conversation.stop label
    conversation.stopAll rest

/-- Start the sessions and run the script. -/
def startAndExecute (conversation : Conversation World) : Act World Unit := do
  conversation.startAll conversation.sessions.labels
  conversation.execute

/-- Run the script between starting and stopping the sessions. -/
def runSessions (conversation : Conversation World) : Act World Unit :=
  ExceptT.mk do
    let outcome ← conversation.startAndExecute.run
    conversation.stopAll conversation.sessions.labels
    return outcome

end MailScript.Conversation
