import MailScript.Conversation.Session
import MailScript.Variables

/-! # The state of a conversation

A conversation runs the elements of a script against sessions. Its state holds the position of the
next element, the session in use, the phase, the element that has been reached ahead of its turn,
the failures that were tolerated, the variables and the world of the sessions. A journal says which
element did what. -/

namespace MailScript

/-- An element with its place in a script. -/
structure Step where
  index : Nat
  element : Element
deriving DecidableEq, Repr

/-- The steps of a script. -/
def stepsOf (elements : List Element) : List Step :=
  elements.zipIdx.map fun entry => ⟨entry.2, entry.1⟩

/-- What can be seen of a state from outside. -/
structure Sight where
  position : Nat
  phase : Phase
  parked : Option Nat
deriving DecidableEq, Repr

/-- An entry of a journal: what the element at an index did. -/
inductive JournalEntry where
  | started (index : Nat)
  | reading (index : Nat) (label : String) (sight : Sight)
  | received (index : Nat) (label line : String)
  | writing (index : Nat) (label line : String) (sight : Sight)
  | uploading (index : Nat) (label : String) (attachment : Attachment) (sight : Sight)
  | captured (index : Nat) (bindings : List Binding)
  | waiting (index : Nat) (millis : Int)
deriving DecidableEq, Repr

/-- A script with the sessions that it runs against. If it keeps going, mismatches are noted instead
of ending it. -/
structure Conversation (World : Type) where
  sessions : Sessions World
  elements : List Element
  keepGoing : Bool

namespace Conversation

variable {World : Type}

/-- The state of a conversation. -/
structure State (World : Type) where
  position : Nat
  current : Option String
  phase : Phase
  parked : Option Step
  failures : List Failure
  store : Variables
  world : World
  journal : List JournalEntry

namespace State

def initial (store : Variables) (world : World) : State World :=
  ⟨0, none, .idle, none, [], store, world, []⟩

/-- Go back to the first element. Variables stay as they are. -/
def rewind (state : State World) : State World :=
  { state with position := 0, current := none, phase := .idle, parked := none, failures := [] }

def view (state : State World) : View := ⟨state.position, state.phase⟩

def sight (state : State World) : Sight :=
  ⟨state.position, state.phase, state.parked.map Step.index⟩

def enter (state : State World) (entry : JournalEntry) : State World :=
  { state with journal := state.journal ++ [entry] }

end State

/-- Acting in a conversation. -/
abbrev Act (World : Type) := ExceptT Fault (StateM (State World))

def steps (conversation : Conversation World) : List Step :=
  stepsOf conversation.elements

def hasNext (conversation : Conversation World) (state : State World) : Bool :=
  state.position < conversation.elements.length

def add (conversation : Conversation World) (element : Element) : Conversation World :=
  { conversation with elements := conversation.elements ++ [element] }

def log (conversation : Conversation World) (event : Event) : Act World Unit :=
  modify fun state => { state with world := conversation.sessions.log event state.world }

/-- Carry out a call of the sessions. -/
def perform (call : World → Outcome World) : Act World Unit := do
  let state ← get
  let (outcome, world) := call state.world
  set { state with world := world }
  match outcome with
  | .ok _ => return ()
  | .error fault => throw fault

def enter (entry : JournalEntry) : Act World Unit :=
  modify fun state => state.enter entry

/-- Report a failure: it ends the conversation, unless the conversation keeps going. -/
def report (conversation : Conversation World) (failure : Failure) : Act World Unit :=
  if conversation.keepGoing then do
    modify fun state => { state with failures := state.failures ++ [failure] }
    conversation.log
      (.error "script_failure_ignored" (("error", .text failure.message) :: failure.details))
  else throw (.failure failure)

/-- The session in use: the first one if no other has been chosen. -/
def currentLabel (conversation : Conversation World) : Act World String := do
  let state ← get
  match state.current, conversation.sessions.labels with
  | some label, _ => return label
  | none, label :: _ => do
    set { state with current := some label }
    return label
  | none, [] => throw (.failure (.unknownLabel "<none>" []))

def switchTo (conversation : Conversation World) (label : String) : Act World Unit :=
  if conversation.sessions.labels.contains label then do
    conversation.log (.debug "session_switched" [("alias", .text label)])
    modify fun state => { state with current := some label }
  else throw (.failure (.unknownLabel label conversation.sessions.labels))

def assign (conversation : Conversation World) (binding : Binding) : Act World Unit := do
  modify fun state => { state with store := state.store.set binding.1 binding.2 }
  conversation.log (.variableSet binding.1 binding.2)

end Conversation

end MailScript
