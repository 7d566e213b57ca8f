import MailScript.Conversation.Execution

/-! # Actions from a state

An action of a conversation takes a state to an outcome and a state. What the basic actions do is said
here once; a property that they have and that composition keeps then holds of whole elements. -/

namespace MailScript.Conversation

variable {World World' : Type} {α β : Type}

/-- The outcome of an action from a state, and the state behind it. -/
def Act.exec (act : Act World α) (state : State World) : Except Fault α × State World :=
  act.run.run state

/-! ## Composition -/

@[simp] theorem exec_pure (x : α) (state : State World) :
    (pure x : Act World α).exec state = (.ok x, state) := rfl

@[simp] theorem exec_throw (fault : Fault) (state : State World) :
    (throw fault : Act World α).exec state = (.error fault, state) := rfl

theorem exec_bind (act : Act World α) (next : α → Act World β) (state : State World) :
    (act >>= next).exec state =
      match act.exec state with
      | (.ok x, after) => (next x).exec after
      | (.error fault, after) => (.error fault, after) := by
  change (match act.exec state with
    | (outcome, after) => ExceptT.bindCont next outcome after) = _
  rcases act.exec state with ⟨_ | _, after⟩ <;> rfl

theorem exec_bind_ok {act : Act World α} {next : α → Act World β} {state after : State World}
    {x : α} (h : act.exec state = (.ok x, after)) :
    (act >>= next).exec state = (next x).exec after := by
  rw [exec_bind, h]

theorem exec_bind_error {act : Act World α} {next : α → Act World β} {state after : State World}
    {fault : Fault} (h : act.exec state = (.error fault, after)) :
    (act >>= next).exec state = (.error fault, after) := by
  rw [exec_bind, h]

@[simp] theorem exec_get_bind (next : State World → Act World β) (state : State World) :
    (get >>= next : Act World β).exec state = (next state).exec state := rfl

@[simp] theorem exec_modify (f : State World → State World) (state : State World) :
    (modify f : Act World Unit).exec state = (.ok (), f state) := rfl

@[simp] theorem exec_set (after state : State World) :
    (set after : Act World Unit).exec state = (.ok (), after) := rfl

/-! ## Basic actions -/

@[simp] theorem exec_enter (entry : JournalEntry) (state : State World) :
    (enter entry : Act World Unit).exec state = (.ok (), state.enter entry) := rfl

@[simp] theorem exec_log (conversation : Conversation World) (event : Event)
    (state : State World) :
    (conversation.log event).exec state =
      (.ok (), { state with world := conversation.sessions.log event state.world }) := rfl

@[simp] theorem exec_pass (step : Step) (state : State World) :
    (pass step : Act World Unit).exec state =
      (.ok (), { state with position := step.index + 1 }) := rfl

@[simp] theorem exec_expectPrompt (state : State World) :
    (expectPrompt : Act World Unit).exec state =
      (.ok (), { state with phase := .paused, parked := none }) := rfl

@[simp] theorem exec_takeParked (state : State World) :
    (takeParked : Act World (Option Step)).exec state =
      (.ok state.parked, { state with phase := .idle, parked := none }) := rfl

@[simp] theorem exec_assign (conversation : Conversation World) (binding : Binding)
    (state : State World) :
    (conversation.assign binding).exec state =
      (.ok (), { state with
        store := state.store.set binding.1 binding.2
        world := conversation.sessions.log (.variableSet binding.1 binding.2) state.world }) := rfl

theorem exec_perform (call : World → Outcome World) (state : State World) :
    (perform call).exec state =
      ((call state.world).1, { state with world := (call state.world).2 }) := by
  unfold perform
  rw [exec_get_bind]
  rcases call state.world with ⟨_ | _, world⟩ <;> rfl

/-- The event of a failure that is tolerated. -/
def toleratedEvent (failure : Failure) : Event :=
  .error "script_failure_ignored" (("error", .text failure.message) :: failure.details)

theorem exec_report_tolerant {conversation : Conversation World} (h : conversation.keepGoing)
    (failure : Failure) (state : State World) :
    (conversation.report failure).exec state =
      (.ok (), { state with
        failures := state.failures ++ [failure]
        world := conversation.sessions.log (toleratedEvent failure) state.world }) := by
  rw [report, if_pos h]
  rfl

theorem exec_report_strict {conversation : Conversation World} (h : ¬ conversation.keepGoing)
    (failure : Failure) (state : State World) :
    (conversation.report failure).exec state = (.error (.failure failure), state) := by
  rw [report, if_neg h]
  rfl

theorem exec_currentLabel (conversation : Conversation World) (state : State World) :
    conversation.currentLabel.exec state =
      match state.current, conversation.sessions.labels with
      | some label, _ => (.ok label, state)
      | none, label :: _ => (.ok label, { state with current := some label })
      | none, [] => (.error (.failure (.unknownLabel "<none>" [])), state) := by
  unfold currentLabel
  rw [exec_get_bind]
  cases state.current with
  | some label => rfl
  | none =>
      cases conversation.sessions.labels with
      | nil => rfl
      | cons label rest => rfl

theorem exec_switchTo (conversation : Conversation World) (label : String)
    (state : State World) :
    (conversation.switchTo label).exec state =
      if conversation.sessions.labels.contains label then
        (.ok (), { state with
          world := conversation.sessions.log
            (.debug "session_switched" [("alias", .text label)]) state.world
          current := some label })
      else (.error (.failure (.unknownLabel label conversation.sessions.labels)), state) := by
  unfold switchTo
  split <;> rfl

theorem exec_resume_paused (conversation : Conversation World) {state : State World}
    (h : state.phase = .paused) :
    conversation.resume.exec state =
      let ahead := (conversation.runAhead (conversation.steps.drop state.position)).exec
        { state with phase := .resuming }
      match ahead.1 with
      | .ok _ => (.ok (), { ahead.2 with
          world := conversation.sessions.log (resumedEvent ahead.2) ahead.2.world })
      | .error fault => (.error fault, ahead.2) := by
  unfold resume
  rw [exec_get_bind, if_pos h]
  change Act.exec (conversation.runAhead _ >>= _) { state with phase := .resuming } = _
  rw [exec_bind]
  rcases (conversation.runAhead (conversation.steps.drop state.position)).exec
    { state with phase := .resuming } with ⟨_ | _, after⟩ <;> rfl

theorem exec_resume_unexpected (conversation : Conversation World) {state : State World}
    (h : state.phase ≠ .paused) :
    conversation.resume.exec state =
      (conversation.report (.continuationUnexpected state.phase.name)).exec state := by
  unfold resume
  rw [exec_get_bind, if_neg h]

/-! ## Following a read -/

@[simp] theorem exec_follow_line (conversation : Conversation World) (text : String)
    (world : World) (state : State World) :
    (conversation.follow (.line text world)).exec state =
      (.ok text, { state with world := world }) := rfl

@[simp] theorem exec_follow_broken (conversation : Conversation World) (fault : Fault)
    (world : World) (state : State World) :
    (conversation.follow (.broken fault world)).exec state =
      (.error fault, { state with world := world }) := rfl

theorem exec_follow_resume (conversation : Conversation World) (world : World)
    (next : Except Fault Unit → View → World → Reading World) (state : State World) :
    (conversation.follow (.resume world next)).exec state =
      let resumed := conversation.resume.exec { state with world := world }
      (conversation.follow (next resumed.1 resumed.2.view resumed.2.world)).exec resumed.2 := rfl

end MailScript.Conversation
