import MailScript.Proofs.Conversation.Actions

/-! # Execution without bounds

The rules say how a script runs, element after element, with no bound on the number of elements. A
derivation exists only of a run that ends. -/

namespace MailScript.Conversation

variable {World : Type}

/-- A step is run, and then whatever it leaves parked. -/
inductive Settles (conversation : Conversation World) :
    Step → State World → Except Fault Unit → State World → Prop where
  | broken {step state fault after}
      (hstep : (conversation.runStep step).exec state = (.error fault, after)) :
      Settles conversation step state (.error fault) after
  | done {step state after}
      (hstep : (conversation.runStep step).exec state = (.ok none, after)) :
      Settles conversation step state (.ok ()) after
  | parked {step parked state after outcome last}
      (hstep : (conversation.runStep step).exec state = (.ok (some parked), after))
      (hrest : Settles conversation parked after outcome last) :
      Settles conversation step state outcome last

/-- The steps from the current position on are run until none is left or one of them fails. -/
inductive Completes (conversation : Conversation World) :
    State World → Except Fault Unit → State World → Prop where
  | finished {state} (hnext : conversation.steps[state.position]? = none) :
      Completes conversation state (.ok ()) state
  | broken {state step fault last} (hnext : conversation.steps[state.position]? = some step)
      (hstep : Settles conversation step { state with position := step.index + 1 }
        (.error fault) last) :
      Completes conversation state (.error fault) last
  | next {state step after outcome last}
      (hnext : conversation.steps[state.position]? = some step)
      (hstep : Settles conversation step { state with position := step.index + 1 } (.ok ()) after)
      (hrest : Completes conversation after outcome last) :
      Completes conversation state outcome last

/-- A state in which a script begins. -/
def opened (conversation : Conversation World) (state : State World) : State World :=
  { state.rewind with
    world := conversation.sessions.log (.debug "script_execution_started"
      [("element_count", .nat conversation.elements.length)]) state.world }

/-- A state in which a script has ended. -/
def closed (conversation : Conversation World) (state : State World) : State World :=
  { state with
    world := conversation.sessions.log (.debug "script_execution_finished"
      [("element_count", .nat conversation.elements.length),
        ("failure_count", .nat state.failures.length)]) state.world }

theorem exec_execute (conversation : Conversation World) (state : State World) :
    conversation.execute.exec state =
      match (conversation.runRest conversation.elements.length).exec (conversation.opened state) with
      | (.ok _, last) => (.ok (), conversation.closed last)
      | (.error fault, last) => (.error fault, last) := by
  unfold execute
  rw [exec_bind_ok (exec_modify ..), exec_bind_ok (exec_log ..)]
  rcases hrun : (conversation.runRest conversation.elements.length).exec
    (conversation.opened state) with ⟨fault | _, last⟩
  · exact exec_bind_error hrun
  · exact exec_bind_ok hrun

/-- A whole script is run. -/
inductive Executes (conversation : Conversation World) :
    State World → Except Fault Unit → State World → Prop where
  | broken {state fault last}
      (hrun : Completes conversation (conversation.opened state) (.error fault) last) :
      Executes conversation state (.error fault) last
  | finished {state last}
      (hrun : Completes conversation (conversation.opened state) (.ok ()) last) :
      Executes conversation state (.ok ()) (conversation.closed last)

/-! ## One result at most -/

theorem Settles.deterministic {conversation : Conversation World} {step : Step}
    {state last last' : State World} {outcome outcome' : Except Fault Unit}
    (h : Settles conversation step state outcome last)
    (h' : Settles conversation step state outcome' last') : outcome = outcome' ∧ last = last' := by
  induction h with
  | broken hstep =>
      cases h' with
      | broken hstep' => simp_all
      | done hstep' => simp_all
      | parked hstep' _ => simp_all
  | done hstep =>
      cases h' with
      | broken hstep' => simp_all
      | done hstep' => simp_all
      | parked hstep' _ => simp_all
  | parked hstep _ ih =>
      cases h' with
      | broken hstep' => simp_all
      | done hstep' => simp_all
      | parked hstep' hrest' =>
          rw [hstep] at hstep'
          cases hstep'
          exact ih hrest'

theorem Completes.deterministic {conversation : Conversation World}
    {state last last' : State World} {outcome outcome' : Except Fault Unit}
    (h : Completes conversation state outcome last)
    (h' : Completes conversation state outcome' last') : outcome = outcome' ∧ last = last' := by
  induction h with
  | finished hnext =>
      cases h' with
      | finished _ => exact ⟨rfl, rfl⟩
      | broken hnext' _ => simp_all
      | next hnext' _ _ => simp_all
  | broken hnext hstep =>
      cases h' with
      | finished hnext' => simp_all
      | broken hnext' hstep' =>
          rw [hnext] at hnext'
          cases hnext'
          exact hstep.deterministic hstep'
      | next hnext' hstep' _ =>
          rw [hnext] at hnext'
          cases hnext'
          have := (hstep.deterministic hstep').1
          simp at this
  | next hnext hstep _ ih =>
      cases h' with
      | finished hnext' => simp_all
      | broken hnext' hstep' =>
          rw [hnext] at hnext'
          cases hnext'
          have := (hstep.deterministic hstep').1
          simp at this
      | next hnext' hstep' hrest' =>
          rw [hnext] at hnext'
          cases hnext'
          obtain ⟨-, rfl⟩ := hstep.deterministic hstep'
          exact ih hrest'

/-- A script has at most one result. -/
theorem Executes.deterministic {conversation : Conversation World}
    {state last last' : State World} {outcome outcome' : Except Fault Unit}
    (h : Executes conversation state outcome last)
    (h' : Executes conversation state outcome' last') : outcome = outcome' ∧ last = last' := by
  cases h with
  | broken hrun =>
      cases h' with
      | broken hrun' => exact hrun.deterministic hrun'
      | finished hrun' =>
          have := (hrun.deterministic hrun').1
          simp at this
  | finished hrun =>
      cases h' with
      | broken hrun' =>
          have := (hrun.deterministic hrun').1
          simp at this
      | finished hrun' =>
          obtain ⟨-, rfl⟩ := hrun.deterministic hrun'
          exact ⟨rfl, rfl⟩

end MailScript.Conversation
