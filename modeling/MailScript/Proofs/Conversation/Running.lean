import MailScript.Proofs.Conversation.Congruence

/-! # Relations that whole runs respect

A relation that elements respect also relates two whole runs of a script, once what the main loop
does between elements respects it too. -/

namespace MailScript.Conversation

variable {World World' : Type}

/-- A relation that elements respect, and what the main loop does between elements as well. -/
structure RunCongruence (conversation : Conversation World) (other : Conversation World')
    (R : ∀ {α : Type}, Act World α → Act World' α → Prop) : Prop
    extends Congruence conversation other R where
  elements : conversation.elements = other.elements
  start : ∀ index, R (Conversation.enter (.started index) : Act World Unit)
    (Conversation.enter (.started index))
  send : ∀ {step : Step}, step.element.isClient → R (conversation.send step) (other.send step)
  pass : ∀ step, R (Conversation.pass step : Act World Unit) (Conversation.pass step)
  expectPrompt : R (Conversation.expectPrompt : Act World Unit) Conversation.expectPrompt
  takeParked : R (Conversation.takeParked : Act World (Option Step)) Conversation.takeParked
  /-- What follows may depend on the position and on the number of failures, which are the same. -/
  look : ∀ {α : Type} {next : State World → Act World α} {next' : State World' → Act World' α},
    (∀ state state', state.position = state'.position →
      state.failures.length = state'.failures.length → R (next state) (next' state')) →
      R (get >>= next) (get >>= next')

namespace RunCongruence

variable {conversation : Conversation World} {other : Conversation World'}
  {R : ∀ {α : Type}, Act World α → Act World' α → Prop}

theorem awaitPrompt (h : RunCongruence conversation other @R) (index : Nat) :
    R (conversation.awaitPrompt index) (other.awaitPrompt index) := by
  refine h.bind h.expectPrompt fun _ => h.bind (h.readLine index) fun line => ?_
  by_cases hline : line ≠ promptLine
  · rw [if_pos hline, if_pos hline]
    exact h.bind (h.report _) fun _ => h.takeParked
  · rw [if_neg hline, if_neg hline]
    exact h.takeParked

theorem runStep (h : RunCongruence conversation other @R) (step : Step) :
    R (conversation.runStep step) (other.runStep step) := by
  unfold Conversation.runStep
  by_cases hclient : step.element.isClient
  · rw [if_pos hclient, if_pos hclient]
    exact h.bind (h.send hclient) fun _ => h.pure none
  · rw [if_neg hclient, if_neg hclient]
    refine h.bind (h.start step.index) fun _ => ?_
    by_cases hprompt : step.element = .prompt
    · rw [if_pos hprompt, if_pos hprompt]
      exact h.awaitPrompt step.index
    · rw [if_neg hprompt, if_neg hprompt]
      exact h.bind (h.attend step) fun _ => h.pure none

theorem settle (h : RunCongruence conversation other @R) (fuel : Nat) (step : Step) :
    R (conversation.settle fuel step) (other.settle fuel step) := by
  induction fuel generalizing step with
  | zero => exact h.pure ()
  | succ fuel ih =>
      refine h.bind (h.runStep step) fun parked => ?_
      cases parked with
      | none => exact h.pure ()
      | some parked => exact ih parked

theorem run (h : RunCongruence conversation other @R) (step : Step) :
    R (conversation.run step) (other.run step) := by
  unfold Conversation.run
  rw [h.elements]
  exact h.settle _ step

theorem runRest (h : RunCongruence conversation other @R) (fuel : Nat) :
    R (conversation.runRest fuel) (other.runRest fuel) := by
  have hsteps : conversation.steps = other.steps := by rw [steps, steps, h.elements]
  induction fuel with
  | zero => exact h.pure ()
  | succ fuel ih =>
      refine h.look fun state state' hposition _ => ?_
      rw [hsteps, hposition]
      cases other.steps[state'.position]? with
      | none => exact h.pure ()
      | some step => exact h.bind (h.pass step) fun _ => h.bind (h.run step) fun _ => ih

/-- Two whole runs are related if their beginnings are. -/
theorem execute (h : RunCongruence conversation other @R)
    (hrewind : R (modify State.rewind : Act World Unit) (modify State.rewind)) :
    R conversation.execute other.execute := by
  unfold Conversation.execute
  rw [← h.elements]
  refine h.bind hrewind fun _ => h.bind (h.log _) fun _ => h.bind (h.runRest _) fun _ => ?_
  refine h.look fun state state' _ hfailures => ?_
  rw [hfailures]
  exact h.log _

end RunCongruence

end MailScript.Conversation
