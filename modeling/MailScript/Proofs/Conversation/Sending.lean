import MailScript.Proofs.Conversation.Actions
import MailScript.Proofs.Network.Sending

/-! # Elements that send over a link

Running elements that send puts their bytes on the connection of the session in use, with a line
ending behind each. Over a connection without errors it always succeeds. -/

namespace MailScript

/-- The bytes that an element sends, without the line ending behind them. -/
def Element.payload (store : Variables) : Element → List UInt8
  | .request template => Text.encodeAscii (Template.fill template store)
  | .upload attachment => attachment.data
  | _ => []

namespace Conversation

variable {World : Type}

/-! ## Running an element that sends -/

/-- The label of the session in use: that of the first session if no other has been chosen. -/
def labelInUse? (conversation : Conversation World) (state : State World) : Option String :=
  state.current.or conversation.sessions.labels.head?

theorem exec_currentLabel_inUse {conversation : Conversation World} {state : State World}
    {label : String} (h : conversation.labelInUse? state = some label) :
    conversation.currentLabel.exec state = (.ok label, { state with current := some label }) := by
  obtain ⟨position, current, phase, parked, failures, store, world, journal⟩ := state
  rw [exec_currentLabel]
  cases current with
  | some other =>
      obtain rfl : other = label := Option.some.inj h
      rfl
  | none =>
      cases hlabels : conversation.sessions.labels with
      | nil => simp [labelInUse?, hlabels] at h
      | cons first rest =>
          obtain rfl : first = label := by simpa [labelInUse?, hlabels] using h
          rfl

/-- The call of the sessions that an element is sent by. -/
def sendingCall (conversation : Conversation World) (label : String) (store : Variables) :
    Element → World → Outcome World
  | .request template => conversation.sessions.writeLine label (Template.fill template store)
  | .upload attachment => conversation.sessions.upload label attachment
  | _ => fun world => (.ok (), world)

theorem exec_send_inUse {conversation : Conversation World} {state : State World} {label : String}
    (h : conversation.labelInUse? state = some label) {step : Step}
    (hstep : step.element.isClient) :
    ∃ journal, (conversation.send step).exec state =
      let outcome := conversation.sendingCall label state.store step.element state.world
      (outcome.1, { state with
        current := some label
        world := outcome.2
        journal := journal }) := by
  obtain ⟨index, element⟩ := step
  unfold send
  rw [exec_bind_ok (exec_enter _ state)]
  have hstarted : conversation.labelInUse? (state.enter (.started index)) = some label := h
  have hlabel := exec_currentLabel_inUse hstarted
  cases element with
  | request template =>
      dsimp only
      rw [exec_bind_ok hlabel, exec_get_bind, exec_bind_ok (exec_enter _ _), exec_perform]
      exact ⟨_, rfl⟩
  | upload attachment =>
      dsimp only
      rw [exec_bind_ok hlabel, exec_get_bind, exec_bind_ok (exec_enter _ _), exec_perform]
      exact ⟨_, rfl⟩
  | _ => cases hstep

theorem exec_run_client (conversation : Conversation World) {step : Step}
    (h : step.element.isClient) (state : State World) :
    (conversation.run step).exec state = (conversation.send step).exec state := by
  unfold run settle runStep
  rw [if_pos h, exec_bind, exec_bind]
  rcases (conversation.send step).exec state with ⟨_ | _, after⟩ <;> rfl

/-! ## Running elements that send over a link -/

/-- The session in use is a link that is connected to a socket. -/
structure Online (conversation : Conversation Network.World) (state : State Network.World)
    (label : String) (socket : Network.Socket) : Prop where
  sessions : ∃ world, conversation.sessions = Network.sessions world
  inUse : conversation.labelInUse? state = some label
  connection : state.world.connection? label = some socket

theorem online_ofLink (config : Network.Config) (socket : Network.Socket) (elements : List Element)
    (keepGoing : Bool) (store : Variables) :
    let world := Network.World.ofLink config socket
    Online ⟨Network.sessions world, elements, keepGoing⟩ (.initial store world) config.label
      socket where
  sessions := ⟨_, rfl⟩
  inUse := rfl
  connection := by simp [State.initial, Network.World.connection?_ofLink]

/-- Behind a state in which the session in use is connected some bytes have been sent over the same
connection. The variables are the same. -/
structure Sent (conversation : Conversation Network.World) (label : String)
    (socket : Network.Socket) (state after : State Network.World) (bytes : List UInt8) : Prop where
  online : ∃ socket', conversation.Online after label socket' ∧ socket.Sent socket' bytes
  pauses : state.world.TakesPauses label → after.world.TakesPauses label
  store : after.store = state.store

/-- What steps put on a connection. -/
def wireBytes (store : Variables) (steps : List Step) : List UInt8 :=
  steps.flatMap fun step => step.element.payload store ++ Network.Station.lineEnding

variable {conversation : Conversation Network.World} {state after : State Network.World}
  {label : String} {socket : Network.Socket}

/-- Sending an element is a job of the link of the session in use. -/
theorem Online.sendingCall_eq_work (h : conversation.Online state label socket)
    {element : Element} (helement : element.isClient) (store : Variables) :
    ∃ job, Network.Station.Sends job (element.payload store ++ Network.Station.lineEnding) ∧
      conversation.sendingCall label store element = Network.World.work label job := by
  obtain ⟨world, hsessions⟩ := h.sessions
  unfold sendingCall
  rw [hsessions]
  cases element with
  | request template => exact ⟨_, Network.Station.sends_writeLine _, rfl⟩
  | upload attachment => exact ⟨_, Network.Station.sends_upload attachment, rfl⟩
  | _ => cases helement

theorem Online.sent_of_run (h : conversation.Online state label socket) {step : Step}
    (hstep : step.element.isClient) (hrun : (conversation.run step).exec state = (.ok (), after)) :
    conversation.Sent label socket state after
      (step.element.payload state.store ++ Network.Station.lineEnding) := by
  obtain ⟨job, hjob, hcall⟩ := h.sendingCall_eq_work hstep state.store
  obtain ⟨journal, hsend⟩ := exec_send_inUse h.inUse hstep
  rw [exec_run_client conversation hstep, hsend, hcall] at hrun
  obtain ⟨houtcome, rfl⟩ := Prod.mk.inj hrun
  obtain ⟨⟨before, socket', hbefore, hsocket', hsent⟩, hpauses⟩ :=
    Network.World.sent_of_work hjob (Prod.ext houtcome rfl)
  obtain rfl : socket = before := Option.some.inj (h.connection.symm.trans hbefore)
  exact ⟨⟨socket', ⟨h.sessions, rfl, hsocket'⟩, hsent⟩, hpauses, rfl⟩

/-- Over a connection without errors an element that sends can always be run, if the clock takes the
pauses of the link. -/
theorem Online.run_steady (h : conversation.Online state label socket) (hsteady : socket.Steady)
    (hpauses : state.world.TakesPauses label) {step : Step} (hstep : step.element.isClient) :
    ∃ after, (conversation.run step).exec state = (.ok (), after) := by
  obtain ⟨job, hjob, hcall⟩ := h.sendingCall_eq_work hstep state.store
  obtain ⟨journal, hsend⟩ := exec_send_inUse h.inUse hstep
  obtain ⟨world, hworld⟩ := Network.World.work_steady hjob h.connection hsteady hpauses
  rw [exec_run_client conversation hstep, hsend, hcall, hworld]
  exact ⟨_, rfl⟩

/-- Elements that were sent are on the connection one behind the other. -/
theorem Online.sent_of_runs (h : conversation.Online state label socket) {steps : List Step}
    (hsteps : ∀ step ∈ steps, step.element.isClient)
    (hruns : (steps.forM conversation.run).exec state = (.ok (), after)) :
    conversation.Sent label socket state after (wireBytes state.store steps) := by
  induction steps generalizing state socket with
  | nil =>
      cases hruns
      exact ⟨⟨socket, h, .refl socket⟩, id, rfl⟩
  | cons step rest ih =>
      rw [List.forall_mem_cons] at hsteps
      rw [List.forM, exec_bind] at hruns
      cases hrun : (conversation.run step).exec state with
      | mk outcome middle =>
          rw [hrun] at hruns
          cases outcome with
          | error fault => cases hruns
          | ok _ =>
              obtain ⟨⟨next, hnext, hfirst⟩, hpauses, hstore⟩ := h.sent_of_run hsteps.1 hrun
              obtain ⟨⟨last, hlast, hrest⟩, hpauses', hstore'⟩ := ih hnext hsteps.2 hruns
              rw [hstore] at hrest
              exact ⟨⟨last, hlast, hfirst.trans hrest⟩, hpauses' ∘ hpauses, hstore'.trans hstore⟩

theorem Online.runs_steady (h : conversation.Online state label socket) (hsteady : socket.Steady)
    (hpauses : state.world.TakesPauses label) {steps : List Step}
    (hsteps : ∀ step ∈ steps, step.element.isClient) :
    ∃ after, (steps.forM conversation.run).exec state = (.ok (), after) := by
  induction steps generalizing state socket with
  | nil => exact ⟨state, rfl⟩
  | cons step rest ih =>
      rw [List.forall_mem_cons] at hsteps
      obtain ⟨middle, hrun⟩ := h.run_steady hsteady hpauses hsteps.1
      obtain ⟨⟨next, hnext, hsent⟩, hpauses', -⟩ := h.sent_of_run hsteps.1 hrun
      obtain ⟨after, hrest⟩ := ih hnext (hsent.steady hsteady) (hpauses' hpauses) hsteps.2
      refine ⟨after, ?_⟩
      rw [List.forM, exec_bind_ok hrun, hrest]

end Conversation

end MailScript
