import MailScript.Proofs.Conversation.Lead
import MailScript.Proofs.Conversation.Order

/-! # Sending ahead of the prompt

A session that resumes while the prompt is expected makes the conversation send ahead. Without that the
same is sent as soon as the prompt has been read. -/

namespace MailScript

/-- What an element sends to a session. -/
def Element.sending (label : String) (store : Variables) : Element → Option Memory.Action
  | .request template => some (.wrote label (Template.fill template store))
  | .upload attachment => some (.uploaded label attachment)
  | _ => none

theorem Element.sending_of_isClient {element : Element} (h : element.isClient) (label : String)
    (store : Variables) :
    ∃ action, element.sending label store = some action ∧ action.isWrite ∧
      action.isDelivery = false := by
  cases element with
  | request template => exact ⟨_, rfl, rfl, rfl⟩
  | upload attachment => exact ⟨_, rfl, rfl, rfl⟩
  | _ => cases h

namespace Conversation

/-! ## Sending ahead and catching up -/

/-- The place of a state in the script. -/
def State.At (state : State Memory.World) (position : Nat) (phase : Phase)
    (parked : Option Step) : Prop :=
  state.position = position ∧ state.phase = phase ∧ state.parked = parked

namespace State.At

variable {state after : State Memory.World} {position : Nat} {phase : Phase}
  {parked : Option Step}

theorem position_eq (h : state.At position phase parked) : state.position = position := h.1

theorem phase_eq (h : state.At position phase parked) : state.phase = phase := h.2.1

theorem parked_eq (h : state.At position phase parked) : state.parked = parked := h.2.2

theorem of_cursor_eq (h : state.At position phase parked) (heq : after.cursor = state.cursor) :
    after.At position phase parked :=
  ⟨(congrArg Cursor.position heq).trans h.position_eq, (congrArg Cursor.phase heq).trans h.phase_eq,
    (congrArg Cursor.parked heq).trans h.parked_eq⟩

end State.At

/-- Some steps send, and the next one, if any, does not. -/
theorem exists_clients (steps : List Step) :
    ∃ clients tail, steps = clients ++ tail ∧ (∀ step ∈ clients, step.element.isClient) ∧
      ∀ step ∈ tail.head?, ¬ step.element.isClient := by
  refine ⟨steps.takeWhile (·.element.isClient), steps.dropWhile (·.element.isClient),
    List.takeWhile_append_dropWhile.symm, List.all_eq_true.mp List.all_takeWhile, ?_⟩
  intro step hstep
  have hhead := List.head?_dropWhile_not (·.element.isClient) steps
  rw [Option.mem_def.mp hstep] at hhead
  simp [hhead]

/-- What some steps send to a session. -/
def sendings (label : String) (store : Variables) (steps : List Step) : List Memory.Action :=
  steps.filterMap fun step => step.element.sending label store

theorem sendings_cons {label : String} {store : Variables} {step : Step} {action : Memory.Action}
    (h : step.element.sending label store = some action) (rest : List Step) :
    sendings label store (step :: rest) = action :: sendings label store rest :=
  List.filterMap_cons_some h

/-- With a session in use, a step that sends just does so. -/
theorem exec_send (script : Memory.Script) (step : Step) (state : State Memory.World)
    {label : String} {action : Memory.Action} (hcurrent : state.current = some label)
    (haction : step.element.sending label state.store = some action) :
    ∃ journal, (script.conversation.send step).exec state =
        (.ok (), { state with journal := journal, world := state.world.add action }) ∧
      journal.filterMap JournalEntry.wait? = state.waits := by
  obtain ⟨position, current, phase, parked, failures, store, world, journal⟩ := state
  obtain rfl : current = some label := hcurrent
  unfold send
  rw [exec_bind_ok (exec_enter ..)]
  cases hstep : step.element with
  | request template =>
      rw [hstep] at haction
      cases haction
      refine ⟨journal ++ [.started step.index] ++
        [.writing step.index label (Template.fill template store)
          ⟨position, phase, parked.map Step.index⟩], rfl, ?_⟩
      simp [State.waits, JournalEntry.wait?]
  | upload attachment =>
      rw [hstep] at haction
      cases haction
      refine ⟨journal ++ [.started step.index] ++
        [.uploading step.index label attachment
          ⟨position, phase, parked.map Step.index⟩], rfl, ?_⟩
      simp [State.waits, JournalEntry.wait?]
  | _ =>
      rw [hstep] at haction
      cases haction

/-- Steps that send are run ahead of their turn. -/
theorem runAhead_clients (script : Memory.Script) {clients tail : List Step}
    (extra : List Memory.Action) (ahead : State Memory.World) (position : Nat)
    {behind : State Memory.World} {label : String} {phase : Phase} {parked : Option Step}
    (hclients : ∀ step ∈ clients, step.element.isClient)
    (hdrop : script.conversation.steps.drop position = clients ++ tail)
    (hcurrent : behind.current = some label) (h : Leads extra ahead behind)
    (hahead : ahead.At position phase parked) :
    ∃ ahead', (script.conversation.runAhead (clients ++ tail)).exec ahead =
        (script.conversation.runAhead tail).exec ahead' ∧
      Leads (extra ++ sendings label behind.store clients) ahead' behind ∧
      ahead'.At (position + clients.length) phase parked := by
  induction clients generalizing extra ahead position with
  | nil =>
      refine ⟨ahead, rfl, ?_, hahead⟩
      rwa [sendings, List.filterMap_nil, List.append_nil]
  | cons step clients ih =>
      obtain ⟨hstep, hrest⟩ := getElem?_steps_of_drop hdrop
      obtain ⟨hindex, -⟩ := index_of_getElem?_steps hstep
      have hclient : step.element.isClient := hclients step List.mem_cons_self
      obtain ⟨action, haction, hwrite, hdelivery⟩ :=
        Element.sending_of_isClient hclient label behind.store
      obtain ⟨journal, hsend, hwaits⟩ := exec_send script step
        { ahead with position := step.index + 1 } (h.current.trans hcurrent)
        (by rw [← haction, ← h.store])
      rw [List.cons_append, runAhead, exec_bind_ok (exec_pass ..), if_pos hclient,
        exec_bind_ok hsend]
      obtain ⟨ahead', hexec, hleads, hat⟩ := ih (extra ++ [action])
        { ahead with
          position := step.index + 1, journal := journal, world := ahead.world.add action }
        (position + 1) (fun step hmem => hclients step (List.mem_cons_of_mem _ hmem))
        hrest { h with waits := hwaits.trans h.waits, world := h.world.lead hwrite hdelivery }
        ⟨congrArg (· + 1) hindex, hahead.phase_eq, hahead.parked_eq⟩
      refine ⟨ahead', hexec, ?_, ?_⟩
      · rwa [sendings_cons haction, List.append_cons]
      · rwa [List.length_cons, Nat.add_comm clients.length, ← Nat.add_assoc]

/-- Steps that send are run in their turn. -/
theorem completes_clients (script : Memory.Script) {clients tail : List Step}
    (behind : State Memory.World) (position : Nat) {ahead : State Memory.World} {label : String}
    (hclients : ∀ step ∈ clients, step.element.isClient)
    (hdrop : script.conversation.steps.drop position = clients ++ tail)
    (hcurrent : behind.current = some label)
    (h : Leads (sendings label behind.store clients) ahead behind)
    (hbehind : behind.At position .idle none) :
    ∃ behind', Leads [] ahead behind' ∧ behind'.At (position + clients.length) .idle none ∧
      ∀ outcome last, Completes script.conversation behind' outcome last →
        Completes script.conversation behind outcome last := by
  induction clients generalizing behind position with
  | nil => exact ⟨behind, h, hbehind, fun _ _ hrest => hrest⟩
  | cons step clients ih =>
      obtain ⟨hstep, hrest⟩ := getElem?_steps_of_drop hdrop
      obtain ⟨hindex, -⟩ := index_of_getElem?_steps hstep
      have hclient : step.element.isClient := hclients step List.mem_cons_self
      obtain ⟨action, haction, hwrite, hdelivery⟩ :=
        Element.sending_of_isClient hclient label behind.store
      obtain ⟨journal, hsend, hwaits⟩ := exec_send script step
        { behind with position := step.index + 1 } hcurrent haction
      rw [sendings_cons haction] at h
      obtain ⟨behind', hleads, hat, hcompletes⟩ := ih
        { behind with
          position := step.index + 1, journal := journal, world := behind.world.add action }
        (position + 1) (fun step hmem => hclients step (List.mem_cons_of_mem _ hmem)) hrest hcurrent
        { h with waits := h.waits.trans hwaits.symm, world := h.world.follow hwrite hdelivery }
        ⟨congrArg (· + 1) hindex, hbehind.phase_eq, hbehind.parked_eq⟩
      refine ⟨behind', hleads, ?_, fun outcome last hlast => ?_⟩
      · rwa [List.length_cons, Nat.add_comm clients.length, ← Nat.add_assoc]
      · refine .next (by rwa [hbehind.position_eq]) (.done ?_) (hcompletes outcome last hlast)
        rw [runStep, if_pos hclient, exec_bind_ok hsend]
        rfl

/-! ## Waiting for the prompt -/

/-- The state ahead has gone past the steps that send and has parked the next one, while the state
behind waits for the prompt in front of them. -/
structure Gap (label : String) (clients tail : List Step) (position : Nat)
    (ahead behind : State Memory.World) : Prop where
  leads : Leads (sendings label behind.store clients) ahead behind
  current : behind.current = some label
  ahead : ahead.At (position + clients.length + tail.head?.toList.length) .resuming tail.head?
  behind : behind.At position .paused none

/-- Between two steps, what some steps send was sent in the state ahead only. -/
structure Owes (clients : List Step) (reached position : Nat) (ahead behind : State Memory.World) :
    Prop where
  leads : ∃ label, behind.current = some label ∧
    Leads (sendings label behind.store clients) ahead behind
  ahead : ahead.At reached .idle none
  behind : behind.At position .idle none

/-- Both states are in the same place between two steps, and nothing was sent ahead. -/
structure Level (position : Nat) (ahead behind : State Memory.World) : Prop where
  leads : Leads [] ahead behind
  ahead : ahead.At position .idle none
  behind : behind.At position .idle none

namespace Gap

variable {label : String} {clients tail : List Step} {position : Nat}
  {ahead behind : State Memory.World}

theorem inWorlds (h : Gap label clients tail position ahead behind)
    {world world' : Memory.World} (hworld : world.Leads (sendings label behind.store clients) world') :
    Gap label clients tail position { ahead with world := world }
      { behind with world := world' } :=
  ⟨h.leads.inWorlds hworld, h.current, h.ahead, h.behind⟩

theorem enter (h : Gap label clients tail position ahead behind) (entry : JournalEntry) :
    Gap label clients tail position (ahead.enter entry) (behind.enter entry) :=
  ⟨h.leads.enter entry entry rfl, h.current, h.ahead, h.behind⟩

/-- Both states note the failure, or it ends both. -/
theorem report {script : Memory.Script} (h : Gap label clients tail position ahead behind)
    (failure : Failure) :
    Alike (fun _ _ ahead' behind' => Gap label clients tail position ahead' behind')
      ((script.conversation.report failure).exec ahead)
      ((script.conversation.report failure).exec behind) := by
  by_cases hkeep : script.conversation.keepGoing
  · rw [exec_report_tolerant hkeep, exec_report_tolerant hkeep]
    have hlogged := h.inWorlds (h.leads.world.logs (ahead.world.events ++ [toleratedEvent failure])
      (behind.world.events ++ [toleratedEvent failure]))
    refine .done ⟨?_, hlogged.current, ?_, ?_⟩
    · exact { hlogged.leads with failures := congrArg (· ++ [failure]) h.leads.failures }
    · exact h.ahead
    · exact h.behind
  · rw [exec_report_strict hkeep, exec_report_strict hkeep]
    exact .broken h.leads

theorem takeParked (h : Gap label clients tail position ahead behind) :
    Owes clients (position + clients.length + tail.head?.toList.length) position
      { ahead with phase := .idle, parked := none }
      { behind with phase := .idle, parked := none } :=
  ⟨⟨label, h.current, { h.leads with }⟩, ⟨h.ahead.position_eq, rfl, rfl⟩,
    ⟨h.behind.position_eq, rfl, rfl⟩⟩

end Gap

section Prompt

variable {script : Memory.Script} {clients tail : List Step} {position : Nat}
  (hdrop : script.conversation.steps.drop position = clients ++ tail)
  (hclients : ∀ step ∈ clients, step.element.isClient)
  (htail : ∀ step ∈ tail.head?, ¬ step.element.isClient)

include hdrop hclients htail

theorem resume_gap {ahead behind : State Memory.World} {label : String}
    (h : Leads [] ahead behind) (hcurrent : behind.current = some label)
    (hahead : ahead.At position .paused none) (hbehind : behind.At position .paused none) :
    ∃ ahead', script.conversation.resume.exec ahead = (.ok (), ahead') ∧
      Gap label clients tail position ahead' behind := by
  obtain ⟨passed, hexec, hleads, hat⟩ := runAhead_clients script []
    { ahead with phase := .resuming } position hclients hdrop hcurrent { h with }
    ⟨hahead.position_eq, rfl, hahead.parked_eq⟩
  have hleads : Leads (sendings label behind.store clients) passed behind := hleads
  have hdrop' : script.conversation.steps.drop ahead.position = clients ++ tail := by
    rw [hahead.position_eq, hdrop]
  rw [exec_resume_paused _ hahead.phase_eq, hdrop']
  dsimp only
  rw [hexec]
  cases tail with
  | nil =>
      refine ⟨_, rfl, ⟨?_, hcurrent, hat, hbehind⟩⟩
      exact { hleads with world := { hleads.world with } }
  | cons step rest =>
      have hclient : ¬ step.element.isClient := htail step rfl
      have hindex := (index_of_getElem?_steps (getElem?_steps_of_split hdrop)).1
      rw [runAhead, exec_bind_ok (exec_pass ..), if_neg hclient]
      refine ⟨_, rfl, ⟨?_, hcurrent, ⟨?_, hat.phase_eq, rfl⟩, hbehind⟩⟩
      · exact { hleads with world := { hleads.world with } }
      · exact congrArg (· + 1) hindex

/-- While the prompt is expected, the state ahead resumes before it reads. -/
theorem follow_gap {ahead behind : State Memory.World} {label : String} (h : Leads [] ahead behind)
    (hcurrent : behind.current = some label) (hahead : ahead.At position .paused none)
    (hbehind : behind.At position .paused none) :
    Alike (fun line line' ahead' behind' => line = line' ∧
        Gap label clients tail position ahead' behind')
      ((script.conversation.follow (Memory.readLine script.exhaustion label ahead.view
        ahead.world)).exec ahead)
      ((script.conversation.follow (Memory.readLine script.exhaustion label behind.view
        behind.world)).exec behind) := by
  rw [h.world.quiet.readLine_eq _ _ behind.view (.inl rfl)]
  cases hsession : ahead.world.session? label with
  | none =>
      -- The fault of a session that is not there comes without a resume.
      have hnone := Memory.World.deliver_of_session?_eq_none hsession script.exhaustion
      rw [Memory.World.readLine_of_session?_eq_none hsession]
      rcases h.world.deliver script.exhaustion label with
        ⟨line, _, _, hline, _, _⟩ | ⟨fault, after, after', hbroken, hbroken', hworld⟩
      · rw [hnone] at hline
        cases hline
      · rw [hbroken, hbroken']
        exact .broken (h.inWorlds hworld)
  | some session =>
      obtain ⟨next, hreading, hnext⟩ :=
        h.world.eager.readLine_paused script.exhaustion hsession ahead.view hahead.phase_eq
      have hasking : Leads []
          { ahead with world := ahead.world.add (.resuming label ahead.view.phase) } behind :=
        { h with world := h.world.note _ rfl rfl }
      obtain ⟨resumed, hresume, hgap⟩ := resume_gap hdrop hclients htail hasking hcurrent
        hahead hbehind
      rw [hreading, exec_follow_resume]
      dsimp only
      rw [hresume, hnext]
      have hworld := hgap.leads.world.note (.resumed label resumed.view) rfl rfl
      rcases hworld.deliver script.exhaustion label with
        ⟨line, after, after', hline, hline', hafter⟩ | ⟨fault, after, after', hbroken, hbroken', hafter⟩
      · rw [hline, hline']
        exact .done ⟨rfl, hgap.inWorlds hafter⟩
      · rw [hbroken, hbroken']
        exact .broken (hgap.leads.inWorlds hafter)

/-- Reading while the prompt is expected opens the gap. -/
theorem readLine_gap {ahead behind : State Memory.World} (h : Leads [] ahead behind)
    (hahead : ahead.At position .paused none) (hbehind : behind.At position .paused none)
    (index : Nat) :
    Alike (fun line line' ahead' behind' => line = line' ∧
        ∃ label, Gap label clients tail position ahead' behind')
      ((script.conversation.readLine index).exec ahead)
      ((script.conversation.readLine index).exec behind) := by
  unfold readLine
  refine (currentLabel_alike script h).bind ?_
  rintro label _ _ _ ⟨rfl, rfl, rfl⟩
  rw [exec_get_bind, exec_get_bind, exec_bind_ok (exec_enter ..), exec_bind_ok (exec_enter ..)]
  have hused : Leads [] { ahead with current := some label }
      { behind with current := some label } := { h with current := rfl }
  have hreading := hused.enter (.reading index label ahead.sight)
    (.reading index label behind.sight) rfl
  refine (follow_gap hdrop hclients htail hreading rfl hahead hbehind).bind ?_
  rintro line _ ahead' behind' ⟨rfl, hgap⟩
  exact .done ⟨rfl, label, hgap.enter _⟩

/-- Waiting for the prompt leaves the state behind with what it still has to send. -/
theorem awaitPrompt_alike {ahead behind : State Memory.World} (h : Level position ahead behind)
    (index : Nat) :
    Alike (fun parked parked' ahead' behind' => parked = tail.head? ∧ parked' = none ∧
        Owes clients (position + clients.length + tail.head?.toList.length) position ahead' behind')
      ((script.conversation.awaitPrompt index).exec ahead)
      ((script.conversation.awaitPrompt index).exec behind) := by
  unfold awaitPrompt
  rw [exec_bind_ok (exec_expectPrompt _), exec_bind_ok (exec_expectPrompt _)]
  have hexpecting : Leads [] { ahead with phase := .paused, parked := none }
      { behind with phase := .paused, parked := none } := { h.leads with }
  refine (readLine_gap hdrop hclients htail hexpecting
    ⟨h.ahead.position_eq, rfl, rfl⟩ ⟨h.behind.position_eq, rfl, rfl⟩ index).bind ?_
  rintro line _ ahead behind ⟨rfl, label, hgap⟩
  by_cases hline : line ≠ promptLine
  · rw [if_pos hline]
    refine (hgap.report _).bind fun _ _ ahead behind hgap => ?_
    exact .done ⟨hgap.ahead.parked_eq, hgap.behind.parked_eq, hgap.takeParked⟩
  · rw [if_neg hline]
    exact .done ⟨hgap.ahead.parked_eq, hgap.behind.parked_eq, hgap.takeParked⟩

end Prompt

end Conversation

end MailScript
