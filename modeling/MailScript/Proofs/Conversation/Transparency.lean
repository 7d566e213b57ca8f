import MailScript.Proofs.Conversation.Overtaking

/-! # Resuming early

Sessions in memory may resume whenever the prompt is expected, or never. Resuming early only sends
early: a run in which all sessions resume is ahead of one in which none does by what it has sent, and
the latter catches up before the parked element is run. -/

namespace MailScript.Conversation

/-- Let all sessions ask to resume as a policy says. -/
def State.withPolicy (state : State Memory.World) (policy : Memory.ResumePolicy) :
    State Memory.World :=
  { state with world := state.world.withPolicy policy }

/-! ## One step and the steps behind it -/

namespace Level

variable {position : Nat} {ahead behind : State Memory.World}

theorem enter (h : Level position ahead behind) (entry entry' : JournalEntry)
    (hwait : entry.wait? = entry'.wait?) :
    Level position (ahead.enter entry) (behind.enter entry') :=
  ⟨h.leads.enter entry entry' hwait, h.ahead, h.behind⟩

theorem use (h : Level position ahead behind) (label : String) :
    Level position { ahead with current := some label } { behind with current := some label } :=
  ⟨{ h.leads with current := rfl }, h.ahead, h.behind⟩

/-- Both states note and do the same call, which sends something. -/
theorem perform (h : Level position ahead behind) {entry entry' : JournalEntry}
    {call call' : Memory.World → Outcome Memory.World} {action : Memory.Action}
    (hwait : entry.wait? = entry'.wait?) (hcall : ∀ world, call world = (.ok (), world.add action))
    (hcall' : ∀ world, call' world = (.ok (), world.add action)) (hwrite : action.isWrite)
    (hdelivery : action.isDelivery = false) :
    Alike (fun _ _ ahead' behind' => Level position ahead' behind')
      ((Conversation.enter entry >>= fun _ => Conversation.perform call).exec ahead)
      ((Conversation.enter entry' >>= fun _ => Conversation.perform call').exec behind) := by
  have hnoted := h.enter entry entry' hwait
  rw [exec_bind_ok (exec_enter ..), exec_bind_ok (exec_enter ..), exec_perform, exec_perform, hcall,
    hcall']
  exact .done ⟨hnoted.leads.inWorlds (h.leads.world.send hwrite hdelivery), h.ahead,
    h.behind⟩

end Level

theorem send_alike {script : Memory.Script} {step : Step} {position : Nat}
    {ahead behind : State Memory.World} (h : Level position ahead behind) :
    Alike (fun _ _ ahead' behind' => Level position ahead' behind')
      ((script.conversation.send step).exec ahead)
      ((script.conversation.send step).exec behind) := by
  unfold send
  rw [exec_bind_ok (exec_enter ..), exec_bind_ok (exec_enter ..)]
  have hbegun := h.enter (.started step.index) (.started step.index) rfl
  generalize ahead.enter (.started step.index) = ahead, behind.enter (.started step.index) = behind
    at hbegun
  cases step.element with
  | request template =>
      refine (currentLabel_alike script hbegun.leads).bind ?_
      rintro label _ _ _ ⟨rfl, rfl, rfl⟩
      rw [exec_get_bind, exec_get_bind]
      refine (hbegun.use label).perform rfl (fun world => rfl) (fun world => ?_) rfl rfl
      rw [hbegun.leads.store]
      rfl
  | upload attachment =>
      refine (currentLabel_alike script hbegun.leads).bind ?_
      rintro label _ _ _ ⟨rfl, rfl, rfl⟩
      rw [exec_get_bind, exec_get_bind]
      exact (hbegun.use label).perform rfl (fun world => rfl) (fun world => rfl) rfl rfl
  | _ => exact .done hbegun

/-- A step that does not wait for the prompt keeps both states level. -/
theorem runStep_alike {script : Memory.Script} {step : Step} {position : Nat}
    {ahead behind : State Memory.World} (h : Level position ahead behind)
    (hprompt : step.element ≠ .prompt) :
    Alike (fun parked parked' ahead' behind' => parked = none ∧ parked' = none ∧
        Level position ahead' behind')
      ((script.conversation.runStep step).exec ahead)
      ((script.conversation.runStep step).exec behind) := by
  unfold runStep
  by_cases hclient : step.element.isClient
  · rw [if_pos hclient]
    refine (send_alike h).bind fun _ _ ahead' behind' hlevel => ?_
    exact .done ⟨rfl, rfl, hlevel⟩
  · rw [if_neg hclient, if_neg hprompt, exec_bind_ok (exec_enter ..), exec_bind_ok (exec_enter ..)]
    have hbegun := h.enter (.started step.index) (.started step.index) rfl
    have hidle : (ahead.enter (.started step.index)).phase ≠ .paused := by
      simp [hbegun.ahead.phase_eq]
    refine ((Together.congruence [] script).attend step _ _ hbegun.leads hidle).bind ?_
    rintro _ _ ahead' behind' ⟨-, hleads, hahead, hbehind⟩
    exact .done ⟨rfl, rfl, hleads, hbegun.ahead.of_cursor_eq hahead,
      hbegun.behind.of_cursor_eq hbehind⟩

/-- A step is run from a state, and then the steps behind it. -/
inductive Proceeds (conversation : Conversation Memory.World) (step : Step)
    (state : State Memory.World) : Except Fault Unit → State Memory.World → Prop where
  | broken {fault last} (hstep : Settles conversation step state (.error fault) last) :
      Proceeds conversation step state (.error fault) last
  | next {after outcome last} (hstep : Settles conversation step state (.ok ()) after)
      (hrest : Completes conversation after outcome last) :
      Proceeds conversation step state outcome last

theorem Proceeds.completes {conversation : Conversation Memory.World} {step : Step}
    {state last : State Memory.World} {outcome : Except Fault Unit}
    (hnext : conversation.steps[state.position]? = some step)
    (h : Proceeds conversation step { state with position := step.index + 1 } outcome last) :
    Completes conversation state outcome last := by
  cases h with
  | broken hstep => exact .broken hnext hstep
  | next hstep hrest => exact .next hnext hstep hrest

/-- What a step comes to in the state ahead, the step and those behind it come to in the state
behind: with the same fault, or in a state from which both go on level. -/
inductive Mirrors (conversation : Conversation Memory.World) (step : Step)
    (behind : State Memory.World) : Except Fault Unit → State Memory.World → Prop where
  | broken {fault extra ahead' behind'}
      (hproceeds : Proceeds conversation step behind (.error fault) behind')
      (hleads : Leads extra ahead' behind') :
      Mirrors conversation step behind (.error fault) ahead'
  | done {position ahead' behind'} (hlevel : Level position ahead' behind')
      (hrest : ∀ outcome last, Completes conversation behind' outcome last →
        Proceeds conversation step behind outcome last) :
      Mirrors conversation step behind (.ok ()) ahead'

/-- Going on from the state behind leads to a state level with the state ahead, right before the
parked step if there is one. -/
inductive Caught (conversation : Conversation Memory.World) (ahead behind : State Memory.World) :
    Option Step → Prop where
  | level {position behind'} (hlevel : Level position ahead behind')
      (hrest : ∀ outcome last, Completes conversation behind' outcome last →
        Completes conversation behind outcome last) :
      Caught conversation ahead behind none
  | parked {parked behind'} (hnext : conversation.steps[behind'.position]? = some parked)
      (hlevel : Level (parked.index + 1) ahead { behind' with position := parked.index + 1 })
      (hrest : ∀ outcome last, Completes conversation behind' outcome last →
        Completes conversation behind outcome last) :
      Caught conversation ahead behind (some parked)

theorem Owes.caught {script : Memory.Script} {clients tail : List Step} {position : Nat}
    (hdrop : script.conversation.steps.drop position = clients ++ tail)
    (hclients : ∀ step ∈ clients, step.element.isClient) {ahead behind : State Memory.World}
    (h : Owes clients (position + clients.length + tail.head?.toList.length) position ahead behind) :
    Caught script.conversation ahead behind tail.head? := by
  obtain ⟨label, hcurrent, hleads⟩ := h.leads
  obtain ⟨behind', hleads, hbehind, hrest⟩ :=
    completes_clients script behind position hclients hdrop hcurrent hleads h.behind
  cases tail with
  | nil => exact .level ⟨hleads, h.ahead, hbehind⟩ hrest
  | cons parked rest =>
      have hparked := getElem?_steps_of_split hdrop
      obtain ⟨hindex, -⟩ := index_of_getElem?_steps hparked
      refine .parked (by rwa [hbehind.position_eq]) ⟨{ hleads with }, ?_, ?_⟩ hrest
      · rw [hindex]
        exact h.ahead
      · exact ⟨rfl, hbehind.phase_eq, hbehind.parked_eq⟩

theorem runStep_caught (script : Memory.Script) {step : Step} {ahead behind : State Memory.World}
    (h : Level (step.index + 1) ahead behind) :
    Alike (fun parked parked' ahead' behind' => parked' = none ∧
        Caught script.conversation ahead' behind' parked)
      ((script.conversation.runStep step).exec ahead)
      ((script.conversation.runStep step).exec behind) := by
  by_cases hprompt : step.element = .prompt
  · have hclient : ¬ step.element.isClient := by simp [hprompt, Element.isClient]
    obtain ⟨clients, tail, hdrop, hclients, htail⟩ :=
      exists_clients (script.conversation.steps.drop (step.index + 1))
    unfold runStep
    rw [if_neg hclient, if_pos hprompt, exec_bind_ok (exec_enter ..), exec_bind_ok (exec_enter ..)]
    refine (awaitPrompt_alike hdrop hclients htail (h.enter _ _ rfl) step.index).mono ?_
    rintro parked _ ahead' behind' ⟨rfl, rfl, howes⟩
    exact ⟨rfl, howes.caught hdrop hclients⟩
  · refine (runStep_alike h hprompt).mono ?_
    rintro _ _ ahead' behind' ⟨rfl, rfl, hlevel⟩
    exact ⟨rfl, .level hlevel fun _ _ hlast => hlast⟩

theorem Settles.mirrors {script : Memory.Script} {step : Step}
    {ahead ahead' behind : State Memory.World} {outcome : Except Fault Unit}
    (hsettles : Settles script.conversation step ahead outcome ahead')
    (h : Level (step.index + 1) ahead behind) :
    Mirrors script.conversation step behind outcome ahead' := by
  induction hsettles generalizing behind with
  | @broken step ahead fault ahead' hstep =>
      have hrun := runStep_caught script h
      rw [hstep] at hrun
      generalize hbehind : (script.conversation.runStep step).exec behind = result at hrun
      cases hrun with
      | broken hleads => exact .broken (.broken (.broken hbehind)) hleads
  | @done step ahead ahead' hstep =>
      have hrun := runStep_caught script h
      rw [hstep] at hrun
      generalize hbehind : (script.conversation.runStep step).exec behind = result at hrun
      cases hrun with
      | done hdone =>
          obtain ⟨rfl, hcaught⟩ := hdone
          cases hcaught with
          | level hlevel hrest =>
              exact .done hlevel fun outcome last hlast =>
                .next (.done hbehind) (hrest outcome last hlast)
  | @parked step parked ahead ahead' outcome last hstep _ ih =>
      have hrun := runStep_caught script h
      rw [hstep] at hrun
      generalize hbehind : (script.conversation.runStep step).exec behind = result at hrun
      cases hrun with
      | done hdone =>
          obtain ⟨rfl, hcaught⟩ := hdone
          cases hcaught with
          | parked hnext hlevel hrest =>
              cases ih hlevel with
              | broken hproceeds hleads =>
                  exact .broken (.next (.done hbehind) (hrest _ _ (hproceeds.completes hnext))) hleads
              | done hlevel hrest' =>
                  exact .done hlevel fun outcome last hlast =>
                    .next (.done hbehind) (hrest _ _ ((hrest' outcome last hlast).completes hnext))

/-! ## Whole runs -/

/-- The state behind ends in the same way. If there is no fault, it has sent the same. -/
theorem Completes.transparent {script : Memory.Script} {ahead last : State Memory.World}
    {outcome : Except Fault Unit} (hcompletes : Completes script.conversation ahead outcome last)
    {position : Nat} {behind : State Memory.World} (h : Level position ahead behind) :
    ∃ last' extra, Completes script.conversation behind outcome last' ∧
      Leads extra last last' ∧ (outcome = .ok () → extra = []) := by
  have hpositions : ∀ {position ahead behind}, Level position ahead behind →
      ahead.position = behind.position :=
    fun h => h.ahead.position_eq.trans h.behind.position_eq.symm
  have hpass : ∀ {position ahead behind} (step : Step), Level position ahead behind →
      Level (step.index + 1) { ahead with position := step.index + 1 }
        { behind with position := step.index + 1 } :=
    fun step h => ⟨{ h.leads with }, ⟨rfl, h.ahead.phase_eq, h.ahead.parked_eq⟩,
      ⟨rfl, h.behind.phase_eq, h.behind.parked_eq⟩⟩
  induction hcompletes generalizing position behind with
  | finished hnext => exact ⟨behind, [], .finished (hpositions h ▸ hnext), h.leads, fun _ => rfl⟩
  | @broken ahead step fault last hnext hstep =>
      cases hstep.mirrors (hpass step h) with
      | broken hproceeds hleads =>
          exact ⟨_, _, hproceeds.completes (hpositions h ▸ hnext), hleads, by simp⟩
  | @next ahead step after outcome last hnext hstep _ ih =>
      cases hstep.mirrors (hpass step h) with
      | done hlevel hrest =>
          obtain ⟨last', extra, hcompletes, hleads, hextra⟩ := ih hlevel
          exact ⟨last', extra, (hrest _ _ hcompletes).completes (hpositions h ▸ hnext), hleads, hextra⟩

theorem execute_leads (script : Memory.Script) (state : State Memory.World) :
    ∃ outcome last last' extra,
      script.conversation.execute.exec (state.withPolicy .whenPaused) = (outcome, last) ∧
      script.conversation.execute.exec (state.withPolicy .never) = (outcome, last') ∧
      Leads extra last last' ∧ (outcome = .ok () → extra = []) := by
  have hopened : Level 0 (script.conversation.opened (state.withPolicy .whenPaused))
      (script.conversation.opened (state.withPolicy .never)) :=
    ⟨⟨rfl, rfl, rfl, rfl, (Memory.World.Leads.withPolicy state.world).logs _ _⟩, ⟨rfl, rfl, rfl⟩,
      ⟨rfl, rfl, rfl⟩⟩
  rcases heager : script.conversation.execute.exec (state.withPolicy .whenPaused) with
    ⟨outcome, last⟩
  cases (executes_iff ..).mpr heager with
  | broken hrun =>
      obtain ⟨last', extra, hcompletes, hleads, -⟩ := hrun.transparent hopened
      exact ⟨_, last, last', extra, rfl, (executes_iff ..).mp (.broken hcompletes), hleads, by simp⟩
  | @finished last hrun =>
      obtain ⟨last', extra, hcompletes, hleads, hextra⟩ := hrun.transparent hopened
      refine ⟨_, _, script.conversation.closed last', extra, rfl,
        (executes_iff ..).mp (.finished hcompletes), ?_, hextra⟩
      exact hleads.inWorlds (hleads.world.logs _ _)

/-- Sessions that resume before every read for which the prompt is expected send early, and change
nothing else. With a fault at the end they may have sent more. -/
theorem execute_transparent (script : Memory.Script) (state : State Memory.World) :
    let eager := script.conversation.execute.exec (state.withPolicy .whenPaused)
    let quiet := script.conversation.execute.exec (state.withPolicy .never)
    eager.1 = quiet.1 ∧ eager.2.failures = quiet.2.failures ∧ eager.2.store = quiet.2.store ∧
      eager.2.world.delivered = quiet.2.world.delivered ∧
      eager.2.world.queues = quiet.2.world.queues ∧ eager.2.waits = quiet.2.waits ∧
      eager.2.world.clock = quiet.2.world.clock ∧
      quiet.2.world.written <+: eager.2.world.written ∧
      (quiet.1 = .ok () → eager.2.world.written = quiet.2.world.written) := by
  obtain ⟨outcome, last, last', extra, heager, hquiet, hleads, hextra⟩ := execute_leads script state
  dsimp only
  rw [heager, hquiet]
  refine ⟨rfl, hleads.failures, hleads.store, hleads.world.delivered, hleads.world.queues,
    hleads.waits, hleads.world.clock, ?_, ?_⟩
  · exact ⟨extra, hleads.world.written.symm⟩
  · intro hok
    rw [hleads.world.written, hextra hok, List.append_nil]

end MailScript.Conversation
