import MailScript.Proofs.Conversation.Observation

/-! # The phases of a run

A conversation expects the prompt only while a line is read for an element that waits for it, and an
element is parked only once the conversation has been resumed then. What sessions get to see of a run
keeps to that, however often and whenever they resume. -/

namespace MailScript.Conversation

variable {World : Type} {conversation : Conversation World}

theorem sight_of_cursor_eq {state after : State World} (h : after.cursor = state.cursor) :
    after.sight = state.sight := by
  have hposition : after.position = state.position := congrArg Cursor.position h
  have hphase : after.phase = state.phase := congrArg Cursor.phase h
  have hparked : after.parked = state.parked := congrArg Cursor.parked h
  rw [State.sight, State.sight, hposition, hphase, hparked]

/-! ## Where steps are run -/

/-- Between two steps a run is at rest, and a step that is run is due. -/
theorem Reaches.due {start state : State World} {next : Option Step}
    (h : conversation.Reaches start next state) :
    match next with
    | none => ∃ count, state.cursor = Cursor.resting (started start.journal) count
    | some step => Due conversation (started start.journal) step state.cursor := by
  induction h with
  | opened => exact ⟨0, cursor_opened conversation start⟩
  | turn _ hnext ih =>
      obtain ⟨count, hcursor⟩ := ih
      exact .of_resting hcursor hnext
  | @ran state after step parked _ hstep ih =>
      have hend := hstep ▸ runStep_end ih
      generalize hcursor : after.cursor = cursor at hend
      cases hend with
      | @done count _ _ => exact ⟨count, rfl⟩
      | parked _ hdue => exact hdue

theorem Due.sight_eq {before : List Nat} {step : Step} {state : State World}
    (h : Due conversation before step state.cursor) :
    state.sight = ⟨step.index + 1, .idle, none⟩ := by
  have hposition : state.position = step.index + 1 := congrArg Cursor.position h.cursor_eq
  have hphase : state.phase = .idle := congrArg Cursor.phase h.cursor_eq
  have hparked : state.parked = none := congrArg Cursor.parked h.cursor_eq
  rw [State.sight, hposition, hphase, hparked]
  rfl

/-! ## Sending -/

theorem sight_of_currentLabel {label : String} {state labelled : State World}
    (h : conversation.currentLabel.exec state = (.ok label, labelled)) :
    labelled.sight = state.sight :=
  sight_of_cursor_eq ((Beside.currentLabel conversation).of_exec h).cursor

/-- Where a step is run that sends, its session is called. -/
theorem Sends.sight_eq {step : Step} {state seen : State World}
    (h : conversation.Sends step state seen) :
    step.element.isClient ∧ seen.sight = state.sight := by
  cases h with
  | @line template label labelled helement hlabel =>
      have hsight : labelled.sight = (state.enter (.started step.index)).sight :=
        sight_of_currentLabel hlabel
      exact ⟨by rw [helement]; rfl, hsight⟩
  | @attachment attachment label labelled helement hlabel =>
      have hsight : labelled.sight = (state.enter (.started step.index)).sight :=
        sight_of_currentLabel hlabel
      exact ⟨by rw [helement]; rfl, hsight⟩

/-- Whatever becomes of it, sending does not move the place in the script. -/
theorem sight_of_send {step : Step} {state after : State World} {outcome : Except Fault Unit}
    (h : (conversation.send step).exec state = (outcome, after)) : after.sight = state.sight := by
  have hcursor := send_cursor conversation step state
  rw [h] at hcursor
  have hposition : after.position = state.position := congrArg Cursor.position hcursor
  have hphase : after.phase = state.phase := congrArg Cursor.phase hcursor
  have hparked : after.parked = state.parked := congrArg Cursor.parked hcursor
  rw [State.sight, State.sight, hposition, hphase, hparked]

/-- Each step that is sent ahead is the last one gone past then; the phase and what is parked are as
at first. -/
theorem SendsAhead.sight_eq {rest : List Step} {state seen : State World} {step : Step}
    (h : conversation.SendsAhead rest state step seen)
    (hrest : conversation.steps.drop state.position = rest) :
    seen.sight = { state.sight with position := step.index + 1 } := by
  induction h with
  | now _ hsends => exact hsends.sight_eq.2
  | @later step other rest state after seen hclient hsent _ ih =>
      have hsight := sight_of_send hsent
      have hposition : after.position = step.index + 1 := congrArg Sight.position hsight
      obtain ⟨hstep, hrest⟩ := getElem?_steps_of_drop hrest
      rw [← (index_of_getElem?_steps hstep).1, ← hposition] at hrest
      rw [ih hrest, hsight]
      rfl

/-! ## Resuming -/

/-- A step has been parked by a resumption: it is the last one gone past, and it does not send. -/
structure IsParked (conversation : Conversation World) (state : State World) (step : Step) : Prop where
  phase : state.phase = .resuming
  position : state.position = step.index + 1
  step_mem : conversation.steps[step.index]? = some step
  server : ¬ step.element.isClient

/-- Running ahead either parks the first step that does not send or, unless a call fails, comes to the
end of the script. -/
theorem runAhead_parks {rest : List Step} {state after : State World} {outcome : Except Fault Unit}
    (hexec : (conversation.runAhead rest).exec state = (outcome, after))
    (hrest : conversation.steps.drop state.position = rest)
    (hposition : state.position ≤ conversation.elements.length) (hphase : state.phase = .resuming)
    (hparked : state.parked = none) :
    after.phase = .resuming ∧ (∀ step, after.parked = some step → conversation.IsParked after step) ∧
      (outcome = .ok () → after.parked ≠ none ∨ after.position = conversation.elements.length) := by
  induction rest generalizing state with
  | nil =>
      cases hexec
      refine ⟨hphase, fun step hstep => ?_, fun _ => .inr ?_⟩
      · rw [hparked] at hstep
        cases hstep
      · have hend := (steps_eq_none_iff conversation after.position).mp
          (by rw [← List.head?_drop, hrest, List.head?_nil])
        exact Nat.le_antisymm hposition hend
  | cons step rest ih =>
      obtain ⟨hstep, hrest⟩ := getElem?_steps_of_drop hrest
      obtain ⟨hindex, hlt⟩ := index_of_getElem?_steps hstep
      unfold runAhead at hexec
      rw [exec_bind_ok (exec_pass ..)] at hexec
      by_cases hclient : step.element.isClient
      · rw [if_pos hclient] at hexec
        rcases hsent : (conversation.send step).exec { state with position := step.index + 1 } with
          ⟨result, sent⟩
        have hsight : sent.sight = ⟨step.index + 1, .resuming, none⟩ := by
          rw [sight_of_send hsent, State.sight, hphase, hparked]
          rfl
        have hsentPosition : sent.position = step.index + 1 := congrArg Sight.position hsight
        have hsentPhase : sent.phase = .resuming := congrArg Sight.phase hsight
        have hsentParked : sent.parked = none :=
          Option.map_eq_none_iff.mp (congrArg Sight.parked hsight)
        rw [hindex] at hsentPosition
        cases result with
        | error fault =>
            rw [exec_bind_error hsent] at hexec
            cases hexec
            refine ⟨hsentPhase, fun other hother => ?_, fun hdone => by cases hdone⟩
            rw [hsentParked] at hother
            cases hother
        | ok _ =>
            rw [exec_bind_ok hsent] at hexec
            exact ih hexec (hsentPosition ▸ hrest) (hsentPosition ▸ hlt) hsentPhase hsentParked
      · rw [if_neg hclient] at hexec
        cases hexec
        refine ⟨hphase, fun other hother => ?_, fun _ => .inl (Option.some_ne_none step)⟩
        cases hother
        exact ⟨hphase, rfl, hindex ▸ hstep, hclient⟩

/-- A step waits for the prompt. Either the prompt is expected, directly behind the step and with
nothing parked, or the conversation has been resumed. -/
inductive Awaits (conversation : Conversation World) (step : Step) (state : State World) : Prop where
  | expecting (hsight : state.sight = ⟨step.index + 1, .paused, none⟩)
  | resumed (hphase : state.phase = .resuming)
      (hparked : ∀ parked, state.parked = some parked → conversation.IsParked state parked)

namespace Awaits

variable {step : Step} {state after : State World} {outcome : Except Fault Unit}

theorem phase_ne_idle (h : conversation.Awaits step state) : state.phase ≠ .idle := by
  cases h with
  | expecting hsight =>
      rw [show state.phase = .paused from congrArg Sight.phase hsight]
      nofun
  | resumed hphase _ =>
      rw [hphase]
      nofun

theorem sight_eq_of_paused (h : conversation.Awaits step state) (hphase : state.phase = .paused) :
    state.sight = ⟨step.index + 1, .paused, none⟩ := by
  cases h with
  | expecting hsight => exact hsight
  | resumed hresuming _ =>
      rw [hphase] at hresuming
      cases hresuming

theorem isParked (h : conversation.Awaits step state) {parked : Step}
    (hparked : state.parked = some parked) : conversation.IsParked state parked := by
  cases h with
  | expecting hsight =>
      have hnone : state.parked.map Step.index = none := congrArg Sight.parked hsight
      rw [hparked] at hnone
      cases hnone
  | resumed _ hall => exact hall parked hparked

theorem of_cursor_eq (h : conversation.Awaits step state) (hcursor : after.cursor = state.cursor) :
    conversation.Awaits step after := by
  have hposition : after.position = state.position := congrArg Cursor.position hcursor
  have hphase : after.phase = state.phase := congrArg Cursor.phase hcursor
  have hparked : after.parked = state.parked := congrArg Cursor.parked hcursor
  cases h with
  | expecting hsight => exact .expecting ((sight_of_cursor_eq hcursor).trans hsight)
  | resumed hresuming hparks =>
      refine .resumed (hphase.trans hresuming) fun parked hmem => ?_
      obtain ⟨-, hbehind, hstep, hserver⟩ := hparks parked (hparked ▸ hmem)
      exact ⟨hphase.trans hresuming, hposition.trans hbehind, hstep, hserver⟩

/-- Whoever resumes leaves the step waiting. A resumption that is not refused and comes to its end has
parked a step, or the script is at its end. -/
theorem resume (hstep : conversation.steps[step.index]? = some step)
    (h : conversation.Awaits step state)
    (hresume : conversation.resume.exec state = (outcome, after)) :
    conversation.Awaits step after ∧ (state.phase = .paused → outcome = .ok () →
      after.phase = .resuming ∧
        (after.parked ≠ none ∨ after.position = conversation.elements.length)) := by
  by_cases hphase : state.phase = .paused
  · have hsight := h.sight_eq_of_paused hphase
    have hposition : state.position = step.index + 1 := congrArg Sight.position hsight
    have hparked : state.parked = none := Option.map_eq_none_iff.mp (congrArg Sight.parked hsight)
    have hle : state.position ≤ conversation.elements.length :=
      hposition ▸ (index_of_getElem?_steps hstep).2
    rcases hahead : (conversation.runAhead (conversation.steps.drop state.position)).exec
      { state with phase := .resuming } with ⟨result, ahead⟩
    obtain ⟨hresuming, hparks, hend⟩ := runAhead_parks hahead rfl hle rfl hparked
    have hawaits : conversation.Awaits step ahead := .resumed hresuming hparks
    rw [exec_resume_paused conversation hphase, hahead] at hresume
    cases result with
    | error fault =>
        cases hresume
        exact ⟨hawaits, fun _ => nofun⟩
    | ok _ =>
        cases hresume
        exact ⟨hawaits.of_cursor_eq rfl, fun _ _ => ⟨hresuming, hend rfl⟩⟩
  · rw [exec_resume_unexpected conversation hphase] at hresume
    have hcursor := ((Beside.report conversation _).of_exec hresume).cursor
    exact ⟨h.of_cursor_eq hcursor, fun hpaused => absurd hpaused hphase⟩

end Awaits

/-! ## Reading -/

/-- While a line is read for a step that waits for the prompt, the step stays waiting. The steps that
are sent ahead are so during a resumption, before one is parked. -/
theorem Watches.awaits {step : Step} {reading : Reading World} {state seen : State World}
    {sender : Option Step} (h : conversation.Watches reading state sender seen)
    (hstep : conversation.steps[step.index]? = some step)
    (hawaits : conversation.Awaits step state) :
    (sender = none → conversation.Awaits step seen) ∧
      ∀ other, sender = some other → seen.sight = ⟨other.index + 1, .resuming, none⟩ := by
  induction h with
  | asked => exact ⟨fun _ => hawaits, nofun⟩
  | @ahead world next state seen sender hphase hahead =>
      refine ⟨nofun, fun other hother => ?_⟩
      cases hother
      have hparked : state.parked.map Step.index = none :=
        congrArg Sight.parked (hawaits.sight_eq_of_paused hphase)
      refine (hahead.sight_eq rfl).trans ?_
      change (⟨_, .resuming, state.parked.map Step.index⟩ : Sight) = _
      rw [hparked]
  | @resumed world next state after seen outcome sender hresume _ ih =>
      have hcalled : conversation.Awaits step { state with world := world } :=
        hawaits.of_cursor_eq rfl
      exact ih (hcalled.resume hstep hresume).1

/-- While the prompt is not expected, nothing that a session does moves the place in the script. -/
theorem Watches.steady {reading : Reading World} {state seen : State World}
    {sender : Option Step} (h : conversation.Watches reading state sender seen)
    (hphase : state.phase ≠ .paused) : sender = none ∧ seen.sight = state.sight := by
  induction h with
  | asked => exact ⟨rfl, rfl⟩
  | ahead hpaused _ => exact absurd hpaused hphase
  | @resumed world next state after seen outcome sender hresume _ ih =>
      have hresumed := (Steady.resume conversation).of_exec hresume
      have hcursor : after.cursor = state.cursor := hresumed hphase
      have hsame : after.phase = state.phase := congrArg Cursor.phase hcursor
      obtain ⟨hnone, hseen⟩ := ih (hsame ▸ hphase)
      exact ⟨hnone, hseen.trans (sight_of_cursor_eq hcursor)⟩

theorem Listens.awaits {index : Nat} {step : Step} {state seen : State World}
    {sender : Option Step} (h : conversation.Listens index state sender seen)
    (hstep : conversation.steps[step.index]? = some step)
    (hsight : state.sight = ⟨step.index + 1, .paused, none⟩) :
    (sender = none → conversation.Awaits step seen) ∧
      ∀ other, sender = some other → seen.sight = ⟨other.index + 1, .resuming, none⟩ := by
  obtain ⟨hlabel, hwatches⟩ := h
  exact hwatches.awaits hstep (.expecting ((sight_of_currentLabel hlabel).trans hsight))

theorem Listens.steady {index position : Nat} {state seen : State World} {sender : Option Step}
    (h : conversation.Listens index state sender seen)
    (hsight : state.sight = ⟨position, .idle, none⟩) :
    sender = none ∧ seen.sight = ⟨position, .idle, none⟩ := by
  obtain ⟨hlabel, hwatches⟩ := h
  have hlabelled := (sight_of_currentLabel hlabel).trans hsight
  obtain ⟨hnone, hseen⟩ := hwatches.steady fun hpaused =>
    nomatch hpaused.symm.trans (congrArg Sight.phase hlabelled)
  exact ⟨hnone, hseen.trans hlabelled⟩

/-- Between the reads of a block the place in the script is the same. -/
theorem Receives.sight_eq {index : Nat} {location : String} {patterns : List String}
    {state asked : State World} {count : Nat} {remaining : List String}
    (h : conversation.Receives index location patterns state count remaining asked)
    (hphase : state.phase ≠ .paused) : asked.sight = state.sight := by
  have hread {asked after : State World} {line : String}
      (hread : (conversation.readLine index).exec asked = (.ok line, after))
      (hasked : asked.sight = state.sight) : after.sight = state.sight := by
    have hcursor := ((Steady.congruence conversation).readLine index).of_exec hread
    rw [← hasked]
    refine sight_of_cursor_eq (hcursor ?_)
    rwa [show asked.phase = state.phase from congrArg Sight.phase hasked]
  induction h with
  | first => rfl
  | taken _ hline _ ih => exact hread hline ih
  | missed _ hline _ hreport ih =>
      have hcursor := ((Beside.report conversation _).of_exec hreport).cursor
      exact (sight_of_cursor_eq hcursor).trans (hread hline ih)

/-- A step that waits for the prompt expects it from the beginning; for any other step a line is read
where the step is run. -/
theorem Asks.sight_eq {step : Step} {state asked : State World}
    (h : conversation.Asks step state asked) (hidle : state.phase = .idle) :
    asked.sight =
      if step.element = .prompt then ⟨state.position, .paused, none⟩ else state.sight := by
  cases h with
  | prompt helement => rw [if_pos helement]; rfl
  | response helement => rw [if_neg (by rw [helement]; nofun)]; rfl
  | skipped helement => rw [if_neg (by rw [helement]; nofun)]; rfl
  | @unordered patterns remaining origin label count labelled asked helement hlabel hreceives =>
      rw [if_neg (by rw [helement]; nofun)]
      have hsight : labelled.sight = (state.enter (.started step.index)).sight :=
        sight_of_currentLabel hlabel
      have hphase : labelled.phase = .idle := (congrArg Sight.phase hsight).trans hidle
      rw [hreceives.sight_eq (by rw [hphase]; nofun), hsight]
      rfl

/-! ## Whole runs -/

/-- The phases of a run, as a session gets to see them: the prompt is expected, or the conversation has
been resumed, exactly while a line is read for a step that waits for the prompt. -/
structure InPhase (conversation : Conversation World) (occasion : Occasion) (seen : State World) :
    Prop where
  phase_iff : seen.phase ≠ .idle ↔
    ∃ reader, occasion.reader? = some reader ∧ reader.element = .prompt
  paused : seen.phase = .paused → ∃ step, occasion = .reading step ∧ step.element = .prompt ∧
    conversation.steps[step.index]? = some step ∧ seen.position = step.index + 1 ∧
    seen.parked = none
  parked : ∀ step, seen.parked = some step → conversation.IsParked seen step
  resumed : seen.phase = .paused → ∀ world after,
    conversation.resume.exec { seen with world := world } = (.ok (), after) →
    after.phase = .resuming ∧
      (after.parked ≠ none ∨ after.position = conversation.elements.length)

namespace InPhase

variable {occasion : Occasion} {seen : State World}

/-- At rest nothing is parked. -/
theorem of_idle (h : ∃ position, seen.sight = ⟨position, .idle, none⟩)
    (hreader : ∀ reader, occasion.reader? = some reader → reader.element ≠ .prompt) :
    conversation.InPhase occasion seen := by
  obtain ⟨position, hsight⟩ := h
  have hidle : seen.phase = .idle := congrArg Sight.phase hsight
  have hparked : seen.parked = none := Option.map_eq_none_iff.mp (congrArg Sight.parked hsight)
  have hnot : seen.phase ≠ .paused := by rw [hidle]; nofun
  refine ⟨?_, fun hphase => absurd hphase hnot, fun step hstep => ?_, fun hphase => absurd hphase hnot⟩
  · refine iff_of_false (fun hbusy => hbusy hidle) ?_
    rintro ⟨reader, hsome, hprompt⟩
    exact hreader reader hsome hprompt
  · rw [hparked] at hstep
    cases hstep

theorem of_awaits {step : Step} (hprompt : step.element = .prompt)
    (hstep : conversation.steps[step.index]? = some step) (h : conversation.Awaits step seen) :
    conversation.InPhase (.reading step) seen where
  phase_iff := iff_of_true h.phase_ne_idle ⟨step, rfl, hprompt⟩
  paused hphase := by
    have hsight := h.sight_eq_of_paused hphase
    exact ⟨step, rfl, hprompt, hstep, congrArg Sight.position hsight,
      Option.map_eq_none_iff.mp (congrArg Sight.parked hsight)⟩
  parked _ hparked := h.isParked hparked
  resumed hphase world after hresume := by
    have hcalled : conversation.Awaits step { seen with world := world } := h.of_cursor_eq rfl
    exact (hcalled.resume hstep hresume).2 hphase rfl

theorem of_ahead {step other : Step} (hprompt : step.element = .prompt)
    (hsight : seen.sight = ⟨other.index + 1, .resuming, none⟩) :
    conversation.InPhase (.sendingAhead step other) seen := by
  have hphase : seen.phase = .resuming := congrArg Sight.phase hsight
  have hparked : seen.parked = none := Option.map_eq_none_iff.mp (congrArg Sight.parked hsight)
  have hnot : seen.phase ≠ .paused := by rw [hphase]; nofun
  refine ⟨iff_of_true (by rw [hphase]; nofun) ⟨step, rfl, hprompt⟩,
    fun hpaused => absurd hpaused hnot, fun parked hsome => ?_, fun hpaused => absurd hpaused hnot⟩
  rw [hparked] at hsome
  cases hsome

end InPhase

/-- While a step is run that is due, sessions see the phases of a run. -/
theorem Occurs.inPhase {before : List Nat} {step : Step} {state seen : State World}
    {occasion : Occasion} (h : conversation.Occurs step state occasion seen)
    (hdue : Due conversation before step state.cursor) : conversation.InPhase occasion seen := by
  have hsight := hdue.sight_eq
  have hidle : state.phase = .idle := congrArg Sight.phase hsight
  have hposition : state.position = step.index + 1 := congrArg Sight.position hsight
  have hexpecting {asked : State World} (hasks : conversation.Asks step state asked)
      (hprompt : step.element = .prompt) : asked.sight = ⟨step.index + 1, .paused, none⟩ := by
    rw [hasks.sight_eq hidle, if_pos hprompt, hposition]
  have hresting {asked : State World} (hasks : conversation.Asks step state asked)
      (hprompt : step.element ≠ .prompt) : asked.sight = ⟨step.index + 1, .idle, none⟩ := by
    rw [hasks.sight_eq hidle, if_neg hprompt, hsight]
  cases h with
  | sending hsends => exact .of_idle ⟨_, hsends.sight_eq.2.trans hsight⟩ nofun
  | reading hasks hlistens =>
      by_cases hprompt : step.element = .prompt
      · have hawaits := hlistens.awaits hdue.step_mem (hexpecting hasks hprompt)
        exact .of_awaits hprompt hdue.step_mem (hawaits.1 rfl)
      · have hasked := hresting hasks hprompt
        refine .of_idle ⟨_, (hlistens.steady hasked).2⟩ fun reader hreader => ?_
        cases hreader
        exact hprompt
  | @sendingAhead _ _ other hasks hlistens =>
      by_cases hprompt : step.element = .prompt
      · have hawaits := hlistens.awaits hdue.step_mem (hexpecting hasks hprompt)
        exact .of_ahead hprompt (hawaits.2 other rfl)
      · cases (hlistens.steady (hresting hasks hprompt)).1

/-- A resumption is refused: apart from the failure that is reported, all stays as it is. -/
structure Refuses (conversation : Conversation World) (state : State World)
    (result : Except Fault Unit × State World) : Prop where
  same : result.2 =
    { state with failures := result.2.failures, world := result.2.world }
  tolerated : conversation.keepGoing → result.1 = .ok () ∧
    result.2.failures = state.failures ++ [.continuationUnexpected state.phase.name]
  raised : ¬ conversation.keepGoing →
    result = (.error (.failure (.continuationUnexpected state.phase.name)), state)

theorem resume_refuses (conversation : Conversation World) {state : State World}
    (hphase : state.phase ≠ .paused) : conversation.Refuses state (conversation.resume.exec state) := by
  rw [exec_resume_unexpected conversation hphase]
  by_cases hkeep : conversation.keepGoing
  · rw [exec_report_tolerant hkeep]
    exact ⟨rfl, fun _ => ⟨rfl, rfl⟩, fun hstrict => absurd hkeep hstrict⟩
  · rw [exec_report_strict hkeep]
    exact ⟨rfl, fun hkeep' => absurd hkeep' hkeep, fun _ => rfl⟩

/-- Sessions see the phases of a run in every state in which they have control, whatever they do when
lines are read from them, and they have control whenever the run calls them. Resuming is refused
unless the prompt is expected. -/
theorem execute_observed (conversation : Conversation World) (start : State World) :
    (∀ occasion seen, conversation.Observes start occasion seen →
      conversation.InPhase occasion seen) ∧
    (∀ place entry index sight, start.journal.length ≤ place →
      (conversation.execute.exec start).2.journal[place]? = some entry →
      entry.call? = some (index, sight) →
      ∃ occasion seen, conversation.Observes start occasion seen ∧ occasion.caller.index = index ∧
        seen.journal = (conversation.execute.exec start).2.journal.take (place + 1) ∧
        seen.sight = sight) ∧
    ∀ state, state.phase ≠ .paused →
      conversation.Refuses state (conversation.resume.exec state) := by
  refine ⟨?_, ?_, fun state => conversation.resume_refuses⟩
  · rintro occasion seen ⟨step, state, hreaches, hoccurs⟩
    exact hoccurs.inPhase hreaches.due
  · intro place entry index sight hplace hentry hcall
    obtain ⟨seen, ⟨occasion, hobserves, hcaller⟩, hjournal, hsight⟩ :=
      (execute_covers conversation start).calls place entry index sight hplace hentry hcall
    exact ⟨occasion, seen, hobserves, hcaller, hjournal, hsight⟩

end MailScript.Conversation
