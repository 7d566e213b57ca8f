import MailScript.Proofs.Conversation.Order

/-! # What sessions get to see

While a script runs, its sessions are called: a step sends when it is its turn, a line is read for a
step, and whoever is asked for the line may resume the conversation, so that steps behind are sent
before the line is delivered. Said here is in which states a session has control then. Every call
that a run notes in its journal is made in one of these states. -/

namespace MailScript

/-- The element that calls a session, with what can be seen of the state then. -/
def JournalEntry.call? : JournalEntry → Option (Nat × Sight)
  | .reading index _ sight => some (index, sight)
  | .writing index _ _ sight => some (index, sight)
  | .uploading index _ _ sight => some (index, sight)
  | _ => none

namespace Conversation

variable {World : Type} {α β : Type} {conversation : Conversation World}

/-! ## Calls that send -/

/-- The state in which a session is called by a step that sends, if the step is run from a state. -/
inductive Sends (conversation : Conversation World) (step : Step) (state : State World) :
    State World → Prop where
  | line {template label : String} {labelled : State World}
      (helement : step.element = .request template)
      (hlabel : conversation.currentLabel.exec (state.enter (.started step.index)) =
        (.ok label, labelled)) :
      Sends conversation step state (labelled.enter (.writing step.index label
        (Template.fill template labelled.store) labelled.sight))
  | attachment {attachment : Attachment} {label : String} {labelled : State World}
      (helement : step.element = .upload attachment)
      (hlabel : conversation.currentLabel.exec (state.enter (.started step.index)) =
        (.ok label, labelled)) :
      Sends conversation step state
        (labelled.enter (.uploading step.index label attachment labelled.sight))

/-- The states in which sessions are called while steps are run ahead, each with the step that
sends. -/
inductive SendsAhead (conversation : Conversation World) :
    List Step → State World → Step → State World → Prop where
  | now {step : Step} {rest : List Step} {state seen : State World}
      (hclient : step.element.isClient)
      (h : conversation.Sends step { state with position := step.index + 1 } seen) :
      SendsAhead conversation (step :: rest) state step seen
  | later {step other : Step} {rest : List Step} {state after seen : State World}
      (hclient : step.element.isClient)
      (hsent : (conversation.send step).exec { state with position := step.index + 1 } =
        (.ok (), after))
      (h : SendsAhead conversation rest after other seen) :
      SendsAhead conversation (step :: rest) state other seen

/-! ## Reads -/

/-- The states in which sessions have control during a read. The session that is asked for a line has
control at the beginning and behind every resumption. During a resumption sessions are called by the
steps that are sent ahead. -/
inductive Watches (conversation : Conversation World) :
    Reading World → State World → Option Step → State World → Prop where
  | asked {reading : Reading World} {state : State World} :
      Watches conversation reading state none state
  | ahead {world : World} {next : Except Fault Unit → View → World → Reading World}
      {state seen : State World} {step : Step} (hphase : state.phase = .paused)
      (h : conversation.SendsAhead (conversation.steps.drop state.position)
        { state with world := world, phase := .resuming } step seen) :
      Watches conversation (.resume world next) state (some step) seen
  | resumed {world : World} {next : Except Fault Unit → View → World → Reading World}
      {state after seen : State World} {outcome : Except Fault Unit} {sender : Option Step}
      (hresume : conversation.resume.exec { state with world := world } = (outcome, after))
      (h : Watches conversation (next outcome after.view after.world) after sender seen) :
      Watches conversation (.resume world next) state sender seen

/-- The states in which sessions have control while a line is read for the element at an index. -/
inductive Listens (conversation : Conversation World) (index : Nat) (state : State World) :
    Option Step → State World → Prop where
  | mk {label : String} {labelled seen : State World} {sender : Option Step}
      (hlabel : conversation.currentLabel.exec state = (.ok label, labelled))
      (h : conversation.Watches (conversation.sessions.readLine label labelled.view labelled.world)
        (labelled.enter (.reading index label labelled.sight)) sender seen) :
      Listens conversation index state sender seen

/-- The states between the reads of a block, with the number of lines still to be read and the
patterns that are left. -/
inductive Receives (conversation : Conversation World) (index : Nat) (location : String)
    (patterns : List String) (state : State World) : Nat → List String → State World → Prop where
  | first : Receives conversation index location patterns state patterns.length patterns state
  | taken {count : Nat} {remaining fewer : List String} {line : String} {asked after : State World}
      (h : Receives conversation index location patterns state (count + 1) remaining asked)
      (hread : (conversation.readLine index).exec asked = (.ok line, after))
      (htake : takeAccepting accepts line remaining = .ok (some fewer)) :
      Receives conversation index location patterns state count fewer after
  | missed {count : Nat} {remaining : List String} {line : String}
      {asked after reported : State World}
      (h : Receives conversation index location patterns state (count + 1) remaining asked)
      (hread : (conversation.readLine index).exec asked = (.ok line, after))
      (htake : takeAccepting accepts line remaining = .ok none)
      (hreport : (conversation.report (.unorderedMismatch location patterns line)).exec after =
        (.ok (), reported)) :
      Receives conversation index location patterns state count remaining reported

/-- The states in which a step that is run from a state begins to read a line. -/
inductive Asks (conversation : Conversation World) (step : Step) (state : State World) :
    State World → Prop where
  | prompt (helement : step.element = .prompt) :
      Asks conversation step state
        { state.enter (.started step.index) with phase := .paused, parked := none }
  | response {pattern : String} {origin : Origin} {captures : List String}
      (helement : step.element = .response pattern origin captures) :
      Asks conversation step state (state.enter (.started step.index))
  | skipped {description : String} {origin : Origin}
      (helement : step.element = .skipped description origin) :
      Asks conversation step state (state.enter (.started step.index))
  | unordered {patterns remaining : List String} {origin : Origin} {label : String} {count : Nat}
      {labelled asked : State World} (helement : step.element = .unordered patterns origin)
      (hlabel : conversation.currentLabel.exec (state.enter (.started step.index)) =
        (.ok label, labelled))
      (h : conversation.Receives step.index origin.location patterns labelled (count + 1) remaining
        asked) :
      Asks conversation step state asked

/-! ## Runs -/

/-- When a session has control. -/
inductive Occasion where
  /-- A step sends when it is its turn. -/
  | sending (step : Step)
  /-- A line is read for a step when it is its turn. -/
  | reading (step : Step)
  /-- Another step sends while a line is read for the one whose turn it is. -/
  | sendingAhead (reader step : Step)
deriving DecidableEq, Repr

namespace Occasion

/-- The step that calls the session. -/
def caller : Occasion → Step
  | sending step | reading step | sendingAhead _ step => step

/-- The step for which a line is being read. -/
def reader? : Occasion → Option Step
  | sending _ => none
  | reading step | sendingAhead step _ => some step

end Occasion

/-- The occasions on which sessions have control while a step is run from a state, each with the state
then. -/
inductive Occurs (conversation : Conversation World) (step : Step) (state : State World) :
    Occasion → State World → Prop where
  | sending {seen : State World} (h : conversation.Sends step state seen) :
      Occurs conversation step state (.sending step) seen
  | reading {asked seen : State World} (hasks : conversation.Asks step state asked)
      (h : conversation.Listens step.index asked none seen) :
      Occurs conversation step state (.reading step) seen
  | sendingAhead {asked seen : State World} {other : Step}
      (hasks : conversation.Asks step state asked)
      (h : conversation.Listens step.index asked (some other) seen) :
      Occurs conversation step state (.sendingAhead step other) seen

/-- An element calls a session in a state that is observed while a step is run. -/
def StepCalls (conversation : Conversation World) (step : Step) (state : State World) (index : Nat)
    (seen : State World) : Prop :=
  ∃ occasion, conversation.Occurs step state occasion seen ∧ occasion.caller.index = index

/-- The states that a run comes to, each with the step that is about to be run from it; there is none
between two steps of which the first has left nothing parked. -/
inductive Reaches (conversation : Conversation World) (start : State World) :
    Option Step → State World → Prop where
  | opened : Reaches conversation start none (conversation.opened start)
  | turn {state : State World} {step : Step} (h : Reaches conversation start none state)
      (hnext : conversation.steps[state.position]? = some step) :
      Reaches conversation start (some step) { state with position := step.index + 1 }
  | ran {state after : State World} {step : Step} {parked : Option Step}
      (h : Reaches conversation start (some step) state)
      (hstep : (conversation.runStep step).exec state = (.ok parked, after)) :
      Reaches conversation start parked after

/-- The occasions on which sessions have control during a run, each with the state then. -/
def Observes (conversation : Conversation World) (start : State World) (occasion : Occasion)
    (seen : State World) : Prop :=
  ∃ step state, conversation.Reaches start (some step) state ∧
    conversation.Occurs step state occasion seen

/-! ## Calls that are covered -/

/-- Every call that the journal has got since is made by an element in a state of which that is
said. -/
structure Covers (said : Nat → State World → Prop) (before after : State World) : Prop where
  journal : before.journal <+: after.journal
  calls : ∀ place entry index sight, before.journal.length ≤ place →
    after.journal[place]? = some entry → entry.call? = some (index, sight) →
    ∃ seen, said index seen ∧ seen.journal = after.journal.take (place + 1) ∧ seen.sight = sight

namespace Covers

variable {said : Nat → State World → Prop}

theorem mono {other : Nat → State World → Prop} {before after : State World}
    (h : Covers said before after) (hsaid : ∀ index seen, said index seen → other index seen) :
    Covers other before after := by
  refine ⟨h.journal, fun place entry index sight hplace hentry hcall => ?_⟩
  obtain ⟨seen, hseen, hjournal, hsight⟩ := h.calls place entry index sight hplace hentry hcall
  exact ⟨seen, hsaid index seen hseen, hjournal, hsight⟩

theorem of_eq {before after : State World} (h : after.journal = before.journal) :
    Covers said before after := by
  refine ⟨h ▸ List.prefix_rfl, fun place entry index sight hplace hentry => ?_⟩
  rw [List.getElem?_eq_none (h ▸ hplace)] at hentry
  cases hentry

/-- Only the journals matter. -/
theorem congr {before before' after after' : State World} (h : Covers said before after)
    (hbefore : before'.journal = before.journal) (hafter : after'.journal = after.journal) :
    Covers said before' after' :=
  ⟨hbefore ▸ hafter ▸ h.journal, hbefore ▸ hafter ▸ h.calls⟩

theorem trans (a b c : State World) (hab : Covers said a b) (hbc : Covers said b c) :
    Covers said a c := by
  refine ⟨hab.journal.trans hbc.journal, fun place entry index sight hplace hentry hcall => ?_⟩
  by_cases hlater : b.journal.length ≤ place
  · exact hbc.calls place entry index sight hlater hentry hcall
  · rw [Nat.not_le] at hlater
    obtain ⟨later, hjournal⟩ := hbc.journal
    rw [← hjournal, List.getElem?_append_left hlater] at hentry
    rw [← hjournal, List.take_append_of_le_length hlater]
    exact hab.calls place entry index sight hplace hentry hcall

/-- An entry is covered if it is none of a call, or one of a call in the state behind it. -/
theorem enter {state : State World} {entry : JournalEntry}
    (h : ∀ index sight, entry.call? = some (index, sight) →
      said index (state.enter entry) ∧ state.sight = sight) :
    Covers said state (state.enter entry) := by
  refine ⟨List.prefix_append _ _, fun place other index sight hplace hentry hcall => ?_⟩
  have hlt : place < state.journal.length + 1 := by
    have hlt := (List.getElem?_eq_some_iff.mp hentry).1
    rwa [State.enter, List.length_append, List.length_singleton] at hlt
  obtain rfl : place = state.journal.length := by omega
  obtain rfl : entry = other := by simpa [State.enter] using hentry
  obtain ⟨hsaid, hsight⟩ := h index sight hcall
  refine ⟨_, hsaid, (List.take_of_length_le ?_).symm, hsight⟩
  simp [State.enter]

theorem enter_quiet {entry : JournalEntry} (h : entry.call? = none) :
    (Conversation.enter entry : Act World Unit).Within (Covers said) := by
  refine fun state => enter fun index sight hcall => ?_
  rw [h] at hcall
  cases hcall

theorem bind {act : Act World α} {next : α → Act World β} {state : State World}
    (hact : Covers said state (act.exec state).2)
    (hnext : ∀ x after, act.exec state = (.ok x, after) →
      Covers said after ((next x).exec after).2) :
    Covers said state (Act.exec (act >>= next) state).2 := by
  rw [exec_bind]
  rcases hexec : act.exec state with ⟨fault | x, after⟩
  · rwa [hexec] at hact
  · rw [hexec] at hact
    exact trans _ _ _ hact (hnext x after hexec)

/-! ### Actions without calls -/

theorem pure (x : α) : (Pure.pure x : Act World α).Within (Covers said) :=
  fun _ => of_eq rfl

theorem throw (fault : Fault) : (MonadExcept.throw fault : Act World α).Within (Covers said) :=
  fun _ => of_eq rfl

theorem log (event : Event) : (conversation.log event).Within (Covers said) :=
  fun _ => of_eq rfl

theorem perform (call : World → Outcome World) :
    (Conversation.perform call).Within (Covers said) := by
  intro state
  rw [exec_perform]
  exact of_eq rfl

theorem report (failure : Failure) : (conversation.report failure).Within (Covers said) := by
  intro state
  by_cases h : conversation.keepGoing
  · rw [exec_report_tolerant h]
    exact of_eq rfl
  · rw [exec_report_strict h]
    exact of_eq rfl

theorem currentLabel : conversation.currentLabel.Within (Covers said) := by
  intro state
  rw [exec_currentLabel]
  split <;> exact of_eq rfl

theorem switchTo (label : String) : (conversation.switchTo label).Within (Covers said) := by
  intro state
  rw [exec_switchTo]
  split <;> exact of_eq rfl

theorem checkResponse (index : Nat) (pattern : String) (origin : Origin) (captures : List String)
    (line : String) :
    (conversation.checkResponse index pattern origin captures line).Within (Covers said) := by
  have hassign (bindings : List Binding) :
      (bindings.forM conversation.assign).Within (Covers said) := by
    induction bindings with
    | nil => exact pure ()
    | cons binding rest ih =>
        have hfirst : (conversation.assign binding).Within (Covers said) := fun _ => of_eq rfl
        exact hfirst.bind trans fun _ => ih
  unfold Conversation.checkResponse
  cases matchLine pattern line captures with
  | error fault => exact throw fault
  | ok found =>
      refine (enter_quiet rfl).bind trans fun _ => (hassign _).bind trans fun _ => ?_
      split
      · exact pure ()
      · exact report _

theorem pause (index : Nat) (millis : Int) :
    (conversation.pause index millis).Within (Covers said) := by
  unfold Conversation.pause
  refine (log _).bind trans fun _ => ?_
  cases Binary64.seconds millis with
  | none => exact throw _
  | some seconds => exact (enter_quiet rfl).bind trans fun _ => perform _

/-! ### Calls -/

theorem send {step : Step} {state : State World}
    (h : ∀ seen, conversation.Sends step state seen → said step.index seen) :
    Covers said state ((conversation.send step).exec state).2 := by
  unfold Conversation.send
  refine bind (enter_quiet rfl state) fun _ begun hbegun => ?_
  cases hbegun
  cases helement : step.element with
  | request template =>
      refine bind (currentLabel _) fun label labelled hlabel => ?_
      rw [exec_get_bind]
      refine bind (enter fun index sight hcall => ?_) fun _ => fun _ _ => perform _ _
      cases hcall
      exact ⟨h _ (.line helement hlabel), rfl⟩
  | upload attachment =>
      refine bind (currentLabel _) fun label labelled hlabel => ?_
      rw [exec_get_bind]
      refine bind (enter fun index sight hcall => ?_) fun _ => fun _ _ => perform _ _
      cases hcall
      exact ⟨h _ (.attachment helement hlabel), rfl⟩
  | _ => exact pure () _

theorem runAhead {rest : List Step} {state : State World}
    (h : ∀ step seen, conversation.SendsAhead rest state step seen → said step.index seen) :
    Covers said state ((conversation.runAhead rest).exec state).2 := by
  induction rest generalizing state with
  | nil => exact of_eq rfl
  | cons step rest ih =>
      unfold Conversation.runAhead
      refine bind (of_eq rfl) fun _ passed hpassed => ?_
      cases hpassed
      by_cases hclient : step.element.isClient
      · rw [if_pos hclient]
        refine bind (send fun seen hsends => h step seen (.now hclient hsends))
          fun _ after hsent => ?_
        exact ih fun other seen hlater => h other seen (.later hclient hsent hlater)
      · rw [if_neg hclient]
        exact of_eq rfl

theorem resume {state : State World}
    (h : state.phase = .paused → ∀ step seen, conversation.SendsAhead
      (conversation.steps.drop state.position) { state with phase := .resuming } step seen →
        said step.index seen) :
    Covers said state (conversation.resume.exec state).2 := by
  by_cases hphase : state.phase = .paused
  · have hahead := runAhead (h hphase)
    rw [exec_resume_paused conversation hphase]
    dsimp only
    split
    · exact hahead.congr rfl rfl
    · exact hahead.congr rfl rfl
  · rw [exec_resume_unexpected conversation hphase]
    exact report _ state

theorem follow {reading : Reading World} {state : State World}
    (h : ∀ step seen, conversation.Watches reading state (some step) seen → said step.index seen) :
    Covers said state ((conversation.follow reading).exec state).2 := by
  induction reading generalizing state with
  | line text world => exact of_eq rfl
  | broken fault world => exact of_eq rfl
  | resume world next ih =>
      rw [exec_follow_resume]
      have hresumed : Covers said { state with world := world }
          (conversation.resume.exec { state with world := world }).2 :=
        resume fun hphase step seen hahead => h step seen (.ahead hphase hahead)
      exact trans _ _ _ (hresumed.congr rfl rfl)
        (ih _ _ _ fun step seen hlater => h step seen (.resumed rfl hlater))

theorem readLine {index : Nat} {state : State World}
    (h : ∀ sender seen, conversation.Listens index state sender seen →
      said ((sender.map Step.index).getD index) seen) :
    Covers said state ((conversation.readLine index).exec state).2 := by
  unfold Conversation.readLine
  refine bind (currentLabel state) fun label labelled hlabel => ?_
  rw [exec_get_bind]
  refine bind (enter fun index sight hcall => ?_) fun _ begun hbegun => ?_
  · cases hcall
    exact ⟨h none _ (.mk hlabel .asked), rfl⟩
  · cases hbegun
    refine bind (follow fun step seen hwatches => h (some step) seen (.mk hlabel hwatches))
      fun line after _ => ?_
    exact (enter_quiet rfl).bind trans (fun _ => pure line) after

/-! ### Steps -/

theorem receiveUnordered {index : Nat} {location : String} {patterns : List String}
    {first : State World} (h : ∀ count remaining asked,
      conversation.Receives index location patterns first (count + 1) remaining asked →
        Covers said asked ((conversation.readLine index).exec asked).2)
    {count : Nat} {remaining : List String} {state : State World}
    (hreceives : conversation.Receives index location patterns first count remaining state) :
    Covers said state (Act.exec (MailScript.receiveUnordered accepts (conversation.readLine index)
      conversation.report location patterns count remaining) state).2 := by
  induction count generalizing remaining state with
  | zero => exact of_eq rfl
  | succ count ih =>
      unfold MailScript.receiveUnordered
      refine bind (h count remaining state hreceives) fun line after hread => ?_
      have hrest {left : List String} {next : State World}
          (hnext : conversation.Receives index location patterns first count left next) :
          Covers said next (Act.exec (do
            let lines ← MailScript.receiveUnordered accepts (conversation.readLine index)
              conversation.report location patterns count left
            Pure.pure (line :: lines)) next).2 :=
        bind (ih hnext) fun lines later _ => pure (line :: lines) later
      cases htake : takeAccepting accepts line remaining with
      | error fault => exact of_eq rfl
      | ok found =>
          cases found with
          | some fewer => exact hrest (.taken hreceives hread htake)
          | none =>
              exact bind (report _ after) fun _ reported hreport =>
                hrest (.missed hreceives hread htake hreport)

theorem exec_of_discard {act : Act World α} {state after : State World} {done : Unit}
    (h : Act.exec (discard act) state = (.ok done, after)) :
    ∃ x, act.exec state = (.ok x, after) := by
  change Act.exec (act >>= fun _ => Pure.pure ()) state = _ at h
  rw [exec_bind] at h
  split at h
  · rename_i x _ hexec
    cases h
    exact ⟨x, hexec⟩
  · cases h

section Step

variable {step : Step} {state : State World}

theorem of_asks {asked : State World} (hasks : conversation.Asks step state asked) :
    Covers (conversation.StepCalls step state) asked
      ((conversation.readLine step.index).exec asked).2 := by
  refine readLine fun sender seen hlistens => ?_
  cases sender with
  | none => exact ⟨_, .reading hasks hlistens, rfl⟩
  | some other => exact ⟨_, .sendingAhead hasks hlistens, rfl⟩

theorem awaitPrompt (hprompt : step.element = .prompt) :
    Covers (conversation.StepCalls step state) (state.enter (.started step.index))
      ((conversation.awaitPrompt step.index).exec (state.enter (.started step.index))).2 := by
  have htake : (takeParked : Act World (Option Step)).Within
      (Covers (conversation.StepCalls step state)) := fun _ => of_eq rfl
  unfold Conversation.awaitPrompt
  refine bind (of_eq rfl) fun _ expecting hexpecting => ?_
  cases hexpecting
  refine bind (of_asks (.prompt hprompt)) fun line after _ => ?_
  split
  · exact (report _).bind trans (fun _ => htake) after
  · exact htake after

theorem attend : Covers (conversation.StepCalls step state) (state.enter (.started step.index))
    ((conversation.attend step).exec (state.enter (.started step.index))).2 := by
  unfold Conversation.attend
  cases helement : step.element with
  | response pattern origin captures =>
      exact bind (of_asks (.response helement)) fun line after _ => checkResponse _ _ _ _ line after
  | unordered patterns origin =>
      have hlabel : (discard conversation.currentLabel : Act World Unit).Within
          (Covers (conversation.StepCalls step state)) :=
        currentLabel.bind trans fun _ => pure ()
      refine bind (hlabel _) fun _ labelled hlabelled => ?_
      obtain ⟨label, hlabelled⟩ := exec_of_discard hlabelled
      refine bind (receiveUnordered (fun count remaining asked hreceives =>
        of_asks (.unordered helement hlabelled hreceives)) .first) fun lines after _ => ?_
      exact log _ after
  | skipped description origin =>
      exact bind (of_asks (.skipped helement)) fun line after _ => log _ after
  | pause millis => exact pause _ _ _
  | switch label => exact switchTo _ _
  | prompt => exact pure () _
  | request template => exact pure () _
  | upload attachment => exact pure () _

/-- The calls made while a step is run are covered by the occasions on which sessions have control
then. -/
theorem runStep (step : Step) (state : State World) :
    Covers (conversation.StepCalls step state) state ((conversation.runStep step).exec state).2 := by
  unfold Conversation.runStep
  by_cases hclient : step.element.isClient
  · rw [if_pos hclient]
    exact bind (send fun seen hsends => ⟨_, .sending hsends, rfl⟩) fun _ after _ => pure _ after
  · rw [if_neg hclient]
    refine bind (enter_quiet rfl state) fun _ begun hbegun => ?_
    cases hbegun
    by_cases hprompt : step.element = .prompt
    · rw [if_pos hprompt]
      exact awaitPrompt hprompt
    · rw [if_neg hprompt]
      exact bind attend fun _ after _ => pure none after

end Step

end Covers

/-! ## Whole runs -/

/-- An element calls a session in a state that is observed in a run. -/
def RunCalls (conversation : Conversation World) (start : State World) (index : Nat)
    (seen : State World) : Prop :=
  ∃ occasion, conversation.Observes start occasion seen ∧ occasion.caller.index = index

theorem Reaches.covers {start state after : State World} {step : Step}
    {outcome : Except Fault (Option Step)} (h : conversation.Reaches start (some step) state)
    (hstep : (conversation.runStep step).exec state = (outcome, after)) :
    Covers (conversation.RunCalls start) state after := by
  have hcovers : Covers (conversation.StepCalls step state) state
      ((conversation.runStep step).exec state).2 := Covers.runStep step state
  rw [hstep] at hcovers
  refine hcovers.mono fun index seen hseen => ?_
  obtain ⟨occasion, hoccurs, hcaller⟩ := hseen
  exact ⟨occasion, ⟨step, state, h, hoccurs⟩, hcaller⟩

theorem Settles.covers {start state last : State World} {step : Step}
    {outcome : Except Fault Unit} (h : Settles conversation step state outcome last)
    (hreaches : conversation.Reaches start (some step) state) :
    Covers (conversation.RunCalls start) state last ∧
      (outcome = .ok () → conversation.Reaches start none last) := by
  induction h with
  | broken hstep => exact ⟨hreaches.covers hstep, nofun⟩
  | done hstep => exact ⟨hreaches.covers hstep, fun _ => hreaches.ran hstep⟩
  | parked hstep _ ih =>
      obtain ⟨hrest, hend⟩ := ih (hreaches.ran hstep)
      exact ⟨Covers.trans _ _ _ (hreaches.covers hstep) hrest, hend⟩

theorem Completes.covers {start state last : State World} {outcome : Except Fault Unit}
    (h : Completes conversation state outcome last)
    (hreaches : conversation.Reaches start none state) :
    Covers (conversation.RunCalls start) state last := by
  induction h with
  | finished hnext => exact .of_eq rfl
  | broken hnext hstep =>
      exact (hstep.covers (hreaches.turn hnext)).1.congr rfl rfl
  | next hnext hstep _ ih =>
      obtain ⟨hsettled, hend⟩ := hstep.covers (hreaches.turn hnext)
      exact Covers.trans _ _ _ (hsettled.congr rfl rfl) (ih (hend rfl))

/-- Every call of a run is made in a state that is observed in the run. -/
theorem execute_covers (conversation : Conversation World) (start : State World) :
    Covers (conversation.RunCalls start) start (conversation.execute.exec start).2 := by
  rcases hexec : conversation.execute.exec start with ⟨outcome, last⟩
  cases (executes_iff ..).mpr hexec with
  | broken hrun => exact (hrun.covers .opened).congr rfl rfl
  | finished hrun => exact (hrun.covers .opened).congr rfl rfl

end Conversation

end MailScript
