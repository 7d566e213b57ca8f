import MailScript.Proofs.Conversation.Routing
import MailScript.Proofs.Memory

/-! # When a run is over

While an element waits for the prompt, the conversation may be resumed. Once a line has been received
for the element, that is over, unless the line is wrong and ends the run. So behind a run the
conversation can no longer be resumed, provided that every element that waited has been answered. -/

namespace MailScript.Conversation

variable {World : Type} {conversation : Conversation World}

/-! ## Answers -/

/-- The element at an index has received the prompt, or another line in a run that goes on behind
failures. -/
def Answered (conversation : Conversation World) (journal : List JournalEntry) (index : Nat) :
    Prop :=
  ∃ label line, JournalEntry.received index label line ∈ journal ∧
    (line = promptLine ∨ conversation.keepGoing)

/-- All elements that have begun to wait for the prompt have been answered. -/
def AllAnswered (conversation : Conversation World) (journal : List JournalEntry) : Prop :=
  ∀ index ∈ started journal, conversation.elements[index]? = some .prompt →
    conversation.Answered journal index

theorem mem_readers_of_received {index : Nat} {label line : String} {entries : List JournalEntry}
    (h : JournalEntry.received index label line ∈ entries) :
    index ∈ entries.filterMap JournalEntry.reader? :=
  List.mem_filterMap.mpr ⟨_, h, rfl⟩

theorem not_answered_of_reader_not_mem {index : Nat} {entries : List JournalEntry}
    (h : index ∉ entries.filterMap JournalEntry.reader?) :
    ¬ conversation.Answered entries index := by
  rintro ⟨label, line, hreceived, -⟩
  exact h (mem_readers_of_received hreceived)

theorem answered_append_iff {index : Nat} {earlier entries : List JournalEntry} :
    conversation.Answered (earlier ++ entries) index ↔
      conversation.Answered earlier index ∨ conversation.Answered entries index := by
  simp only [Answered, List.mem_append, or_and_right, exists_or]

/-- A first line answers if it is the prompt, or whatever it is in a run that goes on behind
failures. -/
theorem answered_received_iff {index : Nat} {label line : String} {earlier : List JournalEntry}
    (hunread : ¬ conversation.Answered earlier index) :
    conversation.Answered (earlier ++ [.received index label line]) index ↔
      line = promptLine ∨ conversation.keepGoing := by
  rw [answered_append_iff, or_iff_right hunread]
  constructor
  · rintro ⟨label', line', hreceived, hanswer⟩
    cases List.mem_singleton.mp hreceived
    exact hanswer
  · exact fun hanswer => ⟨label, line, List.mem_singleton_self _, hanswer⟩

/-- Behind answers to all earlier elements an element is started, which may wait for the prompt. -/
theorem allAnswered_append_iff {index : Nat} {earlier entries : List JournalEntry}
    (hearlier : conversation.AllAnswered earlier)
    (hunread : index ∉ earlier.filterMap JournalEntry.reader?) (hstarted : index ∈ started entries)
    (hothers : ∀ other ∈ started entries, conversation.elements[other]? = some .prompt →
      other = index) :
    conversation.AllAnswered (earlier ++ entries) ↔
      (conversation.elements[index]? = some .prompt → conversation.Answered entries index) := by
  constructor
  · intro hall hprompt
    have hmem : index ∈ started (earlier ++ entries) := by
      rw [started_append]
      exact List.mem_append_right _ hstarted
    exact (answered_append_iff.mp (hall index hmem hprompt)).resolve_left
      (not_answered_of_reader_not_mem hunread)
  · intro hanswered other hmem hprompt
    rw [started_append] at hmem
    apply answered_append_iff.mpr
    rcases List.mem_append.mp hmem with hfront | hback
    · exact .inl (hearlier other hfront hprompt)
    · obtain rfl := hothers other hback hprompt
      exact .inr (hanswered hprompt)

/-! ## While an element waits -/

/-- While an element waits, the conversation does not come to rest by itself, and no other element is
started that waits for the prompt. -/
structure Waits (conversation : Conversation World) (before after : State World) : Prop where
  restless : before.phase ≠ .idle → after.phase ≠ .idle
  started : ∃ sent, after.cursor.started = before.cursor.started ++ sent ∧
    ∀ index ∈ sent, conversation.elements[index]? ≠ some .prompt

namespace Waits

theorem of_steps {before after : State World} (hphase : after.phase = before.phase)
    (hstarted : after.cursor.started = before.cursor.started) : conversation.Waits before after :=
  ⟨fun h => hphase ▸ h, [], by rw [hstarted, List.append_nil], nofun⟩

theorem trans (a b c : State World) (hab : conversation.Waits a b) (hbc : conversation.Waits b c) :
    conversation.Waits a c := by
  obtain ⟨first, hfirst, hothers⟩ := hab.started
  obtain ⟨second, hsecond, hothers'⟩ := hbc.started
  refine ⟨hbc.restless ∘ hab.restless, first ++ second, ?_, ?_⟩
  · rw [hsecond, hfirst, List.append_assoc]
  · exact List.forall_mem_append.mpr ⟨hothers, hothers'⟩

theorem of_beside (before after : State World) (h : Beside before after) :
    conversation.Waits before after :=
  of_steps (congrArg Cursor.phase h.cursor) (congrArg Cursor.started h.cursor)

theorem send {step : Step} (hstep : step ∈ conversation.steps) (hclient : step.element.isClient) :
    (conversation.send step).Within conversation.Waits := by
  intro state
  have hcursor := send_cursor conversation step state
  refine ⟨fun h => ?_, [step.index], congrArg Cursor.started hcursor, ?_⟩
  · rwa [show ((conversation.send step).exec state).2.phase = state.phase from
      congrArg Cursor.phase hcursor]
  · obtain ⟨place, hplace⟩ := List.getElem?_of_mem hstep
    obtain ⟨rfl, -⟩ := index_of_getElem?_steps hplace
    rw [getElem?_steps, Option.map_eq_some_iff] at hplace
    obtain ⟨element, helement, hsame⟩ := hplace
    simp only [List.mem_singleton, forall_eq, helement, ne_eq, Option.some.injEq]
    rintro rfl
    rw [← hsame] at hclient
    cases hclient

theorem runAhead (rest : List Step) (h : ∀ step ∈ rest, step ∈ conversation.steps) :
    (conversation.runAhead rest).Within conversation.Waits := by
  induction rest with
  | nil => exact fun _ => of_steps rfl rfl
  | cons step rest ih =>
      rw [List.forall_mem_cons] at h
      have hpass : (pass step : Act World Unit).Within conversation.Waits :=
        fun _ => of_steps rfl rfl
      refine hpass.bind trans fun _ => ?_
      by_cases hclient : step.element.isClient
      · rw [if_pos hclient]
        exact (send h.1 hclient).bind trans fun _ => ih h.2
      · rw [if_neg hclient]
        exact fun _ => of_steps rfl rfl

theorem resume (conversation : Conversation World) :
    conversation.resume.Within conversation.Waits := by
  intro state
  by_cases hphase : state.phase = .paused
  · have hahead := runAhead (conversation.steps.drop state.position)
      (fun _ hstep => List.mem_of_mem_drop hstep) { state with phase := .resuming }
    have hresumed : conversation.Waits state ((conversation.runAhead
        (conversation.steps.drop state.position)).exec { state with phase := .resuming }).2 :=
      ⟨fun _ => hahead.restless nofun, hahead.started⟩
    rw [exec_resume_paused conversation hphase]
    dsimp only
    split
    · exact trans _ _ _ hresumed (of_steps rfl rfl)
    · exact hresumed
  · rw [exec_resume_unexpected conversation hphase]
    exact of_beside _ _ (Beside.report conversation _ state)

theorem readLine (index : Nat) : (conversation.readLine index).Within conversation.Waits :=
  readLine_within trans of_beside (resume conversation) index

end Waits

/-- A read receives its line at its end, and receives nothing else. -/
theorem readLine_received {index : Nat} {state : State World} (haligned : conversation.Aligned state)
    (hroute : conversation.labelInUse? state = conversation.route? index) :
    ∃ entries, entries.filterMap JournalEntry.reader? = [] ∧
      ((∃ fault, ((conversation.readLine index).exec state).1 = .error fault ∧
          ((conversation.readLine index).exec state).2.journal = state.journal ++ entries) ∨
        ∃ label line, ((conversation.readLine index).exec state).1 = .ok line ∧
          ((conversation.readLine index).exec state).2.journal =
            state.journal ++ entries ++ [.received index label line]) := by
  unfold readLine
  cases hlabel : conversation.labelInUse? state with
  | none =>
      obtain ⟨hcurrent, hlabels⟩ := Option.or_eq_none_iff.mp hlabel
      have hexec : conversation.currentLabel.exec state =
          (.error (.failure (.unknownLabel "<none>" [])), state) := by
        rw [exec_currentLabel, hcurrent, List.head?_eq_none_iff.mp hlabels]
      rw [exec_bind_error hexec]
      exact ⟨[], rfl, .inl ⟨_, rfl, (List.append_nil _).symm⟩⟩
  | some label =>
      have hmoves : conversation.Moves state { state with current := some label } [] :=
        .of_sight_eq rfl hlabel.symm (.of_eq rfl)
      have hroutes : conversation.Routes
          (.reading index label ({ state with current := some label } : State World).sight) :=
        Reads.routes_of_use rfl (hroute.symm.trans hlabel)
      have hreading := hmoves.trans (Reads.enter_moves hroutes _)
      rw [exec_bind_ok (exec_currentLabel_inUse hlabel), exec_get_bind, exec_bind_ok (exec_enter ..)]
      generalize ({ state with current := some label } : State World).enter _ = begun at hreading ⊢
      generalize conversation.sessions.readLine label _ _ = reading
      have hfollow := hreading.trans
        (follow_moves reading begun (hreading.aligned haligned))
      obtain ⟨entries, hjournal, -, hreaders⟩ := hfollow.adds
      refine ⟨entries, hreaders, ?_⟩
      rcases hexec : (conversation.follow reading).exec begun with ⟨fault | line, after⟩
      · rw [hexec] at hjournal
        rw [exec_bind_error hexec]
        exact .inl ⟨fault, rfl, hjournal⟩
      · rw [hexec] at hjournal
        rw [exec_bind_ok hexec, exec_bind_ok (exec_enter ..), exec_pure]
        exact .inr ⟨label, line, rfl, by rw [State.enter, hjournal]⟩

/-! ## One step -/

/-- A line that answers sets the conversation at rest. What was parked comes next. -/
theorem exec_awaitPrompt_answered {index : Nat} {state after : State World} {line : String}
    (hread : (conversation.readLine index).exec { state with phase := .paused, parked := none } =
      (.ok line, after)) (hanswer : line = promptLine ∨ conversation.keepGoing) :
    ∃ failures world, (conversation.awaitPrompt index).exec state = (.ok after.parked,
      { after with phase := .idle, parked := none, failures := failures, world := world }) := by
  unfold awaitPrompt
  rw [exec_bind_ok (exec_expectPrompt _), exec_bind_ok hread]
  by_cases hline : line = promptLine
  · rw [if_neg (not_not.mpr hline)]
    exact ⟨_, _, rfl⟩
  · rw [if_pos hline, exec_bind_ok (exec_report_tolerant (hanswer.resolve_left hline) _ _)]
    exact ⟨_, _, rfl⟩

/-- A line that does not answer ends the run as it is. -/
theorem exec_awaitPrompt_unanswered {index : Nat} {state after : State World} {line : String}
    (hread : (conversation.readLine index).exec { state with phase := .paused, parked := none } =
      (.ok line, after)) (hanswer : ¬ (line = promptLine ∨ conversation.keepGoing)) :
    (conversation.awaitPrompt index).exec state =
      (.error (.failure (.continuationMissing line)), after) := by
  rw [not_or] at hanswer
  unfold awaitPrompt
  rw [exec_bind_ok (exec_expectPrompt _), exec_bind_ok hread, if_pos hanswer.1]
  exact exec_bind_error (exec_report_strict hanswer.2 _ _)

/-- What a step has come to as far as the prompt is concerned: it was started, and behind it the
conversation is at rest exactly if the step did not wait for the prompt or has been answered. -/
structure StepAnswers (conversation : Conversation World) (step : Step) (state after : State World)
    (entries : List JournalEntry) : Prop where
  journal : after.journal = state.journal ++ entries
  started : step.index ∈ Conversation.started entries
  others : ∀ index ∈ Conversation.started entries, conversation.elements[index]? = some .prompt →
    index = step.index
  resting : (step.element = .prompt → conversation.Answered entries step.index) →
    after.phase = .idle ∧ after.parked = none
  answered : after.phase = .idle → step.element = .prompt →
    conversation.Answered entries step.index

/-- The elements started by a step are the element of the step and those that were sent meanwhile. -/
theorem started_of_step (conversation : Conversation World) {index : Nat}
    {state after : State World} {entries : List JournalEntry}
    (hjournal : after.journal = state.journal ++ entries) {sent : List Nat}
    (hstarted : after.cursor.started = state.cursor.started ++ index :: sent)
    (hsent : ∀ other ∈ sent, conversation.elements[other]? ≠ some .prompt) :
    index ∈ started entries ∧
      ∀ other ∈ started entries, conversation.elements[other]? = some .prompt → other = index := by
  have hentries : started entries = index :: sent := by
    have happend : started after.journal = started state.journal ++ started entries := by
      rw [hjournal, started_append]
    exact List.append_cancel_left (happend.symm.trans hstarted)
  rw [hentries]
  refine ⟨List.mem_cons_self, fun other hother hprompt => ?_⟩
  exact (List.mem_cons.mp hother).resolve_right fun hmem => hsent other hmem hprompt

/-- Waiting for the prompt ends at rest if it ends with an answer, and with a fault otherwise. -/
theorem StepAnswers.of_prompt {step : Step} {state : State World}
    (h : conversation.Begins step state) (hprompt : step.element = .prompt) :
    ∃ entries, StepAnswers conversation step state
      ((conversation.awaitPrompt step.index).exec (state.enter (.started step.index))).2 entries := by
  have hbegun := h.enter (.started step.index)
  have haligned := hbegun.expecting.aligned (hbegun.aligned (by rw [hprompt]; rfl))
  obtain ⟨entries, hreaders, hread⟩ := readLine_received haligned hbegun.inUse
  have hwaits : conversation.Waits _ _ := Waits.readLine step.index
    { state.enter (.started step.index) with phase := .paused, parked := none }
  rcases hresult : (conversation.readLine step.index).exec
    { state.enter (.started step.index) with phase := .paused, parked := none } with
    ⟨outcome, after⟩
  simp only [hresult] at hread hwaits
  have hrestless : after.phase ≠ .idle := hwaits.restless nofun
  obtain ⟨sent, hsent, hothers⟩ := hwaits.started
  have hstarted : after.cursor.started = state.cursor.started ++ step.index :: sent := by
    rw [hsent]
    change (state.enter (.started step.index)).cursor.started ++ sent = _
    rw [cursor_enter_started, List.append_assoc]
    rfl
  have hjournal {later : List JournalEntry}
      (h : after.journal = (state.enter (.started step.index)).journal ++ later) :
      after.journal = state.journal ++ (.started step.index :: later) :=
    h.trans (List.append_assoc ..)
  -- As long as no line is received, nothing has been answered and the conversation is not at rest.
  have hunread : ¬ conversation.Answered (.started step.index :: entries) step.index := by
    apply not_answered_of_reader_not_mem
    rw [List.filterMap_cons_none rfl, hreaders]
    exact List.not_mem_nil
  rcases hread with ⟨fault, rfl, hentries⟩ | ⟨label, line, rfl, hentries⟩
  · replace hentries := hjournal hentries
    obtain ⟨hmem, honly⟩ := started_of_step conversation hentries hstarted hothers
    unfold awaitPrompt
    rw [exec_bind_ok (exec_expectPrompt _), exec_bind_error hresult]
    exact ⟨_, hentries, hmem, honly, fun hanswered => absurd (hanswered hprompt) hunread,
      fun hidle => absurd hidle hrestless⟩
  · rw [List.append_assoc] at hentries
    replace hentries := hjournal hentries
    obtain ⟨hmem, honly⟩ := started_of_step conversation hentries hstarted hothers
    by_cases hanswer : line = promptLine ∨ conversation.keepGoing
    · obtain ⟨failures, world, hexec⟩ := exec_awaitPrompt_answered hresult hanswer
      rw [hexec]
      exact ⟨_, hentries, hmem, honly, fun _ => ⟨rfl, rfl⟩, fun _ _ =>
        (answered_received_iff hunread).mpr hanswer⟩
    · rw [exec_awaitPrompt_unanswered hresult hanswer]
      exact ⟨_, hentries, hmem, honly,
        fun hanswered => absurd ((answered_received_iff hunread).mp (hanswered hprompt)) hanswer,
        fun hidle => absurd hidle hrestless⟩

/-- An element that does not wait for the prompt is started and leaves the place in the script
alone. -/
theorem runStep_cursor (conversation : Conversation World) {step : Step} {state : State World}
    (hprompt : step.element ≠ .prompt) (hidle : state.phase = .idle) :
    ((conversation.runStep step).exec state).2.cursor =
      { state.cursor with started := state.cursor.started ++ [step.index] } := by
  have hend {act : Act World Unit} (state : State World) :
      ((act >>= fun _ => pure none : Act World (Option Step)).exec state).2 =
        (act.exec state).2 := by
    rw [exec_bind]
    rcases act.exec state with ⟨_ | _, after⟩ <;> rfl
  unfold runStep
  by_cases hclient : step.element.isClient
  · rw [if_pos hclient, hend]
    exact send_cursor conversation step state
  · rw [if_neg hclient, exec_bind_ok (exec_enter ..), if_neg hprompt, hend]
    have hphase : (state.enter (.started step.index)).phase ≠ .paused := by
      change state.phase ≠ .paused
      rw [hidle]
      nofun
    rw [(Steady.congruence conversation).attend step _ hphase]
    exact cursor_enter_started state step.index

/-- A step leaves the conversation at rest unless it waits for an answer that it does not get. -/
theorem runStep_answers {step : Step} {state : State World} (h : conversation.Begins step state) :
    ∃ entries, StepAnswers conversation step state ((conversation.runStep step).exec state).2
      entries := by
  by_cases hprompt : step.element = .prompt
  · obtain ⟨entries, hanswers⟩ := StepAnswers.of_prompt h hprompt
    refine ⟨entries, ?_⟩
    unfold runStep
    rw [if_neg (by simp [hprompt, Element.isClient]), exec_bind_ok (exec_enter ..), if_pos hprompt]
    exact hanswers
  · have hcursor := conversation.runStep_cursor hprompt h.phase_eq
    obtain ⟨done, ⟨entries, hjournal, -, -⟩, -⟩ := runStep_reads h
    obtain ⟨hmem, honly⟩ := conversation.started_of_step hjournal
      (congrArg Cursor.started hcursor) (List.forall_mem_nil _)
    have hparked : state.parked = none :=
      Option.map_eq_none_iff.mp (congrArg Sight.parked h.sight)
    exact ⟨entries, hjournal, hmem, honly,
      fun _ => ⟨(congrArg Cursor.phase hcursor).trans h.phase_eq,
        (congrArg Cursor.parked hcursor).trans hparked⟩,
      fun _ hwaits => absurd hwaits hprompt⟩

/-! ## Whole runs -/

/-- Since the start of a run the conversation is at rest exactly if all elements that have begun to
wait for the prompt have been answered. -/
def Rests (conversation : Conversation World) (start state : State World) : Prop :=
  ∃ entries, state.journal = start.journal ++ entries ∧
    (state.phase = .idle ∧ state.parked = none ↔ conversation.AllAnswered entries)

theorem rests_opened (conversation : Conversation World) (state : State World) :
    conversation.Rests state (conversation.opened state) :=
  ⟨[], (List.append_nil _).symm, fun _ => nofun, fun _ => ⟨rfl, rfl⟩⟩

/-- The elements that have read lines stand in front of the one that comes next. -/
theorem not_mem_readers (index : Nat) : index ∉ conversation.readers index := by
  intro hmem
  obtain ⟨other, hother, hreads⟩ := List.mem_flatMap.mp hmem
  obtain ⟨place, hplace⟩ := List.getElem?_of_mem hother
  rw [List.getElem?_take] at hplace
  split at hplace
  · rename_i hlt
    have hsame := List.eq_of_mem_replicate hreads
    have hindex := (index_of_getElem?_steps hplace).1
    omega
  · cases hplace

/-- A step that is run from rest comes to rest exactly if it has been answered. -/
theorem Rests.runStep {start state after : State World} {step : Step}
    {result : Except Fault (Option Step)} (hrests : conversation.Rests start state)
    (h : conversation.Begins step state) (hbooked : conversation.Booked start state step.index)
    (hstep : (conversation.runStep step).exec state = (result, after)) :
    conversation.Rests start after := by
  obtain ⟨earlier, hearlier, hrest⟩ := hrests
  obtain ⟨entries, hanswers⟩ := hstep ▸ runStep_answers h
  have hparked : state.parked = none := Option.map_eq_none_iff.mp (congrArg Sight.parked h.sight)
  have hall := hrest.mp ⟨h.phase_eq, hparked⟩
  have hunread : step.index ∉ earlier.filterMap JournalEntry.reader? := by
    obtain ⟨booked, hjournal, -, hreaders⟩ := hbooked.adds
    obtain rfl := List.append_cancel_left (hearlier.symm.trans hjournal)
    rw [hreaders]
    exact not_mem_readers step.index
  have helement : conversation.elements[step.index]? = some .prompt ↔ step.element = .prompt := by
    have hstep := h.step_mem
    rw [getElem?_steps, Option.map_eq_some_iff] at hstep
    obtain ⟨element, helement, hsame⟩ := hstep
    rw [helement, ← hsame, Option.some.injEq]
  refine ⟨earlier ++ entries, ?_, ?_⟩
  · rw [hanswers.journal, hearlier, List.append_assoc]
  · rw [allAnswered_append_iff hall hunread hanswers.started hanswers.others, helement]
    exact ⟨fun hidle => hanswers.answered hidle.1, hanswers.resting⟩

theorem Settles.rests {before : List Nat} {start state last : State World} {step : Step}
    {outcome : Except Fault Unit} (h : Settles conversation step state outcome last)
    (hdue : Due conversation before step state.cursor)
    (hbooked : conversation.Booked start state step.index)
    (hrests : conversation.Rests start state) : conversation.Rests start last := by
  induction h with
  | broken hstep => exact hrests.runStep (hdue.begins hbooked.inUse) hbooked hstep
  | done hstep => exact hrests.runStep (hdue.begins hbooked.inUse) hbooked hstep
  | @parked step parked state after outcome last hstep _ ih =>
      have hbegins := hdue.begins hbooked.inUse
      have hafter := hrests.runStep hbegins hbooked hstep
      have hreads := (hstep ▸ runStep_reads hbegins : StepReads conversation step state _)
      have hend := hstep ▸ runStep_end hdue
      generalize hcursor : after.cursor = cursor at hend
      cases hend with
      | parked _ hparked =>
          exact ih (hcursor ▸ hparked) (hreads.booked hdue.step_mem hbooked) hafter

theorem Completes.rests {before : List Nat} {start state last : State World}
    {outcome : Except Fault Unit} (h : Completes conversation state outcome last)
    (hcursor : ∃ count, state.cursor = Cursor.resting before count)
    (hbooked : conversation.Booked start state state.position)
    (hrests : conversation.Rests start state) : conversation.Rests start last := by
  induction h with
  | finished => exact hrests
  | broken hnext hstep =>
      obtain ⟨hdue, hready⟩ := hbooked.pass hnext hcursor
      exact hstep.rests hdue hready hrests
  | next hnext hstep _ ih =>
      obtain ⟨hdue, hready⟩ := hbooked.pass hnext hcursor
      obtain ⟨hafter, hresting⟩ := (hstep.booked hdue hready).2 rfl
      exact ih hresting hafter (hstep.rests hdue hready hrests)

theorem execute_rests (conversation : Conversation World) (state : State World) :
    conversation.Rests state (conversation.execute.exec state).2 := by
  have hrests {outcome : Except Fault Unit} {last : State World}
      (hrun : Completes conversation (conversation.opened state) outcome last) :
      conversation.Rests state last :=
    hrun.rests ⟨0, cursor_opened conversation state⟩ (booked_opened conversation state)
      (rests_opened conversation state)
  rcases hexec : conversation.execute.exec state with ⟨outcome, last⟩
  cases (executes_iff ..).mpr hexec with
  | broken hrun => exact hrests hrun
  | finished hrun => exact (hrests hrun :)

/-- At rest a resumption is refused, and nothing is run for it. -/
theorem exec_resume_of_idle {state : State World} (h : state.phase = .idle) :
    conversation.resume.exec state =
        (conversation.report (.continuationUnexpected "idle")).exec state ∧
      (conversation.resume.exec state).2.journal = state.journal := by
  have hphase : state.phase ≠ .paused := by
    rw [h]
    nofun
  have hresume := exec_resume_unexpected conversation hphase
  rw [h] at hresume
  exact ⟨hresume, hresume ▸ (Reads.report_same conversation _ state).2.2⟩

/-- Behind a run, however it has ended, nothing is expected or parked exactly if each element that
waited for the prompt has received it, or any line in a run that goes on behind failures. This is so
of every run that ends without a fault. A resumption is refused then, and nothing is run for it. -/
theorem execute_rests_iff (conversation : Conversation World) (state : State World) :
    ∃ outcome last entries, conversation.execute.exec state = (outcome, last) ∧
      last.journal = state.journal ++ entries ∧
      (last.phase = .idle ∧ last.parked = none ↔ conversation.AllAnswered entries) ∧
      (outcome = .ok () → conversation.AllAnswered entries) ∧
      (conversation.AllAnswered entries →
        conversation.resume.exec last =
          (conversation.report (.continuationUnexpected "idle")).exec last ∧
        (conversation.resume.exec last).2.journal = last.journal) ∧
      ∀ index begun line after,
        (conversation.readLine index).exec { begun with phase := .paused, parked := none } =
          (.ok line, after) →
        (((conversation.awaitPrompt index).exec begun).2.phase = .idle ∧
          ((conversation.awaitPrompt index).exec begun).2.parked = none ↔
            line = promptLine ∨ conversation.keepGoing) := by
  obtain ⟨outcome, last, hexec, -, -, hdone⟩ := execute_end conversation state
  obtain ⟨entries, hjournal, hrests⟩ := hexec ▸ execute_rests conversation state
  refine ⟨outcome, last, entries, hexec, hjournal, hrests, fun hok => ?_, fun hall => ?_, ?_⟩
  · have hresting := hdone hok
    exact hrests.mp ⟨congrArg Cursor.phase hresting, congrArg Cursor.parked hresting⟩
  · exact exec_resume_of_idle (hrests.mpr hall).1
  · intro index begun line after hread
    by_cases hanswer : line = promptLine ∨ conversation.keepGoing
    · obtain ⟨failures, world, hexec⟩ := exec_awaitPrompt_answered hread hanswer
      rw [hexec]
      exact iff_of_true ⟨rfl, rfl⟩ hanswer
    · have hwaits : conversation.Waits _ _ := Waits.readLine index
        { begun with phase := .paused, parked := none }
      rw [hread] at hwaits
      rw [exec_awaitPrompt_unanswered hread hanswer]
      exact iff_of_false (fun hidle => hwaits.restless nofun hidle.1) hanswer

/-- A line that is no prompt ends a run that does not go on behind failures, and a peer that has gone
ends any run. The prompt is still expected behind it, and a resumption sends the next element. -/
theorem execute_leaves_paused :
    let silent : Memory.World := .ofSessions [⟨"imap", [], .never, none, none⟩]
    let refusing : Memory.World := .ofSessions [⟨"imap", ["NO"], .never, none, none⟩]
    let elements : List Element := [.prompt, .request "x"]
    let strict : Conversation Memory.World := ⟨Memory.sessions refusing, elements, false⟩
    let tolerant : Conversation Memory.World := ⟨Memory.sessions silent, elements, true⟩
    let refused := (strict.execute.exec (.initial .empty refusing)).2
    let broken := (tolerant.execute.exec (.initial .empty silent)).2
    (refused.phase = .paused ∧ (strict.resume.exec refused).1.toOption = some () ∧
      (strict.resume.exec refused).2.world.written = [.wrote "imap" "x"]) ∧
    (broken.phase = .paused ∧ (tolerant.resume.exec broken).1.toOption = some () ∧
      (tolerant.resume.exec broken).2.world.written = [.wrote "imap" "x"]) := by
  decide +kernel

end MailScript.Conversation
