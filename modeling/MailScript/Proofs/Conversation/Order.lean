import MailScript.Proofs.Conversation.Growth
import MailScript.Proofs.Conversation.Semantics

/-! # Elements run once and in order

Whatever sessions do while lines are read from them, the elements that were started, followed by the
parked one, are those that the position has gone past. So no element is lost or run twice. -/

namespace MailScript.Conversation

variable {World : Type}

/-! ## Steps of a script -/

theorem getElem?_steps (conversation : Conversation World) (index : Nat) :
    conversation.steps[index]? = (conversation.elements[index]?).map fun element =>
      ⟨index, element⟩ := by
  simp [steps, stepsOf, List.getElem?_zipIdx, Function.comp_def]

theorem steps_eq_none_iff (conversation : Conversation World) (index : Nat) :
    conversation.steps[index]? = none ↔ conversation.elements.length ≤ index := by
  simp [getElem?_steps]

theorem index_of_getElem?_steps {conversation : Conversation World} {index : Nat} {step : Step}
    (h : conversation.steps[index]? = some step) :
    step.index = index ∧ index < conversation.elements.length := by
  rw [getElem?_steps, Option.map_eq_some_iff] at h
  obtain ⟨element, helement, rfl⟩ := h
  exact ⟨rfl, (List.getElem?_eq_some_iff.mp helement).1⟩

theorem getElem?_steps_of_drop {conversation : Conversation World} {position : Nat} {step : Step}
    {rest : List Step} (h : conversation.steps.drop position = step :: rest) :
    conversation.steps[position]? = some step ∧ conversation.steps.drop (position + 1) = rest := by
  constructor
  · rw [← List.head?_drop, h, List.head?_cons]
  · rw [← List.tail_drop, h, List.tail_cons]

theorem getElem?_steps_of_split {conversation : Conversation World} {position : Nat}
    {front rest : List Step} {step : Step}
    (h : conversation.steps.drop position = front ++ step :: rest) :
    conversation.steps[position + front.length]? = some step := by
  rw [← List.getElem?_drop, h, List.getElem?_append_right (Nat.le_refl _), Nat.sub_self]
  rfl

/-! ## The place in a script -/

/-- Between two steps as many elements as the count says were started, and none is parked. -/
def Cursor.resting (before : List Nat) (count : Nat) : Cursor :=
  ⟨count, .idle, none, before ++ List.range count⟩

/-- The elements gone past were started, each once and in order, but for the last one if it is
parked. -/
inductive OnTrack (conversation : Conversation World) (before : List Nat) : Cursor → Prop where
  | free {count : Nat} (phase : Phase) (hcount : count ≤ conversation.elements.length) :
      OnTrack conversation before ⟨count, phase, none, before ++ List.range count⟩
  | parked {step : Step} (hstep : conversation.steps[step.index]? = some step) :
      OnTrack conversation before
        ⟨step.index + 1, .resuming, some step, before ++ List.range step.index⟩

namespace OnTrack

variable {conversation : Conversation World} {before : List Nat}

theorem resting {count : Nat} (h : count ≤ conversation.elements.length) :
    OnTrack conversation before (Cursor.resting before count) :=
  .free .idle h

/-- On track, the elements that were started are those of some beginning of the script. -/
theorem started_eq {cursor : Cursor} (h : OnTrack conversation before cursor) :
    ∃ count ≤ conversation.elements.length, cursor.started = before ++ List.range count := by
  cases h with
  | free phase hcount => exact ⟨_, hcount, rfl⟩
  | parked hstep => exact ⟨_, Nat.le_of_lt (index_of_getElem?_steps hstep).2, rfl⟩

theorem of_cursor_eq {cursor cursor' : Cursor} (h : OnTrack conversation before cursor)
    (heq : cursor' = cursor) : OnTrack conversation before cursor' :=
  heq ▸ h

end OnTrack

/-! ## Resuming -/

/-- Running ahead goes past steps and starts them, and it parks the last one gone past if that one
does not send. -/
theorem runAhead_onTrack {conversation : Conversation World} {before : List Nat}
    (rest : List Step) (state : State World) (count : Nat)
    (hrest : conversation.steps.drop count = rest) (hcount : count ≤ conversation.elements.length)
    (hcursor : state.cursor = ⟨count, .resuming, none, before ++ List.range count⟩) :
    OnTrack conversation before ((conversation.runAhead rest).exec state).2.cursor := by
  induction rest generalizing state count with
  | nil => exact (OnTrack.free .resuming hcount).of_cursor_eq hcursor
  | cons step rest ih =>
      obtain ⟨hstep, hrest⟩ := getElem?_steps_of_drop hrest
      obtain ⟨rfl, hlt⟩ := index_of_getElem?_steps hstep
      unfold runAhead
      rw [exec_bind_ok (exec_pass ..)]
      have hpassed : ({ state with position := step.index + 1 } : State World).cursor =
          ⟨step.index + 1, .resuming, none, before ++ List.range step.index⟩ :=
        congrArg (fun cursor : Cursor => { cursor with position := step.index + 1 }) hcursor
      generalize ({ state with position := step.index + 1 } : State World) = passed at hpassed ⊢
      by_cases hclient : step.element.isClient
      · have hsent : ((conversation.send step).exec passed).2.cursor =
            ⟨step.index + 1, .resuming, none, before ++ List.range (step.index + 1)⟩ := by
          rw [send_cursor, hpassed, List.range_succ, List.append_assoc]
        rw [if_pos hclient]
        rcases hexec : (conversation.send step).exec passed with ⟨fault | _, after⟩
        · rw [exec_bind_error hexec]
          rw [hexec] at hsent
          exact (OnTrack.free .resuming hlt).of_cursor_eq hsent
        · rw [exec_bind_ok hexec]
          rw [hexec] at hsent
          exact ih after (step.index + 1) hrest hlt hsent
      · rw [if_neg hclient]
        exact (OnTrack.parked hstep).of_cursor_eq
          (congrArg (fun cursor : Cursor => { cursor with parked := some step }) hpassed)

/-- A session may resume whenever it likes. -/
theorem resume_onTrack (conversation : Conversation World) (before : List Nat) :
    conversation.resume.Within fun state after =>
      OnTrack conversation before state.cursor → OnTrack conversation before after.cursor := by
  intro state h
  by_cases hphase : state.phase = .paused
  · rw [exec_resume_paused conversation hphase]
    have hahead : OnTrack conversation before ((conversation.runAhead
        (conversation.steps.drop state.position)).exec { state with phase := .resuming }).2.cursor := by
      generalize hcursor : state.cursor = cursor at h
      cases h with
      | free phase hcount =>
          have hposition : state.position = _ := congrArg Cursor.position hcursor
          apply runAhead_onTrack _ _ _ (by rw [hposition]) hcount
          exact congrArg (fun cursor : Cursor => { cursor with phase := .resuming }) hcursor
      | parked hstep =>
          have := congrArg Cursor.phase hcursor
          simp [State.cursor, hphase] at this
    dsimp only
    split
    · exact hahead
    · exact hahead
  · rw [exec_resume_unexpected conversation hphase]
    exact h.of_cursor_eq (Beside.report conversation _ state).cursor

theorem readLine_onTrack (conversation : Conversation World) (before : List Nat) (index : Nat) :
    (conversation.readLine index).Within fun state after =>
      OnTrack conversation before state.cursor → OnTrack conversation before after.cursor :=
  readLine_within (fun _ _ _ hab hbc h => hbc (hab h))
    (fun _ _ hbeside h => h.of_cursor_eq hbeside.cursor) (resume_onTrack conversation before) index

/-! ## One step -/

/-- A step is about to be run: those before it were started, and it is the last one gone past. -/
structure Due (conversation : Conversation World) (before : List Nat) (step : Step)
    (cursor : Cursor) : Prop where
  cursor_eq : cursor = ⟨step.index + 1, .idle, none, before ++ List.range step.index⟩
  step_mem : conversation.steps[step.index]? = some step

/-- Between two steps the next one is due once it has been gone past. -/
theorem Due.of_resting {conversation : Conversation World} {before : List Nat} {count : Nat}
    {step : Step} {state : State World} (hcursor : state.cursor = Cursor.resting before count)
    (hnext : conversation.steps[state.position]? = some step) :
    Due conversation before step
      ({ state with position := step.index + 1 } : State World).cursor := by
  obtain ⟨hindex, -⟩ := index_of_getElem?_steps hnext
  have hposition : state.position = count := congrArg Cursor.position hcursor
  refine ⟨?_, hindex ▸ hnext⟩
  rw [hindex, hposition]
  exact congrArg (fun cursor : Cursor => { cursor with position := count + 1 }) hcursor

/-- What running a step may come to: an error on track, a state between steps, or another step that
is due. -/
inductive StepEnd (conversation : Conversation World) (before : List Nat) (step : Step) :
    Except Fault (Option Step) → Cursor → Prop where
  | broken {fault : Fault} {cursor : Cursor} (h : OnTrack conversation before cursor) :
      StepEnd conversation before step (.error fault) cursor
  | done {count : Nat} (hlt : step.index < count)
      (hcount : count ≤ conversation.elements.length) :
      StepEnd conversation before step (.ok none) (Cursor.resting before count)
  | parked {parked : Step} {cursor : Cursor} (hlt : step.index < parked.index)
      (hdue : Due conversation before parked cursor) :
      StepEnd conversation before step (.ok (some parked)) cursor

theorem takeParked_end {conversation : Conversation World} {before : List Nat} (step : Step)
    (state : State World) (htrack : OnTrack conversation before state.cursor)
    (hstarted : before ++ List.range (step.index + 1) <+: state.cursor.started) :
    StepEnd conversation before step ((takeParked : Act World (Option Step)).exec state).1
      ((takeParked : Act World (Option Step)).exec state).2.cursor := by
  have hlength := hstarted.length_le
  rw [exec_takeParked]
  generalize hcursor : state.cursor = cursor at htrack hlength
  have hparked : state.parked = cursor.parked := congrArg Cursor.parked hcursor
  have htaken : ({ state with phase := .idle, parked := none } : State World).cursor =
      { cursor with phase := .idle, parked := none } :=
    congrArg (fun cursor : Cursor => { cursor with phase := .idle, parked := none }) hcursor
  dsimp only
  rw [hparked, htaken]
  cases htrack with
  | @free count phase hcount =>
      have hle : step.index + 1 ≤ count := by simpa using hlength
      exact .done hle hcount
  | @parked parked hstep =>
      have hle : step.index + 1 ≤ parked.index := by simpa using hlength
      exact .parked hle ⟨rfl, hstep⟩

/-- Waiting for the prompt ends in order, however often the session resumes meanwhile. -/
theorem awaitPrompt_end {conversation : Conversation World} {before : List Nat} (step : Step)
    (state : State World) (hlt : step.index < conversation.elements.length)
    (hcursor : state.cursor = Cursor.resting before (step.index + 1)) :
    StepEnd conversation before step ((conversation.awaitPrompt step.index).exec state).1
      ((conversation.awaitPrompt step.index).exec state).2.cursor := by
  unfold awaitPrompt
  rw [exec_bind_ok (exec_expectPrompt _)]
  have hexpecting : ({ state with phase := .paused, parked := none } : State World).cursor =
      ⟨step.index + 1, .paused, none, before ++ List.range (step.index + 1)⟩ :=
    congrArg (fun cursor : Cursor => { cursor with phase := .paused, parked := none }) hcursor
  generalize ({ state with phase := .paused, parked := none } : State World) = expecting
    at hexpecting ⊢
  have htrack := readLine_onTrack conversation before step.index expecting
    ((OnTrack.free .paused hlt).of_cursor_eq hexpecting)
  have hstarted := (Grown.readLine conversation step.index expecting).started
  rw [hexpecting] at hstarted
  rcases hread : (conversation.readLine step.index).exec expecting with ⟨fault | line, after⟩
  · rw [exec_bind_error hread]
    rw [hread] at htrack
    exact .broken htrack
  · rw [exec_bind_ok hread]
    rw [hread] at htrack hstarted
    by_cases hline : line ≠ promptLine
    · rw [if_pos hline]
      have hreport := Beside.report conversation (.continuationMissing line) after
      rcases hexec : (conversation.report (.continuationMissing line)).exec after with
        ⟨fault | _, reported⟩
      · rw [exec_bind_error hexec]
        rw [hexec] at hreport
        exact .broken (htrack.of_cursor_eq hreport.cursor)
      · rw [exec_bind_ok hexec]
        rw [hexec] at hreport
        apply takeParked_end step reported (htrack.of_cursor_eq hreport.cursor)
        rw [hreport.cursor]
        exact hstarted
    · rw [if_neg hline]
      exact takeParked_end step after htrack hstarted

/-- A step that is due is started once, and every other one that is started behind it. -/
theorem runStep_end {conversation : Conversation World} {before : List Nat} {step : Step}
    {state : State World} (h : Due conversation before step state.cursor) :
    StepEnd conversation before step ((conversation.runStep step).exec state).1
      ((conversation.runStep step).exec state).2.cursor := by
  obtain ⟨-, hlt⟩ := index_of_getElem?_steps h.step_mem
  have hstarted : { state.cursor with started := state.cursor.started ++ [step.index] } =
      Cursor.resting before (step.index + 1) := by
    rw [h.cursor_eq, Cursor.resting, List.range_succ, List.append_assoc]
  unfold runStep
  by_cases hclient : step.element.isClient
  · rw [if_pos hclient]
    have hsent := (send_cursor conversation step state).trans hstarted
    rcases hexec : (conversation.send step).exec state with ⟨fault | _, after⟩
    · rw [exec_bind_error hexec]
      rw [hexec] at hsent
      exact .broken ((OnTrack.resting hlt).of_cursor_eq hsent)
    · rw [exec_bind_ok hexec]
      rw [hexec] at hsent
      rw [exec_pure, hsent]
      exact .done (Nat.lt_succ_self _) hlt
  · rw [if_neg hclient, exec_bind_ok (exec_enter ..)]
    have hbegun := (cursor_enter_started state step.index).trans hstarted
    generalize state.enter (.started step.index) = begun at hbegun ⊢
    by_cases hprompt : step.element = .prompt
    · rw [if_pos hprompt]
      exact awaitPrompt_end step begun hlt hbegun
    · rw [if_neg hprompt]
      have hidle : begun.phase = .idle := congrArg Cursor.phase hbegun
      have hattend := (Steady.congruence conversation).attend step begun (by simp [hidle])
      rcases hexec : (conversation.attend step).exec begun with ⟨fault | _, after⟩
      · rw [exec_bind_error hexec]
        rw [hexec, hbegun] at hattend
        exact .broken ((OnTrack.resting hlt).of_cursor_eq hattend)
      · rw [exec_bind_ok hexec]
        rw [hexec, hbegun] at hattend
        rw [exec_pure, hattend]
        exact .done (Nat.lt_succ_self _) hlt

/-! ## Whole runs -/

/-- Fuel for the elements left is enough for a step that is due. -/
theorem settle_end {conversation : Conversation World} {before : List Nat} (fuel : Nat)
    (step : Step) (state : State World) (h : Due conversation before step state.cursor)
    (hfuel : conversation.elements.length ≤ step.index + fuel) :
    ∃ outcome last, (conversation.settle fuel step).exec state = (outcome, last) ∧
      Settles conversation step state outcome last ∧ OnTrack conversation before last.cursor ∧
      (outcome = .ok () → ∃ count, step.index < count ∧ count ≤ conversation.elements.length ∧
        last.cursor = Cursor.resting before count) := by
  induction fuel generalizing step state with
  | zero =>
      obtain ⟨-, hlt⟩ := index_of_getElem?_steps h.step_mem
      omega
  | succ fuel ih =>
      have hend := runStep_end h
      unfold settle
      rcases hexec : (conversation.runStep step).exec state with ⟨outcome, after⟩
      rw [hexec] at hend
      dsimp only at hend
      generalize hcursor : after.cursor = cursor at hend
      cases hend with
      | @broken fault _ htrack =>
          refine ⟨.error fault, after, exec_bind_error hexec, .broken hexec, ?_, ?_⟩
          · exact htrack.of_cursor_eq hcursor
          · simp
      | @done count hlt hcount =>
          refine ⟨.ok (), after, exec_bind_ok hexec, .done hexec, ?_, ?_⟩
          · exact (OnTrack.resting hcount).of_cursor_eq hcursor
          · exact fun _ => ⟨count, hlt, hcount, hcursor⟩
      | @parked parked _ hlt hdue =>
          obtain ⟨outcome, last, hrun, hsettles, htrack, hrested⟩ :=
            ih parked after (hcursor ▸ hdue) (by omega)
          refine ⟨outcome, last, (exec_bind_ok hexec).trans hrun, .parked hexec hsettles, htrack, ?_⟩
          intro hok
          obtain ⟨count, hcount, hle, hresting⟩ := hrested hok
          exact ⟨count, by omega, hle, hresting⟩

/-- Fuel for the elements left is enough for the rest of the script. -/
theorem runRest_end (conversation : Conversation World) {before : List Nat} (fuel count : Nat)
    (state : State World) (hcursor : state.cursor = Cursor.resting before count)
    (hcount : count ≤ conversation.elements.length)
    (hfuel : conversation.elements.length ≤ count + fuel) :
    ∃ outcome last, (conversation.runRest fuel).exec state = (outcome, last) ∧
      Completes conversation state outcome last ∧ OnTrack conversation before last.cursor ∧
      (outcome = .ok () →
        last.cursor = Cursor.resting before conversation.elements.length) := by
  have hposition : state.position = count := congrArg Cursor.position hcursor
  induction fuel generalizing count state with
  | zero =>
      have hall : count = conversation.elements.length := by omega
      refine ⟨.ok (), state, rfl, .finished ?_, ?_, fun _ => hall ▸ hcursor⟩
      · rw [steps_eq_none_iff]
        omega
      · exact (OnTrack.resting hcount).of_cursor_eq hcursor
  | succ fuel ih =>
      unfold runRest
      rw [exec_get_bind]
      cases hnext : conversation.steps[state.position]? with
      | none =>
          have hall : count = conversation.elements.length := by
            have := (steps_eq_none_iff conversation _).mp hnext
            omega
          refine ⟨.ok (), state, rfl, .finished hnext, ?_, fun _ => hall ▸ hcursor⟩
          exact (OnTrack.resting hcount).of_cursor_eq hcursor
      | some step =>
          dsimp only
          obtain ⟨hindex, hlt⟩ := index_of_getElem?_steps hnext
          obtain ⟨outcome, after, hrun, hsettles, htrack, hrested⟩ :=
            settle_end (conversation.elements.length + 1) step _ (.of_resting hcursor hnext)
              (by omega)
          rw [exec_bind_ok (exec_pass ..)]
          cases outcome with
          | error fault =>
              refine ⟨.error fault, after, exec_bind_error hrun, .broken hnext hsettles, htrack, ?_⟩
              simp
          | ok _ =>
              obtain ⟨reached, hreached, hle, hresting⟩ := hrested rfl
              obtain ⟨outcome, last, hrest, hcompletes, htrack, hdone⟩ :=
                ih reached after hresting hle (by omega) (congrArg Cursor.position hresting)
              exact ⟨outcome, last, (exec_bind_ok hrun).trans hrest,
                .next hnext hsettles hcompletes, htrack, hdone⟩

theorem cursor_opened (conversation : Conversation World) (state : State World) :
    (conversation.opened state).cursor = Cursor.resting (started state.journal) 0 := by
  simp [opened, State.rewind, State.cursor, Cursor.resting]

/-- A script ends, and on track. -/
theorem execute_end (conversation : Conversation World) (state : State World) :
    ∃ outcome last, conversation.execute.exec state = (outcome, last) ∧
      Executes conversation state outcome last ∧
      OnTrack conversation (started state.journal) last.cursor ∧
      (outcome = .ok () → last.cursor =
        Cursor.resting (started state.journal) conversation.elements.length) := by
  obtain ⟨outcome, last, hrun, hcompletes, htrack, hdone⟩ :=
    runRest_end conversation conversation.elements.length 0 (conversation.opened state)
      (cursor_opened conversation state) (Nat.zero_le _) (by omega)
  rw [exec_execute, hrun]
  cases outcome with
  | error fault => exact ⟨.error fault, last, rfl, .broken hcompletes, htrack, by simp⟩
  | ok _ => exact ⟨.ok (), conversation.closed last, rfl, .finished hcompletes, htrack, hdone⟩

/-- Running a script and deriving its run are the same. -/
theorem executes_iff (conversation : Conversation World) (state last : State World)
    (outcome : Except Fault Unit) :
    Executes conversation state outcome last ↔
      conversation.execute.exec state = (outcome, last) := by
  obtain ⟨outcome', last', hexec, hexecutes, -, -⟩ := execute_end conversation state
  constructor
  · intro h
    obtain ⟨rfl, rfl⟩ := h.deterministic hexecutes
    exact hexec
  · intro h
    rw [hexec] at h
    cases h
    exact hexecutes

theorem execute_journal (conversation : Conversation World) (state : State World) :
    state.journal <+: (conversation.execute.exec state).2.journal := by
  have hrun := (Grown.runRest conversation conversation.elements.length
    (conversation.opened state)).journal
  rw [exec_execute]
  split
  · rename_i hexec
    rw [hexec] at hrun
    exact hrun
  · rename_i hexec
    rw [hexec] at hrun
    exact hrun

/-- A script always ends. If it ends without a fault, every element was started once, in order, and
nothing is expected or left over. If it ends with a fault, the elements that were started are a
beginning of the script, each started once and in order. -/
theorem execute_starts_in_order (conversation : Conversation World) (state : State World) :
    ∃ outcome last entries,
      conversation.execute.exec state = (outcome, last) ∧
      Executes conversation state outcome last ∧
      last.journal = state.journal ++ entries ∧
      (outcome = .ok () →
        started entries = List.range conversation.elements.length ∧
        last.position = conversation.elements.length ∧ last.phase = .idle ∧ last.parked = none) ∧
      (∀ fault, outcome = .error fault →
        ∃ count ≤ conversation.elements.length, started entries = List.range count) := by
  obtain ⟨outcome, last, hexec, hexecutes, htrack, hdone⟩ := execute_end conversation state
  obtain ⟨entries, hentries⟩ := hexec ▸ execute_journal conversation state
  have hstarted : last.cursor.started = started state.journal ++ started entries := by
    rw [← started_append, hentries]
    rfl
  refine ⟨outcome, last, entries, hexec, hexecutes, hentries.symm, ?_, ?_⟩
  · intro hok
    have hresting := hdone hok
    rw [hresting] at hstarted
    refine ⟨(List.append_cancel_left hstarted).symm, ?_, ?_, ?_⟩
    · exact congrArg Cursor.position hresting
    · exact congrArg Cursor.phase hresting
    · exact congrArg Cursor.parked hresting
  · intro fault hfault
    obtain ⟨count, hcount, heq⟩ := htrack.started_eq
    rw [heq] at hstarted
    exact ⟨count, hcount, (List.append_cancel_left hstarted).symm⟩

end MailScript.Conversation
