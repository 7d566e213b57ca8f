import MailScript.Proofs.Conversation.Faults
import MailScript.Proofs.Conversation.Growth
import MailScript.Proofs.Conversation.Semantics

/-! # Ending at the first failure

The same script may be run so that failures are only noted, or so that the first one ends the run.
Up to the first failure the two runs do the same. -/

namespace MailScript.Conversation

variable {World : Type} {α β : Type}

/-- The conversation that notes failures and goes on. -/
def tolerant (conversation : Conversation World) : Conversation World :=
  { conversation with keepGoing := true }

/-- The conversation that ends with its first failure. -/
def strict (conversation : Conversation World) : Conversation World :=
  { conversation with keepGoing := false }

/-! ## Cutting at the first failure -/

/-- A result is another one cut at the first failure: it is the same if there was none. -/
inductive Cut : Except Fault α × State World → Except Fault α × State World → Prop where
  | same {result : Except Fault α × State World} (h : result.2.failures = []) : Cut result result
  | cut {result : Except Fault α × State World} {failure : Failure} {last : State World}
      (hfirst : [failure] <+: result.2.failures) (hnone : last.failures = [])
      (hjournal : last.journal <+: result.2.journal) :
      Cut result (.error (.failure failure), last)

namespace Cut

variable {kept ended : Except Fault α × State World}

theorem eq_of_none (h : Cut kept ended) (hnone : kept.2.failures = []) : ended = kept := by
  cases h with
  | same => rfl
  | cut hfirst => simp [hnone] at hfirst

theorem of_first (h : Cut kept ended) {failure : Failure} {rest : List Failure}
    (hfailures : kept.2.failures = failure :: rest) :
    ended.1 = .error (.failure failure) ∧ ended.2.failures = [] ∧
      ended.2.journal <+: kept.2.journal := by
  cases h with
  | same hnone => simp [hnone] at hfailures
  | cut hfirst hnone hjournal =>
      rw [hfailures] at hfirst
      obtain ⟨rfl, -⟩ := List.cons_prefix_cons.mp hfirst
      exact ⟨rfl, hnone, hjournal⟩

end Cut

/-- An action that ends with the first failure does the same as one that goes on, up to there. -/
structure Cuts (act act' : Act World α) : Prop where
  grown : act.Within Grown
  cut : ∀ state, state.failures = [] → Cut (act.exec state) (act'.exec state)

namespace Cuts

theorem of_grown {act : Act World α} (hgrown : act.Within Grown)
    (h : ∀ state, (act.exec state).2.failures = state.failures) : Cuts act act :=
  ⟨hgrown, fun state hnone => .same ((h state).trans hnone)⟩

theorem bind {act act' : Act World α} {next next' : α → Act World β} (hact : Cuts act act')
    (hnext : ∀ x, Cuts (next x) (next' x)) : Cuts (act >>= next) (act' >>= next') := by
  refine ⟨hact.grown.bind Grown.trans fun x => (hnext x).grown, fun state hnone => ?_⟩
  have hcut := hact.cut state hnone
  rw [exec_bind, exec_bind]
  generalize act.exec state = result, act'.exec state = result' at hcut
  cases hcut with
  | same h =>
      rcases result with ⟨fault | x, after⟩
      · exact .same h
      · exact (hnext x).cut after h
  | cut hfirst hnone hjournal =>
      rcases result with ⟨fault | x, after⟩
      · exact .cut hfirst hnone hjournal
      · have hgrown := (hnext x).grown after
        exact .cut (hfirst.trans hgrown.failures) hnone (hjournal.trans hgrown.journal)

theorem get_bind {next next' : State World → Act World β} (h : ∀ state, Cuts (next state) (next' state)) :
    Cuts (get >>= next) (get >>= next') :=
  ⟨fun state => (h state).grown state, fun state => (h state).cut state⟩

theorem report (conversation : Conversation World) (failure : Failure) :
    Cuts (conversation.tolerant.report failure) (conversation.strict.report failure) := by
  refine ⟨(Beside.report _ _).mono Grown.of_beside, fun state hnone => ?_⟩
  rw [exec_report_tolerant rfl, exec_report_strict (by simp [strict])]
  refine .cut ?_ hnone List.prefix_rfl
  simp [hnone]

theorem of_beside {act : Act World α} (hbeside : act.Within Beside)
    (h : ∀ state, (act.exec state).2.failures = state.failures) : Cuts act act :=
  of_grown (hbeside.mono Grown.of_beside) h

theorem pure (x : α) : Cuts (Pure.pure x : Act World α) (Pure.pure x) :=
  of_grown Grown.refl fun _ => rfl

theorem enter (entry : JournalEntry) : Cuts (Conversation.enter entry : Act World Unit)
    (Conversation.enter entry) :=
  of_grown (Grown.enter entry) fun _ => rfl

theorem update {f : State World → State World}
    (h : ∀ state, (f state).failures = state.failures ∧ (f state).journal = state.journal) :
    Cuts (modify f : Act World Unit) (modify f) := by
  refine of_grown (fun state => ?_) fun state => (h state).1
  rw [exec_modify]
  exact ⟨(h state).1 ▸ List.prefix_rfl, (h state).2 ▸ List.prefix_rfl⟩

theorem log (conversation : Conversation World) (event : Event) :
    Cuts (conversation.tolerant.log event) (conversation.strict.log event) :=
  update fun _ => ⟨rfl, rfl⟩

theorem pass (step : Step) :
    Cuts (Conversation.pass step : Act World Unit) (Conversation.pass step) :=
  update fun _ => ⟨rfl, rfl⟩

theorem expectPrompt :
    Cuts (Conversation.expectPrompt : Act World Unit) Conversation.expectPrompt :=
  update fun _ => ⟨rfl, rfl⟩

theorem takeParked :
    Cuts (Conversation.takeParked : Act World (Option Step)) Conversation.takeParked :=
  of_grown (fun _ => ⟨List.prefix_rfl, List.prefix_rfl⟩) fun _ => rfl

theorem perform (call : World → Outcome World) :
    Cuts (Conversation.perform call) (Conversation.perform call) := by
  refine of_beside (Beside.perform call) fun state => ?_
  rw [exec_perform]

theorem currentLabel (conversation : Conversation World) :
    Cuts conversation.tolerant.currentLabel conversation.strict.currentLabel := by
  refine of_beside (Beside.currentLabel conversation.strict) fun state => ?_
  rw [exec_currentLabel]
  split <;> rfl

theorem switchTo (conversation : Conversation World) (label : String) :
    Cuts (conversation.tolerant.switchTo label) (conversation.strict.switchTo label) := by
  refine of_beside (Beside.switchTo conversation.strict label) fun state => ?_
  rw [exec_switchTo]
  split <;> rfl

theorem send (conversation : Conversation World) (step : Step) :
    Cuts (conversation.tolerant.send step) (conversation.strict.send step) := by
  unfold Conversation.send
  refine (enter _).bind fun _ => ?_
  cases step.element with
  | request template =>
      refine (currentLabel conversation).bind fun label => get_bind fun state => ?_
      exact (enter _).bind fun _ => perform _
  | upload attachment =>
      refine (currentLabel conversation).bind fun label => get_bind fun state => ?_
      exact (enter _).bind fun _ => perform _
  | _ => exact pure ()

theorem runAhead (conversation : Conversation World) (rest : List Step) :
    Cuts (conversation.tolerant.runAhead rest) (conversation.strict.runAhead rest) := by
  induction rest with
  | nil => exact pure ()
  | cons step rest ih =>
      refine (pass step).bind fun _ => ?_
      by_cases hclient : step.element.isClient
      · rw [if_pos hclient, if_pos hclient]
        exact (send conversation step).bind fun _ => ih
      · rw [if_neg hclient, if_neg hclient]
        exact update fun _ => ⟨rfl, rfl⟩

theorem resume (conversation : Conversation World) :
    Cuts conversation.tolerant.resume conversation.strict.resume := by
  refine ⟨Grown.resume _, fun state hnone => ?_⟩
  unfold Conversation.resume
  rw [exec_get_bind, exec_get_bind]
  by_cases h : state.phase = .paused
  · rw [if_pos h, if_pos h, exec_bind_ok (exec_set ..), exec_bind_ok (exec_set ..)]
    refine ((runAhead conversation _).bind fun _ => get_bind fun after => ?_).cut
      { state with phase := .resuming } hnone
    exact log conversation _
  · rw [if_neg h, if_neg h]
    exact (report conversation _).cut state hnone

theorem follow (conversation : Conversation World) (reading : Reading World)
    (h : reading.HandsOn) :
    Cuts (conversation.tolerant.follow reading) (conversation.strict.follow reading) := by
  have hresume := resume conversation
  have hgrown (reading : Reading World) : (conversation.tolerant.follow reading).Within Grown :=
    follow_within Grown.trans Grown.of_beside hresume.grown reading
  refine ⟨hgrown reading, ?_⟩
  induction reading with
  | line text world => exact fun state hnone => .same hnone
  | broken fault world => exact fun state hnone => .same hnone
  | resume world next ih =>
      intro state hnone
      obtain ⟨hbroken, hnext⟩ := h
      have hcut := hresume.cut { state with world := world } hnone
      rw [exec_follow_resume, exec_follow_resume]
      generalize conversation.tolerant.resume.exec { state with world := world } = result,
        conversation.strict.resume.exec { state with world := world } = result' at hcut
      cases hcut with
      | same hnone => exact ih _ _ _ (hnext _ _ _) result.2 hnone
      | @cut failure last hfirst hnone hjournal =>
          obtain ⟨after, hafter⟩ := hbroken (.failure failure) last.view last.world
          have hmore := hgrown (next result.1 result.2.view result.2.world) result.2
          dsimp only
          rw [hafter, exec_follow_broken]
          exact .cut (hfirst.trans hmore.failures) hnone (hjournal.trans hmore.journal)

end Cuts

variable {conversation : Conversation World}

namespace Cuts

theorem readLine (h : conversation.sessions.HandOn) (index : Nat) :
    Cuts (conversation.tolerant.readLine index) (conversation.strict.readLine index) := by
  unfold Conversation.readLine
  refine (currentLabel conversation).bind fun label => get_bind fun state => ?_
  refine (enter _).bind fun _ => (follow conversation _ (h _ _ _)).bind fun line => ?_
  exact (enter _).bind fun _ => pure line

theorem runCongruence (h : conversation.sessions.HandOn) :
    RunCongruence conversation.tolerant conversation.strict Cuts where
  pure := pure
  throw _ := of_grown Grown.refl fun _ => rfl
  bind := bind
  enter _ := enter _
  log := log conversation
  wait _ := perform _
  assign binding := of_beside (Beside.assign conversation.strict binding) fun _ => rfl
  report := report conversation
  currentLabel := currentLabel conversation
  switchTo := switchTo conversation
  readLine := readLine h
  elements := rfl
  start index := enter (.started index)
  send _ := send conversation _
  pass := pass
  expectPrompt := expectPrompt
  takeParked := takeParked
  look h := get_bind fun state => h state state rfl rfl

end Cuts

theorem execute_cut (h : conversation.sessions.HandOn) (state : State World) :
    Cut (conversation.tolerant.execute.exec state) (conversation.strict.execute.exec state) := by
  unfold execute
  rw [exec_bind_ok (exec_modify ..), exec_bind_ok (exec_modify ..)]
  refine ((Cuts.log conversation _).bind fun _ => ?_).cut state.rewind rfl
  refine ((Cuts.runCongruence h).runRest _).bind fun _ => Cuts.get_bind fun after => ?_
  exact Cuts.log conversation _

/-! ## The two ways of running a script -/

/-- A run that ends with its first failure is a run that goes on, cut at its first failure: the same
run if there is no failure. A run that goes on never ends with a mismatch or with a missing or
unexpected prompt, unless a session does. -/
theorem strict_execute_eq_cut (conversation : Conversation World) (state : State World)
    (h : conversation.sessions.HandOn) :
    let kept := conversation.tolerant.execute.exec state
    let ended := conversation.strict.execute.exec state
    (kept.2.failures = [] → ended = kept) ∧
      (∀ failure rest, kept.2.failures = failure :: rest →
        ended.1 = .error (.failure failure) ∧ ended.2.failures = [] ∧
          ended.2.journal <+: kept.2.journal) ∧
      (conversation.sessions.Raise (fun fault => ¬ fault.IsMismatch) →
        ∀ fault, kept.1 = .error fault → ¬ fault.IsMismatch) := by
  intro kept ended
  have hcut : Cut kept ended := execute_cut h state
  refine ⟨hcut.eq_of_none, fun failure rest => hcut.of_first, ?_⟩
  intro hsessions fault hfault
  suffices hraises : conversation.tolerant.execute.Raises (fun _ => True)
      fun fault => ¬ fault.IsMismatch from hraises.faults state fault trivial hfault
  refine Raises.execute (Sessions.keep_true _) ?_ ?_ hsessions rfl
  · rintro fault hforeign ⟨failure, rfl, -⟩
    exact hforeign failure rfl
  · rintro label labels ⟨failure, hfailure, hkind⟩
    cases hfailure
    rcases hkind with hkind | hkind <;> cases hkind

/-- A line is read with an unexpected resume ahead of it, and then the prompt is missing. -/
theorem strict_execute_eq_cut_of_unexpected_resume :
    let world := Memory.World.ofSessions [⟨"mail", ["text", "NO"], .never, none, none⟩]
    let sessions := (Memory.sessions world).hooked (fun _ _ _ => true) Memory.World.nextLine
    let conversation : Conversation Memory.World :=
      ⟨sessions, [.skipped "text" ⟨"mail.script:1", none⟩, .prompt, .request "done"], true⟩
    let state := State.initial .empty world
    conversation.sessions.HandOn ∧
      conversation.sessions.Raise (fun fault => ¬ fault.IsMismatch) ∧
      (conversation.tolerant.execute.exec state).2.failures.map Failure.message =
        ["Unexpected continuation", "Expected continuation"] ∧
      ∃ failure, failure.message = "Unexpected continuation" ∧
        (conversation.strict.execute.exec state).1 = .error (.failure failure) := by
  intro world sessions conversation state
  have h : conversation.sessions.HandOn :=
    (Memory.handOn_sessions world Memory.closedByPeer).hooked (fun _ _ _ => true)
      Memory.World.nextLine
  have hraise : conversation.sessions.Raise (fun fault => ¬ fault.IsMismatch) := by
    refine (Memory.raise_sessions world fun label => ?_).hooked (fun _ _ _ => true)
      Memory.World.nextLine
    rintro ⟨failure, hfailure, hkind⟩
    cases hfailure
    rcases hkind with hkind | hkind <;> cases hkind
  have hmessages : (conversation.tolerant.execute.exec state).2.failures.map Failure.message =
      ["Unexpected continuation", "Expected continuation"] := by
    decide +kernel +zetaReduce
  obtain ⟨failure, rest, hfailures, hmessage, -⟩ := List.map_eq_cons_iff.mp hmessages
  refine ⟨h, hraise, hmessages, failure, hmessage, ?_⟩
  exact ((strict_execute_eq_cut conversation state h).2.1 _ _ hfailures).1

end MailScript.Conversation
