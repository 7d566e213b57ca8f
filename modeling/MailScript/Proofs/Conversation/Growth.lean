import MailScript.Proofs.Conversation.Running

/-! # What actions leave alone

Most actions leave the place in the script alone and only add to the failures and to the journal.
The place in the script is moved by the main loop, by the element that waits for the prompt, and by
a resumption. -/

namespace MailScript.Conversation

variable {World : Type} {α β : Type}

/-! ## The place in a script -/

/-- The elements that a journal says were started, in order. -/
def started (journal : List JournalEntry) : List Nat :=
  journal.filterMap JournalEntry.startedIndex?

@[simp] theorem started_append (front back : List JournalEntry) :
    started (front ++ back) = started front ++ started back :=
  List.filterMap_append

/-- How far a conversation has come through its script. -/
structure Cursor where
  position : Nat
  phase : Phase
  parked : Option Step
  started : List Nat

/-- How far a state has come through the script. -/
def State.cursor (state : State World) : Cursor :=
  ⟨state.position, state.phase, state.parked, Conversation.started state.journal⟩

theorem cursor_enter_started (state : State World) (index : Nat) :
    (state.enter (.started index)).cursor =
      { state.cursor with started := state.cursor.started ++ [index] } := by
  simp [State.enter, State.cursor, started, JournalEntry.startedIndex?]

/-! ## Actions within a relation -/

/-- An action leads to related states only. -/
def Act.Within (R : State World → State World → Prop) (act : Act World α) : Prop :=
  ∀ state, R state (act.exec state).2

theorem Act.Within.of_exec {R : State World → State World → Prop} {act : Act World α}
    (h : act.Within R) {state after : State World} {result : Except Fault α}
    (hexec : act.exec state = (result, after)) : R state after := by
  have hwithin := h state
  rwa [hexec] at hwithin

theorem Act.Within.mono {R S : State World → State World → Prop} {act : Act World α}
    (h : act.Within R) (hRS : ∀ before after, R before after → S before after) : act.Within S :=
  fun state => hRS _ _ (h state)

theorem Act.Within.bind {R : State World → State World → Prop} {act : Act World α}
    {next : α → Act World β} (hact : act.Within R) (htrans : ∀ a b c, R a b → R b c → R a c)
    (hnext : ∀ x, (next x).Within R) : Act.Within R (act >>= next) := by
  intro state
  have hfirst := hact state
  rw [exec_bind]
  rcases hexec : act.exec state with ⟨fault | x, after⟩
  · simpa only [hexec] using hfirst
  · rw [hexec] at hfirst
    exact htrans _ _ _ hfirst (hnext x after)

/-- A state behind an earlier one with the same place in the script. Failures and the journal have
only grown. -/
structure Beside (before after : State World) : Prop where
  cursor : after.cursor = before.cursor
  failures : before.failures <+: after.failures
  journal : before.journal <+: after.journal

namespace Beside

theorem refl (state : State World) : Beside state state :=
  ⟨rfl, List.prefix_rfl, List.prefix_rfl⟩

theorem trans (a b c : State World) (hab : Beside a b) (hbc : Beside b c) : Beside a c :=
  ⟨hbc.cursor.trans hab.cursor, hab.failures.trans hbc.failures, hab.journal.trans hbc.journal⟩

theorem enter {entry : JournalEntry} (h : entry.startedIndex? = none) :
    (enter entry : Act World Unit).Within Beside := by
  intro state
  refine ⟨?_, List.prefix_rfl, List.prefix_append _ _⟩
  simp [State.enter, State.cursor, started, h]

theorem log (conversation : Conversation World) (event : Event) :
    (conversation.log event).Within Beside := by
  intro state
  exact ⟨rfl, List.prefix_rfl, List.prefix_rfl⟩

theorem assign (conversation : Conversation World) (binding : Binding) :
    (conversation.assign binding).Within Beside := by
  intro state
  exact ⟨rfl, List.prefix_rfl, List.prefix_rfl⟩

theorem perform (call : World → Outcome World) : (perform call).Within Beside := by
  intro state
  rw [exec_perform]
  exact ⟨rfl, List.prefix_rfl, List.prefix_rfl⟩

theorem report (conversation : Conversation World) (failure : Failure) :
    (conversation.report failure).Within Beside := by
  intro state
  by_cases h : conversation.keepGoing
  · rw [exec_report_tolerant h]
    exact ⟨rfl, List.prefix_append _ _, List.prefix_rfl⟩
  · rw [exec_report_strict h]
    exact .refl state

theorem currentLabel (conversation : Conversation World) :
    conversation.currentLabel.Within Beside := by
  intro state
  rw [exec_currentLabel]
  split
  · exact .refl state
  · exact ⟨rfl, List.prefix_rfl, List.prefix_rfl⟩
  · exact .refl state

theorem switchTo (conversation : Conversation World) (label : String) :
    (conversation.switchTo label).Within Beside := by
  intro state
  rw [exec_switchTo]
  split
  · exact ⟨rfl, List.prefix_rfl, List.prefix_rfl⟩
  · exact .refl state

end Beside

/-- What a step that sends does behind the entry that it was started. -/
theorem send_beside (conversation : Conversation World) (step : Step) (state : State World) :
    Beside (state.enter (.started step.index)) ((conversation.send step).exec state).2 := by
  unfold send
  rw [exec_bind_ok (exec_enter ..)]
  generalize state.enter (.started step.index) = begun
  cases step.element with
  | request template =>
      refine (Beside.currentLabel conversation).bind Beside.trans (fun label => ?_) begun
      intro state
      exact (Beside.enter rfl).bind Beside.trans (fun _ => Beside.perform _) state
  | upload attachment =>
      refine (Beside.currentLabel conversation).bind Beside.trans (fun label => ?_) begun
      intro state
      exact (Beside.enter rfl).bind Beside.trans (fun _ => Beside.perform _) state
  | _ => exact .refl begun

theorem send_cursor (conversation : Conversation World) (step : Step) (state : State World) :
    ((conversation.send step).exec state).2.cursor =
      { state.cursor with started := state.cursor.started ++ [step.index] } :=
  (send_beside conversation step state).cursor.trans (cursor_enter_started state step.index)

/-! ## Reading -/

section Reading

variable {R : State World → State World → Prop} (htrans : ∀ a b c, R a b → R b c → R a c)
  (hbeside : ∀ before after, Beside before after → R before after)

include htrans hbeside

theorem follow_within {conversation : Conversation World} (hresume : conversation.resume.Within R)
    (reading : Reading World) : (conversation.follow reading).Within R := by
  have hworld : ∀ (state : State World) (world : World), R state { state with world := world } :=
    fun state world => hbeside _ _ ⟨rfl, List.prefix_rfl, List.prefix_rfl⟩
  induction reading with
  | line text world => exact fun state => hworld state world
  | broken fault world => exact fun state => hworld state world
  | resume world next ih =>
      intro state
      rw [exec_follow_resume]
      exact htrans _ _ _ (hworld state world) (htrans _ _ _ (hresume _) (ih _ _ _ _))

/-- Whatever resuming keeps to, reading keeps to. -/
theorem readLine_within {conversation : Conversation World}
    (hresume : conversation.resume.Within R) (index : Nat) :
    (conversation.readLine index).Within R := by
  have hentry {entry : JournalEntry} (h : entry.startedIndex? = none) :
      (enter entry : Act World Unit).Within R := (Beside.enter h).mono hbeside
  unfold readLine
  refine ((Beside.currentLabel conversation).mono hbeside).bind htrans fun label => ?_
  intro state
  rw [exec_get_bind]
  refine (hentry rfl).bind htrans (fun _ => ?_) state
  refine (follow_within htrans hbeside hresume _).bind htrans fun line => ?_
  exact (hentry rfl).bind htrans fun _ state => hbeside _ _ (.refl state)

end Reading

/-! ## While the prompt is not expected -/

/-- As long as the prompt is not expected, the place in the script stays what it is. -/
def Steady (before after : State World) : Prop :=
  before.phase ≠ .paused → after.cursor = before.cursor

namespace Steady

theorem refl (state : State World) : Steady state state :=
  fun _ => rfl

theorem trans (a b c : State World) (hab : Steady a b) (hbc : Steady b c) : Steady a c := by
  intro h
  have hphase : b.phase = a.phase := congrArg Cursor.phase (hab h)
  exact (hbc (hphase ▸ h)).trans (hab h)

theorem of_beside (before after : State World) (h : Beside before after) : Steady before after :=
  fun _ => h.cursor

theorem resume (conversation : Conversation World) : conversation.resume.Within Steady := by
  intro state h
  rw [exec_resume_unexpected conversation h]
  exact (Beside.report conversation _ state).cursor

theorem congruence (conversation : Conversation World) :
    Congruence conversation conversation fun act _ => act.Within Steady where
  pure _ := refl
  throw _ := refl
  bind hact hnext := hact.bind trans hnext
  enter h := (Beside.enter h).mono of_beside
  log event := (Beside.log conversation event).mono of_beside
  wait _ := (Beside.perform _).mono of_beside
  assign binding := (Beside.assign conversation binding).mono of_beside
  report failure := (Beside.report conversation failure).mono of_beside
  currentLabel := (Beside.currentLabel conversation).mono of_beside
  switchTo label := (Beside.switchTo conversation label).mono of_beside
  readLine index := readLine_within trans of_beside (resume conversation) index

end Steady

/-! ## Failures and the journal only grow -/

/-- Failures and the journal of a state have only grown. -/
structure Grown (before after : State World) : Prop where
  failures : before.failures <+: after.failures
  journal : before.journal <+: after.journal

namespace Grown

theorem refl (state : State World) : Grown state state :=
  ⟨List.prefix_rfl, List.prefix_rfl⟩

theorem trans (a b c : State World) (hab : Grown a b) (hbc : Grown b c) : Grown a c :=
  ⟨hab.failures.trans hbc.failures, hab.journal.trans hbc.journal⟩

theorem of_beside (before after : State World) (h : Beside before after) : Grown before after :=
  ⟨h.failures, h.journal⟩

theorem started {before after : State World} (h : Grown before after) :
    before.cursor.started <+: after.cursor.started := by
  obtain ⟨entries, hentries⟩ := h.journal
  exact ⟨Conversation.started entries, by simp [State.cursor, ← hentries]⟩

theorem enter (entry : JournalEntry) : (enter entry : Act World Unit).Within Grown :=
  fun _ => ⟨List.prefix_rfl, List.prefix_append _ _⟩

theorem send (conversation : Conversation World) (step : Step) :
    (conversation.send step).Within Grown := by
  intro state
  exact (enter (.started step.index) state).trans _ _ _
    (of_beside _ _ (send_beside conversation step state))

theorem runAhead (conversation : Conversation World) (rest : List Step) :
    (conversation.runAhead rest).Within Grown := by
  induction rest with
  | nil => exact refl
  | cons step rest ih =>
      have hpass : (pass step : Act World Unit).Within Grown := fun state => ⟨List.prefix_rfl, List.prefix_rfl⟩
      refine hpass.bind trans fun _ => ?_
      by_cases hclient : step.element.isClient
      · rw [if_pos hclient]
        exact (send conversation step).bind trans fun _ => ih
      · rw [if_neg hclient]
        exact fun state => ⟨List.prefix_rfl, List.prefix_rfl⟩

theorem resume (conversation : Conversation World) : conversation.resume.Within Grown := by
  intro state
  by_cases h : state.phase = .paused
  · have hahead := runAhead conversation (conversation.steps.drop state.position)
      { state with phase := .resuming }
    rw [exec_resume_paused conversation h]
    dsimp only
    split
    · exact ⟨hahead.failures, hahead.journal⟩
    · exact ⟨hahead.failures, hahead.journal⟩
  · rw [exec_resume_unexpected conversation h]
    exact (Beside.report conversation _).mono of_beside state

theorem readLine (conversation : Conversation World) (index : Nat) :
    (conversation.readLine index).Within Grown :=
  readLine_within trans of_beside (resume conversation) index

/-- What a run is made of does the same to failures and journal. -/
theorem runCongruence (conversation : Conversation World) :
    RunCongruence conversation conversation fun act _ => act.Within Grown where
  pure _ := refl
  throw _ := refl
  bind hact hnext := hact.bind trans hnext
  enter _ := enter _
  log event := (Beside.log conversation event).mono of_beside
  wait _ := (Beside.perform _).mono of_beside
  assign binding := (Beside.assign conversation binding).mono of_beside
  report failure := (Beside.report conversation failure).mono of_beside
  currentLabel := (Beside.currentLabel conversation).mono of_beside
  switchTo label := (Beside.switchTo conversation label).mono of_beside
  readLine index := readLine conversation index
  elements := rfl
  start index := enter (.started index)
  send _ := send conversation _
  pass _ := fun _ => ⟨List.prefix_rfl, List.prefix_rfl⟩
  expectPrompt := fun _ => ⟨List.prefix_rfl, List.prefix_rfl⟩
  takeParked := fun _ => ⟨List.prefix_rfl, List.prefix_rfl⟩
  look h := fun state => h state state rfl rfl state

theorem runRest (conversation : Conversation World) (fuel : Nat) :
    (conversation.runRest fuel).Within Grown :=
  (runCongruence conversation).runRest fuel

end Grown

end MailScript.Conversation
