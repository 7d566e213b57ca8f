import MailScript.Proofs.Conversation.Actions
import MailScript.Proofs.Conversation.Invariants
import MailScript.Proofs.Sessions

/-! # The faults that actions end with

A script that goes on behind failures ends with a fault of its own elements or of its sessions, never
with a failure that it would note. -/

namespace MailScript

namespace Conversation

variable {World : Type} {α β : Type} {conversation : Conversation World}

/-- In worlds with a property an action ends with certain faults only, and it keeps the property. -/
structure Act.Raises (I : World → Prop) (P : Fault → Prop) (act : Act World α) : Prop where
  keeps : act.Keeps I
  faults : ∀ state fault, I state.world → (act.exec state).1 = .error fault → P fault

/-- A wait is refused with a fault that is no failure. -/
theorem foreign_of_pause {sessions : Sessions World} {seconds : Binary64} {world : World}
    {fault : Fault} (h : (sessions.pause seconds world).1 = .error fault) : fault.Foreign := by
  obtain ⟨error, -, rfl⟩ := error_of_mapError h
  exact nofun

namespace Raises

variable {I : World → Prop} {P : Fault → Prop}

theorem bind {act : Act World α} {next : α → Act World β} (hact : act.Raises I P)
    (hnext : ∀ x, (next x).Raises I P) : Act.Raises I P (act >>= next) := by
  refine ⟨Keeps.bind hact.keeps fun x => (hnext x).keeps, fun state fault hstate hfault => ?_⟩
  have hkept := hact.keeps state hstate
  have hfirst := hact.faults state
  rw [exec_bind] at hfault
  rcases hexec : act.exec state with ⟨first | x, after⟩
  · rw [hexec] at hfirst hfault
    cases hfault
    exact hfirst fault hstate rfl
  · rw [hexec] at hkept hfault
    exact (hnext x).faults after fault hkept hfault

theorem get_bind {next : State World → Act World β}
    (hnext : ∀ state, I state.world → (next state).Raises I P) :
    Act.Raises I P (get >>= next) where
  keeps state hstate := (hnext state hstate).keeps state hstate
  faults state fault hstate := (hnext state hstate).faults state fault hstate

theorem of_ok {act : Act World α} (hkeeps : act.Keeps I)
    (h : ∀ state, ∃ x, (act.exec state).1 = .ok x) : act.Raises I P := by
  refine ⟨hkeeps, fun state fault _ hfault => ?_⟩
  obtain ⟨x, hx⟩ := h state
  rw [hx] at hfault
  cases hfault

theorem pure (x : α) : (Pure.pure x : Act World α).Raises I P :=
  of_ok (fun _ hstate => hstate) fun _ => ⟨x, rfl⟩

theorem update {f : State World → State World} (h : ∀ state, (f state).world = state.world) :
    (modify f : Act World Unit).Raises I P :=
  of_ok (Keeps.update h) fun _ => ⟨(), rfl⟩

/-- What a call keeps and ends with, an action that makes the call keeps and ends with. -/
theorem perform {call : World → Outcome World} (hkeeps : ∀ world, I world → I (call world).2)
    (h : ∀ world fault, I world → (call world).1 = .error fault → P fault) :
    (Conversation.perform call).Raises I P := by
  refine ⟨Keeps.perform hkeeps, fun state fault hstate hfault => ?_⟩
  rw [exec_perform] at hfault
  exact h state.world fault hstate hfault

theorem takeParked : (Conversation.takeParked : Act World (Option Step)).Raises I P :=
  of_ok (fun _ hstate => hstate) fun state => ⟨state.parked, rfl⟩

section Running

variable (hkeep : conversation.sessions.Keep I) (hforeign : ∀ fault, fault.Foreign → P fault)
  (hlabel : ∀ label labels, P (.failure (.unknownLabel label labels)))
  (hsessions : conversation.sessions.RaiseIn I P)
  (hreport : ∀ failure, (Fault.failure failure).IsMismatch → (conversation.report failure).Raises I P)
  (htolerant : conversation.keepGoing)

include hkeep in
/-- Reporting an event ends with nothing. -/
theorem log (event : Event) : (conversation.log event).Raises I P :=
  of_ok (fun _ hstate => hkeep.log event _ hstate) fun _ => ⟨(), rfl⟩

include hkeep in
theorem report (htolerant : conversation.keepGoing) (failure : Failure) :
    (conversation.report failure).Raises I P :=
  of_ok (Keeps.report hkeep failure) fun state => ⟨(), by rw [exec_report_tolerant htolerant]⟩

include hkeep in
/-- Reporting a failure ends with nothing else. -/
theorem reporting {failure : Failure} (h : P (.failure failure)) :
    (conversation.report failure).Raises I P := by
  by_cases htolerant : conversation.keepGoing
  · exact report hkeep htolerant failure
  · refine ⟨Keeps.report hkeep failure, fun state fault _ hfault => ?_⟩
    rw [exec_report_strict htolerant] at hfault
    cases hfault
    exact h

include hlabel

theorem currentLabel : conversation.currentLabel.Raises I P := by
  refine ⟨Keeps.currentLabel, fun state fault _ hfault => ?_⟩
  rw [exec_currentLabel] at hfault
  split at hfault
  · cases hfault
  · cases hfault
  · cases hfault
    exact hlabel ..

include hkeep

theorem switchTo (label : String) : (conversation.switchTo label).Raises I P := by
  refine ⟨Keeps.switchTo hkeep label, fun state fault _ hfault => ?_⟩
  rw [exec_switchTo] at hfault
  split at hfault
  · cases hfault
  · cases hfault
    exact hlabel ..

include hsessions

theorem send (step : Step) : (conversation.send step).Raises I P := by
  have hentry (entry : JournalEntry) : (enter entry : Act World Unit).Raises I P :=
    update fun _ => rfl
  unfold Conversation.send
  refine bind (hentry _) fun _ => ?_
  cases step.element with
  | request template =>
      refine bind (currentLabel hlabel) fun label => get_bind fun state _ => ?_
      exact bind (hentry _) fun _ =>
        perform (hkeep.writeLine label _) (hsessions.writeLine label _)
  | upload attachment =>
      refine bind (currentLabel hlabel) fun label => get_bind fun state _ => ?_
      exact bind (hentry _) fun _ =>
        perform (hkeep.upload label attachment) (hsessions.upload label attachment)
  | _ => exact pure ()

theorem runAhead (rest : List Step) : (conversation.runAhead rest).Raises I P := by
  induction rest with
  | nil => exact pure ()
  | cons step rest ih =>
      refine bind (update fun _ => rfl) fun _ => ?_
      split
      · exact bind (send hkeep hlabel hsessions step) fun _ => ih
      · exact update fun _ => rfl

include hreport

theorem resume : conversation.resume.Raises I P := by
  refine ⟨Keeps.resume hkeep, fun state fault hstate hfault => ?_⟩
  by_cases h : state.phase = .paused
  · rw [exec_resume_paused _ h] at hfault
    dsimp only at hfault
    split at hfault
    · cases hfault
    · rename_i hahead
      cases hfault
      refine (runAhead hkeep hlabel hsessions _).faults _ _ ?_ hahead
      exact hstate
  · rw [exec_resume_unexpected _ h] at hfault
    exact (hreport _ ⟨_, rfl, .inr rfl⟩).faults state fault hstate hfault

/-- A read ends with what its session and resuming end with. -/
theorem follow {reading : Reading World} (hkeeps : reading.Keeps I) (h : reading.Raises I P) :
    (conversation.follow reading).Raises I P := by
  refine ⟨fun state _ => Keeps.follow hkeep hkeeps state, fun state fault _ hfault => ?_⟩
  induction reading generalizing state with
  | line text world => cases hfault
  | broken broken world =>
      cases hfault
      exact h
  | resume world next ih =>
      have hresume := resume hkeep hlabel hsessions hreport
      have hresumed := hresume.keeps { state with world := world } hkeeps.1
      rw [exec_follow_resume] at hfault
      refine ih _ _ _ (hkeeps.2 _ _ _ hresumed) (h _ _ _ hresumed fun fault hfault => ?_) _
        hresumed hfault
      exact hresume.faults _ fault hkeeps.1 hfault

theorem readLine (index : Nat) : (conversation.readLine index).Raises I P := by
  unfold Conversation.readLine
  refine bind (currentLabel hlabel) fun label => get_bind fun state hstate => ?_
  refine bind (update fun _ => rfl) fun _ => ?_
  refine bind (follow hkeep hlabel hsessions hreport (hkeep.readLine label _ _ hstate)
    (hsessions.readLine label _ _ hstate)) fun line => ?_
  exact bind (update fun _ => rfl) fun _ => pure line

omit hreport

include hforeign htolerant

theorem runCongruence : RunCongruence conversation conversation fun act _ => act.Raises I P where
  pure := pure
  throw hfault := ⟨fun _ hstate => hstate, fun state fault _ h => by
    cases h
    exact hforeign _ hfault⟩
  bind := bind
  enter _ := update fun _ => rfl
  log := log hkeep
  wait seconds := perform (fun world hworld => hkeep.wait seconds world hworld)
    fun _ _ _ h => hforeign _ (foreign_of_pause h)
  assign binding := of_ok (fun _ hstate => hkeep.log _ _ hstate) fun _ => ⟨(), rfl⟩
  report := report hkeep htolerant
  currentLabel := currentLabel hlabel
  switchTo := switchTo hkeep hlabel
  readLine := readLine hkeep hlabel hsessions fun failure _ => report hkeep htolerant failure
  elements := rfl
  start _ := update fun _ => rfl
  send _ := send hkeep hlabel hsessions _
  pass _ := update fun _ => rfl
  expectPrompt := update fun _ => rfl
  takeParked := takeParked
  look h := ⟨fun state hstate => (h state state rfl rfl).keeps state hstate,
    fun state => (h state state rfl rfl).faults state⟩

/-- A script that goes on behind failures ends with a fault of its own or of its sessions. -/
theorem execute : conversation.execute.Raises I P :=
  (runCongruence hkeep hforeign hlabel hsessions htolerant).execute (update fun _ => rfl)

end Running

end Raises

end Conversation

end MailScript
