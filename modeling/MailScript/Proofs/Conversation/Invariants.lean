import MailScript.Proofs.Conversation.Running

/-! # Invariants of sessions

What every call of the sessions keeps true of their world, a whole run keeps true: a conversation
does nothing to the world but call its sessions. -/

namespace MailScript

variable {World : Type}

/-- What a session does while a line is read keeps a property of the world. -/
def Reading.Keeps (P : World → Prop) : Reading World → Prop
  | .line _ world => P world
  | .broken _ world => P world
  | .resume world next =>
    P world ∧ ∀ outcome view world, P world → (next outcome view world).Keeps P

/-- All calls while a script runs keep a property of the world. -/
structure Sessions.Keep (P : World → Prop) (sessions : Sessions World) : Prop where
  readLine : ∀ label view world, P world → (sessions.readLine label view world).Keeps P
  writeLine : ∀ label line world, P world → P (sessions.writeLine label line world).2
  upload : ∀ label attachment world, P world → P (sessions.upload label attachment world).2
  wait : ∀ seconds world, P world → P (sessions.wait seconds world).2
  log : ∀ event world, P world → P (sessions.log event world)

theorem Reading.keeps_true (reading : Reading World) : reading.Keeps fun _ => True := by
  induction reading with
  | line | broken => trivial
  | resume world next ih => exact ⟨trivial, fun outcome view world _ => ih outcome view world⟩

theorem Sessions.keep_true (sessions : Sessions World) : sessions.Keep fun _ => True where
  readLine _ _ _ _ := Reading.keeps_true _
  writeLine _ _ _ _ := trivial
  upload _ _ _ _ := trivial
  wait _ _ _ := trivial
  log _ _ _ := trivial

namespace Conversation

variable {α β : Type} {P : World → Prop}

/-- An action keeps a property of the world. -/
def Act.Keeps (P : World → Prop) (act : Act World α) : Prop :=
  ∀ state, P state.world → P (act.exec state).2.world

namespace Keeps

theorem bind {act : Act World α} {next : α → Act World β} (hact : act.Keeps P)
    (hnext : ∀ x, (next x).Keeps P) : Act.Keeps P (act >>= next) := by
  intro state hstate
  have hfirst := hact state hstate
  rw [exec_bind]
  rcases hexec : act.exec state with ⟨fault | x, after⟩
  · rwa [hexec] at hfirst
  · rw [hexec] at hfirst
    exact hnext x after hfirst

theorem update {f : State World → State World} (h : ∀ state, (f state).world = state.world) :
    (modify f : Act World Unit).Keeps P := by
  intro state hstate
  rw [exec_modify, h]
  exact hstate

theorem perform {call : World → Outcome World} (h : ∀ world, P world → P (call world).2) :
    (Conversation.perform call).Keeps P := by
  intro state hstate
  rw [exec_perform]
  exact h state.world hstate

variable {conversation : Conversation World}

theorem currentLabel : conversation.currentLabel.Keeps P := by
  intro state hstate
  rw [exec_currentLabel]
  split
  · exact hstate
  · exact hstate
  · exact hstate

variable (h : conversation.sessions.Keep P)

include h

theorem report (failure : Failure) : (conversation.report failure).Keeps P := by
  intro state hstate
  by_cases hkeep : conversation.keepGoing
  · rw [exec_report_tolerant hkeep]
    exact h.log _ _ hstate
  · rw [exec_report_strict hkeep]
    exact hstate

theorem switchTo (label : String) : (conversation.switchTo label).Keeps P := by
  intro state hstate
  rw [exec_switchTo]
  split
  · exact h.log _ _ hstate
  · exact hstate

theorem send (step : Step) : (conversation.send step).Keeps P := by
  have hentry (entry : JournalEntry) : (enter entry : Act World Unit).Keeps P :=
    update fun _ => rfl
  unfold Conversation.send
  refine bind (hentry _) fun _ => ?_
  cases step.element with
  | request template =>
      refine bind currentLabel fun label state hstate => ?_
      exact bind (hentry _) (fun _ => perform (h.writeLine label _)) state hstate
  | upload attachment =>
      refine bind currentLabel fun label state hstate => ?_
      exact bind (hentry _) (fun _ => perform (h.upload label attachment)) state hstate
  | _ => exact fun _ hstate => hstate

theorem runAhead (rest : List Step) : (conversation.runAhead rest).Keeps P := by
  induction rest with
  | nil => exact fun _ hstate => hstate
  | cons step rest ih =>
      refine bind (update fun _ => rfl) fun _ => ?_
      split
      · exact bind (send h step) fun _ => ih
      · exact update fun _ => rfl

theorem resume : conversation.resume.Keeps P := by
  intro state hstate
  by_cases hphase : state.phase = .paused
  · have hahead := runAhead h (conversation.steps.drop state.position)
      { state with phase := .resuming } hstate
    rw [exec_resume_paused conversation hphase]
    dsimp only
    split
    · exact h.log _ _ hahead
    · exact hahead
  · rw [exec_resume_unexpected conversation hphase]
    exact report h _ state hstate

/-- A read keeps what its session and resuming keep. -/
theorem follow {reading : Reading World} (hreading : reading.Keeps P) (state : State World) :
    P ((conversation.follow reading).exec state).2.world := by
  induction reading generalizing state with
  | line text world => exact hreading
  | broken fault world => exact hreading
  | resume world next ih =>
      have hresume := resume h { state with world := world } hreading.1
      rw [exec_follow_resume]
      exact ih _ _ _ (hreading.2 _ _ _ hresume) _

theorem readLine (index : Nat) : (conversation.readLine index).Keeps P := by
  unfold Conversation.readLine
  refine bind currentLabel fun label state hstate => ?_
  rw [exec_get_bind, exec_bind_ok (exec_enter ..)]
  have hread := follow h (h.readLine label state.view _ hstate)
    (state.enter (.reading index label state.sight))
  rw [exec_bind]
  split
  · rename_i hfollow
    rw [hfollow] at hread
    exact hread
  · rename_i hfollow
    rw [hfollow] at hread
    exact hread

theorem runCongruence :
    RunCongruence conversation conversation fun act _ => act.Keeps P where
  pure _ := fun _ hstate => hstate
  throw _ := fun _ hstate => hstate
  bind := bind
  enter _ := update fun _ => rfl
  log event := fun _ hstate => h.log event _ hstate
  wait seconds := perform (h.wait seconds)
  assign _ := fun _ hstate => h.log _ _ hstate
  report := report h
  currentLabel := currentLabel
  switchTo := switchTo h
  readLine := readLine h
  elements := rfl
  start _ := update fun _ => rfl
  send _ := send h _
  pass _ := update fun _ => rfl
  expectPrompt := update fun _ => rfl
  takeParked := fun _ hstate => hstate
  look hnext := fun state hstate => hnext state state rfl rfl state hstate

/-- What the sessions keep true of their world, a whole run keeps true. -/
theorem execute : conversation.execute.Keeps P :=
  (runCongruence h).execute (update fun _ => rfl)

end Keeps

end Conversation

end MailScript
