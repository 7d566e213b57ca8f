import MailScript.Conversation.Lifecycle
import MailScript.Proofs.Network.Ownership

/-! # Links from their start to their stop

The links of a conversation are started one after another and stopped one after another. Wherever
starting ends, the sockets opened so far are accounted for, and behind the stop no link holds one. -/

namespace MailScript.Conversation

variable {World : Type}

/-- Stopping a session calls it, and reports an error. -/
theorem run_stop (conversation : Conversation World) (label : String) (state : State World) :
    ((conversation.stop label).run state).2 =
      let outcome := conversation.sessions.stop label state.world
      { state with world := match outcome.1 with
        | .ok _ => outcome.2
        | .error fault => conversation.sessions.log (stopFailed label fault) outcome.2 } := by
  have hcall : (perform (conversation.sessions.stop label) : Act World Unit).run.run state = _ :=
    exec_perform (conversation.sessions.stop label) state
  unfold stop
  rw [StateT.run_bind, hcall]
  rcases conversation.sessions.stop label state.world with ⟨_ | _, world⟩ <;> rfl

theorem exec_runSessions (conversation : Conversation World) (state : State World) :
    conversation.runSessions.exec state =
      let ended := conversation.startAndExecute.exec state
      (ended.1, ((conversation.stopAll conversation.sessions.labels).run ended.2).2) := rfl

section Links

variable {conversation : Conversation Network.World} {state : State Network.World}
  {left : Prop} {labels : List String} {earlier : List Network.Socket}

/-- Starting links of different labels keeps account of all sockets, wherever it ends. -/
theorem accounted_startAll {world : Network.World}
    (hsessions : conversation.sessions = Network.sessions world) {rest : List String}
    (hrest : rest.Nodup) (h : state.world.Accounted left labels earlier)
    (hidle : ∀ label ∈ rest, state.world.Idle label) :
    ((conversation.startAll rest).exec state).2.world.Accounted left labels earlier := by
  induction rest generalizing state with
  | nil => exact h
  | cons label rest ih =>
      rw [List.nodup_cons] at hrest
      rw [List.forall_mem_cons] at hidle
      have hstart := h.start hidle.1
      have hlater : ∀ other ∈ rest, (state.world.start label).2.Idle other := fun other hother =>
        (hidle.2 other hother).start fun hsame => hrest.1 (hsame ▸ hother)
      have hcall : conversation.sessions.start label = Network.World.start label := by
        rw [hsessions]
        rfl
      rw [startAll, exec_bind, exec_perform, hcall]
      generalize state.world.start label = result at hstart hlater
      obtain ⟨outcome, after⟩ := result
      cases outcome with
      | error fault => exact hstart
      | ok _ => exact ih hrest.2 hstart hlater

/-- If all links start, each of them is right behind its start at the end. -/
theorem fresh_startAll {world : Network.World}
    (hsessions : conversation.sessions = Network.sessions world) {rest : List String}
    {after : State Network.World}
    (hstart : (conversation.startAll rest).exec state = (.ok (), after)) {label : String}
    (hlabel : label ∈ rest ∨ state.world.Fresh label) : after.world.Fresh label := by
  induction rest generalizing state with
  | nil =>
      cases hstart
      exact hlabel.resolve_left List.not_mem_nil
  | cons first rest ih =>
      have hcall : conversation.sessions.start first = Network.World.start first := by
        rw [hsessions]
        rfl
      rw [startAll, exec_bind, exec_perform, hcall] at hstart
      cases hresult : state.world.start first with
      | mk outcome begun =>
          rw [hresult] at hstart
          cases outcome with
          | error fault => cases hstart
          | ok _ =>
              refine ih hstart ?_
              -- A link that is started once more is right behind this start.
              by_cases heq : first = label
              · subst heq
                exact .inr (Network.World.fresh_of_start hresult)
              · rcases hlabel with hmem | hfresh
                · exact .inl ((List.mem_cons.mp hmem).resolve_left (Ne.symm heq))
                · have hkept := hfresh.start heq
                  rw [hresult] at hkept
                  exact .inr hkept

/-- Links that are stopped are idle, and idle links stay so. -/
theorem accounted_stopAll {world : Network.World}
    (hsessions : conversation.sessions = Network.sessions world) (hlabels : labels.Nodup)
    (rest : List String) (h : state.world.Accounted left labels earlier) :
    (((conversation.stopAll rest).run state).2.world.Accounted left labels earlier) ∧
      ∀ label, label ∈ rest ∨ state.world.Idle label →
        ((conversation.stopAll rest).run state).2.world.Idle label := by
  induction rest generalizing state with
  | nil =>
      refine ⟨h, fun label hlabel => ?_⟩
      rcases hlabel with hmem | hidle
      · cases hmem
      · exact hidle
  | cons first rest ih =>
      have hcall : conversation.sessions.stop first = Network.World.stop first := by
        rw [hsessions]
        rfl
      have hstop : ((conversation.stop first).run state).2.world =
          (state.world.stop first).2 := by
        rw [run_stop, hcall]
        dsimp only
        rw [Network.World.stop_ok]
      have hrun : ((conversation.stopAll (first :: rest)).run state).2 =
          ((conversation.stopAll rest).run ((conversation.stop first).run state).2).2 := rfl
      obtain ⟨haccounted, hidle⟩ := ih (hstop ▸ h.stop first)
      rw [hrun]
      refine ⟨haccounted, fun label hlabel => hidle label ?_⟩
      rw [hstop]
      rcases hlabel with hmem | hbefore
      · rcases List.mem_cons.mp hmem with rfl | hrest
        · exact .inr (h.idle_stop hlabels label)
        · exact .inl hrest
      · exact .inr (hbefore.stop first)

end Links

end MailScript.Conversation
