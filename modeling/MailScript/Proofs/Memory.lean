import MailScript.Memory

/-! # Two worlds of sessions in memory

One world may be ahead of another one by some writes, and agree with it in the lines that its sessions
delivered and still have to deliver. Whatever happens to both keeps that so. -/

namespace MailScript.Memory

/-! ## What was done to the sessions -/

/-- Something was sent. -/
def Action.isWrite : Action → Bool
  | .wrote .. | .uploaded .. => true
  | _ => false

/-- A line was delivered. -/
def Action.isDelivery : Action → Bool
  | .delivered .. => true
  | _ => false

namespace World

/-- What was sent to the sessions, in order. -/
def written (world : World) : List Action :=
  world.trace.filter Action.isWrite

/-- The lines that the sessions delivered, in order. -/
def delivered (world : World) : List Action :=
  world.trace.filter Action.isDelivery

/-- The lines that each session still has to deliver. -/
def queues (world : World) : List (String × List String) :=
  world.sessions.map fun session => (session.label, session.lines)

/-- Let all sessions ask to resume as a policy says. -/
def withPolicy (world : World) (policy : ResumePolicy) : World :=
  { world with sessions := world.sessions.map fun session => { session with policy := policy } }

/-- All sessions ask to resume as a policy says. -/
def Uniform (policy : ResumePolicy) (world : World) : Prop :=
  ∀ session ∈ world.sessions, session.policy = policy

theorem written_add (world : World) (action : Action) :
    (world.add action).written = world.written ++ [action].filter Action.isWrite :=
  List.filter_append ..

theorem delivered_add (world : World) (action : Action) :
    (world.add action).delivered = world.delivered ++ [action].filter Action.isDelivery :=
  List.filter_append ..

@[simp] theorem written_change (world : World) (label : String) (f : Session → Session) :
    (world.change label f).written = world.written := rfl

@[simp] theorem delivered_change (world : World) (label : String) (f : Session → Session) :
    (world.change label f).delivered = world.delivered := rfl

theorem map_lines_session? (world : World) (label : String) :
    (world.session? label).map Session.lines =
      (world.queues.find? fun queue => queue.1 == label).map Prod.snd := by
  simp [session?, queues, List.find?_map, Function.comp_def]

theorem queues_change (world : World) (label : String) (rest : List String) :
    (world.change label fun session => { session with lines := rest }).queues =
      world.queues.map fun queue => if queue.1 = label then (queue.1, rest) else queue := by
  simp only [queues, change, List.map_map]
  refine List.map_congr_left fun session _ => ?_
  simp only [Function.comp_apply]
  split <;> rfl

namespace Uniform

variable {policy : ResumePolicy} {world : World}

theorem withPolicy (policy : ResumePolicy) (world : World) :
    Uniform policy (world.withPolicy policy) := by
  intro session hsession
  obtain ⟨_, _, rfl⟩ := List.mem_map.mp hsession
  rfl

theorem change (h : Uniform policy world) (label : String) (rest : List String) :
    Uniform policy (world.change label fun session => { session with lines := rest }) := by
  intro session hsession
  obtain ⟨before, hbefore, rfl⟩ := List.mem_map.mp hsession
  dsimp only
  split
  · exact h before hbefore
  · exact h before hbefore

theorem resumes_eq (h : Uniform policy world) (label : String) (view : View)
    (hview : policy = .never ∨ policy = .whenPaused ∧ view.phase ≠ .paused) :
    ((world.session? label).any fun session => session.resumes view) = false := by
  cases hsession : world.session? label with
  | none => rfl
  | some session =>
      have hpolicy : session.policy = policy := h session (List.mem_of_find?_eq_some hsession)
      rcases hview with rfl | ⟨rfl, hphase⟩
      · simp [Session.resumes, hpolicy]
      · simp [Session.resumes, hpolicy, hphase]

/-- Without a resume a read is just a delivery. -/
theorem readLine_eq (h : Uniform policy world) (exhaustion : Exhaustion) (label : String)
    (view : View) (hview : policy = .never ∨ policy = .whenPaused ∧ view.phase ≠ .paused) :
    Memory.readLine exhaustion label view world = Memory.deliver exhaustion label world := by
  unfold Memory.readLine
  rw [h.resumes_eq label view hview]
  rfl

theorem readLine_paused (h : Uniform .whenPaused world) (exhaustion : Exhaustion)
    {label : String} {session : Session} (hsession : world.session? label = some session)
    (view : View) (hphase : view.phase = .paused) :
    ∃ next, Memory.readLine exhaustion label view world =
        .resume (world.add (.resuming label view.phase)) next ∧
      ∀ view world, next (.ok ()) view world =
        Memory.deliver exhaustion label (world.add (.resumed label view)) := by
  have hpolicy : session.policy = .whenPaused := h session (List.mem_of_find?_eq_some hsession)
  have hresumes : (world.session? label).any fun session => session.resumes view := by
    simp [hsession, Session.resumes, hpolicy, hphase]
  refine ⟨_, if_pos hresumes, fun view world => rfl⟩

end Uniform

theorem deliver_of_session?_eq_none {world : World} {label : String}
    (h : world.session? label = none) (exhaustion : Exhaustion) :
    Memory.deliver exhaustion label world =
      .broken (exhaustion label) (world.add (.exhausted label)) := by
  unfold Memory.deliver
  rw [h]
  rfl

theorem readLine_of_session?_eq_none {world : World} {label : String}
    (h : world.session? label = none) (exhaustion : Exhaustion) (view : View) :
    Memory.readLine exhaustion label view world = Memory.deliver exhaustion label world := by
  unfold Memory.readLine
  rw [h]
  rfl

/-! ## One world ahead of another -/

/-- One world is ahead of another one by what was sent in it, and agrees with it otherwise. In the
one, sessions ask to resume when the prompt is expected; in the other they never do. -/
structure Leads (extra : List Action) (ahead behind : World) : Prop where
  queues : ahead.queues = behind.queues
  delivered : ahead.delivered = behind.delivered
  written : ahead.written = behind.written ++ extra
  clock : ahead.clock = behind.clock
  eager : Uniform .whenPaused ahead
  quiet : Uniform .never behind

namespace Leads

variable {extra : List Action} {ahead behind : World}

theorem withPolicy (world : World) :
    Leads [] (world.withPolicy .whenPaused) (world.withPolicy .never) where
  queues := by simp [World.queues, World.withPolicy, Function.comp_def]
  delivered := rfl
  written := (List.append_nil _).symm
  clock := rfl
  eager := .withPolicy _ _
  quiet := .withPolicy _ _

theorem logs (h : Leads extra ahead behind) (events events' : List Event) :
    Leads extra { ahead with events := events } { behind with events := events' } :=
  { h with }

/-- Both worlds wait, or in both the wait is refused. -/
theorem wait (h : Leads extra ahead behind) (seconds : Binary64) :
    (Memory.wait seconds ahead).1 = (Memory.wait seconds behind).1 ∧
      Leads extra (Memory.wait seconds ahead).2 (Memory.wait seconds behind).2 := by
  unfold Memory.wait
  rw [h.clock]
  exact ⟨rfl, { h with clock := rfl }⟩

/-- Something happens in the world ahead only. -/
theorem add_ahead (h : Leads extra ahead behind) (action : Action)
    (hdelivery : action.isDelivery = false) :
    Leads (extra ++ [action].filter Action.isWrite) (ahead.add action) behind where
  queues := h.queues
  delivered := by simp [delivered_add, hdelivery, h.delivered]
  written := by rw [written_add, h.written, List.append_assoc]
  clock := h.clock
  eager := h.eager
  quiet := h.quiet

/-- Something happens in the world behind that happened in the other one already. -/
theorem add_behind (action : Action) (h : Leads ([action].filter Action.isWrite ++ extra) ahead behind)
    (hdelivery : action.isDelivery = false) : Leads extra ahead (behind.add action) where
  queues := h.queues
  delivered := by simp [delivered_add, hdelivery, h.delivered]
  written := by rw [written_add, h.written, List.append_assoc]
  clock := h.clock
  eager := h.eager
  quiet := h.quiet

/-- What is neither sent nor delivered is left out of account. -/
theorem note (h : Leads extra ahead behind) (action : Action) (hwrite : action.isWrite = false)
    (hdelivery : action.isDelivery = false) : Leads extra (ahead.add action) behind := by
  simpa [hwrite] using h.add_ahead action hdelivery

theorem note_behind (h : Leads extra ahead behind) (action : Action)
    (hwrite : action.isWrite = false) (hdelivery : action.isDelivery = false) :
    Leads extra ahead (behind.add action) :=
  add_behind action (by simpa [hwrite] using h) hdelivery

/-- The world in the lead goes further ahead. -/
theorem lead (h : Leads extra ahead behind) {action : Action} (hwrite : action.isWrite)
    (hdelivery : action.isDelivery = false) :
    Leads (extra ++ [action]) (ahead.add action) behind := by
  simpa [hwrite] using h.add_ahead action hdelivery

/-- The world behind catches up. -/
theorem follow {action : Action} (h : Leads (action :: extra) ahead behind)
    (hwrite : action.isWrite) (hdelivery : action.isDelivery = false) :
    Leads extra ahead (behind.add action) :=
  add_behind action (by simpa [hwrite] using h) hdelivery

theorem dequeue (h : Leads extra ahead behind) (label line : String) (rest : List String) :
    Leads extra
      ((ahead.change label fun session => { session with lines := rest }).add
        (.delivered label line))
      ((behind.change label fun session => { session with lines := rest }).add
        (.delivered label line)) where
  queues := by
    change (ahead.change label _).queues = (behind.change label _).queues
    rw [queues_change, queues_change, h.queues]
  delivered := by simp [delivered_add, h.delivered]
  written := by simp [written_add, Action.isWrite, h.written]
  clock := h.clock
  eager := h.eager.change label rest
  quiet := h.quiet.change label rest

/-- Both worlds send the same. -/
theorem send (h : Leads [] ahead behind) {action : Action} (hwrite : action.isWrite)
    (hdelivery : action.isDelivery = false) : Leads [] (ahead.add action) (behind.add action) :=
  (h.lead hwrite hdelivery).follow hwrite hdelivery

/-- Both worlds deliver the same line, or none. -/
theorem deliver (h : Leads extra ahead behind) (exhaustion : Exhaustion) (label : String) :
    (∃ line ahead' behind', Memory.deliver exhaustion label ahead = .line line ahead' ∧
      Memory.deliver exhaustion label behind = .line line behind' ∧ Leads extra ahead' behind') ∨
    ∃ fault ahead' behind', Memory.deliver exhaustion label ahead = .broken fault ahead' ∧
      Memory.deliver exhaustion label behind = .broken fault behind' ∧
      Leads extra ahead' behind' := by
  have hlines : (ahead.session? label).map Session.lines =
      (behind.session? label).map Session.lines := by
    rw [map_lines_session?, map_lines_session?, h.queues]
  unfold Memory.deliver
  rw [hlines]
  rcases (behind.session? label).map Session.lines with _ | _ | ⟨line, rest⟩
  · exact .inr ⟨_, _, _, rfl, rfl, (h.note _ rfl rfl).note_behind _ rfl rfl⟩
  · exact .inr ⟨_, _, _, rfl, rfl, (h.note _ rfl rfl).note_behind _ rfl rfl⟩
  · exact .inl ⟨_, _, _, rfl, rfl, h.dequeue label line rest⟩

end Leads

end World

end MailScript.Memory
