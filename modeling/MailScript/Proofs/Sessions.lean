import MailScript.Memory
import MailScript.Network.World

/-! # What sessions do while lines are read from them

A session may ask the conversation to resume before it delivers a line. Sessions differ in what they
do when resuming fails, and in the faults with which their calls end. -/

namespace MailScript

/-- A fault of resuming ends the read with that fault. -/
def Reading.HandsOn {World : Type} : Reading World → Prop
  | .line _ _ | .broken _ _ => True
  | .resume _ next =>
    (∀ fault view world, ∃ after, next (.error fault) view world = .broken fault after) ∧
      ∀ outcome view world, (next outcome view world).HandsOn

/-- The faults with which a read may end, if resuming ends with such faults only, and in worlds with
a property. -/
def Reading.Raises {World : Type} (I : World → Prop) (P : Fault → Prop) : Reading World → Prop
  | .line _ _ => True
  | .broken fault _ => P fault
  | .resume _ next =>
    ∀ outcome view world, I world → (∀ fault, outcome = .error fault → P fault) →
      (next outcome view world).Raises I P

namespace Sessions

variable {World : Type}

/-- All reads hand on what resuming ends with. -/
def HandOn (sessions : Sessions World) : Prop :=
  ∀ label view world, (sessions.readLine label view world).HandsOn

/-- All calls while a script runs, made in worlds with a property, end with certain faults only. -/
structure RaiseIn (I : World → Prop) (P : Fault → Prop) (sessions : Sessions World) : Prop where
  readLine : ∀ label view world, I world → (sessions.readLine label view world).Raises I P
  writeLine : ∀ label line world fault, I world →
    (sessions.writeLine label line world).1 = .error fault → P fault
  upload : ∀ label attachment world fault, I world →
    (sessions.upload label attachment world).1 = .error fault → P fault

/-- All calls while a script runs end with certain faults only. -/
def Raise (P : Fault → Prop) (sessions : Sessions World) : Prop :=
  sessions.RaiseIn (fun _ => True) P

/-- Sessions that ask to resume before a read if a hook says so, from the next line of the session
and from whether the prompt is expected. -/
def hooked (hook : String → Option String → Bool → Bool) (nextLine : String → World → Option String)
    (sessions : Sessions World) : Sessions World :=
  { sessions with
    readLine := fun label view world =>
      if hook label (nextLine label world) (view.phase == .paused) then
        .resume world fun outcome view world =>
          match outcome with
          | .ok _ => sessions.readLine label view world
          | .error fault => .broken fault world
      else sessions.readLine label view world }

theorem HandOn.hooked {sessions : Sessions World} (h : sessions.HandOn)
    (hook : String → Option String → Bool → Bool) (nextLine : String → World → Option String) :
    (sessions.hooked hook nextLine).HandOn := by
  intro label view world
  unfold Sessions.hooked
  dsimp only
  split
  · refine ⟨fun fault view world => ⟨world, rfl⟩, fun outcome view world => ?_⟩
    cases outcome with
    | ok _ => exact h label view world
    | error fault => trivial
  · exact h label view world

theorem Raise.hooked {P : Fault → Prop} {sessions : Sessions World} (h : sessions.Raise P)
    (hook : String → Option String → Bool → Bool) (nextLine : String → World → Option String) :
    (sessions.hooked hook nextLine).Raise P := by
  refine ⟨fun label view world _ => ?_, h.writeLine, h.upload⟩
  unfold Sessions.hooked
  dsimp only
  split
  · intro outcome view world _ houtcome
    cases outcome with
    | ok _ => exact h.readLine label view world trivial
    | error fault => exact houtcome fault rfl
  · exact h.readLine label view world trivial

end Sessions

/-- A line that does not match, or a prompt that is missing or unexpected. -/
def Fault.IsMismatch (fault : Fault) : Prop :=
  ∃ failure, fault = .failure failure ∧
    (failure.kind = .mismatch ∨ failure.kind = .continuation)

/-! ## Sessions in memory -/

namespace Memory

/-- The next line of a session. -/
def World.nextLine (label : String) (world : World) : Option String :=
  (world.session? label).bind fun session => session.lines.head?

theorem handOn_sessions (world : World) (exhaustion : Exhaustion) :
    (sessions world exhaustion).HandOn := by
  have hdeliver (label : String) (world : World) : (deliver exhaustion label world).HandsOn := by
    unfold deliver
    split <;> trivial
  intro label view world
  change (readLine exhaustion label view world).HandsOn
  unfold readLine
  split
  · refine ⟨fun fault view world => ⟨world, rfl⟩, fun outcome view world => ?_⟩
    cases outcome with
    | ok _ => exact hdeliver label _
    | error fault => trivial
  · exact hdeliver label world

theorem raise_sessions {P : Fault → Prop} (world : World) {exhaustion : Exhaustion}
    (h : ∀ label, P (exhaustion label)) : (sessions world exhaustion).Raise P := by
  have hdeliver (label : String) (world : World) :
      (deliver exhaustion label world).Raises (fun _ => True) P := by
    unfold deliver
    split
    · trivial
    · exact h label
  refine ⟨fun label view world _ => ?_, ?_, ?_⟩
  · change (readLine exhaustion label view world).Raises (fun _ => True) P
    unfold readLine
    split
    · intro outcome view world _ houtcome
      cases outcome with
      | ok _ => exact hdeliver label _
      | error fault => exact houtcome fault rfl
    · exact hdeliver label world
  · intro label line world fault _ hfault
    cases hfault
  · intro label attachment world fault _ hfault
    cases hfault

end Memory

end MailScript
