import MailScript.Memory
import MailScript.Proofs.Conversation.Faults
import MailScript.Proofs.Conversation.Lifecycle

/-! # From the first start to the last stop

The sessions of a run are started in order, up to the first one that does not start. The script runs
if all of them have started. Whatever happened before, every session is stopped once, in order; what
stopping ends with is reported, and the run ends as if it had not been. -/

namespace MailScript.Conversation

variable {World : Type}

/-- Sessions are called one after another, each under its label and with an outcome. -/
inductive Calls (call : String → World → Outcome World) :
    List (String × Except Fault Unit) → World → World → Prop where
  | nil {world : World} : Calls call [] world world
  | cons {label : String} {outcome : Except Fault Unit} {calls : List (String × Except Fault Unit)}
      {world after last : World} (hcall : call label world = (outcome, after))
      (hrest : Calls call calls after last) : Calls call ((label, outcome) :: calls) world last

/-- All calls have succeeded. -/
def Succeeded (calls : List (String × Except Fault Unit)) : Prop :=
  ∀ call ∈ calls, call.2 = .ok ()

/-- The call that stops a session; an error of stopping is reported. -/
def stopReporting (conversation : Conversation World) (label : String) (world : World) :
    Outcome World :=
  match conversation.sessions.stop label world with
  | (.ok _, after) => (.ok (), after)
  | (.error fault, after) =>
    (.error fault, conversation.sessions.log (stopFailed label fault) after)

/-- How starting sessions ends: all of them have started, or the last one called has not. -/
inductive StartsEnd (conversation : Conversation World) (labels : List String)
    (state : State World) : Except Fault Unit × State World → Prop where
  | started {starts : List (String × Except Fault Unit)} {begun : World}
      (hcalls : Calls conversation.sessions.start starts state.world begun)
      (hlabels : starts.map Prod.fst = labels) (hok : Succeeded starts) :
      StartsEnd conversation labels state (.ok (), { state with world := begun })
  | stuck (front : List (String × Except Fault Unit)) {label : String} {fault : Fault}
      {begun : World}
      (hcalls : Calls conversation.sessions.start (front ++ [(label, .error fault)]) state.world
        begun)
      (hlabels : front.map Prod.fst ++ [label] <+: labels) (hok : Succeeded front) :
      StartsEnd conversation labels state (.error fault, { state with world := begun })

theorem startAll_end (conversation : Conversation World) (labels : List String)
    (state : State World) :
    StartsEnd conversation labels state ((conversation.startAll labels).exec state) := by
  induction labels generalizing state with
  | nil => exact .started .nil rfl nofun
  | cons label rest ih =>
      rw [startAll, exec_bind, exec_perform]
      rcases hcall : conversation.sessions.start label state.world with ⟨fault | _, after⟩
      · exact .stuck [] (.cons hcall .nil) (List.prefix_append [label] rest) nofun
      · have hrest := ih { state with world := after }
        dsimp only
        generalize (conversation.startAll rest).exec { state with world := after } = result at hrest
        cases hrest with
        | started hcalls hlabels hok =>
            exact .started (.cons hcall hcalls) (congrArg (List.cons label) hlabels)
              (List.forall_mem_cons.mpr ⟨rfl, hok⟩)
        | stuck front hcalls hlabels hok =>
            exact .stuck ((label, .ok ()) :: front) (.cons hcall hcalls)
              (List.cons_prefix_cons.mpr ⟨rfl, hlabels⟩) (List.forall_mem_cons.mpr ⟨rfl, hok⟩)

/-- Stopping sessions calls each of them, whatever the calls before came to. -/
theorem stopAll_end (conversation : Conversation World) (labels : List String)
    (state : State World) :
    ∃ stops last, Calls conversation.stopReporting stops state.world last ∧
      stops.map Prod.fst = labels ∧
      ((conversation.stopAll labels).run state).2 = { state with world := last } := by
  induction labels generalizing state with
  | nil => exact ⟨[], state.world, .nil, rfl, rfl⟩
  | cons label rest ih =>
      obtain ⟨stops, last, hcalls, hlabels, hrest⟩ :=
        ih { state with world := (conversation.stopReporting label state.world).2 }
      refine ⟨(label, (conversation.stopReporting label state.world).1) :: stops, last,
        .cons rfl hcalls, congrArg (List.cons label) hlabels, ?_⟩
      have hstop : ((conversation.stop label).run state).2 =
          { state with world := (conversation.stopReporting label state.world).2 } := by
        rw [run_stop, stopReporting]
        rcases conversation.sessions.stop label state.world with ⟨_ | _, _⟩ <;> rfl
      change ((conversation.stopAll rest).run ((conversation.stop label).run state).2).2 = _
      rw [hstop, hrest]

/-- A run starts the sessions in order up to the first that does not start, runs the script if all
have started, and then stops every session once, in order. It ends with the fault of the session
that did not start or as the script did; what stopping came to has no part in that. -/
theorem runSessions_lifecycle (conversation : Conversation World) (state : State World) :
    let labels := conversation.sessions.labels
    let result := conversation.runSessions.exec state
    ∃ starts stops begun ended last,
      Calls conversation.sessions.start starts state.world begun ∧
      ((starts.map Prod.fst = labels ∧ Succeeded starts ∧
          conversation.execute.exec { state with world := begun } = (result.1, ended)) ∨
        ∃ front label fault, starts = front ++ [(label, .error fault)] ∧ Succeeded front ∧
          starts.map Prod.fst <+: labels ∧ result.1 = .error fault ∧
          ended = { state with world := begun }) ∧
      Calls conversation.stopReporting stops ended.world last ∧ stops.map Prod.fst = labels ∧
      result.2 = { ended with world := last } := by
  intro labels result
  obtain ⟨stops, last, hstops, hlabels, hlast⟩ := stopAll_end conversation labels
    (conversation.startAndExecute.exec state).2
  have hstarts := startAll_end conversation labels state
  generalize hbegun : (conversation.startAll labels).exec state = started at hstarts
  cases hstarts with
  | @started starts begun hcalls hstarted hok =>
      have hexecute : conversation.startAndExecute.exec state =
          conversation.execute.exec { state with world := begun } := exec_bind_ok hbegun
      exact ⟨starts, stops, begun, _, last, hcalls, .inl ⟨hstarted, hok, hexecute.symm⟩, hstops,
        hlabels, hlast⟩
  | @stuck front label fault begun hcalls hstarted hok =>
      have hended : conversation.startAndExecute.exec state =
          (.error fault, { state with world := begun }) := exec_bind_error hbegun
      refine ⟨_, stops, begun, _, last, hcalls, .inr ⟨front, label, fault, rfl, hok, ?_, ?_, ?_⟩,
        hstops, hlabels, hlast⟩
      · rwa [List.map_append]
      · exact congrArg Prod.fst hended
      · exact congrArg Prod.snd hended

/-- The second of three sessions does not start, and stopping the first one fails. -/
example :
    let session (label : String) (startError stopError : Option String) : Memory.Session :=
      ⟨label, [], .never, startError, stopError⟩
    let world := Memory.World.ofSessions
      [session "imap" none "reset", session "smtp" "refused" none, session "pop" none none]
    let conversation : Conversation Memory.World := ⟨Memory.sessions world, [.request "NOOP"], false⟩
    let result := conversation.runSessions.exec (.initial .empty world)
    result.2.world.trace = [.started "imap", .started "smtp", .stopped "imap", .stopped "smtp",
      .stopped "pop"] ∧ result.2.journal = [] := by
  decide +kernel

/-! ## What a run keeps and what it ends with -/

section Keeping

variable {I : World → Prop} {call : String → World → Outcome World}
  {calls : List (String × Except Fault Unit)} {world last : World}

/-- What every call keeps, calls one after another keep. -/
theorem Calls.keeps (hkeep : ∀ label world, I world → I (call label world).2)
    (h : Calls call calls world last) (hworld : I world) : I last := by
  induction h with
  | nil => exact hworld
  | @cons label outcome calls world after last hcall _ ih =>
      have hafter := hkeep label world hworld
      rw [hcall] at hafter
      exact ih hafter

/-- Each of the calls was made where what every call keeps was true. -/
theorem Calls.exists_call (hkeep : ∀ label world, I world → I (call label world).2)
    (h : Calls call calls world last) (hworld : I world) {entry : String × Except Fault Unit}
    (hentry : entry ∈ calls) : ∃ before, I before ∧ (call entry.1 before).1 = entry.2 := by
  induction h with
  | nil => cases hentry
  | @cons label outcome calls world after last hcall _ ih =>
      rcases List.mem_cons.mp hentry with rfl | hlater
      · exact ⟨world, hworld, congrArg Prod.fst hcall⟩
      · have hafter := hkeep label world hworld
        rw [hcall] at hafter
        exact ih hafter hlater

variable {conversation : Conversation World}
  (hstart : ∀ label world, I world → I (conversation.sessions.start label world).2)

include hstart

theorem Keeps.startAll (labels : List String) : (conversation.startAll labels).Keeps I := by
  intro state hstate
  have hend := startAll_end conversation labels state
  generalize (conversation.startAll labels).exec state = result at hend ⊢
  cases hend with
  | started hcalls hlabels hok => exact hcalls.keeps hstart hstate
  | stuck front hcalls hlabels hok => exact hcalls.keeps hstart hstate

/-- What starting, running a script and stopping keep, a whole run keeps. -/
theorem Keeps.runSessions (hsessions : conversation.sessions.Keep I)
    (hstop : ∀ label world, I world → I (conversation.sessions.stop label world).2) :
    conversation.runSessions.Keeps I := by
  intro state hstate
  have hended : I (conversation.startAndExecute.exec state).2.world :=
    Keeps.bind (Keeps.startAll hstart _) (fun _ => Keeps.execute hsessions) state hstate
  have hreporting (label : String) (world : World) (h : I world) :
      I (conversation.stopReporting label world).2 := by
    have hstopped := hstop label world h
    unfold stopReporting
    split
    · rename_i hcall
      rwa [hcall] at hstopped
    · rename_i hcall
      rw [hcall] at hstopped
      exact hsessions.log _ _ hstopped
  obtain ⟨stops, last, hcalls, -, hlast⟩ := stopAll_end conversation conversation.sessions.labels
    (conversation.startAndExecute.exec state).2
  rw [exec_runSessions]
  dsimp only
  rw [hlast]
  exact hcalls.keeps hreporting hended

/-- A run ends with faults of starting its sessions or of its script. -/
theorem Raises.runSessions {P : Fault → Prop}
    (hraise : ∀ label world fault, I world →
      (conversation.sessions.start label world).1 = .error fault → P fault)
    (hexecute : conversation.execute.Raises I P) {state : State World} (hstate : I state.world)
    {fault : Fault} (h : (conversation.runSessions.exec state).1 = .error fault) : P fault := by
  rw [exec_runSessions] at h
  have hend := startAll_end conversation conversation.sessions.labels state
  generalize hbegun : (conversation.startAll conversation.sessions.labels).exec state = result
    at hend
  cases hend with
  | started hcalls hlabels hok =>
      have hended : conversation.startAndExecute.exec state = _ := exec_bind_ok hbegun
      rw [hended] at h
      exact hexecute.faults _ fault (hcalls.keeps hstart hstate) h
  | @stuck front label stuck begun hcalls hlabels hok =>
      have hended : conversation.startAndExecute.exec state = _ := exec_bind_error hbegun
      rw [hended] at h
      cases h
      obtain ⟨before, hbefore, hcall⟩ := hcalls.exists_call hstart hstate
        (List.mem_append_right front List.mem_cons_self)
      exact hraise label before fault hbefore hcall

end Keeping

end MailScript.Conversation
