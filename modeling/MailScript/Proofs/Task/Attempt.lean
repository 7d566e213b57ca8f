import MailScript.Proofs.Conversation.Endings
import MailScript.Proofs.Script.Objections
import MailScript.Proofs.Task

/-! # How scripts end

A script that compiles ends, if it ends early, with a failure of its own or of a connection. Other
faults are neither: a pause of the script may be too long for a number of seconds, or the clock may
refuse it, and whatever escapes from a link escapes from the script. -/

namespace MailScript

/-- The faults with which elements end over links with certain settings, in terms of a network in
which nothing has been done yet. -/
inductive Fault.OfRun (elements : List Element) (configs : List Network.Config)
    (world : Network.World) : Fault → Prop where
  | execution {failure : Failure} (h : failure.kind.isA .execution) :
      OfRun elements configs world (.failure failure)
  | transport {failure : Failure} (h : failure.OfTransport) :
      OfRun elements configs world (.failure failure)
  | pauseTooLong {millis : Int} (hmem : Element.pause millis ∈ elements)
      (hlong : Binary64.seconds millis = none) : OfRun elements configs world .pauseTooLong
  | pauseRefused {millis : Int} {seconds : Binary64} {error : WaitError}
      (hmem : Element.pause millis ∈ elements) (hseconds : Binary64.seconds millis = some seconds)
      (hrefused : world.clock.refusal? (Clock.millisOf seconds) = some error) :
      OfRun elements configs world (.pauseRefused error)
  | link {config : Network.Config} {fault : Fault} (hconfig : config ∈ configs)
      (hescapes : world.Escapes config fault) : OfRun elements configs world fault

/-- A failure of a script that runs does not say that the script is missing. -/
theorem Fault.OfRun.not_scriptLoad {elements : List Element} {configs : List Network.Config}
    {world : Network.World} {failure : Failure}
    (h : Fault.OfRun elements configs world (.failure failure)) :
    ¬ failure.kind.isA .scriptLoad := by
  have hapart (kind : FailureKind) (h : kind.isA .execution ∨ kind.isA .transport) :
      ¬ kind.isA .scriptLoad := by
    revert h
    cases kind <;> decide
  cases h with
  | execution h => exact hapart _ (.inl h)
  | transport h => exact hapart _ (.inr h.kind)
  | link hconfig hescapes => exact absurd rfl (hescapes.foreign failure)

namespace Network

open Conversation in
/-- A script with readable patterns, run over links, ends with few faults. -/
theorem fault_of_runSessions {origin world : World} {elements : List Element}
    (hreadable : ∀ element ∈ elements, element.Readable) (hlater : origin.Later world)
    (keepGoing : Bool) (store : Variables) {fault : Fault}
    (h : ((⟨sessions world, elements, keepGoing⟩ : Conversation World).runSessions.exec
      (.initial store world)).1 = .error fault) :
    fault.OfRun elements (world.links.map Link.config) origin := by
  let Begun := World.Descends (world.links.map Link.config) origin
  have hstart (label : String) (after : World) (h : Begun after) : Begun (after.start label).2 :=
    h.start label
  have hkeep : (sessions world).Keep Begun := World.keep_descends world _ origin
  refine Raises.runSessions hstart (fun label after fault h hfault => ?_) ?_ ⟨hlater, rfl⟩ h
  · rcases World.fault_of_start hfault with ⟨failure, rfl, hfailure⟩ | ⟨place, link, hfind, hescapes⟩
    · exact .transport hfailure
    · exact .link (h.mem hfind) (hescapes.of_later h.later)
  · refine Raises.execute_of_readable hkeep (fun _ _ => .execution rfl) ?_ ?_ hreadable ?_
    · refine World.raiseIn_sessions world (fun fault hfault => ?_)
        fun config hconfig fault hescapes => .link hconfig hescapes
      obtain ⟨failure, rfl, hfailure⟩ := hfault
      exact .transport hfailure
    · rintro failure ⟨_, heq, hkind⟩
      cases heq
      refine Raises.reporting hkeep (.execution ?_)
      rcases hkind with hkind | hkind <;> rw [hkind] <;> decide
    · refine fun millis hmem => ⟨.pauseTooLong hmem, fun seconds after error h hseconds hwait => ?_⟩
      have hrefused : after.clock.refusal? (Clock.millisOf seconds) = some error :=
        Clock.refusal?_of_sleep hwait
      exact .pauseRefused hmem hseconds
        ((Clock.refusal?_congr h.later.limited _).symm.trans hrefused)

end Network

namespace Task

open Network (World)

variable {task : Task} {around : Surroundings} {path : Path} {world : World}

/-- How the links of a task are set up. -/
def linkConfigs (task : Task) (around : Surroundings) : List Network.Config :=
  (task.freshLinks around.settings).map Network.Link.config

/-- A script ends early because it cannot be run or because of its run. -/
theorem fault_of_attempt {fault : Fault}
    (h : (task.attempt around path world).1.outcome = .error fault) :
    task.prepared around path = .error fault ∨
      ∃ elements, task.prepared around path = .ok elements ∧
        fault.OfRun elements (task.linkConfigs around) world := by
  have hend := attempt_end task around path world
  generalize task.attempt around path world = result at hend h
  cases hend with
  | unprepared hprepared hlater hsockets =>
      cases h
      exact .inl hprepared
  | @ran elements begun keepGoing store ended hprepared hlater hsockets hlinks hran =>
      refine .inr ⟨elements, hprepared, ?_⟩
      have hfault : ended.1 = .error fault := error_of_map h
      subst hran
      have hreadable := Script.readable_of_compileFile (prepared_eq_ok_iff.mp hprepared).2
      have hrun := Network.fault_of_runSessions hreadable hlater keepGoing store hfault
      rwa [hlinks] at hrun

/-- No failure keeps links from being made. -/
theorem foreign_of_linkFault? {settings : Settings} {fault : Fault}
    (h : task.linkFault? settings = some fault) : fault.Foreign := by
  unfold linkFault? Network.Config.fault? at h
  split at h
  · cases h
  · split at h
    · cases h
    · cases h
      exact nofun

/-- A script is said to be missing if it cannot be read, and not otherwise. -/
theorem scriptLoad_iff_of_attempt {cause : Failure}
    (h : (task.attempt around path world).1.outcome = .error (.failure cause)) :
    cause.kind.isA .scriptLoad ↔ ∃ fault, around.files.read path = .error fault := by
  rcases fault_of_attempt h with hprepared | ⟨elements, hprepared, hrun⟩
  · rcases prepared_eq_error_iff.mp hprepared with hlinks | ⟨-, hcompile⟩
    · exact absurd rfl (foreign_of_linkFault? hlinks cause)
    · exact Script.scriptLoad_iff_of_compileFile hcompile
  · refine ⟨fun hload => absurd hload hrun.not_scriptLoad, fun ⟨fault, hread⟩ => ?_⟩
    obtain ⟨other, hother⟩ : ∃ other, compiled around path = .error other :=
      Script.error_of_unread hread around.settings.scriptEncoding
    cases (prepared_eq_ok_iff.mp hprepared).2.symm.trans hother

end Task

end MailScript
