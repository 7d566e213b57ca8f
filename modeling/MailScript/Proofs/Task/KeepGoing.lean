import MailScript.Proofs.Task.Attempt

/-! # Going on behind a script that fails

A task that goes on behind failures has a result for every script, in order, as long as every script
ends by itself or with a failure. A script may also end with a fault that is none, and then the task
ends with it: the scripts behind it are not run, and nothing is said of those in front of it. -/

namespace MailScript

namespace Task

open Network (World)

variable {task : Task} {around : Surroundings} {path : Path} {paths : List Path} {world : World}

/-- The faults that escape from a script, which are no failures, in terms of the network in front of
the task: no links can be set up, the compilation ends with one, a pause is too long for a number of
seconds or refused by the clock, or one escapes from a link. -/
inductive Escapes (task : Task) (around : Surroundings) (world : World) (path : Path) :
    Fault → Prop where
  | unlinked {fault : Fault} (hlinks : task.linkFault? around.settings = some fault) :
      Escapes task around world path fault
  | uncompiled {fault : Fault} (hcompile : compiled around path = .error fault)
      (hforeign : fault.Foreign) : Escapes task around world path fault
  | pauseTooLong {elements : List Element} {millis : Int}
      (hcompile : compiled around path = .ok elements) (hmem : Element.pause millis ∈ elements)
      (hlong : Binary64.seconds millis = none) : Escapes task around world path .pauseTooLong
  | pauseRefused {elements : List Element} {millis : Int} {seconds : Binary64} {error : WaitError}
      (hcompile : compiled around path = .ok elements) (hmem : Element.pause millis ∈ elements)
      (hseconds : Binary64.seconds millis = some seconds)
      (hrefused : world.clock.refusal? (Clock.millisOf seconds) = some error) :
      Escapes task around world path (.pauseRefused error)
  | link {config : Network.Config} {fault : Fault} (hconfig : config ∈ task.linkConfigs around)
      (hescapes : world.Escapes config fault) : Escapes task around world path fault

/-- What escapes later would have escaped at first. -/
theorem Escapes.of_later {after : World} {fault : Fault} (h : task.Escapes around after path fault)
    (hlater : world.Later after) : task.Escapes around world path fault := by
  cases h with
  | unlinked hlinks => exact .unlinked hlinks
  | uncompiled hcompile hforeign => exact .uncompiled hcompile hforeign
  | pauseTooLong hcompile hmem hlong => exact .pauseTooLong hcompile hmem hlong
  | pauseRefused hcompile hmem hseconds hrefused =>
      exact .pauseRefused hcompile hmem hseconds
        ((Clock.refusal?_congr hlater.limited _).symm.trans hrefused)
  | link hconfig hescapes => exact .link hconfig (hescapes.of_later hlater)

end Task

end MailScript
