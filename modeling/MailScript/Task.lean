import MailScript.Conversation.Lifecycle
import MailScript.Files.Search
import MailScript.Network.Factory
import MailScript.Script.Compilation
import MailScript.Seed
import MailScript.Timestamp

/-! # Tasks

A task runs scripts one after another, each over fresh links to the same servers, and says of each
whether it passed. A failing script ends the task or is recorded, as the task asks. -/

namespace MailScript

/-- How a script ended. -/
inductive ScriptStatus where
  | passed
  | failed
deriving DecidableEq, Repr

namespace ScriptStatus

def name : ScriptStatus → String
  | .passed => "passed"
  | .failed => "failed"

def ofName (name : String) : Except Fault ScriptStatus :=
  match [passed, failed].find? fun status => status.name == name with
  | some status => .ok status
  | none => .error (.unknownStatus name)

end ScriptStatus

/-- What is said of a script that was run. -/
structure ScriptResult where
  name : String
  status : ScriptStatus
  elementCount : Nat := 0
  failures : List String := []
  error : Option String := none
deriving DecidableEq, Repr

def ScriptResult.passed (result : ScriptResult) : Bool :=
  result.status == .passed

/-- What surrounds a task. -/
structure Surroundings where
  settings : Settings
  files : FileTree
  startedAt : Moment
deriving Inhabited

/-- Scripts to be run against servers. What is left open is taken from the settings. -/
structure Task where
  scripts : List Path
  hosts : List HostAddress
  shebang : Option String := none
  store : Variables := .empty
  quiet : Option Bool := none
  skip : Bool := false
  keepGoing : Option Bool := none
  failFast : Bool := true

namespace Task

open Network (World Factory)

/-- The labels that more than one host has, in order. -/
def duplicateLabels (task : Task) : List String :=
  let labels := task.hosts.map HostAddress.label
  (labels.filter fun label => 1 < labels.count label).eraseDups.mergeSort fun a b => a ≤ b

/-- What is missing from a task or ambiguous in it. -/
def problem? (task : Task) : Option ConfigurationCause :=
  if task.scripts.isEmpty then some .noScripts
  else if task.hosts.isEmpty then some .noHosts
  else if task.duplicateLabels.isEmpty then none
  else some (.duplicateLabels task.duplicateLabels)

/-- An event that quiet tasks report as fine detail only. -/
def note (task : Task) (settings : Settings) (name : String) : Event :=
  if task.quiet.getD settings.quiet then .debug name [] else .info name []

/-- Make fresh links with some factories, one after another. -/
def makeLinks (settings : Settings) : List Factory → World → Outcome World
  | [], world => (.ok (), world)
  | factory :: rest, world =>
    match factory.make settings world with
    | (.error fault, world) => (.error fault, world)
    | (.ok _, world) => makeLinks settings rest world

/-- What makes the links of a task. -/
def factories (task : Task) (settings : Settings) : List Factory :=
  task.hosts.map fun host => ⟨host, task.quiet, task.shebang.or settings.shebang⟩

/-- Make a fresh link to every host. -/
def connectLinks (task : Task) (settings : Settings) (world : World) : Outcome World :=
  makeLinks settings (task.factories settings) { world with links := [] }

/-- The variables that every script starts with. -/
def seed (task : Task) (around : Surroundings) : Seed :=
  (Seed.ofVariables task.store).set
    (around.settings.timestampVariable, some around.startedAt.render)

/-- What the scripts of a task are compiled with. -/
def setting (around : Surroundings) : Script.Setting :=
  ⟨"", around.files, none, around.settings.maxAttachmentBytes⟩

/-- What running a script came to: the number of its elements, if it has any, and the failures that
were tolerated, or what ended it. -/
structure ScriptRun where
  elementCount : Nat
  outcome : Except Fault (List Failure)

/-- Compile a script and run it over fresh links. -/
def attempt (task : Task) (around : Surroundings) (path : Path) (world : World) :
    ScriptRun × World :=
  let seed := task.seed around
  let world := { world with events := world.events ++ seed.events }
  match task.connectLinks around.settings world with
  | (.error fault, world) => (⟨0, .error fault⟩, world)
  | (.ok _, world) =>
    let compiled := Script.compileFile (setting around) around.settings.scriptEncoding path
    let world := { world with events := world.events ++ compiled.events }
    match compiled.result with
    | .error fault => (⟨0, .error fault⟩, world)
    | .ok elements =>
      let conversation : Conversation World :=
        ⟨Network.sessions world, elements,
          task.keepGoing.getD around.settings.continueAfterFailure⟩
      let (outcome, state) :=
        conversation.runSessions.run.run (Conversation.State.initial seed.store world)
      (⟨elements.length, outcome.map fun _ => state.failures⟩, state.world)

def scriptFailed (name : String) (cause : Failure) : Event :=
  .error "script_failed"
    [("script", .text name), ("error", .text cause.message),
      ("error_type", .text cause.kind.name)]

def scriptFinished (name : String) (status : ScriptStatus) (failures : Nat) : Event :=
  .info "script_finished"
    [("script", .text name), ("status", .text status.name), ("failures", .nat failures)]

/-- A failure of a script, named after the script unless the script could not be read. -/
def blame (name : String) (cause : Failure) : Failure :=
  if cause.kind.isA .scriptLoad then cause else .scriptFailed name cause

/-- Run a script and say how it ended. Only failures of the harness are recorded. -/
def runScript (task : Task) (around : Surroundings) (path : Path) (world : World) :
    Except Fault ScriptResult × World :=
  let name := path.name
  let world := world.log (task.note around.settings (" --- Running script: " ++ name ++ " --- "))
  let (run, world) := task.attempt around path world
  match run.outcome with
  | .ok failures =>
    let status := if failures.isEmpty then .passed else .failed
    (.ok ⟨name, status, run.elementCount, failures.map Failure.message, none⟩,
      world.log (scriptFinished name status failures.length))
  | .error (.failure cause) =>
    let world := world.log (scriptFailed name cause)
    let failure := blame name cause
    if task.failFast then (fail failure, world)
    else (.ok ⟨name, .failed, run.elementCount, [], some failure.message⟩, world)
  | .error fault => (.error fault, world)

def runScripts (task : Task) (around : Surroundings) :
    List Path → World → Except Fault (List ScriptResult) × World
  | [], world => (.ok [], world)
  | path :: rest, world =>
    match task.runScript around path world with
    | (.error fault, world) => (.error fault, world)
    | (.ok result, world) =>
      let (results, world) := task.runScripts around rest world
      (results.map fun results => result :: results, world)

def completed (results : List ScriptResult) : Event :=
  .info "task_completed"
    [("scripts", .nat results.length), ("passed", .nat (results.countP ScriptResult.passed))]

def execute (task : Task) (around : Surroundings) (world : World) :
    Except Fault (List ScriptResult) × World :=
  match task.problem? with
  | some cause => (fail (.configuration cause), world)
  | none =>
    if task.skip then (.ok [], world.log (task.note around.settings "Skipping execution"))
    else
      match around.files.discover around.settings.scriptPattern task.scripts with
      | .error fault => (.error fault, world)
      | .ok paths =>
        match task.runScripts around paths world with
        | (.error fault, world) => (.error fault, world)
        | (.ok results, world) => (.ok results, world.log (completed results))

end Task

end MailScript
