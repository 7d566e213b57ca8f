import MailScript.CommandLine.Arguments
import MailScript.CommandLine.Specification
import MailScript.Task

/-! # Running the command line

The command line names scripts, hosts and variables. Its exit code says whether all scripts passed,
or that what it names makes no sense. -/

namespace MailScript.CommandLine

open Network (World)

/-- The first line of an IMAP session, for scripts that were recorded with it. -/
def imapShebang : String := "* OK IMAP4rev1 Server ready"

/-- All scripts passed. -/
def exitOk : Int := 0

/-- A script failed. -/
def exitFailure : Int := 1

/-- The arguments make no sense. -/
def exitBadConfiguration : Int := 2

/-- A log file that starts anew when it is full. -/
structure LogFile where
  name : String
  maxBytes : Nat
  backups : Nat
deriving DecidableEq, Repr

/-- How events are logged. -/
structure Logging where
  level : Level
  file : Option LogFile
deriving DecidableEq, Repr

/-- Where and how a command line logs. -/
def logging (settings : Settings) (options : Options) : Logging :=
  ⟨if options.debug then .debug else .info,
    settings.logDirectory.map fun _ => ⟨"mpt.log", 5242880, 5⟩⟩

/-- Make the directory for log files; something else may be in its way. -/
def makeLogDirectory (files : FileTree) (directory : Path) : Except Fault Unit :=
  match files.locate directory with
  | .ok (.inside parts) =>
    if files.isDirectory parts then .ok ()
    else .error (.system (.numbered 17 "File exists" (some directory.render)))
  | .ok .outside => .ok ()
  | .error (.system e) =>
    if e = .notFound directory.render then .ok () else .error (.system e)
  | .error fault => .error fault

/-- The task that options ask for. -/
def taskOf (options : Options) : Except Fault Task := do
  let hosts ← parseHosts options.hosts
  let store ← parseVariables options.assignments
  return {
    scripts := options.scripts.map Path.ofString
    hosts := hosts
    shebang := if options.imapShebang then some imapShebang else options.shebang
    store := store
    quiet := if options.quiet then some true else none
    skip := options.skip
    keepGoing := if options.continueAfterFailure then some true else none
    failFast := !options.keepGoing }

def resultEvent (result : ScriptResult) : Event :=
  .info "script_result"
    [("script", .text result.name), ("status", .text result.status.name),
      ("elements", .nat result.elementCount), ("error", .optionalText result.error),
      ("failures", .nat result.failures.length)]

def exitCode (results : List ScriptResult) : Int :=
  if results.all ScriptResult.passed then exitOk else exitFailure

/-- Run the task that options ask for. Failures of the harness become exit codes. -/
def runOptions (options : Options) (around : Surroundings) (world : World) :
    Except Fault Int × World :=
  let (outcome, world) := match taskOf options with
    | .ok task => task.execute around world
    | .error fault => (.error fault, world)
  match outcome with
  | .ok results =>
    (.ok (exitCode results), { world with events := world.events ++ results.map resultEvent })
  | .error (.failure cause) =>
    if cause.kind.isA .configuration then
      (.ok exitBadConfiguration,
        world.log (.error "configuration_error" [("error", .text cause.message)]))
    else (.ok exitFailure, world.log (.error "run_failed" [("error", .text cause.message)]))
  | .error fault => (.error fault, world)

/-- What running a command line comes to. -/
structure Report where
  outcome : Except Fault Int
  world : World
  /-- How events are logged, once that has been settled. -/
  logging : Option Logging
  /-- Why there was nothing to run. -/
  leave : Option Leave

/-- The exit code of leaving without a run. -/
def Leave.exitCode : Leave → Int
  | .help => exitOk
  | .usage _ => exitBadConfiguration

def run (arguments : List String) (around : Surroundings) (world : World) : Report :=
  match parseArguments arguments with
  | .error leave => ⟨.ok leave.exitCode, world, none, some leave⟩
  | .ok options =>
    let ready := match around.settings.logDirectory with
      | some directory => makeLogDirectory around.files (.ofString directory)
      | none => .ok ()
    match ready with
    | .error fault => ⟨.error fault, world, none, none⟩
    | .ok _ =>
      let (outcome, world) := runOptions options around world
      ⟨outcome, world, some (logging around.settings options), none⟩

end MailScript.CommandLine
