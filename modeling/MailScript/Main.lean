import MailScript.CommandLine.Run
import MailScript.Settings.Environment
import Std.Time.Zoned

/-! # The program

Scripts are played against a recording: standard input holds what the first host said in an earlier
session, and the first connection to that host receives it. Events, and what is wrong with the
arguments, go to standard error. -/

namespace MailScript.CommandLine

open Network (World Service Behaviour)

/-! ## What is printed -/

/-- A decimal fraction with all its places. -/
def decimalText (d : Decimal) : String :=
  let digits := toString (d.coefficient.natAbs % d.denominator)
  (if d.coefficient < 0 then "-" else "") ++ toString (d.coefficient.natAbs / d.denominator) ++ "."
    ++ String.ofList (List.replicate (d.places - digits.length) '0') ++ digits

/-- A value of an event as it is printed. -/
def datumText : Datum → String
  | .null => "none"
  | .bool value => if value then "yes" else "no"
  | .int value => toString value
  | .decimal value => decimalText value
  | .text value => Text.quoted value
  | .list items => "[" ++ ", ".intercalate (items.map datumText) ++ "]"
  | .record entries => ", ".intercalate (entries.map (·.1))

def eventLine (event : Event) : String :=
  " ".intercalate
    (event.level.name :: event.name :: event.context.map fun entry =>
      entry.1 ++ "=" ++ datumText entry.2)

/-- The line that explains how the program is used. -/
def usageLine : String :=
  "usage: mpt --host ALIAS=HOST:PORT [options] SCRIPT [SCRIPT ...] < RECORDING"

/-- The lines that explain a fault. -/
def faultLines (fault : Fault) : List String :=
  (fault.typeName ++ ": " ++ fault.message)
    :: (fault.fields?.getD []).map fun error => "  " ++ error.field ++ ": " ++ error.kind

/-- The lines that a run prints. -/
def Report.lines (report : Report) : List String :=
  let events : List Event := match report.logging with
    | some logging => report.world.events.filter fun event =>
      logging.level.rank ≤ event.level.rank
    | none => []
  let leave := match report.leave with
    | some .help => [usageLine]
    | some (.usage error) => [usageLine, error.line]
    | none => []
  let fault := match report.outcome with
    | .error fault => faultLines fault
    | .ok _ => []
  events.map eventLine ++ leave ++ fault

/-! ## What is read -/

/-- The hosts that arguments name; none if the arguments make no sense. -/
def hostsOf (arguments : List String) : List HostAddress :=
  let hosts : Except Unit (List HostAddress) := do
    let options ← (parseArguments arguments).mapError fun _ => ()
    (parseHosts options.hosts).mapError fun _ => ()
  hosts.toOption.getD []

/-- The network in which the first connection to the first of some hosts receives a recording. -/
def recordedNetwork (hosts : List HostAddress) (recording : List UInt8) : World :=
  let connections (place : Nat) : List Behaviour :=
    if place = 0 then [⟨[], [.data recording], [], none⟩] else []
  let services := hosts.zipIdx.map fun host =>
    ⟨host.1.host, host.1.port, connections host.2, none, none⟩
  { World.ofServices services with clock := .system }

/-- The environment variables that give settings, as far as they are set. -/
def readEnvironment : IO (List Settings.Assignment) :=
  Settings.fieldNames.filterMapM fun field => do
    let name := (Settings.variableStart ++ field).toUpper
    return (← IO.getEnv name).map fun value => (name, value)

/-- The files with some names, as far as they can be read. -/
def readFiles (names : List String) : IO FileTree := do
  let files ← names.filterMapM fun (name : String) => do
    try
      let bytes ← IO.FS.readBinFile name
      return some (Path.ofString name, bytes.toList)
    catch _ => return none
  return .ofEntries [] files

/-- The current moment in universal time. -/
def currentMoment : IO Moment := do
  let now ← Std.Time.PlainDateTime.now
  return ⟨now.year.toInt.toNat, now.month.val.toNat, now.day.val.toNat, now.hour.val.toNat,
    now.minute.val.toNat, now.second.val.toNat, 0⟩

/-- Standard input up to its end; nothing is read without hosts. -/
def readRecording (hosts : List HostAddress) : IO (List UInt8) := do
  if hosts.isEmpty then return []
  else return Text.encodeUtf8 (← (← IO.getStdin).readToEnd)

end MailScript.CommandLine

open MailScript MailScript.CommandLine in
/-- Play the scripts that the arguments name, and return the exit code. -/
def main (arguments : List String) : IO UInt32 := do
  let files ← readFiles (Settings.assignmentFile :: arguments)
  match Settings.load (← readEnvironment) files with
  | .error fault =>
    (faultLines fault).forM IO.eprintln
    return 1
  | .ok settings =>
    let hosts := hostsOf arguments
    let world := recordedNetwork hosts (← readRecording hosts)
    let report := run arguments ⟨settings, files, ← currentMoment⟩ world
    report.lines.forM IO.eprintln
    return match report.outcome with
      | .ok code => code.toNat.toUInt32
      | .error _ => 1
