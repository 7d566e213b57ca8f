import MailScript.Failure
import MailScript.Text.Cut
import MailScript.Variables

/-! # Specifications of hosts and variables

Hosts and variables are given as texts. The first text that specifies nothing is a failure. -/

namespace MailScript.CommandLine

/-- Read the specifications of hosts. -/
def parseHosts : List String → Except Fault (List HostAddress)
  | [] => .ok []
  | spec :: rest =>
    match HostAddress.parse spec with
    | .ok host => do return host :: (← parseHosts rest)
    | .error e => fail (.configuration (.badHost spec e))

/-- Read the specification of a variable: a name in front of the first equals sign. -/
def parseVariable (spec : String) : Except Fault Binding :=
  match Text.cutAtFirst '=' spec.toList with
  | some (c :: name, value) => .ok (String.ofList (c :: name), some (String.ofList value))
  | _ => fail (.configuration (.badVariable spec))

/-- Read the specifications of variables. The last value of a name counts. -/
def parseVariables (specs : List String) : Except Fault Variables := do
  return Variables.ofList (← specs.mapM parseVariable)

end MailScript.CommandLine
