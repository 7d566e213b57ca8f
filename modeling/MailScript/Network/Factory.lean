import MailScript.HostAddress
import MailScript.Network.World

/-! # Links to a server

For every script a fresh link is made to a server that runs elsewhere. -/

namespace MailScript.Network

/-- What fresh links to a server are made from. -/
structure Factory where
  address : HostAddress
  quiet : Option Bool
  shebang : Option String
deriving DecidableEq, Repr

namespace Factory

/-- How the links of a factory are set up. -/
def config (factory : Factory) (settings : Settings) : Config :=
  .ofSettings settings ⟨factory.address.label, factory.address.host, factory.address.port⟩
    factory.quiet factory.shebang none none none

/-- The event of a link that is made. -/
def created (factory : Factory) : Event :=
  .debug "creating_session" [("alias", .text factory.address.label)]

/-- Add a fresh link to a network. -/
def create (factory : Factory) (settings : Settings) (world : World) : World :=
  { world with
    links := world.links ++ [.fresh (factory.config settings)]
    events := world.events ++ [factory.created] }

/-- Make a fresh link, if one can be set up. -/
def make (factory : Factory) (settings : Settings) (world : World) : Outcome World :=
  match Config.fault? settings with
  | some fault => (.error fault, world.log factory.created)
  | none => (.ok (), factory.create settings world)

def describe (factory : Factory) : String :=
  "ExternalSessionFactory(alias=" ++ Text.quoted factory.address.label ++ ", host="
    ++ Text.quoted factory.address.host ++ ", port=" ++ toString factory.address.port
    ++ ", shebang=" ++ Link.shown factory.shebang ++ ")"

end Factory

end MailScript.Network
