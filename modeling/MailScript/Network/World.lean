import MailScript.Conversation.Session
import MailScript.Network.Link

/-! # Links in a network

A network offers services at hosts and ports. Connecting a link opens a socket to a service, unless
there is an outage; every socket that was opened stays known. -/

namespace MailScript.Network

/-- Why no connection can be opened: the system says so, or the address cannot be put to it. The
latter has a category and a wording. -/
inductive OpenError where
  | system (error : SystemError)
  | rejected (category text : String)
deriving DecidableEq, Repr

instance : Coe (Option SystemError) (Option OpenError) := ⟨Option.map .system⟩

/-- What opening a connection to an address fails with. -/
def OpenError.fault (endpoint : Endpoint) : OpenError → Fault
  | .system error => .failure (.openFailed endpoint error)
  | .rejected category text => .addressRejected category text

/-- A service: the connections that it will offer one after another, and errors that keep an address
or a socket from being had. -/
structure Service where
  host : String
  port : Int
  connections : List Behaviour
  resolveError : Option OpenError
  socketError : Option SystemError
deriving DecidableEq, Repr

/-- A network with the links that use it, a clock and the events reported. Each attempt to open a
connection meets the next outage, if there is one. -/
structure World where
  services : List Service
  sockets : List Socket
  links : List Link
  clock : Clock
  events : List Event
  outages : List (Option OpenError)

namespace World

def ofServices (services : List Service) : World := ⟨services, [], [], .zero, [], []⟩

def log (world : World) (event : Event) : World :=
  { world with events := world.events ++ [event] }

/-- The error of a host that nobody knows. -/
def unknownHost : SystemError := .numbered (-2) "Name or service not known" none

/-- The behaviour of a service that offers no more connections. -/
def refusing : Behaviour := ⟨[111], [], [], none⟩

/-- Take the next connection of the service at an address, if there is one. -/
def takeConnection (host : String) (port : Int) :
    List Service → Except OpenError (Behaviour × List Service)
  | [] => .error (.system unknownHost)
  | service :: rest =>
    if service.host = host ∧ service.port = port then
      match service.resolveError.or (service.socketError.map .system), service.connections with
      | some error, _ => .error error
      | none, [] => .ok (refusing, service :: rest)
      | none, behaviour :: later =>
        .ok (behaviour, { service with connections := later } :: rest)
    else do
      let (behaviour, services) ← takeConnection host port rest
      return (behaviour, service :: services)

/-- Attempt to open a connection to an address. -/
def openConnection (host : String) (port : Int) (world : World) :
    Except OpenError Behaviour × World :=
  let later := { world with outages := world.outages.tail }
  match world.outages.head?.join with
  | some error => (.error error, later)
  | none =>
    match takeConnection host port world.services with
    | .error error => (.error error, later)
    | .ok (behaviour, services) => (.ok behaviour, { later with services := services })

/-- The place and the link of a label. -/
def findLink (world : World) (label : String) : Option (Nat × Link) :=
  (world.links.zipIdx.find? fun entry => entry.1.config.label == label).map
    fun entry => (entry.2, entry.1)

/-- Put a link in its place. -/
def setLink (world : World) (place : Nat) (link : Link) : World :=
  { world with links := world.links.set place link }

def addSocket (world : World) (socket : Socket) : World :=
  { world with sockets := world.sockets ++ [socket] }

/-- The end of an attempt to connect that came to nothing: the socket is closed, and an error of
closing it wins. -/
def abandon (world : World) (socket : Socket) (failure : Failure) : Outcome World :=
  let (error, closed) := socket.close
  (.error (match error with
    | some error => .system error
    | none => .failure failure), world.addSocket closed)

def connect (world : World) (place : Nat) (link : Link) (socket : Socket) : Outcome World :=
  let config := link.config
  let run := awaitConnection config.connectPatience world.clock.now socket.behaviour.connects
    world.clock
  let tried :=
    { socket.count .connect run.attempts with
      behaviour := { socket.behaviour with connects := run.connects } }
  let pending := List.replicate run.pending (config.detail "session_connect_pending")
  let world := { world with clock := run.clock, events := world.events ++ pending }
  match run.ending with
  | .connected =>
    (.ok (),
      ((world.addSocket tried).setLink place
        { link with socket := some world.sockets.length }).log
          (.debug "line_transport_connected"
            [("alias", .text config.label), ("host", .text config.endpoint.host),
              ("port", .int config.endpoint.port)]))
  | .refused number => world.abandon tried (.connectRefused config.endpoint number)
  | .timedOut =>
    world.abandon tried
      (.connectTimedOut config.endpoint (config.connectTimeout.getD (.ofInt 0)))
  -- Only a failure closes the socket again.
  | .pauseRefused error => (.error (.pauseRefused error), world.addSocket tried)

def start (label : String) (world : World) : Outcome World :=
  match world.findLink label with
  | none => (.error (.failure (.notConnected label)), world)
  | some (place, link) =>
    let link := link.renewed
    let endpoint := link.config.endpoint
    let world := (world.setLink place link).log
      (link.config.note "session_connecting"
        [("host", .text endpoint.host), ("port", .int endpoint.port)])
    match world.openConnection endpoint.host endpoint.port with
    | (.error error, world) => (.error (error.fault endpoint), world)
    | (.ok behaviour, world) => world.connect place link (.fresh endpoint.address behaviour)

def closedEvent (link : Link) : Event :=
  .info "line_transport_closed"
    [("alias", .text link.config.label), ("bytes_sent", .nat link.bytesSent),
      ("bytes_received", .nat link.bytesReceived), ("lines_read", .nat link.linesRead),
      ("lines_written", .nat link.linesWritten)]

def closeFailed (label : String) (error : SystemError) : Event :=
  .warning "line_transport_close_failed"
    [("alias", .text label), ("error", .text error.message), ("error_type", .text error.typeName)]

/-- Stop a link. What it has received and not read stays with it. -/
def stop (label : String) (world : World) : Outcome World :=
  match world.findLink label with
  | none => (.ok (), world)
  | some (place, link) =>
    let world := world.log (link.config.note "session_closing" [])
    match link.socket with
    | none => (.ok (), world)
    | some index =>
      let error := (world.sockets[index]?).bind fun socket => socket.close.1
      let closed :=
        { world with sockets := world.sockets.modify index fun socket => socket.close.2 }
      let reported := match error with
        | some error => closed.log (closeFailed label error)
        | none => closed
      (.ok (), (reported.setLink place { link with socket := none }).log (closedEvent link))

/-! ## Links at work in a network -/

def station (world : World) (link : Link) : Station :=
  ⟨link, link.socket.bind fun index => world.sockets[index]?, world.clock, world.events⟩

/-- A network behind the work of a link. -/
def afterStation (world : World) (place : Nat) (station : Station) : World :=
  let sockets := match station.link.socket, station.socket with
    | some index, some socket => world.sockets.set index socket
    | _, _ => world.sockets
  { world with
    sockets := sockets
    links := world.links.set place station.link
    clock := station.clock
    events := station.events }

/-- Let the link of a label work. -/
def work {α : Type} (label : String) (job : Station → Except Fault α × Station)
    (world : World) : Except Fault α × World :=
  match world.findLink label with
  | none => (fail (.notConnected label), world)
  | some (place, link) =>
    let (outcome, station) := job (world.station link)
    (outcome, world.afterStation place station)

def readLine (label : String) (world : World) : Except Fault String × World :=
  world.work label Station.readLine

def writeLine (label line : String) (world : World) : Outcome World :=
  world.work label (Station.writeLine line)

def upload (label : String) (attachment : Attachment) (world : World) : Outcome World :=
  world.work label (Station.upload attachment)

/-- Wait for some seconds. -/
def wait (seconds : Binary64) (world : World) : Except WaitError Unit × World :=
  let (outcome, clock) := world.clock.sleep (Clock.millisOf seconds)
  (outcome, { world with clock := clock })

/-- Read a line over a link in a conversation. -/
def reading (label : String) (_view : View) (world : World) : Reading World :=
  match world.readLine label with
  | (.ok line, world) => .line line world
  | (.error fault, world) => .broken fault world

end World

/-- The links of a network as the sessions of a conversation. -/
def sessions (world : World) : Sessions World where
  labels := world.links.map fun link => link.config.label
  start := World.start
  stop := World.stop
  readLine := World.reading
  writeLine := World.writeLine
  upload := World.upload
  wait := World.wait
  log := fun event world => world.log event

end MailScript.Network
