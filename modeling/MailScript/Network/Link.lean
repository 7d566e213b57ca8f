import MailScript.Element
import MailScript.Event
import MailScript.Network.Socket
import MailScript.Settings
import MailScript.Text.Encoding

/-! # Links

A link is a session over a network connection. It reads lines from a stream of bytes: a line ends at
a line feed, carriage returns are dropped, and every other byte is the character of the same code.
Bytes that have been received and not yet read are kept, whatever becomes of the connection. It
writes lines with a carriage return and a line feed behind each. -/

namespace MailScript.Network

/-- A number of bytes may be given as one that cannot be negative. -/
instance instCoeSize : Coe (Option Nat) (Option Int) := ⟨Option.map Int.ofNat⟩

/-- How a link is set up. -/
structure Config where
  endpoint : Endpoint
  quiet : Bool
  /-- The line that stands for the first line read. -/
  shebang : Option String
  readTimeout : Option Decimal
  connectTimeout : Option Decimal
  bufferSize : Int
  readPatience : Patience
  connectPatience : Patience

namespace Config

/-- A link set up from settings, some of which may be replaced. A size of zero replaces nothing. -/
def ofSettings (settings : Settings) (endpoint : Endpoint) (quiet : Option Bool)
    (shebang : Option String) (readTimeout connectTimeout : Option Decimal)
    (bufferSize : Option Int) : Config :=
  let readTimeout := readTimeout.or settings.readTimeout
  let connectTimeout := connectTimeout.or settings.connectTimeout
  let size := (bufferSize.filter (· ≠ 0)).getD settings.readBufferSize
  { endpoint := endpoint
    quiet := quiet.getD settings.quiet
    shebang := shebang
    readTimeout := readTimeout
    connectTimeout := connectTimeout
    bufferSize := size
    readPatience := .ofLimit readTimeout (Patience.pauseOf settings.readPollMillis)
    connectPatience := .ofLimit connectTimeout (Patience.pauseOf settings.connectPollMillis) }

/-- Why no link can be set up from settings: a pause cannot be given in seconds. -/
def fault? (settings : Settings) : Option Fault :=
  if (Patience.pauseOf? settings.readPollMillis).isSome
      && (Patience.pauseOf? settings.connectPollMillis).isSome then none
  else some .pauseTooLong

def label (config : Config) : String := config.endpoint.label

/-- An event that quiet links report as fine detail only. -/
def note (config : Config) (name : String) (context : Details) : Event :=
  let context := ("alias", .text config.label) :: context
  if config.quiet then .debug name context else .info name context

def detail (config : Config) (name : String) : Event :=
  .debug name [("alias", .text config.label)]

end Config

/-- A link: its socket, if it is connected, the bytes received and not yet read, whether the next
line is the first, what the first line really was, and counters. -/
structure Link where
  config : Config
  socket : Option Nat
  unread : List UInt8
  atFirstLine : Bool
  actualFirstLine : Option String
  bytesSent : Nat
  bytesReceived : Nat
  linesRead : Nat
  linesWritten : Nat

namespace Link

/-- A link that has never been connected. -/
def fresh (config : Config) : Link := ⟨config, none, [], true, none, 0, 0, 0, 0⟩

/-- A link about to be connected anew: nothing is left of an earlier connection but the counters. -/
def renewed (link : Link) : Link :=
  { link with unread := [], atFirstLine := true, actualFirstLine := none }

def connected (link : Link) : Bool := link.socket.isSome

/-- A text as it is shown, or the word for none. -/
def shown : Option String → String
  | some text => Text.quoted text
  | none => "None"

def describe (link : Link) : String :=
  "LineTransport(alias=" ++ Text.quoted link.config.label ++ ", host="
    ++ Text.quoted link.config.endpoint.host ++ ", port=" ++ toString link.config.endpoint.port
    ++ ", shebang=" ++ shown link.config.shebang ++ ", connected="
    ++ (if link.connected then "True" else "False") ++ ")"

end Link

/-! ## Framing -/

/-- The byte that ends a line. -/
def lineFeed : UInt8 := 10

/-- The byte that is dropped from lines. -/
def carriageReturn : UInt8 := 13

/-- Cut bytes at the first line feed. -/
def cutLine : List UInt8 → Option (List UInt8 × List UInt8)
  | [] => none
  | byte :: rest =>
    if byte = lineFeed then some ([], rest)
    else (cutLine rest).map fun parts => (byte :: parts.1, parts.2)

/-- The bytes of a line that count. -/
def dropReturns (bytes : List UInt8) : List UInt8 :=
  bytes.filter fun byte => byte ≠ carriageReturn

/-- One event for each carriage return that is dropped. -/
def returnEvents (config : Config) (bytes : List UInt8) : List Event :=
  List.replicate (bytes.count carriageReturn) (config.detail "[CR]")

/-- The receiving side of a link at work. -/
structure Inbox where
  unread : List UInt8
  received : Nat
  receipts : List Receipt
  attempts : Nat
  clock : Clock
  events : List Event

namespace Inbox

/-- Take what a wait for data brought. -/
def accept (inbox : Inbox) (run : ReceiveRun) (bytes : List UInt8) : Inbox :=
  { inbox with
    unread := bytes
    received := inbox.received + bytes.length
    receipts := run.receipts
    attempts := inbox.attempts + run.attempts
    clock := run.clock }

/-- Report events. -/
def log (inbox : Inbox) (events : List Event) : Inbox :=
  { inbox with events := inbox.events ++ events }

end Inbox

/-- Why no data arrived. -/
def Arrival.fault (config : Config) : Arrival → Fault
  | .failed error => .failure (.receiveFailed config.endpoint error)
  | .timedOut =>
    .failure (.receiveTimedOut config.endpoint (config.readTimeout.getD (.ofInt 0)))
  | .pauseRefused error => .pauseRefused error
  | .negativeSize => .negativeSize
  | _ => .failure (.peerClosed config.endpoint)

/-- Why data of a size was not sent. -/
def SendError.fault (config : Config) (size : Nat) : SendError → Fault
  | .failed error => .failure (.sendFailed config.endpoint error size)
  | .pauseRefused error => .pauseRefused error

/-- Put a line together from the bytes at hand and those that arrive, behind what there is of it
already. Without a connection only the bytes at hand count. -/
def assembleLine (config : Config) (isOpen : Bool) (started : Int) (inbox : Inbox)
    (line : List UInt8) : Except Fault (List UInt8) × Inbox :=
  match cutLine inbox.unread with
  | some (before, behind) =>
    (.ok (line ++ dropReturns before),
      { inbox with unread := behind }.log
        (returnEvents config before ++ [config.detail "[LF]"]))
  | none =>
    let line := line ++ dropReturns inbox.unread
    let inbox := { inbox with unread := [] }.log (returnEvents config inbox.unread)
    if isOpen then
      let inbox := inbox.log [config.detail "reading_into_buffer"]
      let run := receive config.bufferSize config.readPatience started inbox.receipts inbox.clock
      match _h : run.arrival with
      | .data bytes => assembleLine config isOpen started (inbox.accept run bytes) line
      | arrival => (.error (arrival.fault config), inbox.accept run [])
    else (fail (.notConnected config.label), inbox)
termination_by scheduleSize inbox.receipts
decreasing_by
  exact scheduleSize_receive_lt _h

/-! ## Links at work -/

/-- A link at work, with its socket, the clock and the events reported. -/
structure Station where
  link : Link
  socket : Option Socket
  clock : Clock
  events : List Event

namespace Station

def log (station : Station) (event : Event) : Station :=
  { station with events := station.events ++ [event] }

/-- The receiving side of a link. -/
def inbox (station : Station) : Inbox :=
  ⟨station.link.unread, station.link.bytesReceived,
    (station.socket.map fun socket => socket.behaviour.receipts).getD [], 0, station.clock,
    station.events⟩

/-- A link behind work of its receiving side. -/
def afterInbox (station : Station) (inbox : Inbox) : Station :=
  { link :=
      { station.link with unread := inbox.unread, bytesReceived := inbox.received }
    socket := station.socket.map fun socket =>
      { socket.count .receive inbox.attempts with
        behaviour := { socket.behaviour with receipts := inbox.receipts } }
    clock := inbox.clock
    events := inbox.events }

/-- Read a line as it arrives. -/
def readRawLine (station : Station) : Except Fault String × Station :=
  let config := station.link.config
  let (outcome, inbox) := assembleLine config station.socket.isSome station.clock.now
    (station.inbox.log [config.detail "reading_line"]) []
  (outcome.map Text.decodeLatin1, station.afterInbox inbox)

def lineEvent (config : Config) (line : String) (replacement : Option String) : Event :=
  config.note "server_line"
    (("line", .text line) :: (replacement.map fun text => ("replaced_by", .text text)).toList)

/-- Deliver a line that has arrived: the first line may be replaced. -/
def deliver (station : Station) (line : String) : String × Station :=
  let link := { station.link with linesRead := station.link.linesRead + 1, atFirstLine := false }
  match link.config.shebang, station.link.atFirstLine with
  | some shebang, true =>
    (shebang,
      { station with link := { link with actualFirstLine := some line } }.log
        (lineEvent link.config line (some shebang)))
  | _, _ => (line, { station with link := link }.log (lineEvent link.config line none))

def readLine (station : Station) : Except Fault String × Station :=
  match station.readRawLine with
  | (.ok line, station) =>
    let (delivered, station) := station.deliver line
    (.ok delivered, station)
  | (.error fault, station) => (.error fault, station)

/-- A socket behind sending. -/
def afterSending (socket : Socket) (run : SendRun) : Socket :=
  { socket.count .send run.attempts with
    sent := socket.sent ++ run.taken
    behaviour := { socket.behaviour with acceptances := run.acceptances } }

/-- Send some bytes. -/
def send (data : List UInt8) (station : Station) : Except Fault Unit × Station :=
  let config := station.link.config
  match station.socket with
  | none => (fail (.notConnected config.label), station)
  | some socket =>
    let run := sendAll config.readPatience.pause socket.behaviour.acceptances data station.clock
    let link := { station.link with bytesSent := station.link.bytesSent + run.taken.length }
    let station :=
      { station with link := link, socket := some (afterSending socket run), clock := run.clock }
    match run.error with
    | none => (.ok (), station)
    | some error => (.error (error.fault config data.length), station)

/-- The bytes behind a line and behind an attachment. -/
def lineEnding : List UInt8 := [carriageReturn, lineFeed]

/-- Send some bytes and a line ending. -/
def sendEnded (data : List UInt8) (station : Station) : Except Fault Unit × Station :=
  match station.send data with
  | (.ok _, station) => station.send lineEnding
  | (.error fault, station) => (.error fault, station)

/-- Write a line. Characters beyond ASCII become question marks. -/
def writeLine (line : String) (station : Station) : Except Fault Unit × Station :=
  let noted := station.log (station.link.config.note "client_line" [("line", .text line)])
  match noted.sendEnded (Text.encodeAscii line) with
  | (.ok _, station) =>
    (.ok (),
      { station with
        link := { station.link with linesWritten := station.link.linesWritten + 1 } })
  | (.error fault, station) => (.error fault, station)

def upload (attachment : Attachment) (station : Station) : Except Fault Unit × Station :=
  let event := station.link.config.note "client_binary"
    [("filename", .text attachment.filename), ("size", .nat attachment.data.length)]
  (station.log event).sendEnded attachment.data

end Station

end MailScript.Network
