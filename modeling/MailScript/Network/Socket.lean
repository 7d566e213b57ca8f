import MailScript.Network.Patience
import MailScript.SystemError

/-! # Sockets

How the network behaves towards a socket is given by schedules: the results of its attempts to
connect, what its attempts to receive bring, and how much its attempts to send take. Behind the end
of a schedule a connection is made at once, the peer has closed, and everything is taken. -/

namespace MailScript.Network

/-- What an attempt to receive brings. -/
inductive Receipt where
  | data (bytes : List UInt8)
  | retry
  | failed (error : SystemError)
deriving DecidableEq, Repr

/-- What an attempt to send takes. -/
inductive Acceptance where
  | upTo (count : Nat)
  | retry
  | failed (error : SystemError)
deriving DecidableEq, Repr

/-- How the network behaves towards a socket. -/
structure Behaviour where
  connects : List Int
  receipts : List Receipt
  acceptances : List Acceptance
  closeError : Option SystemError
deriving DecidableEq, Repr

/-- A call of a socket. -/
inductive SocketCall where
  | connect
  | receive
  | send
  | close
deriving DecidableEq, Repr

/-- A socket: its remote address, the behaviour still to come, the bytes sent and the calls made. -/
structure Socket where
  address : String
  behaviour : Behaviour
  sent : List UInt8
  calls : List SocketCall
deriving DecidableEq, Repr

namespace Socket

/-- A socket that has not been used. -/
def fresh (address : String) (behaviour : Behaviour) : Socket := ⟨address, behaviour, [], []⟩

def closes (socket : Socket) : Nat := socket.calls.count .close

/-- Add calls of a kind. -/
def count (socket : Socket) (call : SocketCall) (times : Nat) : Socket :=
  { socket with calls := socket.calls ++ List.replicate times call }

/-- Close a socket. It counts as closed even if closing fails. -/
def close (socket : Socket) : Option SystemError × Socket :=
  (socket.behaviour.closeError, socket.count .close 1)

end Socket

/-! ## Connecting -/

/-- A result of connecting says that the connection stands. -/
def isConnected (result : Int) : Bool := result == 0 || result == 106

/-- A result of connecting says that the connection is still being made. -/
def isPending (result : Int) : Bool := [115, 114, 11, 4].contains result

/-- How connecting ends. -/
inductive Connecting where
  | connected
  | refused (number : Int)
  | timedOut
  | pauseRefused (error : WaitError)
deriving DecidableEq, Repr

/-- What connecting comes to: how it ends, the schedule left over, the number of attempts, the
number of those that are followed by a pause or should be, and the clock. -/
structure ConnectRun where
  ending : Connecting
  connects : List Int
  attempts : Nat
  pending : Nat
  clock : Clock
deriving DecidableEq, Repr

/-- Try to connect until a result is decisive, patience ends or the clock refuses to pause. -/
def awaitConnection (patience : Patience) (started : Int) : List Int → Clock → ConnectRun
  | [], clock => ⟨.connected, [], 1, 0, clock⟩
  | result :: rest, clock =>
    if isConnected result then ⟨.connected, rest, 1, 0, clock⟩
    else if !isPending result then ⟨.refused result, rest, 1, 0, clock⟩
    else if patience.expired started clock.now then ⟨.timedOut, rest, 1, 0, clock⟩
    else
      match clock.refusal? patience.pause with
      | some error => ⟨.pauseRefused error, rest, 1, 1, clock⟩
      | none =>
        let later := awaitConnection patience started rest (clock.wait patience.pause)
        { later with attempts := later.attempts + 1, pending := later.pending + 1 }

/-! ## Receiving -/

/-- How a wait for data ends. -/
inductive Arrival where
  | data (bytes : List UInt8)
  | closed
  | failed (error : SystemError)
  | timedOut
  | pauseRefused (error : WaitError)
  | negativeSize
deriving DecidableEq, Repr

/-- What a wait for data comes to. -/
structure ReceiveRun where
  arrival : Arrival
  receipts : List Receipt
  attempts : Nat
  clock : Clock
deriving DecidableEq, Repr

/-- The error of a receipt that ends a wait. -/
def Receipt.error? : Receipt → Option SystemError
  | .failed error => if error.isRetry then none else some error
  | _ => none

/-- Receive until something arrives, patience ends or the clock refuses to pause, at most so many
bytes at once. Bytes beyond that number stay in front of the schedule. -/
def awaitData (size : Nat) (patience : Patience) (started : Int) :
    List Receipt → Clock → ReceiveRun
  | [], clock => ⟨.closed, [], 1, clock⟩
  | .data bytes :: rest, clock =>
    let left := if size < bytes.length then .data (bytes.drop size) :: rest else rest
    match bytes.take size with
    | [] => ⟨.closed, left, 1, clock⟩
    | first :: others => ⟨.data (first :: others), left, 1, clock⟩
  | receipt :: rest, clock =>
    match receipt.error? with
    | some error => ⟨.failed error, rest, 1, clock⟩
    | none =>
      if patience.expired started clock.now then ⟨.timedOut, rest, 1, clock⟩
      else
        match clock.refusal? patience.pause with
        | some error => ⟨.pauseRefused error, rest, 1, clock⟩
        | none =>
          let later := awaitData size patience started rest (clock.wait patience.pause)
          { later with attempts := later.attempts + 1 }

/-- Receive so many bytes at most. There is no receiving a negative number of them. -/
def receive (size : Int) (patience : Patience) (started : Int) (receipts : List Receipt)
    (clock : Clock) : ReceiveRun :=
  if size < 0 then ⟨.negativeSize, receipts, 1, clock⟩
  else awaitData size.toNat patience started receipts clock

/-- The size of a schedule of receipts: an upper bound on the number of waits it can serve. -/
def scheduleSize : List Receipt → Nat
  | [] => 0
  | .data bytes :: rest => bytes.length + 1 + scheduleSize rest
  | _ :: rest => 1 + scheduleSize rest

/-- A wait that brings data makes the schedule smaller. -/
theorem scheduleSize_awaitData_lt {size : Nat} {patience : Patience} {started : Int}
    {receipts : List Receipt} {clock : Clock} {bytes : List UInt8}
    (h : (awaitData size patience started receipts clock).arrival = .data bytes) :
    scheduleSize (awaitData size patience started receipts clock).receipts
      < scheduleSize receipts := by
  fun_induction awaitData size patience started receipts clock <;> simp_all only [reduceCtorEq]
  all_goals grind [scheduleSize, List.length_drop, List.take_eq_nil_iff]

theorem scheduleSize_receive_lt {size : Int} {patience : Patience} {started : Int}
    {receipts : List Receipt} {clock : Clock} {bytes : List UInt8}
    (h : (receive size patience started receipts clock).arrival = .data bytes) :
    scheduleSize (receive size patience started receipts clock).receipts
      < scheduleSize receipts := by
  unfold receive at h ⊢
  split at h
  · cases h
  · rw [if_neg ‹_›]
    exact scheduleSize_awaitData_lt h

/-! ## Sending -/

/-- Why sending ends early. -/
inductive SendError where
  | failed (error : SystemError)
  | pauseRefused (error : WaitError)
deriving DecidableEq, Repr

/-- What sending comes to: the error that ended it, the bytes taken, the schedule left over, the
number of attempts and the clock. -/
structure SendRun where
  error : Option SendError
  taken : List UInt8
  acceptances : List Acceptance
  attempts : Nat
  clock : Clock
deriving DecidableEq, Repr

/-- The error of an attempt to send that ends sending. -/
def Acceptance.error? : Acceptance → Option SystemError
  | .failed error => if error.isRetry then none else some error
  | _ => none

/-- The number of bytes that an attempt to send takes at most. -/
def Acceptance.limit : Acceptance → Nat
  | .upTo count => count
  | _ => 0

/-- Why the clock refuses the pause behind an attempt to send. There is such a pause only if no bytes
were taken. -/
def sendRefusal? (pause : Int) (taken : List UInt8) (clock : Clock) : Option WaitError :=
  if taken = [] then clock.refusal? pause else none

/-- Send data until all of it has been taken or the clock refuses to pause. After an attempt that
takes nothing there is a pause. -/
def sendAll (pause : Int) : List Acceptance → List UInt8 → Clock → SendRun
  | schedule, [], clock => ⟨none, [], schedule, 0, clock⟩
  | [], data, clock => ⟨none, data, [], 1, clock⟩
  | acceptance :: rest, data, clock =>
    match acceptance.error? with
    | some error => ⟨some (.failed error), [], rest, 1, clock⟩
    | none =>
      let taken := data.take acceptance.limit
      match sendRefusal? pause taken clock with
      | some error => ⟨some (.pauseRefused error), [], rest, 1, clock⟩
      | none =>
        let clock := if taken = [] then clock.wait pause else clock
        let later := sendAll pause rest (data.drop acceptance.limit) clock
        { later with taken := taken ++ later.taken, attempts := later.attempts + 1 }

end MailScript.Network
