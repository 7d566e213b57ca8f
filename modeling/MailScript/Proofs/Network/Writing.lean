import MailScript.Proofs.Network.Sending
import Mathlib.Logic.Relation

/-! # Writing in order

Writing operations hand their bytes over in attempts, each of which takes some of them or none. An
attempt is one step of a small machine whose state is what the socket has taken, what the link has
counted and what is still to be handed over. What a step preserves holds at every moment of a run, and
a link that writes makes a run of the machine, whether its operations succeed or not. -/

namespace MailScript.Network

/-! ## Writing operations -/

/-- A writing operation of a link. -/
inductive Writing where
  | line (text : String)
  | upload (attachment : Attachment)
deriving DecidableEq, Repr

namespace Writing

/-- The bytes that an operation puts on the connection. Characters beyond ASCII become question
marks. -/
def bytes : Writing → List UInt8
  | .line text =>
    text.toList.map (fun c => if c.toNat < 128 then .ofNat c.toNat else 63) ++
      [carriageReturn, lineFeed]
  | .upload attachment => attachment.data ++ [carriageReturn, lineFeed]

/-- The operation writes a line. -/
def isLine : Writing → Bool
  | .line _ => true
  | .upload _ => false

end Writing

namespace Station

def write : Writing → Station → Except Fault Unit × Station
  | .line text => writeLine text
  | .upload attachment => upload attachment

/-- Carry out operations up to the first that fails. -/
def writeAll : List Writing → Station → Except Fault Unit × Station
  | [], station => (.ok (), station)
  | writing :: rest, station =>
    match station.write writing with
    | (.ok _, station) => writeAll rest station
    | (.error fault, station) => (.error fault, station)

end Station

/-! ## Moments of writing -/

/-- What a link still has to do: to hand over some bytes, or to count a line as written. -/
inductive Errand where
  | send (data : List UInt8)
  | count
deriving DecidableEq, Repr

def Errand.bytes : Errand → List UInt8
  | .send data => data
  | .count => []

/-- What a link has to do for an operation. -/
def Writing.errands : Writing → List Errand
  | .line text => [.send (Text.encodeAscii text), .send Station.lineEnding, .count]
  | .upload attachment => [.send attachment.data, .send Station.lineEnding]

/-- The sending side of a link at a moment: the bytes that the socket has taken, the bytes and the
lines that the link has counted, what further attempts to send will take, and what is still to be
done. -/
structure Outbox where
  sent : List UInt8
  counted : Nat
  written : Nat
  schedule : List Acceptance
  errands : List Errand
deriving DecidableEq, Repr

namespace Outbox

/-- The bytes that are still to be handed over. -/
def pending (outbox : Outbox) : List UInt8 :=
  outbox.errands.flatMap Errand.bytes

/-- From one moment to the next. -/
inductive Step : Outbox → Outbox → Prop where
  /-- An attempt takes some of the bytes at hand, or none. -/
  | attempt {sent counted written acceptance schedule data errands}
      (hdata : data ≠ []) (hsteady : acceptance.Steady) :
      Step ⟨sent, counted, written, acceptance :: schedule, .send data :: errands⟩
        ⟨sent ++ data.take acceptance.limit, counted + (data.take acceptance.limit).length,
          written, schedule, .send (data.drop acceptance.limit) :: errands⟩
  /-- Behind the end of the schedule an attempt takes everything. -/
  | everything {sent counted written data errands} (hdata : data ≠ []) :
      Step ⟨sent, counted, written, [], .send data :: errands⟩
        ⟨sent ++ data, counted + data.length, written, [], .send [] :: errands⟩
  /-- There is nothing left to hand over. -/
  | handed {sent counted written schedule errands} :
      Step ⟨sent, counted, written, schedule, .send [] :: errands⟩
        ⟨sent, counted, written, schedule, errands⟩
  | count {sent counted written schedule errands} :
      Step ⟨sent, counted, written, schedule, .count :: errands⟩
        ⟨sent, counted, written + 1, schedule, errands⟩

/-- A later moment of the same run. -/
abbrev Reaches : Outbox → Outbox → Prop := Relation.ReflTransGen Step

/-- What holds between two moments: the bytes taken and those still to be handed over are together
the same, and as many bytes have been counted as have been taken. -/
structure Faithful (before after : Outbox) : Prop where
  whole : after.sent ++ after.pending = before.sent ++ before.pending
  grown : before.sent <+: after.sent
  counted : after.counted + before.sent.length = before.counted + after.sent.length
  written : after.written + after.errands.count .count =
    before.written + before.errands.count .count

namespace Faithful

theorem refl (outbox : Outbox) : Faithful outbox outbox :=
  ⟨rfl, List.prefix_rfl, rfl, rfl⟩

theorem trans {a b c : Outbox} (hab : Faithful a b) (hbc : Faithful b c) : Faithful a c where
  whole := hbc.whole.trans hab.whole
  grown := hab.grown.trans hbc.grown
  counted := by
    have hfirst := hab.counted
    have hsecond := hbc.counted
    omega
  written := hbc.written.trans hab.written

end Faithful

/-- No step loses, repeats or reorders a byte. -/
theorem Step.faithful {before after : Outbox} (h : Step before after) : Faithful before after := by
  cases h with
  | @attempt sent counted written acceptance schedule data errands hdata hsteady =>
      refine ⟨?_, List.prefix_append _ _, ?_, ?_⟩
      · simp only [pending, List.flatMap_cons, Errand.bytes, List.append_assoc]
        rw [← List.append_assoc (data.take _), List.take_append_drop]
      · simp only [List.length_append]
        omega
      · rw [List.count_cons_of_ne (by simp), List.count_cons_of_ne (by simp)]
  | everything hdata =>
      refine ⟨?_, List.prefix_append _ _, ?_, ?_⟩
      · simp [pending, Errand.bytes]
      · simp only [List.length_append]
        omega
      · rw [List.count_cons_of_ne (by simp), List.count_cons_of_ne (by simp)]
  | handed => exact ⟨rfl, List.prefix_rfl, rfl, by rw [List.count_cons_of_ne (by simp)]⟩
  | count =>
      refine ⟨rfl, List.prefix_rfl, rfl, ?_⟩
      simp only [List.count_cons_self]
      omega

theorem Reaches.faithful {before after : Outbox} (h : Reaches before after) :
    Faithful before after := by
  induction h with
  | refl => exact .refl before
  | tail _ hstep ih => exact ih.trans hstep.faithful

/-- Behind the start of a run the bytes taken are a beginning of those that were to be handed
over. -/
theorem Reaches.exists_taken {before after : Outbox} (h : Reaches before after) :
    ∃ taken, after.sent = before.sent ++ taken ∧ taken ++ after.pending = before.pending ∧
      after.counted = before.counted + taken.length := by
  obtain ⟨hwhole, ⟨taken, htaken⟩, hcounted, -⟩ := h.faithful
  refine ⟨taken, htaken.symm, ?_, ?_⟩
  · rw [← htaken, List.append_assoc] at hwhole
    exact List.append_cancel_left hwhole
  · rw [← htaken, List.length_append] at hcounted
    omega

/-- Sending is a run of attempts. Unless it breaks off it comes to an end only when everything has
been handed over. -/
theorem reaches_sendAll (pause : Int) (schedule : List Acceptance) (data : List UInt8)
    (clock : Clock) (sent : List UInt8) (counted written : Nat) (errands : List Errand) :
    let run := sendAll pause schedule data clock
    ∃ left later, Reaches ⟨sent, counted, written, schedule, .send data :: errands⟩
        ⟨sent ++ run.taken, counted + run.taken.length, written, later, .send left :: errands⟩ ∧
      (run.error = none → left = [] ∧ later = run.acceptances) := by
  -- What has been sent and counted so far is left open: every attempt starts from more of it.
  fun_induction sendAll pause schedule data clock generalizing sent counted with
  | case1 schedule clock =>
      refine ⟨[], schedule, ?_, fun _ => ⟨rfl, rfl⟩⟩
      rw [List.append_nil]
      exact .refl
  | case2 data clock hdata => exact ⟨[], [], .single (.everything hdata), fun _ => ⟨rfl, rfl⟩⟩
  | case3 acceptance rest data clock hdata error herror =>
      refine ⟨data, acceptance :: rest, ?_, fun hnone => ?_⟩
      · rw [List.append_nil]
        exact .refl
      · cases hnone
  | case4 acceptance rest data clock hdata hsteady taken error hrefused =>
      refine ⟨data, acceptance :: rest, ?_, fun hnone => ?_⟩
      · rw [List.append_nil]
        exact .refl
      · cases hnone
  | case5 acceptance rest data clock hdata hsteady taken hgoes clock' later ih =>
      obtain ⟨left, remaining, hrun, hend⟩ := ih (sent ++ taken) (counted + taken.length)
      refine ⟨left, remaining, .head (.attempt hdata hsteady) ?_, hend⟩
      rw [List.length_append, ← List.append_assoc, ← Nat.add_assoc]
      exact hrun

end Outbox

/-! ## Links that write -/

namespace Station

/-- The sending side of a link with errands to do. -/
def outbox (station : Station) (socket : Socket) (errands : List Errand) : Outbox :=
  ⟨socket.sent, station.link.bytesSent, station.link.linesWritten, socket.behaviour.acceptances,
    errands⟩

/-- Why the clock refuses to pause behind an attempt to send, if it does. -/
def refusal? (station : Station) : Option WaitError :=
  station.clock.refusal? station.link.config.readPatience.pause

/-- What breaks sending off: the connection fails, or the clock refuses to pause. -/
inductive BreaksOff (refused : Option WaitError) : Fault → Prop where
  | failure {failure : Failure} (hkind : failure.kind = .send) : BreaksOff refused (.failure failure)
  | pauseRefused {error : WaitError} (hrefused : refused = some error) :
      BreaksOff refused (.pauseRefused error)

/-- How a job ends that was to do some errands, with others behind them, over a link whose clock
refuses to pause for some reason or takes the pause. With a fault some of the errands are left over,
all counts among them. -/
inductive Ending (refused : Option WaitError) (todo behind : List Errand) (start : Outbox) :
    Except Fault Unit × Station → Prop where
  | done {after : Station} {socket : Socket} (hrefused : after.refusal? = refused)
      (hsocket : after.socket = some socket) (hrun : start.Reaches (after.outbox socket behind)) :
      Ending refused todo behind start (.ok (), after)
  | broken {fault : Fault} {after : Station} {socket : Socket} (schedule : List Acceptance)
      (left : List Errand) (hfault : BreaksOff refused fault) (hsocket : after.socket = some socket)
      (hcount : left.count .count = todo.count .count)
      (hrun : start.Reaches { after.outbox socket (left ++ behind) with schedule := schedule }) :
      Ending refused todo behind start (.error fault, after)

/-- A job does some errands, whatever stands behind them. -/
def Does (job : Station → Except Fault Unit × Station) (todo : List Errand) : Prop :=
  ∀ (station : Station) (socket : Socket) (behind : List Errand), station.socket = some socket →
    Ending station.refusal? todo behind (station.outbox socket (todo ++ behind)) (job station)

theorem does_send (data : List UInt8) : Does (send data) [.send data] := by
  intro station socket behind hsocket
  obtain ⟨left, later, hrun, hend⟩ := Outbox.reaches_sendAll
    station.link.config.readPatience.pause socket.behaviour.acceptances data station.clock
    socket.sent station.link.bytesSent station.link.linesWritten behind
  unfold send
  rw [hsocket]
  dsimp only
  split
  · rename_i herror
    obtain ⟨rfl, rfl⟩ := hend herror
    exact .done (Clock.refusal?_congr limited_sendAll _) rfl (hrun.tail .handed)
  · rename_i error herror
    have hfault : BreaksOff station.refusal? (error.fault station.link.config data.length) := by
      cases error with
      | failed error => exact .failure rfl
      | pauseRefused error => exact .pauseRefused (refusal?_of_sendAll herror)
    exact .broken later [.send left] hfault rfl rfl hrun

/-- Jobs one after another do the errands of both. -/
theorem Does.bind {job next : Station → Except Fault Unit × Station} {front back : List Errand}
    (hjob : Does job front) (hnext : Does next back) (hcount : front.count .count = 0) :
    Does (fun station =>
      match job station with
      | (.ok _, station) => next station
      | (.error fault, station) => (.error fault, station)) (front ++ back) := by
  intro station socket behind hsocket
  have hfirst := hjob station socket (back ++ behind) hsocket
  rw [List.append_assoc]
  dsimp only
  generalize job station = result at hfirst
  cases hfirst with
  | @done middle socket' hrefused hsocket' hrun =>
      have hsecond := hnext middle socket' behind hsocket'
      rw [hrefused] at hsecond
      dsimp only
      generalize next middle = result at hsecond
      cases hsecond with
      | done hrefused' hsocket'' hrun' => exact .done hrefused' hsocket'' (hrun.trans hrun')
      | broken schedule left hfault hsocket'' hleft hrun' =>
          refine .broken schedule left hfault hsocket'' ?_ (hrun.trans hrun')
          rw [hleft, List.count_append, hcount, Nat.zero_add]
  | broken schedule left hfault hsocket' hleft hrun =>
      -- The errands of the second job are left over as a whole.
      refine .broken schedule (left ++ back) hfault hsocket' ?_ ?_
      · rw [List.count_append, List.count_append, hleft]
      · rw [List.append_assoc]
        exact hrun

/-- A job that only reports something besides does the same. -/
theorem Does.of_log {job : Station → Except Fault Unit × Station} {todo : List Errand}
    (h : Does job todo) (event : Station → Event) :
    Does (fun station => job (station.log (event station))) todo :=
  fun station => h (station.log (event station))

theorem does_write (writing : Writing) : Does (write writing) writing.errands := by
  have hended (data : List UInt8) : Does (sendEnded data) ([.send data] ++ [.send lineEnding]) :=
    (does_send data).bind (does_send lineEnding) rfl
  cases writing with
  | upload attachment =>
      exact (hended attachment.data).of_log fun station => station.link.config.note "client_binary"
        [("filename", .text attachment.filename), ("size", .nat attachment.data.length)]
  | line text =>
      have hcounted : Does (fun station => (.ok (), { station with
          link := { station.link with linesWritten := station.link.linesWritten + 1 } }))
          [.count] :=
        fun station socket behind hsocket => .done rfl hsocket (.single .count)
      exact ((hended (Text.encodeAscii text)).bind hcounted rfl).of_log fun station =>
        station.link.config.note "client_line" [("line", .text text)]

/-! ## What operations come to -/

/-- A link has put some bytes on its connection and counted them, and has counted so many lines as
written. -/
structure Wrote (station after : Station) (bytes : List UInt8) (lines : Nat) : Prop where
  sockets : ∃ socket socket', station.socket = some socket ∧ after.socket = some socket' ∧
    socket'.sent = socket.sent ++ bytes
  bytesSent : after.link.bytesSent = station.link.bytesSent + bytes.length
  linesWritten : after.link.linesWritten = station.link.linesWritten + lines

theorem Wrote.refl {station : Station} {socket : Socket} (h : station.socket = some socket) :
    station.Wrote station [] 0 :=
  ⟨⟨socket, socket, h, h, (List.append_nil _).symm⟩, rfl, rfl⟩

theorem Wrote.trans {a b c : Station} {front back : List UInt8} {m n : Nat}
    (hab : a.Wrote b front m) (hbc : b.Wrote c back n) : a.Wrote c (front ++ back) (m + n) := by
  obtain ⟨socket, middle, hsocket, hmiddle, hfront⟩ := hab.sockets
  obtain ⟨middle', last, hmiddle', hlast, hback⟩ := hbc.sockets
  obtain rfl : middle = middle' := Option.some.inj (hmiddle.symm.trans hmiddle')
  refine ⟨⟨socket, last, hsocket, hlast, ?_⟩, ?_, ?_⟩
  · rw [hback, hfront, List.append_assoc]
  · rw [hbc.bytesSent, hab.bytesSent, List.length_append, Nat.add_assoc]
  · rw [hbc.linesWritten, hab.linesWritten, Nat.add_assoc]

theorem bytes_errands (writing : Writing) :
    writing.errands.flatMap Errand.bytes = writing.bytes := by
  cases writing with
  | line text => simp [Writing.errands, Writing.bytes, Errand.bytes, Text.encodeAscii,
      Text.asciiByte, lineEnding]
  | upload attachment => simp [Writing.errands, Writing.bytes, Errand.bytes, lineEnding]

theorem count_errands (writing : Writing) :
    writing.errands.count .count = [writing].countP Writing.isLine := by
  cases writing <;> rfl

section

variable {refused : Option WaitError}

/-- An operation that succeeds has put all its bytes on the connection. -/
theorem Ending.wrote {station after : Station} {socket : Socket} {writing : Writing}
    (hsocket : station.socket = some socket)
    (h : Ending refused writing.errands [] (station.outbox socket (writing.errands ++ []))
      (.ok (), after)) :
    after.refusal? = refused ∧
      station.Wrote after writing.bytes ([writing].countP Writing.isLine) := by
  cases h with
  | @done _ socket' hrefused hsocket' hrun =>
      have hwritten := hrun.faithful.written
      obtain ⟨taken, hsent, hpending, hcounted⟩ := hrun.exists_taken
      obtain rfl : taken = writing.bytes := by
        simpa [Outbox.pending, outbox, bytes_errands] using hpending
      refine ⟨hrefused, ⟨socket, socket', hsocket, hsocket', hsent⟩, hcounted, ?_⟩
      simpa [outbox, count_errands] using hwritten

/-- An operation that fails has put a beginning of its bytes on the connection. -/
theorem Ending.wrote_part {station after : Station} {socket : Socket} {writing : Writing}
    {fault : Fault} (hsocket : station.socket = some socket)
    (h : Ending refused writing.errands [] (station.outbox socket (writing.errands ++ []))
      (.error fault, after)) :
    BreaksOff refused fault ∧ ∃ part, part <+: writing.bytes ∧ station.Wrote after part 0 := by
  cases h with
  | @broken _ _ socket' schedule left hfault hsocket' hcount hrun =>
      have hwritten := hrun.faithful.written
      obtain ⟨taken, hsent, hpending, hcounted⟩ := hrun.exists_taken
      refine ⟨hfault, taken, ⟨left.flatMap Errand.bytes, ?_⟩,
        ⟨⟨socket, socket', hsocket, hsocket', hsent⟩, hcounted, ?_⟩⟩
      · simpa [Outbox.pending, outbox, bytes_errands] using hpending
      -- All counts are left over, so no line has been counted.
      · simpa [outbox, hcount] using hwritten

end

/-- How operations one after another end: all of them have succeeded, or one has broken off behind
others that have succeeded. -/
theorem writeAll_end {station : Station} {socket : Socket} (hsocket : station.socket = some socket)
    (writings : List Writing) :
    ((station.writeAll writings).1 = .ok () → station.Wrote (station.writeAll writings).2
        (writings.flatMap Writing.bytes) (writings.countP Writing.isLine)) ∧
      ∀ fault, (station.writeAll writings).1 = .error fault → BreaksOff station.refusal? fault ∧
        ∃ done current rest part, writings = done ++ current :: rest ∧ part <+: current.bytes ∧
          station.Wrote (station.writeAll writings).2 (done.flatMap Writing.bytes ++ part)
            (done.countP Writing.isLine) := by
  induction writings generalizing station socket with
  | nil => exact ⟨fun _ => .refl hsocket, nofun⟩
  | cons writing rest ih =>
      have hend := does_write writing station socket [] hsocket
      unfold writeAll
      rcases hwrite : station.write writing with ⟨fault | _, middle⟩
      · rw [hwrite] at hend
        obtain ⟨hbreaks, part, hpart, hwrote⟩ := hend.wrote_part hsocket
        refine ⟨nofun, fun fault' hfault => ?_⟩
        cases hfault
        exact ⟨hbreaks, [], writing, rest, part, rfl, hpart, hwrote⟩
      · rw [hwrite] at hend
        obtain ⟨hrefused, hwrote⟩ := hend.wrote hsocket
        obtain ⟨_, socket', _, hsocket', _⟩ := hwrote.sockets
        obtain ⟨hdone, hbroken⟩ := ih hsocket'
        rw [hrefused] at hbroken
        refine ⟨fun hok => ?_, fun fault hfault => ?_⟩
        · have hboth := hwrote.trans (hdone hok)
          rwa [← List.flatMap_cons, ← List.countP_append] at hboth
        · obtain ⟨hbreaks, done, current, later, part, rfl, hpart, hrest⟩ := hbroken fault hfault
          refine ⟨hbreaks, writing :: done, current, later, part, rfl, hpart, ?_⟩
          have hboth := hwrote.trans hrest
          rwa [← List.append_assoc, ← List.flatMap_cons, ← List.countP_append] at hboth

/-- Operations one after another make a run through the moments of writing. -/
theorem writeAll_reaches {station : Station} {socket : Socket}
    (hsocket : station.socket = some socket) (writings : List Writing) :
    ∃ socket' last, (station.writeAll writings).2.socket = some socket' ∧
      (station.outbox socket (writings.flatMap Writing.errands)).Reaches last ∧
      last.sent = socket'.sent ∧ last.counted = (station.writeAll writings).2.link.bytesSent := by
  induction writings generalizing station socket with
  | nil => exact ⟨socket, _, hsocket, .refl, rfl, rfl⟩
  | cons writing rest ih =>
      have hend := does_write writing station socket (rest.flatMap Writing.errands) hsocket
      unfold writeAll
      generalize station.write writing = result at hend
      cases hend with
      | done hrefused hsocket' hrun =>
          obtain ⟨socket'', last, hlast, hrest, hsent, hcounted⟩ := ih hsocket'
          exact ⟨socket'', last, hlast, hrun.trans hrest, hsent, hcounted⟩
      | broken schedule left hfault hsocket' hcount hrun => exact ⟨_, _, hsocket', hrun, rfl, rfl⟩

/-- At every moment the bytes that the socket has taken are a beginning of those that the operations
put on the connection, whatever parts it takes them in, and the link has counted them. If all
operations succeed everything was taken. If one breaks off, because sending fails or the clock
refuses to pause, everything before it was taken, and a beginning of its own bytes. -/
theorem writeAll_in_order {station : Station} {socket : Socket}
    (hsocket : station.socket = some socket) (writings : List Writing) :
    let whole := writings.flatMap Writing.bytes
    let start := station.outbox socket (writings.flatMap Writing.errands)
    let outcome := (station.writeAll writings).1
    let after := (station.writeAll writings).2
    (∀ moment, start.Reaches moment → ∃ taken, moment.sent = socket.sent ++ taken ∧
        taken <+: whole ∧ moment.counted = station.link.bytesSent + taken.length) ∧
      (∃ socket' last, after.socket = some socket' ∧ start.Reaches last ∧
        last.sent = socket'.sent ∧ last.counted = after.link.bytesSent) ∧
      (outcome = .ok () → station.Wrote after whole (writings.countP Writing.isLine)) ∧
      ∀ fault, outcome = .error fault → BreaksOff station.refusal? fault ∧
        ∃ done current rest part, writings = done ++ current :: rest ∧ part <+: current.bytes ∧
          station.Wrote after (done.flatMap Writing.bytes ++ part)
            (done.countP Writing.isLine) := by
  intro whole start
  refine ⟨fun moment hrun => ?_, writeAll_reaches hsocket writings, writeAll_end hsocket writings⟩
  obtain ⟨taken, hsent, hpending, hcounted⟩ := hrun.exists_taken
  have hwhole : start.pending = whole := by
    simp only [start, whole, Outbox.pending, outbox, List.flatMap_assoc, bytes_errands]
  exact ⟨taken, hsent, ⟨moment.pending, hpending.trans hwhole⟩, hcounted⟩

/-- A line is taken in parts, and sending breaks off in the middle of the attachment behind it. -/
theorem writeAll_in_order_of_parts :
    let config := Config.ofSettings {} ⟨"mail", "localhost", 143⟩ none none none none none
    let socket := Socket.fresh "localhost:143" ⟨[], [],
      [.upTo 1, .retry, .upTo 0, .upTo 9, .failed (.numbered 4 "Interrupted system call" none),
        .upTo 1, .upTo 1, .upTo 2, .failed (.numbered 32 "Broken pipe" none)], none⟩
    let station : Station := ⟨{ Link.fresh config with socket := some 0 }, some socket, .system, []⟩
    let writings : List Writing := [.line "h\u00e9!", .upload ⟨[1, 2, 3, 4], "data"⟩, .line "end"]
    let after := (station.writeAll writings).2
    station.socket = some socket ∧
      (station.writeAll writings).1.isOk = false ∧
      after.socket.map Socket.sent = some [104, 63, 33, 13, 10, 1, 2] ∧
      after.link.bytesSent = 7 ∧ after.link.linesWritten = 1 ∧
      station.refusal? = none ∧
      ∀ fault, (station.writeAll writings).1 = .error fault → BreaksOff station.refusal? fault ∧
        ∃ done current rest part, writings = done ++ current :: rest ∧ part <+: current.bytes ∧
          station.Wrote after (done.flatMap Writing.bytes ++ part)
            (done.countP Writing.isLine) := by
  intro config socket station writings after
  have hsocket : station.socket = some socket := rfl
  obtain ⟨-, -, -, hbroken⟩ := writeAll_in_order hsocket writings
  exact ⟨hsocket, by decide +kernel, by decide +kernel, by decide +kernel, by decide +kernel,
    by decide +kernel, hbroken⟩

end Station

end MailScript.Network
