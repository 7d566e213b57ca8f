import MailScript.Proofs.Network.Delivery

/-! # Lines from one link to another

Lines are written in ASCII with two bytes behind each, and they are read one byte for each character
up to a line feed. What one link has written another one reads as it was, but for the characters
beyond ASCII, whatever parts the bytes are sent in and whatever chunks they arrive in. -/

namespace MailScript

/-- A text with a question mark for every character beyond ASCII. -/
def Text.toAscii (text : String) : String :=
  .ofList (text.toList.map fun c => if c.toNat < 128 then c else '?')

namespace Network

/-! ## Writing lines -/

theorem encodeAscii_eq_lineBytes (line : String) :
    Text.encodeAscii line = lineBytes (Text.toAscii line) := by
  rw [lineBytes, Text.toAscii, String.toList_ofList, List.map_map, Text.encodeAscii]
  refine List.map_congr_left fun c _ => ?_
  rw [Text.asciiByte, Function.comp_apply]
  split <;> rfl

/-- What is left of a line without line breaks has none, and every character of it has a byte. -/
theorem plain_toAscii {line : String} (h : '\r' ∉ line.toList ∧ '\n' ∉ line.toList) :
    Plain (Text.toAscii line) := by
  intro c hc
  rw [Text.toAscii, String.toList_ofList, List.mem_map] at hc
  obtain ⟨original, hmem, rfl⟩ := hc
  split
  · refine ⟨by omega, ?_, ?_⟩
    · rintro rfl
      exact h.1 hmem
    · rintro rfl
      exact h.2 hmem
  · decide

/-- A link that writes lines sends what a peer would send. -/
theorem bytes_lines (lines : List String) :
    (lines.map Writing.line).flatMap Writing.bytes = wire (lines.map Text.toAscii) := by
  have hline (line : String) : (Writing.line line).bytes =
      lineBytes (Text.toAscii line) ++ [carriageReturn, lineFeed] := by
    rw [← encodeAscii_eq_lineBytes]
    rfl
  simp only [wire, List.flatMap_map, hline]

namespace Station

/-- Over a connection without errors all operations succeed if the clock takes the pauses. -/
theorem writeAll_steady {station : Station} {socket : Socket}
    (hsocket : station.socket = some socket) (hsteady : socket.Steady)
    (htakes : station.clock.Takes station.link.config.readPatience.pause)
    (writings : List Writing) : (station.writeAll writings).1 = .ok () := by
  induction writings generalizing station socket with
  | nil => rfl
  | cons writing rest ih =>
      have hsends := sends_write writing
      obtain ⟨middle, hwrite⟩ := hsends.succeeds station socket hsocket hsteady htakes
      have hmiddle := hsends.sent station middle hwrite
      obtain ⟨socket', next, hsocket', hnext, hsent⟩ := hmiddle.sockets
      obtain rfl : socket = socket' := Option.some.inj (hsocket.symm.trans hsocket')
      rw [writeAll, hwrite]
      exact ih hnext (hsent.steady hsteady) (hmiddle.config ▸ htakes.congr hmiddle.limited)

/-! ## Reading lines -/

/-- The lines of a peer are delivered one after another, and then the stream is at its end. -/
theorem readLines_of_wire {station : Station} {lines : List String}
    (h : station.Fed (wire lines)) (hshebang : station.link.config.shebang = none)
    (hlines : ∀ line ∈ lines, Plain line) :
    ∃ last, readLines lines.length station = (lines.map .ok, last) ∧ last.Fed [] ∧
      last.link.config = station.link.config := by
  induction lines generalizing station with
  | nil => exact ⟨station, rfl, h, rfl⟩
  | cons line rest ih =>
      rw [List.forall_mem_cons] at hlines
      obtain ⟨after, hread, hfed, hconfig⟩ := readLine_of_wire h hshebang hlines.1
      obtain ⟨last, hreads, hend, hconfig'⟩ := ih hfed (hconfig ▸ hshebang) hlines.2
      exact ⟨last, readLines_succ hread hreads, hend, hconfig'.trans hconfig⟩

/-- Where no data is left a wait finds the connection closed. -/
theorem awaitData_of_nothing {size : Nat} {patience : Patience} (hpatience : patience.Endless)
    (started : Int) {receipts : List Receipt} (hsteady : ∀ receipt ∈ receipts, receipt.Steady)
    (hnothing : arriving receipts = []) {clock : Clock} (htakes : clock.Takes patience.pause) :
    (awaitData size patience started receipts clock).arrival = .closed ∧
      (awaitData size patience started receipts clock).receipts = [] := by
  induction receipts generalizing clock with
  | nil => exact ⟨rfl, rfl⟩
  | cons receipt rest ih =>
      rw [List.forall_mem_cons] at hsteady
      rw [arriving, List.flatMap_cons, List.append_eq_nil_iff] at hnothing
      rw [awaitData_again hpatience started hnothing.1 hsteady.1 rest htakes]
      exact ih hsteady.2 hnothing.2 (htakes.congr rfl)

/-- Where nothing is left a line ends at once. -/
theorem assembleLine_of_nothing {config : Config} (hpatience : config.readPatience.Endless)
    (hsize : 0 < config.bufferSize) (started : Int) {inbox : Inbox}
    (htakes : inbox.clock.Takes config.readPatience.pause)
    (hsteady : ∀ receipt ∈ inbox.receipts, receipt.Steady) (hunread : inbox.unread = [])
    (hnothing : arriving inbox.receipts = []) (line : List UInt8) :
    let result := assembleLine config true started inbox line
    result.1 = fail (.peerClosed config.endpoint) ∧ result.2.unread = [] ∧
      result.2.receipts = [] := by
  have hcut : cutLine inbox.unread = none := by rw [hunread]; rfl
  obtain ⟨hclosed, hlast⟩ : (receive config.bufferSize config.readPatience started inbox.receipts
        inbox.clock).arrival = .closed ∧
      (receive config.bufferSize config.readPatience started inbox.receipts
        inbox.clock).receipts = [] := by
    rw [receive, if_neg (by omega)]
    exact awaitData_of_nothing hpatience started hsteady hnothing htakes
  dsimp only
  rw [assembleLine]
  split
  · rename_i hline
    cases hcut.symm.trans hline
  · dsimp only
    rw [if_pos rfl]
    split
    · rename_i hdata
      cases hclosed.symm.trans hdata
    · exact ⟨congrArg (Except.error ∘ Arrival.fault config) hclosed, rfl, hlast⟩

/-- Behind the end of its stream a link reports that the peer has closed, and so it will the next
time. -/
theorem readLine_of_fed_nil {station : Station} (h : station.Fed []) :
    ∃ after, station.readLine = (fail (.peerClosed station.link.config.endpoint), after) ∧
      after.Fed [] ∧ after.link.config = station.link.config := by
  obtain ⟨hunread, hnothing⟩ := List.append_eq_nil_iff.mp h.stream_eq
  let inbox := station.inbox.log [station.link.config.detail "reading_line"]
  have htakes : inbox.clock.Takes station.link.config.readPatience.pause := h.takes
  obtain ⟨hfailed, hunread', hreceipts⟩ := assembleLine_of_nothing h.endless h.roomy
    station.clock.now htakes h.steady hunread hnothing []
  have hlimited := limited_assembleLine station.link.config true station.clock.now inbox []
  have hread : station.readLine = (fail (.peerClosed station.link.config.endpoint),
      station.afterInbox (assembleLine station.link.config true station.clock.now inbox []).2) := by
    unfold readLine readRawLine
    dsimp only
    rw [h.isOpen, hfailed]
    rfl
  have hafter := (receipts_afterInbox h.isOpen _).trans hreceipts
  refine ⟨_, hread, ⟨h.endless, htakes.congr hlimited, h.roomy, ?_, ?_, ?_⟩, rfl⟩
  · simp [afterInbox, h.isOpen]
  · rw [hafter]
    exact List.forall_mem_nil _
  · rw [hafter]
    exact List.append_eq_nil_iff.mpr ⟨hunread', rfl⟩

/-- However often a link is read behind the end of its stream, no line is delivered. -/
theorem readLines_of_fed_nil {station : Station} (h : station.Fed []) (count : Nat) :
    (readLines count station).1 =
      List.replicate count (fail (.peerClosed station.link.config.endpoint)) := by
  induction count generalizing station with
  | zero => rfl
  | succ count ih =>
      obtain ⟨after, hread, hfed, hconfig⟩ := readLine_of_fed_nil h
      rw [readLines, hread, List.replicate_succ]
      dsimp only
      rw [ih hfed, hconfig]

theorem readLines_add (front back : Nat) (station : Station) :
    (readLines (front + back) station).1 =
      (readLines front station).1 ++ (readLines back (readLines front station).2).1 := by
  induction front generalizing station with
  | zero => rw [Nat.zero_add]; rfl
  | succ front ih =>
      rw [Nat.succ_add, readLines, readLines]
      dsimp only
      rw [ih, List.cons_append]

/-! ## From one link to another -/

/-- The bytes that a link has put on its connection between two moments are those that come in at
another link. -/
def Carried (before after reader : Station) : Prop :=
  ∃ socket socket', before.socket = some socket ∧ after.socket = some socket' ∧
    socket'.sent = socket.sent ++ arriving reader.inbox.receipts

/-- Lines without line breaks that one link writes are read by another one as they were, with
question marks for the characters beyond ASCII, and behind them there are no others, whatever
parts they are sent in, whatever chunks they arrive in and however much is received at once. Both
clocks have to take the pauses of their links. -/
theorem readLines_writeAll {writer reader : Station} {socket : Socket} (lines : List String)
    (hlines : ∀ line ∈ lines, '\r' ∉ line.toList ∧ '\n' ∉ line.toList)
    (hsocket : writer.socket = some socket) (hsending : socket.Steady)
    (htakes : writer.clock.Takes writer.link.config.readPatience.pause)
    (hopen : reader.socket.isSome) (hunread : reader.link.unread = [])
    (hshebang : reader.link.config.shebang = none)
    (hpatience : reader.link.config.readPatience.Endless)
    (htakes' : reader.clock.Takes reader.link.config.readPatience.pause)
    (hsize : 0 < reader.link.config.bufferSize)
    (hreceiving : ∀ receipt ∈ reader.inbox.receipts, receipt.Steady)
    (hcarried : Carried writer (writer.writeAll (lines.map .line)).2 reader) :
    (writer.writeAll (lines.map .line)).1 = .ok () ∧
      ∀ extra, (reader.readLines (lines.length + extra)).1 =
        (lines.map fun line => .ok (Text.toAscii line)) ++
          List.replicate extra (fail (.peerClosed reader.link.config.endpoint)) := by
  have hwritten := writeAll_steady hsocket hsending htakes (lines.map .line)
  have harriving : arriving reader.inbox.receipts = wire (lines.map Text.toAscii) := by
    obtain ⟨first, last, hfirst, hlast, hbytes⟩ := hcarried
    obtain ⟨first', last', hfirst', hlast', hsent⟩ :=
      ((writeAll_end hsocket (lines.map .line)).1 hwritten).sockets
    cases hfirst.symm.trans hfirst'
    cases hlast.symm.trans hlast'
    rw [← bytes_lines]
    exact List.append_cancel_left (hbytes.symm.trans hsent)
  have hfed : reader.Fed (wire (lines.map Text.toAscii)) := by
    refine ⟨hpatience, htakes', hsize, hopen, hreceiving, ?_⟩
    rw [hunread, harriving, List.nil_append]
  have hplain : ∀ line ∈ lines.map Text.toAscii, Plain line :=
    List.forall_mem_map.mpr fun line hline => plain_toAscii (hlines line hline)
  obtain ⟨last, hreads, hend, hconfig⟩ := readLines_of_wire hfed hshebang hplain
  rw [List.length_map, List.map_map] at hreads
  refine ⟨hwritten, fun extra => ?_⟩
  rw [readLines_add, hreads, readLines_of_fed_nil hend, hconfig]
  rfl

/-- Three lines, one of them empty, are sent in parts and arrive in chunks that cut across them. -/
theorem readLines_writeAll_of_parts :
    let config := Config.ofSettings {} ⟨"mail", "localhost", 143⟩ none none none none (some 3)
    let lines := ["h\u00e9!", "", "ok"]
    let socket := Socket.fresh "localhost:143" ⟨[], [],
      [.upTo 1, .retry, .upTo 0, .upTo 9, .failed (.numbered 4 "Interrupted system call" none),
        .upTo 1, .upTo 1], none⟩
    let receipts : List Receipt := [.data [104], .retry, .data [63, 33, 13, 10, 13],
      .failed (.numbered 4 "Interrupted system call" none), .data [10, 111, 107, 13], .data [10]]
    let writer : Station := ⟨{ Link.fresh config with socket := some 0 }, some socket, .system, []⟩
    let reader : Station := ⟨{ Link.fresh config with socket := some 0 },
      some (.fresh "localhost:143" ⟨[], receipts, [], none⟩), .system, []⟩
    let closed := Fault.failure (.peerClosed reader.link.config.endpoint)
    (∀ line ∈ lines, '\r' ∉ line.toList ∧ '\n' ∉ line.toList) ∧
      writer.socket = some socket ∧ socket.Steady ∧
      writer.clock.Takes writer.link.config.readPatience.pause ∧
      reader.socket.isSome ∧ reader.link.unread = [] ∧
      reader.link.config.shebang = none ∧ reader.link.config.readPatience.Endless ∧
      reader.clock.Takes reader.link.config.readPatience.pause ∧
      0 < reader.link.config.bufferSize ∧ (∀ receipt ∈ reader.inbox.receipts, receipt.Steady) ∧
      Carried writer (writer.writeAll (lines.map .line)).2 reader ∧
      (writer.writeAll (lines.map .line)).1 = .ok () ∧
      (reader.readLines 5).1 = [.ok "h?!", .ok "", .ok "ok", .error closed, .error closed] := by
  intro config lines socket receipts writer reader closed
  have hlines : ∀ line ∈ lines, '\r' ∉ line.toList ∧ '\n' ∉ line.toList := by decide +kernel
  have hsteady : socket.Steady := by decide +kernel
  have hpatience : reader.link.config.readPatience.Endless :=
    Config.endless_ofSettings rfl _ _ _ _ _
  have htakes : writer.clock.Takes writer.link.config.readPatience.pause := by decide +kernel
  have htakes' : reader.clock.Takes reader.link.config.readPatience.pause := by decide +kernel
  have hsize : 0 < reader.link.config.bufferSize := by decide
  have hreceiving : ∀ receipt ∈ reader.inbox.receipts, receipt.Steady := by
    change ∀ receipt ∈ receipts, receipt.Steady
    decide +zetaReduce
  have hcarried : Carried writer (writer.writeAll (lines.map .line)).2 reader := by
    have hsent : (writer.writeAll (lines.map .line)).2.socket.map Socket.sent =
        some (arriving reader.inbox.receipts) := by decide +kernel
    obtain ⟨socket', hsocket', hbytes⟩ := Option.map_eq_some_iff.mp hsent
    exact ⟨socket, socket', rfl, hsocket', hbytes⟩
  obtain ⟨hwritten, hread⟩ := readLines_writeAll lines hlines rfl hsteady htakes rfl rfl rfl
    hpatience htakes' hsize hreceiving hcarried
  exact ⟨hlines, rfl, hsteady, htakes, rfl, rfl, rfl, hpatience, htakes', hsize, hreceiving, hcarried,
    hwritten, (hread 2).trans rfl⟩

end Station

end Network

end MailScript
