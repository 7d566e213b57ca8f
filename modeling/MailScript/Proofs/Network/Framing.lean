import MailScript.Proofs.Network.Starting
import MailScript.Proofs.Network.Stream

/-! # Lines from a stream of bytes

The lines that a link reads are the segments between line feeds of all the data together, however it
was cut. -/

namespace MailScript.Network

/-! ## One call -/

/-- The text of a segment: carriage returns are dropped, and every other byte is the character of
the same code. -/
def lineText (segment : List UInt8) : String :=
  .ofList ((segment.filter fun byte => byte ≠ carriageReturn).map fun byte => .ofNat byte.toNat)

/-- A connected link without a limit to its patience, which can always pause, has a stream of bytes
before it, part of which has been received. -/
structure Station.Fed (station : Station) (stream : List UInt8) : Prop where
  endless : station.link.config.readPatience.Endless
  takes : station.clock.Takes station.link.config.readPatience.pause
  roomy : 0 < station.link.config.bufferSize
  isOpen : station.socket.isSome
  steady : ∀ receipt ∈ station.inbox.receipts, receipt.Steady
  stream_eq : station.link.unread ++ arriving station.inbox.receipts = stream

/-- A link has read so many lines, which took some bytes off its stream. What it has received beyond
them is unread. -/
structure Station.Progress (station after : Station) (taken : List UInt8) (count : Nat) : Prop where
  config : after.link.config = station.link.config
  linesRead : after.link.linesRead = station.link.linesRead + count
  bytes : ∃ obtained, arriving station.inbox.receipts = obtained ++ arriving after.inbox.receipts ∧
    station.link.unread ++ obtained = taken ++ after.link.unread ∧
    after.link.bytesReceived = station.link.bytesReceived + obtained.length

namespace Station

theorem Progress.refl (station : Station) : Progress station station [] 0 :=
  ⟨rfl, rfl, [], rfl, List.append_nil _, rfl⟩

theorem Progress.trans {a b c : Station} {front back : List UInt8} {m n : Nat}
    (hab : Progress a b front m) (hbc : Progress b c back n) :
    Progress a c (front ++ back) (m + n) := by
  obtain ⟨earlier, hreceipts, hunread, hreceived⟩ := hab.bytes
  obtain ⟨later, hreceipts', hunread', hreceived'⟩ := hbc.bytes
  refine ⟨hbc.config.trans hab.config, ?_, earlier ++ later, ?_, ?_, ?_⟩
  · rw [hbc.linesRead, hab.linesRead, Nat.add_assoc]
  · rw [hreceipts, hreceipts', List.append_assoc]
  · rw [← List.append_assoc, hunread, List.append_assoc, hunread', List.append_assoc]
  · rw [hreceived', hreceived, List.length_append, Nat.add_assoc]

theorem receipts_afterInbox {station : Station} (h : station.socket.isSome) (inbox : Inbox) :
    (station.afterInbox inbox).inbox.receipts = inbox.receipts := by
  obtain ⟨socket, hsocket⟩ := Option.isSome_iff_exists.mp h
  simp [afterInbox, Station.inbox, hsocket]

/-- What is delivered for a line: the first line may be replaced. -/
def shown (station : Station) (line : String) : String :=
  if station.link.atFirstLine then station.link.config.shebang.getD line else line

/-- The real first line behind the delivery of a line: it is kept if it was replaced. -/
def kept (station : Station) (line : String) : Option String :=
  if station.link.atFirstLine then
    (station.link.config.shebang.map fun _ => line).or station.link.actualFirstLine
  else station.link.actualFirstLine

theorem deliver_eq (station : Station) (line : String) :
    ∃ events, station.deliver line = (station.shown line, { station with
      link := { station.link with
        linesRead := station.link.linesRead + 1
        atFirstLine := false
        actualFirstLine := station.kept line }
      events := events }) := by
  cases hfirst : station.link.atFirstLine with
  | false =>
      refine ⟨station.events ++ [lineEvent station.link.config line none], ?_⟩
      simp [deliver, shown, kept, hfirst, log]
  | true =>
      cases hshebang : station.link.config.shebang with
      | none =>
          refine ⟨station.events ++ [lineEvent station.link.config line none], ?_⟩
          simp [deliver, shown, kept, hfirst, hshebang, log]
      | some text =>
          refine ⟨station.events ++ [lineEvent station.link.config line (some text)], ?_⟩
          simp [deliver, shown, kept, hfirst, hshebang, log]

/-- A call delivers the line that has been put together. -/
theorem readLine_of_raw {station after : Station} {line : String}
    (h : station.readRawLine = (.ok line, after)) :
    station.readLine = (.ok (after.shown line), (after.deliver line).2) := by
  obtain ⟨events, hdeliver⟩ := deliver_eq after line
  unfold readLine
  rw [h]
  dsimp only
  rw [hdeliver]

/-- A call delivers the next segment. -/
theorem readLine_of_fed {station : Station} {before behind : List UInt8}
    (h : station.Fed (before ++ lineFeed :: behind)) (hbefore : lineFeed ∉ before) :
    ∃ after, station.readLine = (.ok (station.shown (lineText before)), after) ∧
      after.Fed behind ∧ Progress station after (before ++ [lineFeed]) 1 ∧
      after.link.atFirstLine = false ∧
      after.link.actualFirstLine = station.kept (lineText before) := by
  obtain ⟨inbox, obtained, hassemble, hsteady, hreceipts, hunread, hreceived⟩ :=
    assembleLine_line h.roomy h.endless station.clock.now
      (station.inbox.log [station.link.config.detail "reading_line"]) [] h.takes h.steady h.stream_eq
      hbefore
  have hlimited : inbox.clock.limited = station.clock.limited := by
    have hkept := limited_assembleLine station.link.config true station.clock.now
      (station.inbox.log [station.link.config.detail "reading_line"]) []
    rw [hassemble] at hkept
    exact hkept
  have hraw : station.readRawLine = (.ok (lineText before), station.afterInbox inbox) := by
    unfold readRawLine
    dsimp only
    rw [h.isOpen, hassemble]
    rfl
  obtain ⟨events, hdeliver⟩ := deliver_eq (station.afterInbox inbox) (lineText before)
  have hread : station.readLine = (.ok (station.shown (lineText before)),
      ((station.afterInbox inbox).deliver (lineText before)).2) := readLine_of_raw hraw
  rw [hdeliver] at hread
  have hbehind : behind = inbox.unread ++ arriving inbox.receipts := by
    have hstream := h.stream_eq
    rw [show arriving station.inbox.receipts = obtained ++ arriving inbox.receipts from hreceipts,
      ← List.append_assoc, show station.link.unread ++ obtained = _ from hunread, List.append_assoc,
      List.cons_append] at hstream
    exact (append_lineFeed_inj hstream hbefore hbefore).2.symm
  have hafter := receipts_afterInbox h.isOpen inbox
  refine ⟨_, hread, ⟨h.endless, h.takes.congr hlimited, h.roomy, ?_, ?_, ?_⟩,
    ⟨rfl, rfl, obtained, ?_, ?_, hreceived⟩, rfl, rfl⟩
  · simp [afterInbox, h.isOpen]
  · change ∀ receipt ∈ (station.afterInbox inbox).inbox.receipts, receipt.Steady
    rw [hafter]
    exact hsteady
  · change inbox.unread ++ arriving (station.afterInbox inbox).inbox.receipts = behind
    rw [hafter, hbehind]
  · change _ = obtained ++ arriving (station.afterInbox inbox).inbox.receipts
    rw [hafter]
    exact hreceipts
  · rw [List.append_assoc]
    exact hunread

/-- Without another line feed a call ends where the stream does. -/
theorem readLine_of_fed_end {station : Station} {tail : List UInt8} (h : station.Fed tail)
    (htail : lineFeed ∉ tail) :
    station.readLine.1 = .error (.failure (.peerClosed station.link.config.endpoint)) := by
  have hend := assembleLine_end h.roomy h.endless station.clock.now
    (station.inbox.log [station.link.config.detail "reading_line"]) [] h.takes h.steady
    (h.stream_eq ▸ htail)
  have hraw : station.readRawLine.1 =
      .error (.failure (.peerClosed station.link.config.endpoint)) := by
    unfold readRawLine
    dsimp only
    rw [h.isOpen, hend]
    rfl
  unfold readLine
  split
  · rename_i hok
    rw [hok] at hraw
    cases hraw
  · rename_i herror
    rw [herror] at hraw
    exact hraw

end Station

/-! ## Successive calls -/

/-- What successive calls come to, and the link behind them. -/
def Station.readLines : Nat → Station → List (Except Fault String) × Station
  | 0, station => ([], station)
  | count + 1, station =>
    let (outcome, after) := station.readLine
    let (outcomes, last) := after.readLines count
    (outcome :: outcomes, last)

namespace Station

theorem readLines_succ {station after last : Station} {outcome : Except Fault String}
    {outcomes : List (Except Fault String)} {count : Nat}
    (h : station.readLine = (outcome, after)) (hrest : readLines count after = (outcomes, last)) :
    readLines (count + 1) station = (outcome :: outcomes, last) := by
  rw [readLines, h]
  dsimp only
  rw [hrest]

/-- Behind the first line, calls deliver the segments as they are. -/
theorem readLines_later (lines : List (List UInt8)) {tail : List UInt8} {station : Station}
    (hlines : ∀ line ∈ lines, lineFeed ∉ line) (h : station.Fed (ended lines ++ tail))
    (hfirst : station.link.atFirstLine = false) :
    ∃ last, readLines lines.length station = (lines.map fun line => .ok (lineText line), last) ∧
      last.Fed tail ∧ Progress station last (ended lines) lines.length ∧
      last.link.actualFirstLine = station.link.actualFirstLine := by
  induction lines generalizing station with
  | nil => exact ⟨station, rfl, h, .refl station, rfl⟩
  | cons line rest ih =>
      rw [ended_cons_append] at h
      rw [List.forall_mem_cons] at hlines
      obtain ⟨after, hread, hfed, hprogress, hlater, hkept⟩ := readLine_of_fed h hlines.1
      obtain ⟨last, hreads, hend, hprogress', hkept'⟩ := ih hlines.2 hfed hlater
      have hshown : station.shown (lineText line) = lineText line := by simp [shown, hfirst]
      refine ⟨last, ?_, hend, ?_, ?_⟩
      · rw [hshown] at hread
        exact readLines_succ hread hreads
      · have hboth := hprogress.trans hprogress'
        rwa [Nat.add_comm] at hboth
      · rw [hkept', hkept, kept, hfirst]
        rfl

/-- What is delivered for the first lines of a connection: the first of them may be replaced. -/
def greeted (shebang : Option String) : List String → List String
  | [] => []
  | line :: rest => shebang.getD line :: rest

theorem readLines_of_started (lines : List (List UInt8)) {tail : List UInt8} {station : Station}
    (hlines : ∀ line ∈ lines, lineFeed ∉ line) (h : station.Fed (ended lines ++ tail))
    (hstarted : station.Started) :
    ∃ last, readLines lines.length station =
        ((greeted station.link.config.shebang (lines.map lineText)).map .ok, last) ∧
      last.Fed tail ∧ Progress station last (ended lines) lines.length ∧
      last.link.actualFirstLine =
        station.link.config.shebang.bind fun _ => (lines.map lineText).head? := by
  cases lines with
  | nil =>
      refine ⟨station, rfl, h, .refl station, ?_⟩
      rw [hstarted.actualFirstLine]
      cases station.link.config.shebang <;> rfl
  | cons line rest =>
      rw [ended_cons_append] at h
      rw [List.forall_mem_cons] at hlines
      obtain ⟨after, hread, hfed, hprogress, hlater, hkept⟩ := readLine_of_fed h hlines.1
      obtain ⟨last, hreads, hend, hprogress', hkept'⟩ := readLines_later rest hlines.2 hfed hlater
      have hshown : station.shown (lineText line) =
          station.link.config.shebang.getD (lineText line) := by
        simp [shown, hstarted.atFirstLine]
      refine ⟨last, ?_, hend, ?_, ?_⟩
      · rw [hshown] at hread
        rw [List.length_cons, readLines_succ hread hreads]
        simp [greeted]
      · have hboth := hprogress.trans hprogress'
        rwa [Nat.add_comm] at hboth
      · rw [hkept', hkept, kept, hstarted.atFirstLine, hstarted.actualFirstLine]
        cases station.link.config.shebang <;> rfl

/-- Successive calls deliver the segments of all the data together, however it was cut and whatever
pauses there were, and then report that the peer has closed. A link has received what its lines took
and what is unread. -/
theorem readLines_eq_segments {station : Station} (hstarted : station.Started)
    (hpatience : station.link.config.readPatience.Endless)
    (htakes : station.clock.Takes station.link.config.readPatience.pause)
    (hsize : 0 < station.link.config.bufferSize)
    (hsteady : ∀ receipt ∈ station.inbox.receipts, receipt.Steady) :
    let shebang := station.link.config.shebang
    let stream := arriving station.inbox.receipts
    (segments stream).length = stream.count lineFeed ∧
    (∀ count ≤ (segments stream).length,
      let lines := (segments stream).take count
      let last := (readLines count station).2
      (readLines count station).1 = (greeted shebang (lines.map lineText)).map .ok ∧
        last.link.actualFirstLine = (shebang.bind fun _ => (lines.map lineText).head?) ∧
        last.link.linesRead = station.link.linesRead + count ∧
        ∃ obtained, stream = obtained ++ arriving last.inbox.receipts ∧
          obtained = ended lines ++ last.link.unread ∧
          last.link.bytesReceived = station.link.bytesReceived + obtained.length) ∧
    ∃ failure, (readLines (segments stream).length station).2.readLine.1 =
        .error (.failure failure) ∧
      failure.kind = .receive ∧ failure.message = "Connection closed by peer" := by
  intro shebang stream
  obtain ⟨tail, hstream, htail, hsegments, hcount⟩ := exists_tail stream
  have hfed : station.Fed stream := by
    refine ⟨hpatience, htakes, hsize, hstarted.isOpen, hsteady, ?_⟩
    rw [hstarted.unread, List.nil_append]
  refine ⟨hcount, fun count hle => ?_, ?_⟩
  · have hlines : ∀ line ∈ (segments stream).take count, lineFeed ∉ line :=
      fun line hline => hsegments line (List.mem_of_mem_take hline)
    have hsplit : stream = ended ((segments stream).take count) ++
        (ended ((segments stream).drop count) ++ tail) := by
      rw [← List.append_assoc, ← ended_append, List.take_append_drop]
      exact hstream
    rw [hsplit] at hfed
    obtain ⟨last, hreads, -, hprogress, hkept⟩ :=
      readLines_of_started ((segments stream).take count) hlines hfed hstarted
    rw [List.length_take_of_le hle] at hreads hprogress
    obtain ⟨obtained, hreceipts, hunread, hreceived⟩ := hprogress.bytes
    rw [hstarted.unread, List.nil_append] at hunread
    dsimp only
    rw [hreads]
    exact ⟨rfl, hkept, hprogress.linesRead, obtained, hreceipts, hunread, hreceived⟩
  · rw [hstream] at hfed
    obtain ⟨last, hreads, hend, hprogress, -⟩ :=
      readLines_of_started (segments stream) hsegments hfed hstarted
    rw [hreads]
    exact ⟨_, readLine_of_fed_end hend htail, rfl, rfl⟩

/-- Two lines arrive in chunks, with a greeting in the place of the first one. -/
theorem readLines_eq_segments_of_chunks :
    let config := Config.ofSettings {} ⟨"mail", "localhost", 143⟩ none (some "* OK") none none (some 2)
    let receipts : List Receipt := [.data [72, 105, 13], .retry, .data [10, 66],
      .failed (.numbered 4 "Interrupted system call" none), .data [121, 10, 33]]
    let station : Station := ⟨{ Link.fresh config with socket := some 0 },
      some (.fresh "localhost:143" ⟨[], receipts, [], none⟩), .system, []⟩
    station.Started ∧ config.readPatience.Endless ∧
      station.clock.Takes config.readPatience.pause ∧ 0 < config.bufferSize ∧
      (∀ receipt ∈ station.inbox.receipts, receipt.Steady) ∧
      (readLines 2 station).1 = [.ok "* OK", .ok "By"] ∧
      (readLines 2 station).2.link.actualFirstLine = some "Hi" := by
  intro config receipts station
  have hstarted : station.Started := ⟨rfl, rfl, rfl, rfl⟩
  have hpatience : config.readPatience.Endless := Config.endless_ofSettings rfl _ _ _ _ _
  have htakes : station.clock.Takes config.readPatience.pause := by decide +kernel +zetaReduce
  have hsize : 0 < config.bufferSize := by decide +zetaReduce
  have hsteady : ∀ receipt ∈ station.inbox.receipts, receipt.Steady := by
    change ∀ receipt ∈ receipts, receipt.Steady
    decide +zetaReduce
  have hlength : 2 ≤ (segments (arriving station.inbox.receipts)).length := by decide +kernel +zetaReduce
  obtain ⟨hlines, hfirst, -⟩ :=
    (readLines_eq_segments hstarted hpatience htakes hsize hsteady).2.1 2 hlength
  refine ⟨hstarted, hpatience, htakes, hsize, hsteady, hlines.trans ?_, hfirst.trans ?_⟩
  · rfl
  · rfl

end Station

end MailScript.Network
