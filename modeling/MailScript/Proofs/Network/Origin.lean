import MailScript.Proofs.Network.Calls
import MailScript.Proofs.Network.Framing
import MailScript.Proofs.Network.Sending

/-! # Where lines come from

A link may be called in any order, over connections that break down at any point. Every line that it
delivers is still a segment of what its calls have received up to then, and what is unread is an end
of it. -/

namespace MailScript.Network

/-! ## What a wait brings -/

/-- The bytes that a wait for data brings. -/
def Arrival.bytes : Arrival → List UInt8
  | .data bytes => bytes
  | _ => []

theorem arriving_cons (receipt : Receipt) (rest : List Receipt) :
    arriving (receipt :: rest) = receipt.bytes ++ arriving rest :=
  List.flatMap_cons ..

theorem Receipt.bytes_eq_nil {receipt : Receipt} (h : ∀ bytes, receipt = .data bytes → False) :
    receipt.bytes = [] := by
  cases receipt with
  | data bytes => exact (h bytes rfl).elim
  | retry => rfl
  | failed error => rfl

/-- Whatever ends a wait, what it brings comes off the front of what arrives, and nothing else
does. -/
theorem arriving_awaitData (size : Nat) (patience : Patience) (started : Int)
    (receipts : List Receipt) (clock : Clock) :
    let run := awaitData size patience started receipts clock
    arriving receipts = run.arrival.bytes ++ arriving run.receipts := by
  fun_induction awaitData size patience started receipts clock with
  | case1 => rfl
  | case2 bytes rest clock left htake =>
      rw [arriving_cons, Receipt.bytes, arriving_left size bytes rest, htake]
      rfl
  | case3 bytes rest clock left first others htake =>
      rw [arriving_cons, Receipt.bytes, arriving_left size bytes rest, htake]
      rfl
  | case4 receipt rest clock hdata =>
      rw [arriving_cons, Receipt.bytes_eq_nil hdata]
      rfl
  | case5 receipt rest clock hdata =>
      rw [arriving_cons, Receipt.bytes_eq_nil hdata]
      rfl
  | case6 receipt rest clock hdata =>
      rw [arriving_cons, Receipt.bytes_eq_nil hdata]
      rfl
  | case7 receipt rest clock hdata _ _ _ later ih =>
      rw [arriving_cons, Receipt.bytes_eq_nil hdata]
      exact ih

theorem arriving_receive (size : Int) (patience : Patience) (started : Int)
    (receipts : List Receipt) (clock : Clock) :
    let run := receive size patience started receipts clock
    arriving receipts = run.arrival.bytes ++ arriving run.receipts := by
  unfold receive
  split
  · rfl
  · exact arriving_awaitData ..

/-! ## What a call receives -/

/-- What reading does to the bytes at hand, of which some have been received meanwhile, behind the
part of a line that has been read already: the line ends in front of a line feed, or there is no
line, and no byte is left. -/
inductive Cut (line bytes : List UInt8) : Except Fault (List UInt8) → List UInt8 → Prop where
  | line {segment unread : List UInt8} (hbytes : bytes = segment ++ lineFeed :: unread)
      (hsegment : lineFeed ∉ segment) : Cut line bytes (.ok (line ++ dropReturns segment)) unread
  | broken (fault : Fault) : Cut line bytes (.error fault) []

/-- Bytes without a line feed in front of others belong to the same line. -/
theorem Cut.prepend {line front bytes unread : List UInt8} {outcome : Except Fault (List UInt8)}
    (hfront : lineFeed ∉ front) (h : Cut (line ++ dropReturns front) bytes outcome unread) :
    Cut line (front ++ bytes) outcome unread := by
  cases h with
  | @line segment _ hbytes hsegment =>
      rw [List.append_assoc, ← dropReturns_append]
      apply Cut.line
      · rw [hbytes, List.append_assoc]
      · simp [hfront, hsegment]
  | broken fault => exact .broken fault

/-- In however many pieces a line arrives, and wherever it breaks off, it is cut off the bytes
unread and those received meanwhile. -/
theorem assembleLine_cut (config : Config) (isOpen : Bool) (started : Int) (inbox : Inbox)
    (line : List UInt8) :
    let result := assembleLine config isOpen started inbox line
    ∃ bytes, arriving inbox.receipts = bytes ++ arriving result.2.receipts ∧
      Cut line (inbox.unread ++ bytes) result.1 result.2.unread := by
  fun_induction assembleLine config isOpen started inbox line with
  | case1 inbox line before behind hcut =>
      obtain ⟨hunread, hbefore⟩ := cutLine_eq_some_iff.mp hcut
      refine ⟨[], rfl, .line ?_ hbefore⟩
      rw [List.append_nil]
      exact hunread
  | case2 inbox line hcut line' emptied _ asking run bytes hdata ih =>
      obtain ⟨later, hreceipts, hrest⟩ := ih
      have harriving : arriving inbox.receipts = run.arrival.bytes ++ arriving run.receipts :=
        arriving_receive ..
      rw [hdata] at harriving
      refine ⟨bytes ++ later, ?_, hrest.prepend (cutLine_eq_none_iff.mp hcut)⟩
      rw [harriving, List.append_assoc]
      exact congrArg (bytes ++ ·) hreceipts
  | case3 inbox line hcut emptied _ asking run hdata =>
      have harriving : arriving inbox.receipts = run.arrival.bytes ++ arriving run.receipts :=
        arriving_receive ..
      exact ⟨run.arrival.bytes, harriving, .broken _⟩
  | case4 inbox line hcut => exact ⟨[], rfl, .broken _⟩

/-- A link has received some bytes in a call, which may have delivered a line. What is unread is
an end of the bytes at hand, and the line stands among them, or the greeting has been delivered
for it. -/
structure Link.Draws (link link' : Link) (bytes : List UInt8) (delivered : Option String) : Prop where
  config : link'.config = link.config
  unread : link'.unread <:+ link.unread ++ bytes
  line : ∀ line ∈ delivered, ∃ segment, segment ++ [lineFeed] <:+: link.unread ++ bytes ∧
    (line = lineText segment ∨ link.config.shebang = some line)

/-- A call that does not read leaves what is unread as it is, or drops it. -/
theorem Link.Draws.idle {link link' : Link} (hconfig : link'.config = link.config)
    (hunread : link'.unread <:+ link.unread) : link.Draws link' [] none :=
  ⟨hconfig, by rwa [List.append_nil], nofun⟩

namespace Station

theorem shown_eq (station : Station) (line : String) :
    station.shown line = line ∨ station.link.config.shebang = some (station.shown line) := by
  unfold shown
  split
  · cases station.link.config.shebang with
    | none => exact .inl rfl
    | some text => exact .inr rfl
  · exact .inl rfl

/-- Without a socket nothing arrives, neither in front of the work of the receiving side nor behind
it. -/
theorem arriving_afterInbox {station : Station} {inbox : Inbox} {bytes : List UInt8}
    (h : arriving station.inbox.receipts = bytes ++ arriving inbox.receipts) :
    arriving (station.afterInbox inbox).inbox.receipts = arriving inbox.receipts := by
  cases hsocket : station.socket with
  | some socket => rw [receipts_afterInbox (Option.isSome_iff_exists.mpr ⟨socket, hsocket⟩)]
  | none =>
      have hnothing : arriving station.inbox.receipts = [] := by simp [Station.inbox, hsocket, arriving]
      rw [hnothing] at h
      rw [(List.append_eq_nil_iff.mp h.symm).2]
      simp [Station.inbox, afterInbox, hsocket, arriving]

/-- A call that reads a line draws on what its connection brings. -/
theorem draws_readLine (station : Station) :
    station.readLine.2.socket.isSome = station.socket.isSome ∧
      ∃ bytes, arriving station.inbox.receipts = bytes ++
          arriving station.readLine.2.inbox.receipts ∧
        station.link.Draws station.readLine.2.link bytes station.readLine.1.toOption := by
  obtain ⟨bytes, hreceipts, hcut⟩ := assembleLine_cut station.link.config station.socket.isSome
    station.clock.now (station.inbox.log [station.link.config.detail "reading_line"]) []
  rcases hresult : assembleLine station.link.config station.socket.isSome station.clock.now
    (station.inbox.log [station.link.config.detail "reading_line"]) [] with ⟨outcome, inbox⟩
  have hraw : station.readRawLine = (outcome.map Text.decodeLatin1, station.afterInbox inbox) := by
    unfold readRawLine
    dsimp only
    rw [hresult]
  have hopen : (station.afterInbox inbox).socket.isSome = station.socket.isSome := Option.isSome_map
  rw [hresult] at hreceipts hcut
  have harriving := arriving_afterInbox hreceipts
  change Cut [] (station.link.unread ++ bytes) outcome inbox.unread at hcut
  generalize hunread : inbox.unread = unread at hcut
  cases hcut with
  | @line segment _ hbytes hsegment =>
      obtain ⟨events, hdeliver⟩ := deliver_eq (station.afterInbox inbox) (lineText segment)
      have hread : station.readLine = (.ok ((station.afterInbox inbox).shown (lineText segment)),
          ((station.afterInbox inbox).deliver (lineText segment)).2) := readLine_of_raw hraw
      rw [hread, hdeliver]
      refine ⟨hopen, bytes, hreceipts.trans (congrArg (bytes ++ ·) harriving.symm), ⟨rfl, ?_, ?_⟩⟩
      · change inbox.unread <:+ _
        rw [hbytes, hunread]
        exact (List.suffix_cons _ _).trans (List.suffix_append _ _)
      · rintro line ⟨⟩
        refine ⟨segment, ⟨[], unread, ?_⟩, shown_eq (station.afterInbox inbox) (lineText segment)⟩
        simp [hbytes]
  | broken fault =>
      have hread : station.readLine = (.error fault, station.afterInbox inbox) := by
        unfold readLine
        rw [hraw]
        rfl
      rw [hread]
      refine ⟨hopen, bytes, hreceipts.trans (congrArg (bytes ++ ·) harriving.symm), ⟨rfl, ?_, nofun⟩⟩
      change inbox.unread <:+ _
      rw [hunread]
      exact List.nil_suffix

theorem unread_send (data : List UInt8) (station : Station) :
    (station.send data).2.link.unread = station.link.unread := by
  unfold send
  cases station.socket with
  | none => rfl
  | some socket =>
      dsimp only
      split <;> rfl

theorem unread_writeLine (line : String) (station : Station) :
    (station.writeLine line).2.link.unread = station.link.unread :=
  writeLine_within (fun station after => after.link.unread = station.link.unread)
    (fun hab hbc => hbc.trans hab) unread_send (fun _ _ => rfl) (fun _ _ => rfl) line station

theorem unread_upload (attachment : Attachment) (station : Station) :
    (station.upload attachment).2.link.unread = station.link.unread :=
  upload_within (fun station after => after.link.unread = station.link.unread)
    (fun hab hbc => hbc.trans hab) unread_send (fun _ _ => rfl) attachment station

end Station

/-! ## Calls one after another -/

namespace World

/-- The bytes that the connection of a label has still to bring. -/
def coming (label : String) (world : World) : List UInt8 :=
  ((world.connection? label).map fun socket => arriving socket.behaviour.receipts).getD []

end World

/-- The bytes that a call received: those that its connection has to bring in front of the call
and not behind it. -/
def Performed.received (label : String) (performed : Performed) : List UInt8 :=
  match performed.call with
  | .readLine =>
    let before := performed.before.coming label
    before.take (before.length - (performed.after.coming label).length)
  | _ => []

/-- The line that a call delivered, if there is one. -/
def Performed.delivered (performed : Performed) : Option String :=
  performed.outcome.toOption.join

namespace World

variable {world : World} {label : String} {place : Nat} {link : Link}

theorem coming_eq (hfind : world.findLink label = some (place, link)) :
    world.coming label = arriving (world.station link).inbox.receipts := by
  unfold coming connection?
  rw [hfind]
  change ((world.station link).socket.map _).getD [] = _
  cases hsocket : (world.station link).socket with
  | none => simp [Station.inbox, hsocket, arriving]
  | some socket => simp [Station.inbox, hsocket]

/-- Behind the work of a link its socket is as the work has left it. -/
theorem socket_station_afterStation {after : Station} (hindex : after.link.socket = link.socket)
    (hopen : after.socket.isSome = (world.station link).socket.isSome) (place : Nat) :
    ((world.afterStation place after).station after.link).socket = after.socket := by
  cases hsocket : (world.station link).socket with
  | none =>
      have hnone : after.socket = none := by simpa [hsocket] using hopen
      have hsame : (world.afterStation place after).sockets = world.sockets := by
        simp [afterStation, hnone]
      change after.link.socket.bind _ = _
      rw [hsame, hindex, hnone]
      exact hsocket
  | some socket =>
      obtain ⟨socket', hsocket'⟩ : ∃ socket', after.socket = some socket' := by
        rw [← Option.isSome_iff_exists, hopen, hsocket]
        rfl
      rw [socket_afterStation hindex hsocket hsocket', hsocket']

theorem inbox_receipts_congr {station station' : Station} (h : station'.socket = station.socket) :
    station'.inbox.receipts = station.inbox.receipts := by
  simp [Station.inbox, h]

/-- A call that reads a line receives what its connection does not bring any more. -/
theorem draws_perform_readLine (hfind : world.findLink label = some (place, link)) :
    let performed := world.perform label .readLine
    (∃ link', performed.after.findLink label = some (place, link') ∧
        link.Draws link' (performed.received label) performed.delivered) ∧
      world.coming label = performed.received label ++ performed.after.coming label := by
  intro performed
  obtain ⟨hopen, bytes, hreceipts, hdraws⟩ := (world.station link).draws_readLine
  have hread : world.readLine label = _ := work_of_findLink hfind Station.readLine
  have hkept : (world.station link).Kept (world.station link).readLine.2 := Station.kept_readLine _
  have hafter : performed.after = world.afterStation place (world.station link).readLine.2 := by
    change (world.readLine label).2 = _
    rw [hread]
  have hfound : performed.after.findLink label =
      some (place, (world.station link).readLine.2.link) := by
    rw [hafter]
    exact findLink_afterStation hfind hkept.config
  have hcoming : world.coming label = bytes ++ performed.after.coming label := by
    rw [coming_eq hfind, coming_eq hfound, hreceipts]
    congr 2
    apply inbox_receipts_congr
    rw [hafter]
    exact (socket_station_afterStation hkept.index hopen place).symm
  have hreceived : performed.received label = bytes := by
    change (world.coming label).take
      ((world.coming label).length - (performed.after.coming label).length) = bytes
    rw [hcoming, List.length_append, Nat.add_sub_cancel, List.take_left]
  have hdelivered : performed.delivered = (world.station link).readLine.1.toOption := by
    change ((world.readLine label).1.map some).toOption.join = _
    rw [hread]
    cases (world.station link).readLine.1 <;> rfl
  rw [hreceived, hdelivered]
  exact ⟨⟨_, hfound, hdraws⟩, hcoming⟩

/-- Whatever a call does to a link, what is unread behind it and the line that it delivers come from
what was unread and what it received. -/
theorem draws_perform (hfind : world.findLink label = some (place, link)) (call : Call) :
    ∃ link', (world.perform label call).after.findLink label = some (place, link') ∧
      link.Draws link' ((world.perform label call).received label)
        (world.perform label call).delivered := by
  have hplain (result : Outcome World) :
      (result.1.map fun _ => (none : Option String)).toOption.join = none := by
    cases result.1 <;> rfl
  have hset {link' : Link} {after : World} (hconfig : link'.config = link.config)
      (hlinks : after.links = world.links.set place link') (hunread : link'.unread <:+ link.unread) :
      ∃ link', after.findLink label = some (place, link') ∧ link.Draws link' [] none :=
    ⟨link', findLink_of_set hfind hconfig hlinks, .idle hconfig hunread⟩
  have hsame {after : World} (hlinks : after.links = world.links) :
      ∃ link', after.findLink label = some (place, link') ∧ link.Draws link' [] none :=
    ⟨link, (findLink_congr hlinks label).trans hfind, .idle rfl List.suffix_rfl⟩
  have hwork {job : Station → Except Fault Unit × Station}
      (hkept : ∀ station : Station, station.Kept (job station).2)
      (hunread : ∀ station : Station, (job station).2.link.unread = station.link.unread) :
      ∃ link', (world.work label job).2.findLink label = some (place, link') ∧
        link.Draws link' [] ((world.work label job).1.map fun _ => none).toOption.join := by
    rw [hplain, work_of_findLink hfind]
    have hsame : (job (world.station link)).2.link.unread = link.unread := hunread _
    exact hset (hkept (world.station link)).config rfl (by simp [hsame])
  cases call with
  | readLine => exact (draws_perform_readLine hfind).1
  | start =>
      change ∃ link', (world.start label).2.findLink label = _ ∧
        link.Draws link' [] ((world.start label).1.map fun _ => none).toOption.join
      rw [hplain]
      cases start_end label world with
      | unknown hworld => exact hsame (congrArg World.links hworld)
      | unopened hfound hlinks =>
          cases hfind.symm.trans hfound
          exact hset (by rfl) hlinks List.nil_suffix
      | abandoned hfound hlinks =>
          cases hfind.symm.trans hfound
          exact hset (by rfl) hlinks List.nil_suffix
      | connected hfound hlinks =>
          cases hfind.symm.trans hfound
          exact hset (by rfl) hlinks List.nil_suffix
  | stop =>
      change ∃ link', (world.stop label).2.findLink label = _ ∧
        link.Draws link' [] ((world.stop label).1.map fun _ => none).toOption.join
      rw [hplain]
      cases stop_end label world with
      | idle _ hlinks => exact hsame hlinks
      | closed hfound _ hlinks =>
          cases hfind.symm.trans hfound
          exact hset (by rfl) hlinks List.suffix_rfl
  | writeLine line => exact hwork (Station.kept_writeLine line) (Station.unread_writeLine line)
  | upload attachment =>
      exact hwork (Station.kept_upload attachment) (Station.unread_upload attachment)

/-- What is left unread of some bytes, with bytes that are received, is left of both together. -/
theorem draws_of_suffix {link' : Link} {past bytes : List UInt8} {delivered : Option String}
    (h : link.Draws link' bytes delivered) (hpast : link.unread <:+ past) :
    link'.unread <:+ past ++ bytes ∧ ∀ line ∈ delivered, ∃ segment,
      segment ++ [lineFeed] <:+: past ++ bytes ∧
        (line = lineText segment ∨ link.config.shebang = some line) := by
  have hboth : link.unread ++ bytes <:+ past ++ bytes := by
    obtain ⟨front, rfl⟩ := hpast
    exact ⟨front, (List.append_assoc ..).symm⟩
  refine ⟨h.unread.trans hboth, fun line hline => ?_⟩
  obtain ⟨segment, hsegment, htext⟩ := h.line line hline
  exact ⟨segment, hsegment.trans hboth.isInfix, htext⟩

/-- Every line that one of several calls delivers stands, ended by a line feed, in what was there in
front of the calls and what they have received up to then; or the greeting is delivered for it. -/
def DrawsOn (label : String) (greeting : Option String) (past : List UInt8)
    (calls : List Performed) : Prop :=
  ∀ earlier current later, calls = earlier ++ current :: later →
    ∀ line ∈ current.delivered, ∃ segment,
      segment ++ [lineFeed] <:+:
          past ++ (earlier ++ [current]).flatMap (Performed.received label) ∧
        (line = lineText segment ∨ greeting = some line)

theorem drawsOn_performAll (hfind : world.findLink label = some (place, link)) {past : List UInt8}
    (hpast : link.unread <:+ past) (calls : List Call) :
    DrawsOn label link.config.shebang past (world.performAll label calls) := by
  intro earlier current later hsplit line hline
  induction calls generalizing world link past earlier with
  | nil =>
      rw [performAll] at hsplit
      simp at hsplit
  | cons call rest ih =>
      obtain ⟨link', hfound, hdraws⟩ := draws_perform hfind call
      obtain ⟨hunread, hdelivers⟩ := draws_of_suffix hdraws hpast
      rw [performAll] at hsplit
      cases earlier with
      | nil =>
          obtain ⟨rfl, rfl⟩ := List.cons.inj hsplit
          simpa using hdelivers line hline
      | cons first earlier =>
          obtain ⟨rfl, hrest⟩ := List.cons.inj hsplit
          obtain ⟨segment, hsegment, htext⟩ := ih hfound hunread earlier hrest
          refine ⟨segment, ?_, hdraws.config ▸ htext⟩
          rwa [List.cons_append, List.flatMap_cons, ← List.append_assoc]

end World

end MailScript.Network
