import MailScript.Proofs.Network.Framing
import MailScript.Proofs.Network.Ownership
import MailScript.Proofs.Network.Writing

/-! # Lines to and from a peer

Over a connection without errors a link delivers the lines that its peer sends, however they are cut
into chunks, and puts on the connection what is written, however much of it is taken at once. Reading
does not interfere with writing, and the links of a network do not interfere with each other. -/

namespace MailScript.Network

/-! ## Lines as bytes -/

/-- A line that can be sent with one byte for each character. -/
def Plain (line : String) : Prop :=
  ∀ c ∈ line.toList, c.toNat < 256 ∧ c ≠ '\r' ∧ c ≠ '\n'

-- The characters of the line are gone through, not all characters there are.
instance : DecidablePred Plain := fun line =>
  List.decidableBAll (fun c : Char => c.toNat < 256 ∧ c ≠ '\r' ∧ c ≠ '\n') line.toList

/-- The bytes of a line: each character is the byte of the same code. -/
def lineBytes (line : String) : List UInt8 :=
  line.toList.map fun c => .ofNat c.toNat

/-- Lines as a peer sends them, each with a carriage return and a line feed behind it. -/
def wire (lines : List String) : List UInt8 :=
  lines.flatMap fun line => lineBytes line ++ [carriageReturn, lineFeed]

theorem wire_cons (line : String) (rest : List String) :
    wire (line :: rest) = (lineBytes line ++ [carriageReturn]) ++ lineFeed :: wire rest := by
  simp [wire]

section

variable {line : String} (h : Plain line)

include h

theorem toNat_of_plain {c : Char} (hc : c ∈ line.toList) :
    (UInt8.ofNat c.toNat).toNat = c.toNat := by
  rw [UInt8.toNat_ofNat', Nat.mod_eq_of_lt (h c hc).1]

theorem not_mem_lineBytes {c : Char} (hc : c = '\r' ∨ c = '\n') :
    UInt8.ofNat c.toNat ∉ lineBytes line := by
  intro hmem
  obtain ⟨other, hother, hsame⟩ := List.mem_map.mp hmem
  have hcode : other.toNat = c.toNat := by
    have hbytes := congrArg UInt8.toNat hsame
    rw [toNat_of_plain h hother] at hbytes
    rcases hc with rfl | rfl
    · exact hbytes
    · exact hbytes
  have hchar : other = c := Char.toNat_inj.mp hcode
  subst hchar
  rcases hc with rfl | rfl
  · exact (h _ hother).2.1 rfl
  · exact (h _ hother).2.2 rfl

theorem lineFeed_not_mem_lineBytes : lineFeed ∉ lineBytes line ++ [carriageReturn] := by
  intro hmem
  rcases List.mem_append.mp hmem with hbefore | hlast
  · exact not_mem_lineBytes h (.inr rfl) hbefore
  · cases List.mem_singleton.mp hlast

theorem lineText_lineBytes : lineText (lineBytes line ++ [carriageReturn]) = line := by
  have hkept : (lineBytes line ++ [carriageReturn]).filter (fun byte => byte ≠ carriageReturn) =
      lineBytes line := by
    rw [List.filter_append, List.filter_eq_self.mpr]
    · exact List.append_nil _
    · intro byte hbyte
      simp only [decide_eq_true_eq]
      rintro rfl
      exact not_mem_lineBytes h (.inl rfl) hbyte
  have hchars : (lineBytes line).map (fun byte => Char.ofNat byte.toNat) = line.toList := by
    rw [lineBytes, List.map_map]
    refine (List.map_congr_left fun c hc => ?_).trans (List.map_id line.toList)
    rw [Function.comp_apply, toNat_of_plain h hc, Char.ofNat_toNat]
    rfl
  unfold lineText
  rw [hkept, hchars, String.ofList_toList]

end

/-! ## One link -/

namespace Station

/-- A link that delivers lines as they arrive, to a peer that still sends some lines and to which
some bytes have been sent. The connection reports no errors. -/
structure Ready (station : Station) (lines : List String) (sent : List UInt8) : Prop where
  plain : station.link.config.shebang = none
  fed : station.Fed (wire lines)
  connection : ∃ socket, station.socket = some socket ∧ socket.Steady ∧ socket.sent = sent

variable {station after : Station} {lines : List String} {sent : List UInt8}

/-- A link is as ready as another one with the same connection, whatever the time is. -/
theorem Ready.congr (h : station.Ready lines sent) (hlink : after.link = station.link)
    (hsocket : after.socket = station.socket)
    (hlimited : after.clock.limited = station.clock.limited) : after.Ready lines sent := by
  obtain ⟨link, socket, clock, events⟩ := station
  obtain ⟨link', socket', clock', events'⟩ := after
  subst hlink hsocket
  obtain ⟨hplain, ⟨hendless, htakes, hroomy, hopen, hsteady, hstream⟩, hconnection⟩ := h
  exact ⟨hplain, ⟨hendless, htakes.congr hlimited, hroomy, hopen, hsteady, hstream⟩, hconnection⟩

/-- A peer that sends some lines in chunks of any size, and takes whatever is sent to it in any parts.
It is waited for as long as it takes, in pauses that the clock does not refuse, and there are no
errors. -/
structure Meets (station : Station) (lines : List String) : Prop where
  plain : station.link.config.shebang = none
  endless : station.link.config.readPatience.Endless
  takes : station.clock.Takes station.link.config.readPatience.pause
  roomy : 0 < station.link.config.bufferSize
  connection : ∃ socket, station.socket = some socket ∧ socket.Steady ∧
    (∀ receipt ∈ socket.behaviour.receipts, receipt.Steady) ∧
    arriving socket.behaviour.receipts = wire lines

/-- A link is ready for what its peer will send as soon as it has been started. -/
theorem Meets.ready (h : station.Meets lines) (hstarted : station.Started) {socket : Socket}
    (hsocket : station.socket = some socket) (hsent : socket.sent = []) :
    station.Ready lines [] := by
  obtain ⟨socket', hsocket', hsteady, hreceipts, hlines⟩ := h.connection
  cases hsocket.symm.trans hsocket'
  have hinbox : station.inbox.receipts = socket.behaviour.receipts := by
    unfold inbox
    rw [hsocket]
    rfl
  refine ⟨h.plain, ⟨h.endless, h.takes, h.roomy, hstarted.isOpen, ?_, ?_⟩, socket, hsocket, hsteady,
    hsent⟩
  · rwa [hinbox]
  -- Nothing is left of an earlier connection, so the lines of the peer come first.
  · rw [hinbox, hstarted.unread]
    exact hlines

/-- Reading only makes attempts to receive. -/
theorem socket_readLine (station : Station) : ∃ times receipts,
    station.readLine.2.socket = station.socket.map fun socket =>
      { socket.count .receive times with
        behaviour := { socket.behaviour with receipts := receipts } } := by
  have hdeliver (station : Station) (line : String) :
      (station.deliver line).2.socket = station.socket := by
    obtain ⟨events, hdeliver⟩ := deliver_eq station line
    rw [hdeliver]
  have hraw : ∃ times receipts, station.readRawLine.2.socket = station.socket.map fun socket =>
      { socket.count .receive times with
        behaviour := { socket.behaviour with receipts := receipts } } := ⟨_, _, rfl⟩
  obtain ⟨times, receipts, hsocket⟩ := hraw
  refine ⟨times, receipts, ?_⟩
  unfold readLine
  split
  · rename_i line middle hmiddle
    rw [hmiddle] at hsocket
    exact (hdeliver middle line).trans hsocket
  · rename_i hfailed
    rwa [hfailed] at hsocket

/-- Without a shebang the next line of a peer is delivered as it was sent. -/
theorem readLine_of_wire {line : String} {rest : List String} (h : station.Fed (wire (line :: rest)))
    (hshebang : station.link.config.shebang = none) (hline : Plain line) :
    ∃ after, station.readLine = (.ok line, after) ∧ after.Fed (wire rest) ∧
      after.link.config = station.link.config := by
  rw [wire_cons] at h
  obtain ⟨after, hread, hbehind, hprogress, -, -⟩ :=
    readLine_of_fed h (lineFeed_not_mem_lineBytes hline)
  have hshown : station.shown line = line := by
    unfold shown
    rw [hshebang]
    split <;> rfl
  rw [lineText_lineBytes hline, hshown] at hread
  exact ⟨after, hread, hbehind, hprogress.config⟩

/-- The next line is delivered, and nothing is sent. -/
theorem Ready.readLine {line : String} {rest : List String} (h : station.Ready (line :: rest) sent)
    (hline : Plain line) :
    ∃ after, station.readLine = (.ok line, after) ∧ after.Ready rest sent := by
  obtain ⟨after, hread, hbehind, hconfig⟩ := readLine_of_wire h.fed h.plain hline
  obtain ⟨socket, hsocket, hsteady, hsent⟩ := h.connection
  obtain ⟨times, receipts, hafter⟩ := socket_readLine station
  rw [hread, hsocket] at hafter
  exact ⟨after, hread, hconfig ▸ h.plain, hbehind, _, hafter, hsteady, hsent⟩

/-- What receiving depends on. -/
structure Hears (station after : Station) : Prop where
  config : after.link.config = station.link.config
  limited : after.clock.limited = station.clock.limited
  unread : after.link.unread = station.link.unread
  receipts : after.socket.map (fun socket => socket.behaviour.receipts) =
    station.socket.map fun socket => socket.behaviour.receipts

theorem Hears.trans {a b c : Station} (hab : a.Hears b) (hbc : b.Hears c) : a.Hears c :=
  ⟨hbc.config.trans hab.config, hbc.limited.trans hab.limited, hbc.unread.trans hab.unread,
    hbc.receipts.trans hab.receipts⟩

theorem hears_send (data : List UInt8) (station : Station) :
    station.Hears (station.send data).2 := by
  unfold send
  cases hsocket : station.socket with
  | none => exact ⟨rfl, rfl, rfl, rfl⟩
  | some socket =>
      dsimp only
      split
      · exact ⟨rfl, limited_sendAll, rfl, by rw [hsocket]; rfl⟩
      · exact ⟨rfl, limited_sendAll, rfl, by rw [hsocket]; rfl⟩

/-- Writing does not interfere with receiving. -/
theorem hears_write (writing : Writing) (station : Station) :
    station.Hears (station.write writing).2 := by
  cases writing with
  | line text =>
      exact writeLine_within Hears Hears.trans hears_send (fun _ _ => ⟨rfl, rfl, rfl, rfl⟩)
        (fun _ _ => ⟨rfl, rfl, rfl, rfl⟩) text station
  | upload attachment =>
      exact upload_within Hears Hears.trans hears_send (fun _ _ => ⟨rfl, rfl, rfl, rfl⟩) attachment
        station

theorem kept_write (writing : Writing) (station : Station) :
    station.Kept (station.write writing).2 := by
  cases writing with
  | line text => exact kept_writeLine text station
  | upload attachment => exact kept_upload attachment station

theorem sends_write (writing : Writing) : Sends (write writing) writing.bytes := by
  cases writing with
  | line text =>
      have hbytes : Writing.bytes (.line text) = Text.encodeAscii text ++ lineEnding := by
        simp [Writing.bytes, Text.encodeAscii, Text.asciiByte, lineEnding]
      rw [hbytes]
      exact sends_writeLine text
  | upload attachment => exact sends_upload attachment

theorem Fed.hears {stream : List UInt8} (h : station.Fed stream) (hears : station.Hears after) :
    after.Fed stream := by
  have hreceipts : after.inbox.receipts = station.inbox.receipts :=
    congrArg (fun receipts => receipts.getD []) hears.receipts
  refine ⟨hears.config ▸ h.endless, hears.config ▸ h.takes.congr hears.limited,
    hears.config ▸ h.roomy, ?_, ?_, ?_⟩
  · have hsome := congrArg Option.isSome hears.receipts
    rw [Option.isSome_map, Option.isSome_map] at hsome
    exact hsome.trans h.isOpen
  · rw [hreceipts]
    exact h.steady
  · rw [hreceipts, hears.unread]
    exact h.stream_eq

/-- Everything that is written is sent. -/
theorem Ready.write (h : station.Ready lines sent) (writing : Writing) :
    ∃ after, station.write writing = (.ok (), after) ∧ after.Ready lines (sent ++ writing.bytes) := by
  obtain ⟨socket, hsocket, hsteady, rfl⟩ := h.connection
  obtain ⟨after, hwrite⟩ := (sends_write writing).succeeds station socket hsocket hsteady
    h.fed.takes
  obtain ⟨before, socket', hbefore, hsocket', hsent⟩ :=
    ((sends_write writing).sent station after hwrite).sockets
  cases hsocket.symm.trans hbefore
  have hears := hears_write writing station
  rw [hwrite] at hears
  exact ⟨after, hwrite, hears.config ▸ h.plain, h.fed.hears hears, socket', hsocket',
    hsent.steady hsteady, hsent.sent_eq⟩

end Station

/-! ## Links side by side -/

namespace World

/-- The links of a network have different labels, and sockets of their own. -/
structure Orderly (labels : List String) (world : World) : Prop where
  labels_eq : world.links.map (fun link => link.config.label) = labels
  distinct : labels.Nodup
  apart : ∀ place place' index : Nat, (world.links.map Link.socket)[place]? = some (some index) →
    (world.links.map Link.socket)[place']? = some (some index) → place = place'

/-- The link of a label is ready. -/
def Ready (label : String) (lines : List String) (sent : List UInt8) (world : World) : Prop :=
  ∃ place link, world.findLink label = some (place, link) ∧ (world.station link).Ready lines sent

/-- The links of a network have just been started, one for each of some labels, and the peer of each
sends certain lines. -/
structure Serves (world : World) (lines : List (String × List String)) : Prop where
  orderly : world.Orderly (lines.map Prod.fst)
  fresh : ∀ entry ∈ lines, world.Fresh entry.1
  meets : ∀ entry ∈ lines, ∀ place link, world.findLink entry.1 = some (place, link) →
    (world.station link).Meets entry.2

theorem Serves.ready {world : World} {lines : List (String × List String)} (h : world.Serves lines)
    {entry : String × List String} (hentry : entry ∈ lines) : world.Ready entry.1 entry.2 [] := by
  obtain ⟨place, link, socket, hfind, hstarted, hsocket, hsent⟩ := h.fresh entry hentry
  exact ⟨place, link, hfind, (h.meets entry hentry place link hfind).ready hstarted hsocket hsent⟩

variable {labels : List String} {world after : World} {label : String} {lines : List String}
  {sent : List UInt8}

/-- Links that account for their sockets have sockets of their own. -/
theorem Accounted.orderly {left : Prop} {earlier : List Socket}
    (h : world.Accounted left labels earlier)
    (hnodup : labels.Nodup) : world.Orderly labels :=
  ⟨h.labels, hnodup, fun _ _ _ => h.ledger.apart⟩

theorem Orderly.of_eq (h : world.Orderly labels) (hlinks : after.links = world.links) :
    after.Orderly labels :=
  ⟨hlinks ▸ h.labels_eq, h.distinct, hlinks ▸ h.apart⟩

theorem Ready.of_eq (h : world.Ready label lines sent) (hlinks : after.links = world.links)
    (hsockets : after.sockets = world.sockets)
    (hlimited : after.clock.limited = world.clock.limited) : after.Ready label lines sent := by
  obtain ⟨place, link, hfind, hready⟩ := h
  refine ⟨place, link, (findLink_congr hlinks label).trans hfind, hready.congr rfl ?_ hlimited⟩
  simp only [station, hsockets]

section Work

variable {place : Nat} {link : Link} {station : Station}
  (h : world.Orderly labels) (hfind : world.findLink label = some (place, link))
  (hkept : (world.station link).Kept station)

include h hfind hkept

theorem Orderly.afterStation : (world.afterStation place station).Orderly labels where
  labels_eq := (labels_afterStation hfind hkept).trans h.labels_eq
  distinct := h.distinct
  apart := held_afterStation hfind hkept ▸ h.apart

omit h in
/-- Behind its work a link is as ready as its work has left it. -/
theorem ready_afterStation (hready : station.Ready lines sent) :
    (world.afterStation place station).Ready label lines sent := by
  obtain ⟨socket', hsocket', -⟩ := hready.connection
  obtain ⟨socket, hsocket, -⟩ := hkept.isOpen hsocket'
  refine ⟨place, station.link, findLink_afterStation hfind hkept.config, hready.congr rfl ?_ rfl⟩
  rw [socket_afterStation hkept.index hsocket hsocket' place, hsocket']

/-- The other links are as ready as before. -/
theorem Ready.afterStation {other : String} (hne : label ≠ other)
    (hready : world.Ready other lines sent) :
    (world.afterStation place station).Ready other lines sent := by
  obtain ⟨place', link', hfind', hready'⟩ := hready
  have hlinks : (world.afterStation place station).links = world.links.set place station.link := rfl
  obtain ⟨hplaces, hafter⟩ := findLink_set_of_ne hfind hkept.config hlinks hne hfind'
  refine ⟨place', link', hafter, hready'.congr rfl ?_ hkept.limited⟩
  cases hindex' : link'.socket with
  | none => simp only [World.station, hindex', Option.bind_none]
  | some index' =>
      simp only [World.station, World.afterStation, hindex', Option.bind_some]
      split
      · rename_i index socket hindex _
        -- The two links have sockets of their own.
        refine List.getElem?_set_ne ?_
        rintro rfl
        have hlink : link.socket = some index := hkept.index.symm.trans hindex
        exact hplaces (h.apart place place' index (hlink ▸ held_of_findLink hfind)
          (hindex' ▸ held_of_findLink hfind'))
      · rfl

end Work

/-- A job that a ready link does leaves it ready, and does not touch the others. -/
theorem Ready.work (h : world.Orderly labels) (hready : world.Ready label lines sent) {α : Type}
    {job : Station → Except Fault α × Station} {x : α} {lines' : List String}
    {sent' : List UInt8} (hkept : ∀ station : Station, station.Kept (job station).2)
    (hjob : ∀ station : Station, station.Ready lines sent →
      ∃ after, job station = (.ok x, after) ∧ after.Ready lines' sent') :
    ∃ after, world.work label job = (.ok x, after) ∧ after.Orderly labels ∧
      after.clock.limited = world.clock.limited ∧ after.Ready label lines' sent' ∧
      ∀ other lines bytes, label ≠ other →
        world.Ready other lines bytes → after.Ready other lines bytes := by
  obtain ⟨place, link, hfind, hstation⟩ := hready
  obtain ⟨station, heq, hafter⟩ := hjob (world.station link) hstation
  have hstays := hkept (world.station link)
  rw [heq] at hstays
  refine ⟨world.afterStation place station, ?_, h.afterStation hfind hstays,
    hstays.limited, ready_afterStation hfind hstays hafter, fun other lines bytes hne hother =>
      hother.afterStation h hfind hstays hne⟩
  unfold World.work
  rw [hfind]
  dsimp only
  rw [heq]

end World

end MailScript.Network
