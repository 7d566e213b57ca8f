import MailScript.Proofs.Network.Starting

/-! # Sending over links

A socket may take data in parts, or ask to try again. Sending that succeeds has handed over all
data, whatever the parts were, and it fails only where the network reports an error. -/

namespace MailScript.Network

/-! ## Schedules -/

/-- An attempt to send takes data, or it asks to try again. -/
def Acceptance.Steady (acceptance : Acceptance) : Prop :=
  acceptance.error? = none

instance : DecidablePred Acceptance.Steady := fun acceptance =>
  inferInstanceAs (Decidable (acceptance.error? = none))

/-- A socket that reports no error while data is sent. -/
def Socket.Steady (socket : Socket) : Prop :=
  ∀ acceptance ∈ socket.behaviour.acceptances, acceptance.Steady

instance : DecidablePred Socket.Steady := fun socket =>
  inferInstanceAs (Decidable (∀ acceptance ∈ socket.behaviour.acceptances, acceptance.Steady))

section

variable {pause : Int} {schedule : List Acceptance} {data : List UInt8} {clock : Clock}

theorem taken_sendAll (h : (sendAll pause schedule data clock).error = none) :
    (sendAll pause schedule data clock).taken = data := by
  fun_induction sendAll pause schedule data clock with
  | case1 => rfl
  | case2 => rfl
  | case3 => cases h
  | case4 => cases h
  | case5 acceptance rest data clock _ _ taken _ clock' later ih =>
      change data.take acceptance.limit ++ later.taken = data
      rw [ih h, List.take_append_drop]

/-- A clock that takes the pause has no reason not to wait. -/
theorem sendRefusal?_of_takes (h : clock.Takes pause) (taken : List UInt8) :
    sendRefusal? pause taken clock = none := by
  unfold sendRefusal?
  split
  · exact h
  · rfl

theorem limited_wait_of_sending (pause : Int) (taken : List UInt8) (clock : Clock) :
    (if taken = [] then clock.wait pause else clock).limited = clock.limited := by
  split
  · exact Clock.limited_wait clock pause
  · rfl

/-- However much is sent, what the clock refuses is left as it is. -/
theorem limited_sendAll : (sendAll pause schedule data clock).clock.limited = clock.limited := by
  fun_induction sendAll pause schedule data clock with
  | case5 acceptance rest data clock _ _ taken _ clock' later ih =>
      exact ih.trans (limited_wait_of_sending pause taken clock)
  | _ => rfl

/-- A pause that is refused while data is sent is refused from the start. -/
theorem refusal?_of_sendAll {error : WaitError}
    (h : (sendAll pause schedule data clock).error = some (.pauseRefused error)) :
    clock.refusal? pause = some error := by
  fun_induction sendAll pause schedule data clock with
  | case4 acceptance rest data clock _ _ taken error' hrefused =>
      cases h
      unfold sendRefusal? at hrefused
      split at hrefused
      · exact hrefused
      · cases hrefused
  | case5 acceptance rest data clock _ _ taken _ clock' later ih =>
      rw [← ih h]
      exact Clock.refusal?_congr (limited_wait_of_sending pause taken clock).symm pause
  | _ => cases h

theorem error_sendAll (h : ∀ acceptance ∈ schedule, acceptance.Steady)
    (htakes : clock.Takes pause) : (sendAll pause schedule data clock).error = none := by
  fun_induction sendAll pause schedule data clock with
  | case1 => rfl
  | case2 => rfl
  | case3 acceptance rest data clock _ error herror =>
      rw [List.forall_mem_cons] at h
      exact absurd (h.1.symm.trans herror) nofun
  | case4 acceptance rest data clock _ _ taken error hrefused =>
      exact absurd ((sendRefusal?_of_takes htakes taken).symm.trans hrefused) nofun
  | case5 acceptance rest data clock _ _ taken _ clock' later ih =>
      rw [List.forall_mem_cons] at h
      exact ih h.2 (htakes.congr (limited_wait_of_sending pause taken clock))

/-- What is left of a schedule is its end. -/
theorem acceptances_sendAll :
    (sendAll pause schedule data clock).acceptances <:+ schedule := by
  fun_induction sendAll pause schedule data clock with
  | case1 => exact List.suffix_rfl
  | case2 => exact List.suffix_rfl
  | case3 => exact List.suffix_cons _ _
  | case4 => exact List.suffix_cons _ _
  | case5 acceptance rest data clock _ _ taken _ clock' later ih =>
      exact ih.trans (List.suffix_cons acceptance rest)

end

/-! ## Jobs that send -/

/-- Some bytes have been sent on a socket, which is as reliable as before. -/
structure Socket.Sent (socket after : Socket) (bytes : List UInt8) : Prop where
  sent_eq : after.sent = socket.sent ++ bytes
  steady : socket.Steady → after.Steady

theorem Socket.Sent.refl (socket : Socket) : socket.Sent socket [] :=
  ⟨(List.append_nil _).symm, id⟩

theorem Socket.Sent.trans {a b c : Socket} {front back : List UInt8} (hab : a.Sent b front)
    (hbc : b.Sent c back) : a.Sent c (front ++ back) :=
  ⟨by rw [hbc.sent_eq, hab.sent_eq, List.append_assoc], hbc.steady ∘ hab.steady⟩

namespace Station

/-- A link has sent some bytes over its connection. -/
structure Sent (station after : Station) (bytes : List UInt8) : Prop where
  config : after.link.config = station.link.config
  index : after.link.socket = station.link.socket
  limited : after.clock.limited = station.clock.limited
  sockets : ∃ socket socket', station.socket = some socket ∧ after.socket = some socket' ∧
    socket.Sent socket' bytes

theorem Sent.trans {a b c : Station} {front back : List UInt8} (hab : a.Sent b front)
    (hbc : b.Sent c back) : a.Sent c (front ++ back) := by
  obtain ⟨socket, middle, hsocket, hmiddle, hfront⟩ := hab.sockets
  obtain ⟨middle', last, hmiddle', hlast, hback⟩ := hbc.sockets
  obtain rfl : middle = middle' := Option.some.inj (hmiddle.symm.trans hmiddle')
  exact ⟨hbc.config.trans hab.config, hbc.index.trans hab.index,
    hbc.limited.trans hab.limited, socket, last, hsocket, hlast,
    hfront.trans hback⟩

/-- A job that sends some bytes: behind a success they have been sent, and over a connection without
errors the job succeeds if the clock takes the pauses. -/
structure Sends (job : Station → Except Fault Unit × Station) (bytes : List UInt8) : Prop where
  sent : ∀ station after, job station = (.ok (), after) → station.Sent after bytes
  succeeds : ∀ station socket, station.socket = some socket → socket.Steady →
    station.clock.Takes station.link.config.readPatience.pause →
    ∃ after, job station = (.ok (), after)

theorem sends_send (data : List UInt8) : Sends (send data) data where
  sent := by
    intro station after h
    unfold send at h
    cases hsocket : station.socket with
    | none =>
        rw [hsocket] at h
        cases h
    | some socket =>
        rw [hsocket] at h
        dsimp only at h
        cases herror : (sendAll station.link.config.readPatience.pause
            socket.behaviour.acceptances data station.clock).error with
        | some error =>
            rw [herror] at h
            cases h
        | none =>
            rw [herror] at h
            cases h
            refine ⟨rfl, rfl, limited_sendAll, socket, _, hsocket, rfl, ?_,
              fun hsteady acceptance hmem => ?_⟩
            · exact congrArg (socket.sent ++ ·) (taken_sendAll herror)
            · exact hsteady acceptance (acceptances_sendAll.subset hmem)
  succeeds := by
    intro station socket hsocket hsteady htakes
    unfold send
    rw [hsocket]
    dsimp only
    rw [error_sendAll hsteady htakes]
    exact ⟨_, rfl⟩

theorem sends_sendEnded (data : List UInt8) : Sends (sendEnded data) (data ++ lineEnding) where
  sent := by
    intro station after h
    unfold sendEnded at h
    split at h
    · rename_i middle hdata
      exact ((sends_send data).sent station middle hdata).trans
        ((sends_send lineEnding).sent middle after h)
    · cases h
  succeeds := by
    intro station socket hsocket hsteady htakes
    obtain ⟨middle, hdata⟩ := (sends_send data).succeeds station socket hsocket hsteady htakes
    have hfront := (sends_send data).sent station middle hdata
    obtain ⟨socket', middle', hsocket', hmiddle, hsent⟩ := hfront.sockets
    obtain rfl : socket = socket' := Option.some.inj (hsocket.symm.trans hsocket')
    obtain ⟨after, hending⟩ := (sends_send lineEnding).succeeds middle middle' hmiddle
      (hsent.steady hsteady) (hfront.config ▸ htakes.congr hfront.limited)
    refine ⟨after, ?_⟩
    rw [sendEnded, hdata]
    exact hending

/-- A job that only reports something besides sends as much. -/
theorem Sends.of_log {job : Station → Except Fault Unit × Station} {bytes : List UInt8}
    (h : Sends job bytes) (event : Station → Event) :
    Sends (fun station => job (station.log (event station))) bytes where
  sent station after hjob := by
    obtain ⟨hconfig, hindex, hlimited, hsockets⟩ := h.sent _ after hjob
    exact ⟨hconfig, hindex, hlimited, hsockets⟩
  succeeds station socket := h.succeeds (station.log (event station)) socket

theorem sends_upload (attachment : Attachment) :
    Sends (upload attachment) (attachment.data ++ lineEnding) :=
  (sends_sendEnded attachment.data).of_log _

theorem sends_writeLine (line : String) :
    Sends (writeLine line) (Text.encodeAscii line ++ lineEnding) := by
  have hnoted := (sends_sendEnded (Text.encodeAscii line)).of_log
    fun station => station.link.config.note "client_line" [("line", .text line)]
  constructor
  · intro station after h
    unfold writeLine at h
    dsimp only at h
    split at h
    · rename_i middle hmiddle
      cases h
      obtain ⟨hconfig, hindex, hlimited, hsockets⟩ := hnoted.sent station middle hmiddle
      exact ⟨hconfig, hindex, hlimited, hsockets⟩
    · cases h
  · intro station socket hsocket hsteady htakes
    obtain ⟨middle, hmiddle⟩ := hnoted.succeeds station socket hsocket hsteady htakes
    unfold writeLine
    dsimp only
    rw [hmiddle]
    exact ⟨_, rfl⟩

end Station

/-! ## Sending in a network -/

namespace World

/-- The socket of the connection of a label. -/
def connection? (world : World) (label : String) : Option Socket :=
  (world.findLink label).bind fun found => (world.station found.2).socket

/-- A network with the clock of a system and one link, which is connected to a socket. -/
def ofLink (config : Config) (socket : Socket) : World :=
  ⟨[], [socket], [{ Link.fresh config with socket := some 0 }], .system, [], []⟩

theorem connection?_ofLink (config : Config) (socket : Socket) :
    (ofLink config socket).connection? config.label = some socket := by
  simp [connection?, findLink, ofLink, station, Link.fresh]

/-- The clock takes the pauses of the link of a label, should a socket take nothing. -/
def TakesPauses (world : World) (label : String) : Prop :=
  ∀ place link, world.findLink label = some (place, link) →
    world.clock.Takes link.config.readPatience.pause

/-- In a network some bytes have been sent over the connection of a label. -/
structure Sent (label : String) (world after : World) (bytes : List UInt8) : Prop where
  sockets : ∃ socket socket', world.connection? label = some socket ∧
    after.connection? label = some socket' ∧ socket.Sent socket' bytes
  pauses : world.TakesPauses label → after.TakesPauses label

theorem connection?_eq_some_iff {world : World} {label : String} {socket : Socket} :
    world.connection? label = some socket ↔
      ∃ place link, world.findLink label = some (place, link) ∧
        (world.station link).socket = some socket := by
  simp [connection?, Option.bind_eq_some_iff]

section Work

variable {world : World} {label : String} {place : Nat} {link : Link} {after : Station}

/-- A link is found behind its work as its work has left it. -/
theorem findLink_afterStation (hfind : world.findLink label = some (place, link))
    (hconfig : after.link.config = link.config) :
    (world.afterStation place after).findLink label = some (place, after.link) := by
  have hlabel : after.link.config.label = label := by
    rw [hconfig]
    exact (findLink_eq_some_iff.mp hfind).2.1
  have hlinks : (world.afterStation place after).links =
      (world.setLink place after.link).links := rfl
  rw [findLink_congr hlinks, findLink_setLink hfind hlabel]

/-- A socket behind the work of its link is as the work has left it. -/
theorem socket_afterStation {socket socket' : Socket} (hindex : after.link.socket = link.socket)
    (hsocket : (world.station link).socket = some socket) (hsocket' : after.socket = some socket')
    (place : Nat) :
    ((world.afterStation place after).station after.link).socket = some socket' := by
  obtain ⟨index, hheld, hget⟩ := Option.bind_eq_some_iff.mp hsocket
  have hafter : after.link.socket = some index := hindex.trans hheld
  have hlt : index < world.sockets.length := (List.getElem?_eq_some_iff.mp hget).1
  simp only [station, afterStation, hafter, hsocket', Option.bind_some]
  exact List.getElem?_set_self hlt

/-- The connection of a label behind the work of its link. -/
theorem connection?_afterStation {bytes : List UInt8}
    (hfind : world.findLink label = some (place, link))
    (h : (world.station link).Sent after bytes) :
    Sent label world (world.afterStation place after) bytes := by
  obtain ⟨socket, socket', hsocket, hsocket', hsent⟩ := h.sockets
  have hfind' := findLink_afterStation hfind h.config
  refine ⟨⟨socket, socket', connection?_eq_some_iff.mpr ⟨place, link, hfind, hsocket⟩,
    connection?_eq_some_iff.mpr ⟨place, after.link, hfind',
      socket_afterStation h.index hsocket hsocket' place⟩, hsent⟩, fun hpauses place' link' hlink => ?_⟩
  obtain ⟨rfl, rfl⟩ := Prod.mk.inj (Option.some.inj (hfind'.symm.trans hlink))
  have hconfig : after.link.config = link.config := h.config
  rw [hconfig]
  exact (hpauses place link hfind).congr h.limited

end Work

theorem sent_of_work {job : Station → Except Fault Unit × Station} {bytes : List UInt8}
    (hjob : Station.Sends job bytes) {label : String} {world after : World}
    (h : world.work label job = (.ok (), after)) : Sent label world after bytes := by
  unfold work at h
  cases hfind : world.findLink label with
  | none =>
      rw [hfind] at h
      cases h
  | some found =>
      obtain ⟨place, link⟩ := found
      rw [hfind] at h
      dsimp only at h
      cases hstation : job (world.station link) with
      | mk outcome station =>
          rw [hstation] at h
          cases outcome with
          | error failure => cases h
          | ok _ =>
              cases h
              exact connection?_afterStation hfind (hjob.sent _ _ hstation)

theorem work_steady {job : Station → Except Fault Unit × Station} {bytes : List UInt8}
    (hjob : Station.Sends job bytes) {label : String} {world : World} {socket : Socket}
    (hsocket : world.connection? label = some socket) (hsteady : socket.Steady)
    (hpauses : world.TakesPauses label) : ∃ after, world.work label job = (.ok (), after) := by
  obtain ⟨place, link, hfind, hstation⟩ := connection?_eq_some_iff.mp hsocket
  obtain ⟨after, hafter⟩ := hjob.succeeds _ socket hstation hsteady (hpauses place link hfind)
  refine ⟨world.afterStation place after, ?_⟩
  rw [work, hfind]
  dsimp only
  rw [hafter]

end World

end MailScript.Network
