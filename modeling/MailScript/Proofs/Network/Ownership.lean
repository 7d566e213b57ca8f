import MailScript.Proofs.Network.Sending
import MailScript.Proofs.Network.Stream
import MailScript.Proofs.Conversation.Invariants

/-! # Who closes a socket

An open socket belongs to one link, which closes it once. A socket that a link never got is closed
where connecting it failed; only a pause that the clock refuses leaves it open. Working over a link
neither closes its socket nor gives it away. -/

namespace MailScript.Network

/-! ## Sockets -/

namespace Socket

/-- A socket that has not been closed. -/
def Open (socket : Socket) : Prop := SocketCall.close ∉ socket.calls

/-- A socket that has been closed once, and not used afterwards. -/
def Closed (socket : Socket) : Prop :=
  ∃ work, SocketCall.close ∉ work ∧ socket.calls = work ++ [.close]

theorem open_fresh (address : String) (behaviour : Behaviour) : (fresh address behaviour).Open :=
  List.not_mem_nil

/-- Work does not close a socket. -/
theorem Open.count {socket : Socket} (h : socket.Open) (call : SocketCall) (hcall : call ≠ .close)
    (times : Nat) : (socket.count call times).Open := by
  intro hmem
  rcases List.mem_append.mp hmem with hbefore | hadded
  · exact h hbefore
  · exact hcall (List.eq_of_mem_replicate hadded).symm

theorem Open.close {socket : Socket} (h : socket.Open) : socket.close.2.Closed :=
  ⟨socket.calls, h, rfl⟩

end Socket

/-! ## Who holds what -/

/-- A socket that nobody holds any more has been closed, or it was left open, if that may happen. -/
def Socket.Done (left : Prop) (socket : Socket) : Prop := socket.Closed ∨ left ∧ socket.Open

/-- Sockets were added to earlier ones: each of them is open and held by one link, or nobody holds
it any more. The earlier ones are as they were. -/
structure Ledger (left : Prop) (earlier : List Socket) (held : List (Option Nat))
    (sockets : List Socket) : Prop where
  kept : earlier <+: sockets
  isOpen : ∀ {place index : Nat}, held[place]? = some (some index) →
    earlier.length ≤ index ∧ ∃ socket, sockets[index]? = some socket ∧ socket.Open
  apart : ∀ {place place' index : Nat}, held[place]? = some (some index) →
    held[place']? = some (some index) → place = place'
  covered : ∀ {index : Nat} {socket : Socket}, earlier.length ≤ index →
    sockets[index]? = some socket → some index ∈ held ∨ socket.Done left

namespace Ledger

variable {left : Prop} {earlier sockets : List Socket} {held : List (Option Nat)} {place index : Nat}

/-- As long as nothing is held there are only earlier sockets. -/
theorem begin (sockets : List Socket) (h : ∀ entry ∈ held, entry = none) :
    Ledger left sockets held sockets where
  kept := List.prefix_rfl
  isOpen hplace := by cases h _ (List.mem_of_getElem? hplace)
  apart hplace := by cases h _ (List.mem_of_getElem? hplace)
  covered hindex hsocket := by
    have hlt := (List.getElem?_eq_some_iff.mp hsocket).1
    omega

/-- When nothing is held any more nobody holds any of the sockets that were added. -/
theorem finish (h : Ledger left earlier held sockets) (hnone : ∀ entry ∈ held, entry = none) :
    ∃ opened, sockets = earlier ++ opened ∧ ∀ socket ∈ opened, socket.Done left := by
  obtain ⟨opened, rfl⟩ := h.kept
  refine ⟨opened, rfl, fun socket hsocket => ?_⟩
  obtain ⟨offset, hoffset⟩ := List.mem_iff_getElem?.mp hsocket
  have hplace : (earlier ++ opened)[earlier.length + offset]? = some socket := by
    rw [List.getElem?_append_right (Nat.le_add_right _ _), Nat.add_sub_cancel_left, hoffset]
  rcases h.covered (Nat.le_add_right _ _) hplace with hheld | hdone
  · cases hnone _ hheld
  · exact hdone

theorem prefix_set (h : Ledger left earlier held sockets) (hheld : held[place]? = some (some index))
    (socket : Socket) : earlier <+: sockets.set index socket := by
  obtain ⟨opened, rfl⟩ := h.kept
  rw [List.set_append_right _ _ (h.isOpen hheld).1]
  exact List.prefix_append _ _

/-- A link works on the socket that it holds. -/
theorem use (h : Ledger left earlier held sockets) (hheld : held[place]? = some (some index))
    {socket : Socket} (hopen : socket.Open) : Ledger left earlier held (sockets.set index socket) where
  kept := h.prefix_set hheld socket
  isOpen {_ index'} hplace := by
    obtain ⟨hle, socket', hsocket', hopen'⟩ := h.isOpen hplace
    refine ⟨hle, ?_⟩
    by_cases heq : index = index'
    · subst heq
      exact ⟨socket, List.getElem?_set_self (List.getElem?_eq_some_iff.mp hsocket').1, hopen⟩
    · exact ⟨socket', by rwa [List.getElem?_set_ne heq], hopen'⟩
  apart := h.apart
  covered {index' _} hle hsocket' := by
    by_cases heq : index = index'
    · subst heq
      exact .inl (List.mem_of_getElem? hheld)
    · rw [List.getElem?_set_ne heq] at hsocket'
      exact h.covered hle hsocket'

/-- A socket keeps its place when others are added. -/
theorem stays {socket : Socket} (h : sockets[index]? = some socket) (added : List Socket) :
    (sockets ++ added)[index]? = some socket :=
  (List.getElem?_append_left (List.getElem?_eq_some_iff.mp h).1).trans h

/-- What another link holds is held as before. -/
theorem mem_set_of_ne {entry : Option Nat} (hmem : entry ∈ held) (hne : held[place]? ≠ some entry)
    (entry' : Option Nat) : entry ∈ held.set place entry' := by
  obtain ⟨place', hplace'⟩ := List.mem_iff_getElem?.mp hmem
  have hplaces : place ≠ place' := by
    rintro rfl
    exact hne hplace'
  exact List.mem_of_getElem? ((List.getElem?_set_ne hplaces).trans hplace')

/-- A socket is added that nobody holds any more. -/
theorem add_done (h : Ledger left earlier held sockets) {socket : Socket} (hdone : socket.Done left) :
    Ledger left earlier held (sockets ++ [socket]) where
  kept := h.kept.trans (List.prefix_append _ _)
  isOpen hplace := by
    obtain ⟨hle, socket', hsocket', hopen⟩ := h.isOpen hplace
    exact ⟨hle, socket', stays hsocket' _, hopen⟩
  apart := h.apart
  covered hle hsocket' := by
    rw [List.getElem?_append] at hsocket'
    split at hsocket'
    · exact h.covered hle hsocket'
    · cases List.mem_singleton.mp (List.mem_of_getElem? hsocket')
      exact .inr hdone

/-- A link that holds nothing gets a new socket. -/
theorem add_open (h : Ledger left earlier held sockets) (hfree : held[place]? = some none)
    {socket : Socket} (hopen : socket.Open) :
    Ledger left earlier (held.set place (some sockets.length)) (sockets ++ [socket]) := by
  have hlt : place < held.length := (List.getElem?_eq_some_iff.mp hfree).1
  -- The new socket comes behind all sockets that are held, so nobody else holds its index.
  have hcases {place' index : Nat}
      (hplace : (held.set place (some sockets.length))[place']? = some (some index)) :
      place = place' ∧ index = sockets.length ∨
        held[place']? = some (some index) ∧ index < sockets.length := by
    by_cases heq : place = place'
    · subst heq
      rw [List.getElem?_set_self hlt] at hplace
      cases hplace
      exact .inl ⟨rfl, rfl⟩
    · rw [List.getElem?_set_ne heq] at hplace
      obtain ⟨-, socket', hsocket', -⟩ := h.isOpen hplace
      exact .inr ⟨hplace, (List.getElem?_eq_some_iff.mp hsocket').1⟩
  refine ⟨h.kept.trans (List.prefix_append _ _), ?_, ?_, ?_⟩
  · intro place' index hplace
    rcases hcases hplace with ⟨-, rfl⟩ | ⟨hplace', -⟩
    · exact ⟨h.kept.length_le, socket, List.getElem?_concat_length, hopen⟩
    · obtain ⟨hle, socket', hsocket', hopen'⟩ := h.isOpen hplace'
      exact ⟨hle, socket', stays hsocket' _, hopen'⟩
  · intro first second index hfirst hsecond
    rcases hcases hfirst with ⟨rfl, rfl⟩ | ⟨hfirst', hindex⟩
    · rcases hcases hsecond with ⟨rfl, -⟩ | ⟨-, hindex⟩
      · rfl
      · omega
    · rcases hcases hsecond with ⟨rfl, rfl⟩ | ⟨hsecond', -⟩
      · omega
      · exact h.apart hfirst' hsecond'
  · intro index socket' hle hsocket'
    rw [List.getElem?_append] at hsocket'
    split at hsocket'
    · rcases h.covered hle hsocket' with hheld | hdone
      · exact .inl (mem_set_of_ne hheld (by simp [hfree]) _)
      · exact .inr hdone
    · have hindex : index = sockets.length := by
        have hzero := (List.getElem?_eq_some_iff.mp hsocket').1
        simp at hzero
        omega
      subst hindex
      exact .inl (List.mem_of_getElem? (List.getElem?_set_self hlt))

/-- A link closes the socket that it holds. -/
theorem release (h : Ledger left earlier held sockets) (hheld : held[place]? = some (some index)) :
    Ledger left earlier (held.set place none) (sockets.modify index fun socket => socket.close.2) := by
  obtain ⟨-, socket, hsocket, hopen⟩ := h.isOpen hheld
  have hlt : place < held.length := (List.getElem?_eq_some_iff.mp hheld).1
  have hclosed : sockets.modify index (fun socket => socket.close.2) =
      sockets.set index socket.close.2 := by
    obtain ⟨hindex, rfl⟩ := List.getElem?_eq_some_iff.mp hsocket
    rw [List.modify_eq_take_cons_drop hindex, List.set_eq_take_append_cons_drop, if_pos hindex]
  have hother {place' index' : Nat}
      (hplace : (held.set place none)[place']? = some (some index')) :
      place ≠ place' ∧ held[place']? = some (some index') := by
    have hne : place ≠ place' := by
      rintro rfl
      rw [List.getElem?_set_self hlt] at hplace
      cases hplace
    rw [List.getElem?_set_ne hne] at hplace
    exact ⟨hne, hplace⟩
  rw [hclosed]
  refine ⟨h.prefix_set hheld _, ?_, ?_, ?_⟩
  · intro place' index' hplace
    obtain ⟨hne, hplace'⟩ := hother hplace
    obtain ⟨hle, socket', hsocket', hopen'⟩ := h.isOpen hplace'
    -- No other link held the socket that is closed.
    have hindex : index ≠ index' := by
      rintro rfl
      exact hne (h.apart hheld hplace')
    exact ⟨hle, socket', by rwa [List.getElem?_set_ne hindex], hopen'⟩
  · intro first second index' hfirst hsecond
    exact h.apart (hother hfirst).2 (hother hsecond).2
  · intro index' socket' hle hsocket'
    by_cases heq : index = index'
    · subst heq
      rw [List.getElem?_set_self (List.getElem?_eq_some_iff.mp hsocket).1] at hsocket'
      cases hsocket'
      exact .inr (.inl hopen.close)
    · rw [List.getElem?_set_ne heq] at hsocket'
      rcases h.covered hle hsocket' with hmem | hdone
      · exact .inl (mem_set_of_ne hmem (by simp [hheld, heq]) _)
      · exact .inr hdone

end Ledger

/-! ## Links at work -/

namespace Station

section Writing

variable (R : Station → Station → Prop) (htrans : ∀ {a b c : Station}, R a b → R b c → R a c)
  (hsend : ∀ data station, R station (send data station).2)

include htrans hsend

theorem sendEnded_within (data : List UInt8) (station : Station) :
    R station (station.sendEnded data).2 := by
  have hdata := hsend data station
  unfold sendEnded
  split
  · rename_i middle hmiddle
    rw [hmiddle] at hdata
    exact htrans hdata (hsend lineEnding middle)
  · rename_i hfailed
    rwa [hfailed] at hdata

variable (hlog : ∀ (station : Station) event, R station (station.log event))

include hlog

theorem upload_within (attachment : Attachment) (station : Station) :
    R station (station.upload attachment).2 :=
  htrans (hlog station _) (sendEnded_within R htrans hsend attachment.data _)

variable (hcount : ∀ (station : Station) count,
  R station { station with link := { station.link with linesWritten := count } })

include hcount

/-- What sending, reporting and counting keep to, writing a line keeps to. -/
theorem writeLine_within (line : String) (station : Station) :
    R station (station.writeLine line).2 := by
  have hended := htrans
    (hlog station (station.link.config.note "client_line" [("line", .text line)]))
    (sendEnded_within R htrans hsend (Text.encodeAscii line) _)
  unfold writeLine
  dsimp only
  split
  · rename_i hsent
    rw [hsent] at hended
    exact htrans hended (hcount _ _)
  · rename_i hfailed
    rwa [hfailed] at hended

end Writing

/-- What work leaves alone: a link keeps its settings and its socket, which is not closed, and the
clock refuses what it refused. -/
structure Kept (station after : Station) : Prop where
  config : after.link.config = station.link.config
  index : after.link.socket = station.link.socket
  limited : after.clock.limited = station.clock.limited
  isOpen : ∀ {socket' : Socket}, after.socket = some socket' →
    ∃ socket, station.socket = some socket ∧ (socket.Open → socket'.Open)

theorem Kept.refl (station : Station) : station.Kept station :=
  ⟨rfl, rfl, rfl, fun h => ⟨_, h, id⟩⟩

theorem Kept.trans {a b c : Station} (hab : a.Kept b) (hbc : b.Kept c) : a.Kept c := by
  refine ⟨hbc.config.trans hab.config, hbc.index.trans hab.index,
    hbc.limited.trans hab.limited, fun hlast => ?_⟩
  obtain ⟨middle, hmiddle, hopen⟩ := hbc.isOpen hlast
  obtain ⟨first, hfirst, hopen'⟩ := hab.isOpen hmiddle
  exact ⟨first, hfirst, hopen ∘ hopen'⟩

theorem kept_log (station : Station) (event : Event) : station.Kept (station.log event) :=
  ⟨rfl, rfl, rfl, fun h => ⟨_, h, id⟩⟩

theorem kept_send (data : List UInt8) (station : Station) :
    station.Kept (station.send data).2 := by
  unfold send
  cases hsocket : station.socket with
  | none => exact .refl station
  | some socket =>
      have hopen (run : SendRun) (h : socket.Open) : (afterSending socket run).Open :=
        h.count .send nofun run.attempts
      dsimp only
      split
      · refine ⟨rfl, rfl, limited_sendAll, fun h => ⟨socket, hsocket, ?_⟩⟩
        cases h
        exact hopen _
      · refine ⟨rfl, rfl, limited_sendAll, fun h => ⟨socket, hsocket, ?_⟩⟩
        cases h
        exact hopen _

theorem kept_writeLine (line : String) (station : Station) :
    station.Kept (station.writeLine line).2 :=
  writeLine_within Kept Kept.trans kept_send kept_log
    (fun _ _ => ⟨rfl, rfl, rfl, fun h => ⟨_, h, id⟩⟩) line station

theorem kept_upload (attachment : Attachment) (station : Station) :
    station.Kept (station.upload attachment).2 :=
  upload_within Kept Kept.trans kept_send kept_log attachment station

theorem kept_afterInbox {station : Station} {inbox : Inbox}
    (hlimited : inbox.clock.limited = station.clock.limited) :
    station.Kept (station.afterInbox inbox) := by
  refine ⟨rfl, rfl, hlimited, fun h => ?_⟩
  obtain ⟨socket, hsocket, rfl⟩ := Option.map_eq_some_iff.mp h
  exact ⟨socket, hsocket, fun hopen => hopen.count .receive nofun inbox.attempts⟩

theorem kept_deliver (station : Station) (line : String) :
    station.Kept (station.deliver line).2 := by
  unfold deliver
  dsimp only
  split
  · exact ⟨rfl, rfl, rfl, fun h => ⟨_, h, id⟩⟩
  · exact ⟨rfl, rfl, rfl, fun h => ⟨_, h, id⟩⟩

theorem kept_readLine (station : Station) : station.Kept station.readLine.2 := by
  have hraw : station.Kept station.readRawLine.2 := kept_afterInbox (limited_assembleLine ..)
  unfold readLine
  split
  · rename_i line middle hmiddle
    rw [hmiddle] at hraw
    exact hraw.trans (kept_deliver middle line)
  · rename_i hfailed
    rwa [hfailed] at hraw

end Station

/-! ## Links in a network -/

namespace World

/-- The clock takes the pauses of all links that are being connected, unless sockets may be left
open. -/
def Pauses (left : Prop) (world : World) : Prop :=
  ∀ link ∈ world.links, world.clock.Takes link.config.connectPatience.pause ∨ left

/-- The links of a network have certain labels, and account for all sockets but earlier ones. -/
structure Accounted (left : Prop) (labels : List String) (earlier : List Socket) (world : World) :
    Prop where
  labels : world.links.map (fun link => link.config.label) = labels
  ledger : Ledger left earlier (world.links.map Link.socket) world.sockets
  pauses : world.Pauses left

/-- No link of a label holds a socket. -/
def Idle (label : String) (world : World) : Prop :=
  ∀ link ∈ world.links, link.config.label = label → link.socket = none

variable {left : Prop} {labels : List String} {earlier : List Socket} {world after : World}
  {label : String}

theorem Pauses.of_eq (h : world.Pauses left) (hlinks : after.links = world.links)
    (hlimited : after.clock.limited = world.clock.limited) : after.Pauses left :=
  fun link hlink => (h link (hlinks ▸ hlink)).imp_left fun htakes => htakes.congr hlimited

/-- A link that replaces another one with the same settings pauses as long. -/
theorem Pauses.set (h : world.Pauses left) {place : Nat} {link link' : Link}
    (hplace : world.links[place]? = some link) (hconfig : link'.config = link.config)
    (hlinks : after.links = world.links.set place link')
    (hlimited : after.clock.limited = world.clock.limited) : after.Pauses left := by
  intro other hmem
  rw [hlinks] at hmem
  rcases List.mem_or_eq_of_mem_set hmem with hbefore | rfl
  · exact (h other hbefore).imp_left fun htakes => htakes.congr hlimited
  · rw [hconfig]
    exact (h link (List.mem_of_getElem? hplace)).imp_left fun htakes => htakes.congr hlimited

theorem Accounted.of_eq (h : world.Accounted left labels earlier)
    (hlinks : after.links = world.links) (hsockets : after.sockets = world.sockets)
    (hlimited : after.clock.limited = world.clock.limited) :
    after.Accounted left labels earlier where
  labels := hlinks ▸ h.labels
  ledger := hlinks ▸ hsockets ▸ h.ledger
  pauses := h.pauses.of_eq hlinks hlimited

/-- Replacing a link by one that agrees with it in some respect changes nothing in this respect. -/
theorem map_links_set {α : Type} {links : List Link} {place : Nat} {link link' : Link}
    (hplace : links[place]? = some link) {f : Link → α} (h : f link' = f link) :
    (links.set place link').map f = links.map f := by
  obtain ⟨hlt, rfl⟩ := List.getElem?_eq_some_iff.mp hplace
  rw [List.map_set, h, ← List.getElem_map f (h := by simpa using hlt), List.set_getElem_self]

/-- Where labels are distinct, every link is found under its label. -/
theorem findLink_of_nodup (h : (world.links.map fun link => link.config.label).Nodup) {place : Nat}
    {link : Link} (hplace : world.links[place]? = some link) :
    world.findLink link.config.label = some (place, link) := by
  refine findLink_eq_some_iff.mpr ⟨hplace, rfl, fun before hbefore other hother hsame => ?_⟩
  have hlt : before < world.links.length := (List.getElem?_eq_some_iff.mp hother).1
  have heq : before = place := by
    refine (List.getElem?_inj (by simpa using hlt) h).mp ?_
    rw [List.getElem?_map, List.getElem?_map, hother, hplace, Option.map_some, Option.map_some, hsame]
  omega

/-- What the link of a label holds. -/
theorem held_of_findLink {place : Nat} {link : Link}
    (hfind : world.findLink label = some (place, link)) :
    (world.links.map Link.socket)[place]? = some link.socket := by
  rw [List.getElem?_map, (findLink_eq_some_iff.mp hfind).1, Option.map_some]

section Work

variable {place : Nat} {link : Link} {station : Station}
  (hfind : world.findLink label = some (place, link)) (hkept : (world.station link).Kept station)

include hfind hkept

theorem labels_afterStation :
    (world.afterStation place station).links.map (fun link => link.config.label) =
      world.links.map fun link => link.config.label :=
  map_links_set (findLink_eq_some_iff.mp hfind).1 (congrArg Config.label hkept.config)

theorem held_afterStation :
    (world.afterStation place station).links.map Link.socket = world.links.map Link.socket :=
  map_links_set (findLink_eq_some_iff.mp hfind).1 hkept.index

theorem Accounted.afterStation (h : world.Accounted left labels earlier) :
    (world.afterStation place station).Accounted left labels earlier := by
  refine ⟨(labels_afterStation hfind hkept).trans h.labels, ?_,
    h.pauses.set (findLink_eq_some_iff.mp hfind).1 hkept.config rfl hkept.limited⟩
  rw [held_afterStation hfind hkept]
  unfold World.afterStation
  dsimp only
  split
  · rename_i index socket' hindex hsocket'
    obtain ⟨socket, hsocket, hopen⟩ := hkept.isOpen hsocket'
    have hlink : link.socket = some index := hkept.index.symm.trans hindex
    have hholds : (world.links.map Link.socket)[place]? = some (some index) :=
      hlink ▸ held_of_findLink hfind
    -- The socket that the work started from is the one held, so it was open.
    obtain ⟨-, held, hget, hheldOpen⟩ := h.ledger.isOpen hholds
    have hsame : world.sockets[index]? = some socket := by
      simpa [World.station, hlink] using hsocket
    cases hget.symm.trans hsame
    exact h.ledger.use hholds (hopen hheldOpen)
  · exact h.ledger

end Work

theorem Accounted.work (h : world.Accounted left labels earlier) {α : Type} (label : String)
    {job : Station → Except Fault α × Station}
    (hjob : ∀ station : Station, station.Kept (job station).2) :
    (world.work label job).2.Accounted left labels earlier := by
  unfold World.work
  cases hfind : world.findLink label with
  | none => exact h
  | some found => exact h.afterStation hfind (hjob _)

/-! ## Starting and stopping -/

/-- Waiting for a connection leaves what a clock refuses as it is. -/
theorem limited_awaitConnection (patience : Patience) (started : Int) (connects : List Int)
    (clock : Clock) :
    (awaitConnection patience started connects clock).clock.limited = clock.limited := by
  fun_induction awaitConnection patience started connects clock with
  | case6 result rest clock _ _ _ _ later ih => exact ih
  | _ => rfl

/-- A wait for a connection ends with a pause that the clock refuses only if it refuses that pause.
-/
theorem refusal?_of_awaitConnection {patience : Patience} {started : Int} {connects : List Int}
    {clock : Clock} {error : WaitError}
    (h : (awaitConnection patience started connects clock).ending = .pauseRefused error) :
    clock.refusal? patience.pause = some error := by
  fun_induction awaitConnection patience started connects clock with
  | case5 result rest clock _ _ _ error' hrefused =>
      cases h
      exact hrefused
  | case6 result rest clock _ _ _ _ later ih => exact ih h
  | _ => cases h

theorem limited_connect (world : World) (place : Nat) (link : Link) (socket : Socket) :
    (world.connect place link socket).2.clock.limited = world.clock.limited := by
  have hawait := limited_awaitConnection link.config.connectPatience world.clock.now
    socket.behaviour.connects world.clock
  unfold connect
  dsimp only
  split <;> exact hawait

/-- What an attempt to connect does to links and sockets: the new socket is done with, which leaves
it open only if the clock refuses a pause, or the link holds it. -/
theorem connect_end (world : World) (place : Nat) (link : Link) {socket : Socket}
    (h : socket.Open) :
    ((world.connect place link socket).2.links = world.links ∧
      ∃ done, done.Done (¬ world.clock.Takes link.config.connectPatience.pause) ∧
        (world.connect place link socket).2.sockets = world.sockets ++ [done]) ∨
    ((world.connect place link socket).2.links =
        world.links.set place { link with socket := some world.sockets.length } ∧
      ∃ opened, opened.Open ∧
        (world.connect place link socket).2.sockets = world.sockets ++ [opened]) := by
  have htried (times : Nat) (behaviour : Behaviour) :
      Socket.Open { socket.count .connect times with behaviour := behaviour } :=
    h.count .connect nofun times
  unfold connect
  dsimp only
  split
  · refine .inr ⟨rfl, _, ?_, rfl⟩
    exact htried _ _
  · refine .inl ⟨rfl, _, .inl ?_, rfl⟩
    exact (htried _ _).close
  · refine .inl ⟨rfl, _, .inl ?_, rfl⟩
    exact (htried _ _).close
  · rename_i error hrefused
    refine .inl ⟨rfl, _, .inr ⟨fun htakes => ?_, htried _ _⟩, rfl⟩
    cases htakes.symm.trans (refusal?_of_awaitConnection hrefused)

/-- What starting does to links and sockets. -/
inductive StartEnd (world : World) (label : String) (after : World) : Prop where
  | unknown (hsame : after = world)
  | unopened {place : Nat} {link : Link} (hfind : world.findLink label = some (place, link))
      (hlinks : after.links = world.links.set place link.renewed)
      (hsockets : after.sockets = world.sockets)
  | abandoned {place : Nat} {link : Link} (hfind : world.findLink label = some (place, link))
      (hlinks : after.links = world.links.set place link.renewed)
      {socket : Socket}
      (hdone : socket.Done (¬ world.clock.Takes link.config.connectPatience.pause))
      (hsockets : after.sockets = world.sockets ++ [socket])
  | connected {place : Nat} {link : Link} (hfind : world.findLink label = some (place, link))
      (hlinks : after.links =
        world.links.set place { link.renewed with socket := some world.sockets.length })
      {socket : Socket} (hopen : socket.Open) (hsockets : after.sockets = world.sockets ++ [socket])

theorem StartEnd.of_connect {place : Nat} {link : Link}
    (hfind : world.findLink label = some (place, link)) {opening : World}
    (hlinks : opening.links = world.links.set place link.renewed)
    (hsockets : opening.sockets = world.sockets) (hclock : opening.clock = world.clock)
    {socket : Socket} (h : socket.Open) :
    world.StartEnd label (opening.connect place link.renewed socket).2 := by
  rcases connect_end opening place link.renewed h with
    ⟨hlinks', _, hdone, hsockets'⟩ | ⟨hlinks', _, hopen, hsockets'⟩
  · exact .abandoned hfind (hlinks'.trans hlinks) (hclock ▸ hdone) (hsockets ▸ hsockets')
  · refine .connected hfind ?_ hopen (hsockets ▸ hsockets')
    rw [hlinks', hlinks, hsockets, List.set_set]

theorem start_end (label : String) (world : World) :
    world.StartEnd label (world.start label).2 := by
  unfold start
  cases hfind : world.findLink label with
  | none => exact .unknown rfl
  | some found =>
      obtain ⟨place, link⟩ := found
      dsimp only
      split
      · rename_i hopening
        obtain ⟨services, outages, rfl⟩ := eq_of_openConnection hopening
        exact .unopened hfind rfl rfl
      · rename_i hopening
        obtain ⟨services, outages, rfl⟩ := eq_of_openConnection hopening
        refine .of_connect hfind ?_ ?_ ?_ (Socket.open_fresh _ _)
        · rfl
        · rfl
        · rfl

theorem limited_start (label : String) (world : World) :
    (world.start label).2.clock.limited = world.clock.limited := by
  unfold start
  cases world.findLink label with
  | none => rfl
  | some found =>
      dsimp only
      split
      · rename_i hopening
        obtain ⟨services, outages, rfl⟩ := eq_of_openConnection hopening
        rfl
      · rename_i hopening
        obtain ⟨services, outages, rfl⟩ := eq_of_openConnection hopening
        exact limited_connect ..

/-- Starting a link that holds no socket keeps account of all sockets. -/
theorem Accounted.start (h : world.Accounted left labels earlier) (hidle : world.Idle label) :
    (world.start label).2.Accounted left labels earlier := by
  have hlimited := limited_start label world
  cases start_end label world with
  | unknown hsame => rwa [hsame]
  | @unopened place link hfind hlinks hsockets =>
      have hplace := (findLink_eq_some_iff.mp hfind).1
      refine ⟨?_, ?_, h.pauses.set hplace (by rfl) hlinks hlimited⟩
      · rw [hlinks, map_links_set hplace (by rfl), h.labels]
      · rw [hlinks, map_links_set hplace (by rfl), hsockets]
        exact h.ledger
  | @abandoned place link hfind hlinks socket hdone hsockets =>
      have hplace := (findLink_eq_some_iff.mp hfind).1
      have hleft : socket.Done left := hdone.imp_right fun hopen =>
        ⟨(h.pauses link (List.mem_of_getElem? hplace)).resolve_left hopen.1, hopen.2⟩
      refine ⟨?_, ?_, h.pauses.set hplace (by rfl) hlinks hlimited⟩
      · rw [hlinks, map_links_set hplace (by rfl), h.labels]
      · rw [hlinks, map_links_set hplace (by rfl), hsockets]
        exact h.ledger.add_done hleft
  | @connected place link hfind hlinks socket hopen hsockets =>
      obtain ⟨hplace, hlabel, -⟩ := findLink_eq_some_iff.mp hfind
      have hfree : (world.links.map Link.socket)[place]? = some none :=
        hidle link (List.mem_of_getElem? hplace) hlabel ▸ held_of_findLink hfind
      refine ⟨?_, ?_, h.pauses.set hplace (by rfl) hlinks hlimited⟩
      · rw [hlinks, map_links_set hplace (by rfl), h.labels]
      · rw [hlinks, List.map_set, hsockets]
        exact h.ledger.add_open hfree hopen

/-- A link that replaces another one under its label leaves the links of other labels alone. -/
theorem Idle.set {other : String} (h : world.Idle other) {place : Nat} {link link' : Link}
    (hfind : world.findLink label = some (place, link)) (hne : label ≠ other)
    (hconfig : link'.config = link.config) (hlinks : after.links = world.links.set place link') :
    after.Idle other := by
  intro other' hmem hother
  rw [hlinks] at hmem
  rcases List.mem_or_eq_of_mem_set hmem with hbefore | rfl
  · exact h other' hbefore hother
  · rw [hconfig, (findLink_eq_some_iff.mp hfind).2.1] at hother
    exact absurd hother hne

/-- Starting a link leaves the others idle. -/
theorem Idle.start {other : String} (h : world.Idle other) (hne : label ≠ other) :
    (world.start label).2.Idle other := by
  cases start_end label world with
  | unknown hsame => rwa [hsame]
  | unopened hfind hlinks hsockets => exact h.set hfind hne (by rfl) hlinks
  | abandoned hfind hlinks hdone hsockets => exact h.set hfind hne (by rfl) hlinks
  | connected hfind hlinks hopen hsockets => exact h.set hfind hne (by rfl) hlinks

/-- A link that replaces another one under its label does not touch the links of other labels. -/
theorem Fresh.set {other : String} (h : world.Fresh other) {place : Nat} {link link' : Link}
    (hfind : world.findLink label = some (place, link)) (hne : label ≠ other)
    (hconfig : link'.config = link.config) (hlinks : after.links = world.links.set place link')
    (hsockets : world.sockets <+: after.sockets) : after.Fresh other := by
  obtain ⟨place', other', socket, hfind', hstarted, hsocket, hsent⟩ := h
  have hsame : (after.station other').socket = some socket := by
    obtain ⟨index, hindex, hget⟩ := Option.bind_eq_some_iff.mp hsocket
    obtain ⟨later, hlater⟩ := hsockets
    refine Option.bind_eq_some_iff.mpr ⟨index, hindex, ?_⟩
    rw [← hlater]
    exact Ledger.stays hget later
  have hopen : (after.station other').socket.isSome := by
    rw [hsame]
    rfl
  exact ⟨place', other', socket, (findLink_set_of_ne hfind hconfig hlinks hne hfind').2,
    ⟨hopen, hstarted.unread, hstarted.atFirstLine, hstarted.actualFirstLine⟩, hsame, hsent⟩

/-- Starting a link does not touch the others. -/
theorem Fresh.start {other : String} (h : world.Fresh other) (hne : label ≠ other) :
    (world.start label).2.Fresh other := by
  cases start_end label world with
  | unknown hsame => rwa [hsame]
  | unopened hfind hlinks hsockets =>
      exact h.set hfind hne (by rfl) hlinks (hsockets ▸ List.prefix_rfl)
  | abandoned hfind hlinks hdone hsockets =>
      exact h.set hfind hne (by rfl) hlinks (hsockets ▸ List.prefix_append _ _)
  | connected hfind hlinks hopen hsockets =>
      exact h.set hfind hne (by rfl) hlinks (hsockets ▸ List.prefix_append _ _)

/-- What stopping does to links and sockets: a link that holds a socket closes it. -/
inductive StopEnd (world : World) (label : String) (after : World) : Prop where
  | idle (hidle : ∀ {place : Nat} {link : Link}, world.findLink label = some (place, link) →
        link.socket = none)
      (hlinks : after.links = world.links) (hsockets : after.sockets = world.sockets)
  | closed {place index : Nat} {link : Link} (hfind : world.findLink label = some (place, link))
      (hheld : link.socket = some index)
      (hlinks : after.links = world.links.set place { link with socket := none })
      (hsockets : after.sockets = world.sockets.modify index fun socket => socket.close.2)

theorem stop_end (label : String) (world : World) : world.StopEnd label (world.stop label).2 := by
  unfold stop
  cases hfind : world.findLink label with
  | none => exact .idle (fun hlink => by cases hfind.symm.trans hlink) rfl rfl
  | some found =>
      obtain ⟨place, link⟩ := found
      dsimp only
      split
      · rename_i hnone
        refine .idle (fun hlink => ?_) rfl rfl
        cases hfind.symm.trans hlink
        exact hnone
      · rename_i index hheld
        -- An error of closing is only reported.
        split
        · exact .closed hfind hheld rfl rfl
        · exact .closed hfind hheld rfl rfl

/-- Stopping never fails. -/
theorem stop_ok (label : String) (world : World) : (world.stop label).1 = .ok () := by
  unfold stop
  split
  · rfl
  · dsimp only
    split <;> rfl

theorem limited_stop (label : String) (world : World) :
    (world.stop label).2.clock.limited = world.clock.limited := by
  unfold stop
  split
  · rfl
  · dsimp only
    split
    · rfl
    · split <;> rfl

theorem Accounted.stop (h : world.Accounted left labels earlier) (label : String) :
    (world.stop label).2.Accounted left labels earlier := by
  cases stop_end label world with
  | idle hidle hlinks hsockets => exact h.of_eq hlinks hsockets (limited_stop label world)
  | @closed place index link hfind hheld hlinks hsockets =>
      have hplace := (findLink_eq_some_iff.mp hfind).1
      have hholds : (world.links.map Link.socket)[place]? = some (some index) :=
        hheld ▸ held_of_findLink hfind
      refine ⟨?_, ?_, h.pauses.set hplace (by rfl) hlinks (limited_stop label world)⟩
      · rw [hlinks, map_links_set hplace (by rfl), h.labels]
      · rw [hlinks, List.map_set, hsockets]
        exact h.ledger.release hholds

/-- A link stays idle when any link is stopped. -/
theorem Idle.stop {other : String} (h : world.Idle other) (label : String) :
    (world.stop label).2.Idle other := by
  cases stop_end label world with
  | idle hidle hlinks hsockets => exact fun link hmem => h link (hlinks ▸ hmem)
  | closed hfind hheld hlinks hsockets =>
      intro link hmem hother
      rw [hlinks] at hmem
      rcases List.mem_or_eq_of_mem_set hmem with hbefore | rfl
      · exact h link hbefore hother
      · rfl

/-- A link that was stopped is idle. -/
theorem Accounted.idle_stop (h : world.Accounted left labels earlier) (hnodup : labels.Nodup)
    (label : String) : (world.stop label).2.Idle label := by
  rintro link hmem rfl
  rw [← h.labels] at hnodup
  cases stop_end link.config.label world with
  | idle hidle hlinks hsockets =>
      rw [hlinks] at hmem
      obtain ⟨place, hplace⟩ := List.mem_iff_getElem?.mp hmem
      exact hidle (findLink_of_nodup hnodup hplace)
  | @closed place index found hfind hheld hlinks hsockets =>
      rw [hlinks] at hmem
      obtain ⟨place', hplace'⟩ := List.mem_iff_getElem?.mp hmem
      by_cases heq : place = place'
      · subst heq
        have hlt := (List.getElem?_eq_some_iff.mp (findLink_eq_some_iff.mp hfind).1).1
        rw [List.getElem?_set_self hlt] at hplace'
        cases hplace'
        rfl
      · rw [List.getElem?_set_ne heq] at hplace'
        cases hfind.symm.trans (findLink_of_nodup hnodup hplace')
        exact absurd rfl heq

/-- Idle links leave all sockets that there are to others. -/
theorem accounted_of_idle (h : ∀ link ∈ world.links, link.socket = none)
    (hpauses : world.Pauses left) :
    world.Accounted left (world.links.map fun link => link.config.label) world.sockets where
  labels := rfl
  ledger := .begin world.sockets fun entry hentry => by
    obtain ⟨link, hlink, rfl⟩ := List.mem_map.mp hentry
    exact h link hlink
  pauses := hpauses

/-- When all links are idle again, nobody holds any of the sockets opened meanwhile. -/
theorem Accounted.finish (h : world.Accounted left labels earlier)
    (hidle : ∀ label ∈ labels, world.Idle label) :
    ∃ opened, world.sockets = earlier ++ opened ∧ ∀ socket ∈ opened, socket.Done left := by
  refine h.ledger.finish fun entry hentry => ?_
  obtain ⟨link, hlink, rfl⟩ := List.mem_map.mp hentry
  refine hidle link.config.label ?_ link hlink rfl
  rw [← h.labels]
  exact List.mem_map_of_mem hlink

/-- What work over links, waiting and reporting keep, the sessions of a network keep. -/
theorem keep_sessions {I : World → Prop} (world : World)
    (hwork : ∀ {α : Type} (label : String) (job : Station → Except Fault α × Station)
      (world : World), (∀ station : Station, station.Kept (job station).2) → I world →
        I (world.work label job).2)
    (hwait : ∀ seconds world, I world → I (wait seconds world).2)
    (hlog : ∀ (event : Event) (world : World), I world → I (world.log event)) :
    (sessions world).Keep I where
  readLine label view world h := by
    have hread := hwork label Station.readLine world Station.kept_readLine h
    change (reading label view world).Keeps _
    unfold reading readLine
    split
    · rename_i hline
      rwa [hline] at hread
    · rename_i hbroken
      rwa [hbroken] at hread
  writeLine label line world h := hwork label _ world (Station.kept_writeLine line) h
  upload label attachment world h := hwork label _ world (Station.kept_upload attachment) h
  wait := hwait
  log := hlog

/-- The sessions of a network keep account of all sockets while a script runs. -/
theorem keep_accounted (world : World) (left : Prop) (labels : List String)
    (earlier : List Socket) : (sessions world).Keep (Accounted left labels earlier) :=
  keep_sessions world (fun label _ _ hjob h => h.work label hjob)
    (fun _ world h => h.of_eq rfl rfl (Clock.limited_sleep world.clock _))
    fun _ _ h => h.of_eq rfl rfl rfl

end World

end MailScript.Network
