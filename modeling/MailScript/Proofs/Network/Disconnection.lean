import MailScript.Proofs.Network.Connecting

/-! # Links without a connection

A link that is not connected refuses to write, and it refuses to read as long as no line that it
has received is left with it. Stopping leaves such lines with the link, and they are still
delivered. Before the first connection and behind a start that has failed there are none. -/

namespace MailScript.Network

/-- What a link has counted: bytes sent and received, lines read and written. -/
def Link.counters (link : Link) : Nat × Nat × Nat × Nat :=
  (link.bytesSent, link.bytesReceived, link.linesRead, link.linesWritten)

/-! ## A link without a socket -/

theorem assembleLine_closed_of_mem (config : Config) (started : Int) (inbox : Inbox)
    (h : lineFeed ∈ inbox.unread) (line : List UInt8) :
    ∃ text after, assembleLine config false started inbox line = (.ok text, after) := by
  obtain ⟨before, behind, hunread, hbefore⟩ := List.eq_append_cons_of_mem h
  have hcut := cutLine_eq_some_iff.mpr ⟨hunread, hbefore⟩
  rw [assembleLine]
  split
  · exact ⟨_, _, rfl⟩
  · rename_i hnone
    cases hnone.symm.trans hcut

theorem assembleLine_closed_of_not_mem (config : Config) (started : Int) (inbox : Inbox)
    (h : lineFeed ∉ inbox.unread) (line : List UInt8) :
    ∃ after, assembleLine config false started inbox line =
        (fail (.notConnected config.label), after) ∧ after.received = inbox.received := by
  rw [assembleLine]
  split
  · rename_i hcut
    cases (cutLine_of_not_mem h).symm.trans hcut
  · exact ⟨_, rfl, rfl⟩

namespace Station

variable {station : Station}

theorem readRawLine_closed (h : station.socket = none) :
    station.readRawLine =
      let result := assembleLine station.link.config false station.clock.now
        (station.inbox.log [station.link.config.detail "reading_line"]) []
      (result.1.map Text.decodeLatin1, station.afterInbox result.2) := by
  unfold readRawLine
  rw [h]
  rfl

/-- A line that has been left with a link is delivered without a connection. -/
theorem readLine_closed_of_mem (hclosed : station.socket = none)
    (h : lineFeed ∈ station.link.unread) : ∃ line after, station.readLine = (.ok line, after) := by
  obtain ⟨text, inbox, hline⟩ := assembleLine_closed_of_mem station.link.config station.clock.now
    (station.inbox.log [station.link.config.detail "reading_line"]) h []
  have hraw := readRawLine_closed hclosed
  rw [hline] at hraw
  exact ⟨_, _, readLine_of_raw hraw⟩

/-- What a job without a connection comes to: it is refused, and nothing has been counted. -/
structure Refuses {α : Type} (station : Station) (result : Except Fault α × Station) : Prop where
  outcome : result.1 = fail (.notConnected station.link.config.label)
  counters : result.2.link.counters = station.link.counters

theorem refuses_readLine (hclosed : station.socket = none) (h : lineFeed ∉ station.link.unread) :
    station.Refuses station.readLine := by
  obtain ⟨inbox, hline, hreceived⟩ := assembleLine_closed_of_not_mem station.link.config
    station.clock.now
    (station.inbox.log [station.link.config.detail "reading_line"]) h []
  have hraw := readRawLine_closed hclosed
  rw [hline] at hraw
  have hread : station.readLine =
      (fail (.notConnected station.link.config.label), station.afterInbox inbox) := by
    unfold readLine
    rw [hraw]
    rfl
  rw [hread]
  refine ⟨rfl, ?_⟩
  unfold Link.counters afterInbox
  rw [hreceived]
  rfl

theorem sendEnded_closed (hclosed : station.socket = none) (data : List UInt8) :
    station.sendEnded data = (fail (.notConnected station.link.config.label), station) := by
  have hsend : station.send data = (fail (.notConnected station.link.config.label), station) := by
    unfold send
    rw [hclosed]
  unfold sendEnded
  rw [hsend]
  rfl

theorem refuses_upload (hclosed : station.socket = none) (attachment : Attachment) :
    station.Refuses (station.upload attachment) := by
  unfold upload
  dsimp only
  rw [sendEnded_closed]
  · exact ⟨rfl, rfl⟩
  · exact hclosed

theorem refuses_writeLine (hclosed : station.socket = none) (line : String) :
    station.Refuses (station.writeLine line) := by
  unfold writeLine
  dsimp only
  rw [sendEnded_closed]
  · exact ⟨rfl, rfl⟩
  · exact hclosed

end Station

/-! ## Calls without a connection -/

namespace World

variable {world : World} {label : String} {place : Nat} {link : Link}

/-- What the link of a label has counted. -/
def counters (label : String) (world : World) : Option (Nat × Nat × Nat × Nat) :=
  (world.findLink label).map fun found => found.2.counters

/-- A line has been left with the link of a label: it has been received as a whole, and it has not
been delivered. -/
def HoldsLine (label : String) (world : World) : Prop :=
  ∃ found, world.findLink label = some found ∧ lineFeed ∈ found.2.unread

theorem holdsLine_iff (hfind : world.findLink label = some (place, link)) :
    world.HoldsLine label ↔ lineFeed ∈ link.unread := by
  simp [HoldsLine, hfind]

theorem not_holdsLine_of_unused (hfind : world.findLink label = some (place, link))
    (hunused : link.Unused) : ¬ world.HoldsLine label := by
  rw [holdsLine_iff hfind, hunused.unread]
  exact List.not_mem_nil

theorem connected_eq_false_iff (hfind : world.findLink label = some (place, link)) :
    world.connected label = false ↔ link.socket = none := by
  simp [connected, hfind, Link.connected]

end World

/-- A call has been refused for want of a connection, and nothing has been counted. -/
structure Performed.Refused (label : String) (performed : Performed) : Prop where
  outcome : ∃ failure, performed.outcome = .error (.failure failure) ∧ failure.kind = .transport ∧
    failure.message = "Not connected"
  counters : performed.after.counters label = performed.before.counters label

namespace World

variable {world : World} {label : String} {place : Nat} {link : Link}

theorem socket_station_of_idle (world : World) (hidle : link.socket = none) :
    (world.station link).socket = none := by
  simp [station, hidle]

/-- Work that is refused for want of a connection refuses the call. -/
theorem refused_of_work (hfind : world.findLink label = some (place, link)) {α : Type}
    {job : Station → Except Fault α × Station}
    (hkept : ∀ station : Station, station.Kept (job station).2)
    (hrefuses : (world.station link).Refuses (job (world.station link))) (call : Call)
    (f : α → Option String) :
    Performed.Refused label
      ⟨call, world, (world.work label job).1.map f, (world.work label job).2⟩ := by
  rw [work_of_findLink hfind]
  constructor
  · refine ⟨.notConnected link.config.label, ?_, rfl, rfl⟩
    dsimp only
    rw [hrefuses.outcome]
    rfl
  · have hfound := findLink_afterStation hfind (hkept (world.station link)).config
    dsimp only
    unfold counters
    rw [hfound, hfind, Option.map_some, Option.map_some, hrefuses.counters]
    rfl

/-- Without a connection a line that has been left with the link is delivered, and everything else
is refused. -/
theorem refused_iff (hfind : world.findLink label = some (place, link)) (hidle : link.socket = none)
    {call : Call} (htransfers : call.transfers) :
    (world.perform label call).Refused label ↔ ¬ (call = .readLine ∧ world.HoldsLine label) := by
  have hclosed := world.socket_station_of_idle hidle
  rw [holdsLine_iff hfind]
  cases call with
  | start => cases htransfers
  | stop => cases htransfers
  | readLine =>
      by_cases hline : lineFeed ∈ link.unread
      · refine iff_of_false ?_ (not_not_intro ⟨rfl, hline⟩)
        rintro ⟨⟨failure, houtcome, -⟩, -⟩
        obtain ⟨line, after, hread⟩ := Station.readLine_closed_of_mem hclosed hline
        have hdelivered : (world.perform label .readLine).outcome = .ok (some line) := by
          change (world.work label Station.readLine).1.map some = _
          rw [work_of_findLink hfind, hread]
          rfl
        cases hdelivered.symm.trans houtcome
      · refine iff_of_true ?_ fun hheld => hline hheld.2
        exact refused_of_work hfind Station.kept_readLine (Station.refuses_readLine hclosed hline)
          .readLine some
  | writeLine line =>
      refine iff_of_true ?_ nofun
      exact refused_of_work hfind (Station.kept_writeLine line)
        (Station.refuses_writeLine hclosed line) (.writeLine line) fun _ => none
  | upload attachment =>
      refine iff_of_true ?_ nofun
      exact refused_of_work hfind (Station.kept_upload attachment)
        (Station.refuses_upload hclosed attachment) (.upload attachment) fun _ => none

/-! ## Calls one after another -/

/-- The link of a label is not connected, and no line has been left with it. -/
def Bare (label : String) (world : World) : Prop :=
  world.connected label = false ∧ ¬ world.HoldsLine label

/-- A call connects the link of a label only if it is a start that succeeds. -/
theorem connected_perform (hfind : world.findLink label = some (place, link))
    (hidle : world.connected label = false) {call : Call}
    (hstart : call = .start → (world.perform label call).outcome.isOk = false) :
    (world.perform label call).after.connected label = false := by
  have hnone : link.socket = none := (connected_eq_false_iff hfind).mp hidle
  have hwork {α : Type} {job : Station → Except Fault α × Station}
      (hkept : ∀ station : Station, station.Kept (job station).2) :
      (world.work label job).2.connected label = false := by
    have hafter := hkept (world.station link)
    rw [work_of_findLink hfind, connected_eq_false_iff (findLink_afterStation hfind hafter.config)]
    exact hafter.index.trans hnone
  cases call with
  | start => exact (contained_start hfind).start rfl (hstart rfl) hidle
  | stop =>
      change (world.stop label).2.connected label = false
      cases stop_end label world with
      | idle _ hlinks =>
          rw [connected_eq_false_iff ((findLink_congr hlinks label).trans hfind)]
          exact hnone
      | closed hfound hheld hlinks =>
          cases hfind.symm.trans hfound
          rw [connected_eq_false_iff (findLink_of_set hfind (by rfl) hlinks)]
  | readLine => exact hwork Station.kept_readLine
  | writeLine line => exact hwork (Station.kept_writeLine line)
  | upload attachment => exact hwork (Station.kept_upload attachment)

/-- Without a connection nothing is received. -/
theorem received_of_idle (hfind : world.findLink label = some (place, link))
    (hidle : link.socket = none) (call : Call) :
    (world.perform label call).received label = [] := by
  cases call with
  | readLine =>
      have hcoming : world.coming label = [] := by
        rw [coming_eq hfind]
        simp [Station.inbox, world.socket_station_of_idle hidle, arriving]
      change (world.coming label).take _ = []
      rw [hcoming, List.take_nil]
  | start | stop | writeLine | upload => rfl

/-- As long as no start succeeds, a link without a connection gets none, and no line is left with
it. -/
theorem Bare.perform (hfind : (world.findLink label).isSome) (h : world.Bare label) {call : Call}
    (hstart : call = .start → (world.perform label call).outcome.isOk = false) :
    (world.perform label call).after.Bare label := by
  obtain ⟨⟨place, link⟩, hfound⟩ := Option.isSome_iff_exists.mp hfind
  obtain ⟨hidle, hnoLine⟩ := h
  refine ⟨connected_perform hfound hidle hstart, ?_⟩
  obtain ⟨link', hafter, hdraws⟩ := draws_perform hfound call
  rw [received_of_idle hfound ((connected_eq_false_iff hfound).mp hidle)] at hdraws
  rw [holdsLine_iff hfound] at hnoLine
  rw [holdsLine_iff hafter]
  have hsuffix := hdraws.unread
  rw [List.append_nil] at hsuffix
  exact fun hmem => hnoLine (hsuffix.subset hmem)

/-- What is said of a call of a link without a connection: it is refused, unless it reads a line
that has been left with the link. Behind a start no line is left. -/
structure Guarded (label : String) (performed : Performed) : Prop where
  refused : performed.before.connected label = false → performed.call.transfers →
    (performed.Refused label ↔
      ¬ (performed.call = .readLine ∧ performed.before.HoldsLine label))
  start : performed.call = .start → ¬ performed.after.HoldsLine label

theorem guarded_perform (hfind : (world.findLink label).isSome) (call : Call) :
    Guarded label (world.perform label call) := by
  obtain ⟨⟨place, link⟩, hfound⟩ := Option.isSome_iff_exists.mp hfind
  constructor
  · rw [call_perform, before_perform]
    intro hidle htransfers
    exact refused_iff hfound ((connected_eq_false_iff hfound).mp hidle) htransfers
  · rw [call_perform]
    rintro rfl
    obtain ⟨link', hafter, hunused⟩ := unused_start hfound
    exact not_holdsLine_of_unused hafter hunused

/-- Whatever calls are made and whatever the network does, a link without a connection refuses to
read and to write and counts nothing, unless a line is read that stopping has left with it. Behind
a start there is no such line, and before the first start that succeeds there is none either. -/
theorem performAll_refused_iff (hfind : (world.findLink label).isSome) (calls : List Call) :
    (∀ performed ∈ world.performAll label calls, Guarded label performed) ∧
      (world.Bare label → ∀ earlier current later,
        world.performAll label calls = earlier ++ current :: later →
        (∀ performed ∈ earlier, performed.call = .start → performed.outcome.isOk = false) →
        current.call.transfers → current.Refused label) := by
  induction calls generalizing world with
  | nil => exact ⟨List.forall_mem_nil _, fun _ earlier _ _ hsplit => by simp [performAll] at hsplit⟩
  | cons call rest ih =>
      obtain ⟨⟨place, link⟩, hfound⟩ := Option.isSome_iff_exists.mp hfind
      obtain ⟨link', hafter, -⟩ := findLink_perform hfound call
      obtain ⟨hguarded, hbare⟩ := ih (Option.isSome_iff_exists.mpr ⟨_, hafter⟩)
      have hfirst := guarded_perform hfind call
      refine ⟨?_, fun h earlier current later hsplit hstarts htransfers => ?_⟩
      · rw [performAll, List.forall_mem_cons]
        exact ⟨hfirst, hguarded⟩
      · rw [performAll] at hsplit
        cases earlier with
        | nil =>
            obtain ⟨rfl, -⟩ := List.cons.inj hsplit
            apply (hfirst.refused _ htransfers).mpr
            · rw [before_perform]
              exact fun hheld => h.2 hheld.2
            · rw [before_perform]
              exact h.1
        | cons performed earlier =>
            obtain ⟨rfl, hrest⟩ := List.cons.inj hsplit
            rw [List.forall_mem_cons, call_perform] at hstarts
            exact hbare (h.perform hfind hstarts.1) earlier current later hrest hstarts.2 htransfers

/-- A link is used before its first connection, and again when it has stopped with one line and a
part of another unread. -/
theorem performAll_refused_iff_of_leftover :
    let config := Config.ofSettings {} ⟨"mail", "localhost", 143⟩ none none none none none
    let behaviour : Behaviour := ⟨[], [.data [97, 10, 98, 10, 99]], [], none⟩
    let world := { World.ofServices [⟨"localhost", 143, [behaviour], none, none⟩]
      with links := [.fresh config] }
    let calls : List Call := [.readLine, .writeLine "A", .upload ⟨[1], "data"⟩, .start, .readLine,
      .stop, .writeLine "A", .readLine, .readLine]
    let performed := world.performAll "mail" calls
    (world.findLink "mail").isSome ∧ (∀ entry ∈ performed, Guarded "mail" entry) ∧
      (∀ entry ∈ performed.take 3, entry.Refused "mail") ∧
      (performed.map fun entry => entry.outcome.toOption) =
        [none, none, none, some none, some (some "a"), some none, none, some (some "b"), none] := by
  intro config behaviour world calls performed
  have hfind : (world.findLink "mail").isSome := rfl
  obtain ⟨hguarded, hbare⟩ := performAll_refused_iff hfind calls
  refine ⟨hfind, hguarded, fun entry hentry => ?_, by decide +kernel⟩
  have hworld : world.Bare "mail" := ⟨rfl, not_holdsLine_of_unused rfl (Link.unused_fresh config)⟩
  have hopening : ∀ entry ∈ performed.take 3,
      entry.call ≠ .start ∧ entry.call.transfers = true := by decide +kernel
  obtain ⟨earlier, later, hsplit⟩ := List.append_of_mem hentry
  refine hbare hworld earlier entry (later ++ performed.drop 3) ?_ ?_ (hopening entry hentry).2
  · rw [← List.cons_append, ← List.append_assoc, ← hsplit, List.take_append_drop]
  · intro other hother hstart
    have hmem : other ∈ performed.take 3 := hsplit ▸ List.mem_append_left _ hother
    exact absurd hstart (hopening other hmem).1

/-- A link has received two lines and delivered one when it is stopped. It delivers the other one
without a connection. -/
theorem readLine_delivers_without_connection :
    let config := Config.ofSettings {} ⟨"imap", "127.0.0.1", 143⟩ none none none none none
    let behaviour : Behaviour := ⟨[], [.data [97, 10, 98, 10]], [], none⟩
    let world := { World.ofServices [⟨"127.0.0.1", 143, [behaviour], none, none⟩]
      with links := [.fresh config] }
    ¬ ∀ performed ∈ world.performAll "imap" [.start, .readLine, .stop, .readLine],
      performed.before.connected "imap" = false → performed.call.transfers →
        performed.Refused "imap" := by
  intro config behaviour world h
  let read := (world.performAll "imap" [.start, .readLine, .stop, .readLine])[3]
  have hrefused : read.Refused "imap" := h read (List.getElem_mem _) (by decide +kernel) rfl
  have hdelivered : read.outcome.toOption = some (some "b") := by decide +kernel
  obtain ⟨failure, houtcome, -⟩ := hrefused.outcome
  rw [houtcome] at hdelivered
  cases hdelivered

end World

end MailScript.Network
