import MailScript.Proofs.Network.Origin
import MailScript.Proofs.Network.Waiting

/-! # How connecting is decided

A link that is started tries to connect until a result is decisive, with a pause behind every result
that is not. The first decisive result tells how starting ends. Whatever an earlier connection has
left, behind a start there is nothing of it. -/

namespace MailScript.Network

/-! ## Results -/

/-- The connection is still being made: it is in progress (115) or on its way already (114), or the
attempt would have blocked (11) or was interrupted (4). -/
def Undecided (result : Int) : Prop := result = 115 ∨ result = 114 ∨ result = 11 ∨ result = 4

/-- The connection has been made (0), or had been made before (106). -/
def Established (result : Int) : Prop := result = 0 ∨ result = 106

theorem isPending_iff {result : Int} : isPending result = true ↔ Undecided result := by
  simp [isPending, Undecided]

theorem isConnected_iff {result : Int} : isConnected result = true ↔ Established result := by
  simp [isConnected, Established]

theorem Undecided.not_established {result : Int} (h : Undecided result) : ¬ Established result := by
  unfold Undecided at h
  unfold Established
  omega

/-- Without a limit the first decisive result ends the attempts to connect, unless the clock refuses
the pauses in front of it. Behind the end of the schedule the connection is made. -/
theorem awaitConnection_decides {patience : Patience} (hendless : patience.Endless) (started : Int)
    {pending rest : List Int} {result : Int} (hpending : ∀ earlier ∈ pending, Undecided earlier)
    (hresult : ¬ Undecided result) {connects : List Int}
    (hsplit : connects ++ [0] = pending ++ result :: rest) {clock : Clock}
    (htakes : pending ≠ [] → clock.Takes patience.pause) :
    let run := awaitConnection patience started connects clock
    run.attempts = pending.length + 1 ∧
      (Established result → run.ending = .connected) ∧
      (¬ Established result → run.ending = .refused result) := by
  induction pending generalizing connects clock with
  | nil =>
      cases connects with
      | nil =>
          obtain ⟨rfl, -⟩ := List.cons.inj hsplit
          exact ⟨rfl, fun _ => rfl, fun hnot => absurd (.inl rfl) hnot⟩
      | cons first later =>
          obtain ⟨rfl, -⟩ := List.cons.inj hsplit
          rw [← isPending_iff] at hresult
          by_cases hconnected : isConnected first
          · simp [awaitConnection, hconnected, isConnected_iff.mp hconnected]
          · simp [awaitConnection, hconnected, hresult, isConnected_iff.not.mp hconnected]
  | cons earlier pending ih =>
      rw [List.forall_mem_cons] at hpending
      cases connects with
      | nil => simp at hsplit
      | cons first later =>
          obtain ⟨rfl, hlater⟩ := List.cons.inj hsplit
          have htaken : clock.refusal? patience.pause = none := htakes (List.cons_ne_nil _ _)
          obtain ⟨hattempts, hending⟩ := ih hpending.2 hlater
            (fun _ => (Clock.refusal?_wait clock _ _).trans htaken)
          have hpause : isPending first = true := isPending_iff.mpr hpending.1
          have hopen : ¬ isConnected first = true :=
            isConnected_iff.not.mpr hpending.1.not_established
          have hlasts := hendless started clock.now
          simp only [awaitConnection, hopen, hpause, hlasts, htaken, Bool.not_true,
            Bool.false_eq_true, if_false, List.length_cons]
          exact ⟨congrArg (· + 1) hattempts, hending⟩

/-! ## Starting -/

/-- A link holds of its connection what a fresh one holds: nothing is unread, and the first line is
still to come. -/
structure Link.Unused (link : Link) : Prop where
  unread : link.unread = []
  atFirstLine : link.atFirstLine = true
  actualFirstLine : link.actualFirstLine = none

theorem Link.unused_fresh (config : Config) : (Link.fresh config).Unused := ⟨rfl, rfl, rfl⟩

theorem Link.unused_renewed (link : Link) : link.renewed.Unused := ⟨rfl, rfl, rfl⟩

theorem Link.Unused.of_socket {link : Link} (h : link.Unused) (socket : Option Nat) :
    Link.Unused { link with socket := socket } := ⟨h.unread, h.atFirstLine, h.actualFirstLine⟩

namespace World

variable {world : World} {label : String} {place : Nat} {link : Link}

theorem connect_of_connected (world : World) (place : Nat) (link : Link) (socket : Socket)
    {attempts : Nat}
    (hattempts : (awaitConnection link.config.connectPatience world.clock.now
      socket.behaviour.connects world.clock).attempts = attempts)
    (hending : (awaitConnection link.config.connectPatience world.clock.now
      socket.behaviour.connects world.clock).ending = .connected) :
    ∃ opened, (world.connect place link socket).1 = .ok () ∧
      (world.connect place link socket).2.links =
        world.links.set place { link with socket := some world.sockets.length } ∧
      (world.connect place link socket).2.sockets = world.sockets ++ [opened] ∧
      opened.calls = socket.calls ++ List.replicate attempts .connect := by
  unfold connect
  dsimp only
  rw [hending, hattempts]
  exact ⟨_, rfl, rfl, rfl, rfl⟩

theorem abandon_of_closeError_none (world : World) {socket : Socket}
    (hclose : socket.behaviour.closeError = none) (failure : Failure) :
    (world.abandon socket failure).1 = .error (.failure failure) := by
  unfold abandon Socket.close
  rw [hclose]

theorem connect_of_refused (world : World) (place : Nat) (link : Link) (socket : Socket)
    {attempts : Nat} {number : Int}
    (hattempts : (awaitConnection link.config.connectPatience world.clock.now
      socket.behaviour.connects world.clock).attempts = attempts)
    (hending : (awaitConnection link.config.connectPatience world.clock.now
      socket.behaviour.connects world.clock).ending = .refused number) :
    ∃ closed, (world.connect place link socket).2.links = world.links ∧
      (world.connect place link socket).2.sockets = world.sockets ++ [closed] ∧
      closed.calls = socket.calls ++ List.replicate attempts .connect ++ [.close] ∧
      (socket.behaviour.closeError = none → (world.connect place link socket).1 =
        .error (.failure (.connectRefused link.config.endpoint number))) := by
  unfold connect
  dsimp only
  rw [hending, hattempts]
  dsimp only
  refine ⟨_, rfl, rfl, rfl, fun hclose => ?_⟩
  apply abandon_of_closeError_none
  exact hclose

/-- What a start comes to when a result has decided it behind some pauses, with its socket and the
link. -/
structure Decided (world : World) (place : Nat) (link : Link) (behaviour : Behaviour) (pauses : Nat)
    (result : Int) (ending : Outcome World) (socket : Socket) (link' : Link) : Prop where
  links : ending.2.links = world.links.set place link'
  sockets : ending.2.sockets = world.sockets ++ [socket]
  clock : ending.2.clock = world.clock.waits link.config.connectPatience.pause pauses
  config : link'.config = link.config
  unused : link'.Unused
  attempts : socket.calls.count .connect = pauses + 1
  made : Established result →
    ending.1 = .ok () ∧ link'.socket = some world.sockets.length ∧ socket.closes = 0
  refused : ¬ Established result → link'.socket = none ∧ socket.closes = 1 ∧
    (behaviour.closeError = none → ∃ failure, ending.1 = .error (.failure failure) ∧
      failure.kind = .connect ∧ ("errno", .int result) ∈ failure.details)

theorem Opening.decided {opening : World} (hopening : world.Opening place link opening)
    (hidle : link.socket = none) (hendless : link.config.connectPatience.Endless)
    (address : String) {behaviour : Behaviour} {pending rest : List Int} {result : Int}
    (hpending : ∀ earlier ∈ pending, Undecided earlier) (hresult : ¬ Undecided result)
    (hsplit : behaviour.connects ++ [0] = pending ++ result :: rest)
    (htakes : pending ≠ [] → world.clock.Takes link.config.connectPatience.pause) :
    ∃ socket link', world.Decided place link behaviour pending.length result
      (opening.connect place link.renewed (.fresh address behaviour)) socket link' := by
  obtain ⟨hattempts, hconnected, hrefused⟩ := awaitConnection_decides hendless opening.clock.now
    hpending hresult hsplit (hopening.clock ▸ htakes)
  have hclock : (opening.connect place link.renewed (.fresh address behaviour)).2.clock =
      world.clock.waits link.config.connectPatience.pause pending.length := by
    obtain ⟨⟨count, hcount, hwaits⟩, -⟩ := awaitConnection_waits link.config.connectPatience
      opening.clock.now behaviour.connects opening.clock
    obtain rfl : count = pending.length := Nat.succ.inj (hcount.symm.trans hattempts)
    rw [clock_connect, ← hopening.clock]
    exact hwaits.clock_eq
  have hconnects : (List.replicate (pending.length + 1) SocketCall.connect).count .connect =
      pending.length + 1 := List.count_replicate_self
  have hcloses : (List.replicate (pending.length + 1) SocketCall.connect).count .close = 0 := by
    rw [List.count_replicate, if_neg (by decide)]
  by_cases hestablished : Established result
  · obtain ⟨opened, hmade, hlinks, hsockets, hcalls⟩ :=
      connect_of_connected opening place link.renewed (.fresh address behaviour) hattempts
        (hconnected hestablished)
    rw [hopening.links, List.set_set, hopening.sockets] at hlinks
    rw [hopening.sockets] at hsockets
    refine ⟨opened, _, hlinks, hsockets, hclock, rfl, link.unused_renewed.of_socket _, ?_, fun _ => ?_,
      fun hnot => absurd hestablished hnot⟩
    · rw [hcalls]
      exact hconnects
    · refine ⟨hmade, rfl, ?_⟩
      rw [Socket.closes, hcalls]
      exact hcloses
  · obtain ⟨closed, hlinks, hsockets, hcalls, hfailed⟩ :=
      connect_of_refused opening place link.renewed (.fresh address behaviour) hattempts
        (hrefused hestablished)
    rw [hopening.links] at hlinks
    rw [hopening.sockets] at hsockets
    refine ⟨closed, _, hlinks, hsockets, hclock, rfl, link.unused_renewed, ?_,
      fun hmade => absurd hmade hestablished, fun _ => ⟨hidle, ?_, fun hclose => ?_⟩⟩
    · rw [hcalls, List.count_append]
      exact congrArg (· + 0) hconnects
    · rw [Socket.closes, hcalls, List.count_append]
      exact congrArg (· + 1) hcloses
    · exact ⟨_, hfailed hclose, rfl, List.mem_cons_of_mem _ List.mem_cons_self⟩

/-- However a start ends, nothing is left of an earlier connection. -/
theorem unused_start (hfind : world.findLink label = some (place, link)) :
    ∃ link', (world.start label).2.findLink label = some (place, link') ∧ link'.Unused := by
  obtain ⟨opening, hopening, hfailed, hopened⟩ := exists_opening hfind
  cases hresult : (world.openConnection link.config.endpoint.host link.config.endpoint.port).1 with
  | error error =>
      rw [hfailed error hresult]
      exact ⟨_, findLink_of_set hfind (by rfl) hopening.links, link.unused_renewed⟩
  | ok behaviour =>
      rw [hopened behaviour hresult]
      rcases connect_end opening place link.renewed (Socket.open_fresh _ behaviour) with
        ⟨hlinks, -⟩ | ⟨hlinks, -⟩
      · rw [hopening.links] at hlinks
        exact ⟨_, findLink_of_set hfind (by rfl) hlinks, link.unused_renewed⟩
      · rw [hopening.links, List.set_set] at hlinks
        exact ⟨_, findLink_of_set hfind (by rfl) hlinks, link.unused_renewed.of_socket _⟩

/-- The first decisive result decides a start. It is asked for after a pause behind every result
before it, which the clock has to take. If it says that the connection stands, the link holds the
new socket, which is open. Otherwise the start fails with it, the socket is closed once, and the
link holds none. In both cases nothing is left of an earlier connection, and whatever is called
later, all lines stand in what has been received since the start. -/
theorem start_decides (hfind : world.findLink label = some (place, link))
    (hidle : link.socket = none) (hendless : link.config.connectPatience.Endless)
    {behaviour : Behaviour}
    (hopen : (world.openConnection link.config.endpoint.host link.config.endpoint.port).1 =
      .ok behaviour)
    {pending rest : List Int} {result : Int} (hpending : ∀ earlier ∈ pending, Undecided earlier)
    (hresult : ¬ Undecided result) (hsplit : behaviour.connects ++ [0] = pending ++ result :: rest)
    (htakes : pending ≠ [] → world.clock.Takes link.config.connectPatience.pause) :
    let outcome := (world.start label).1
    let after := (world.start label).2
    ∃ socket link', after.sockets = world.sockets ++ [socket] ∧
      after.findLink label = some (place, link') ∧
      socket.calls.count .connect = pending.length + 1 ∧
      after.clock = world.clock.waits link.config.connectPatience.pause pending.length ∧
      (Established result →
        outcome = .ok () ∧ link'.socket = some world.sockets.length ∧ socket.closes = 0) ∧
      (¬ Established result → link'.socket = none ∧ socket.closes = 1 ∧
        (behaviour.closeError = none → ∃ failure, outcome = .error (.failure failure) ∧
          failure.kind = .connect ∧ ("errno", .int result) ∈ failure.details)) ∧
      link'.Unused ∧
      ∀ calls, DrawsOn label link.config.shebang [] (after.performAll label calls) := by
  intro outcome after
  obtain ⟨opening, hopening, -, hopened⟩ := exists_opening hfind
  obtain ⟨socket, link', hdecided⟩ := hopening.decided hidle hendless link.config.endpoint.address
    hpending hresult hsplit htakes
  rw [← hopened behaviour hopen] at hdecided
  have hfound : after.findLink label = some (place, link') :=
    findLink_of_set hfind hdecided.config hdecided.links
  refine ⟨socket, link', hdecided.sockets, hfound, hdecided.attempts, hdecided.clock,
    hdecided.made, hdecided.refused, hdecided.unused, fun calls => ?_⟩
  -- Nothing is unread behind the start, so that nothing older can be delivered.
  have hunread : link'.unread <:+ [] := List.suffix_nil.mpr hdecided.unused.unread
  rw [← hdecided.config]
  exact drawsOn_performAll hfound hunread calls

/-- A link that has stopped with a line unread is refused at the third attempt. The line is gone: no
later call delivers it. -/
theorem start_decides_of_refusal :
    let config := Config.ofSettings {} ⟨"mail", "localhost", 143⟩ none none none none none
    let link := { Link.fresh config with
      unread := [79, 75, 10], atFirstLine := false, actualFirstLine := some "Hi", linesRead := 1 }
    let behaviour : Behaviour := ⟨[115, 4, 111], [], [], none⟩
    let world := { World.ofServices [⟨"localhost", 143, [behaviour], none, none⟩]
      with links := [link], clock := .system }
    let after := (world.start "mail").2
    world.findLink "mail" = some (0, link) ∧ link.socket = none ∧ config.connectPatience.Endless ∧
      (world.openConnection "localhost" 143).1 = .ok behaviour ∧
      (∀ earlier ∈ [115, 4], Undecided earlier) ∧ ¬ Undecided 111 ∧
      world.clock.Takes config.connectPatience.pause ∧
      (∃ failure, (world.start "mail").1 = .error (.failure failure) ∧ failure.kind = .connect ∧
        ("errno", .int 111) ∈ failure.details) ∧
      after.clock = world.clock.waits 2 2 ∧
      ∀ calls, DrawsOn "mail" none [] (after.performAll "mail" calls) := by
  intro config link behaviour world after
  have hfind : world.findLink "mail" = some (0, link) := rfl
  have hendless : config.connectPatience.Endless := Patience.endless_ofLimit _
  have hopen : (world.openConnection "localhost" 143).1 = .ok behaviour := rfl
  have hpending : ∀ earlier ∈ [(115 : Int), 4], Undecided earlier := by simp [Undecided]
  have hresult : ¬ Undecided 111 := by simp [Undecided]
  have htakes : world.clock.Takes config.connectPatience.pause := by decide +kernel +zetaReduce
  obtain ⟨socket, link', -, -, -, hclock, -, hrefused, -, hdraws⟩ :=
    start_decides hfind rfl hendless hopen hpending hresult rfl fun _ => htakes
  have hfailure := (hrefused (by simp [Established])).2.2 rfl
  exact ⟨hfind, rfl, hendless, hopen, hpending, hresult, htakes, hfailure, hclock, hdraws⟩

end World

end MailScript.Network
