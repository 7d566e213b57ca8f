import MailScript.Proofs.Network.Calls
import MailScript.Proofs.Network.Patience

/-! # How long links wait

Whoever waits over a link looks again and again, and pauses behind a look that brings nothing as
long as its patience lasts. Patience counts from the start of a call, however often something
arrives in between, so a limit bounds the pauses of the whole call. -/

namespace MailScript

/-! ## Pauses -/

namespace Clock

/-- The clock behind so many pauses of one length. -/
def waits (clock : Clock) (pause : Int) (count : Nat) : Clock :=
  (fun clock => clock.wait pause)^[count] clock

@[simp] theorem waits_zero (clock : Clock) (pause : Int) : clock.waits pause 0 = clock := rfl

@[simp] theorem waits_succ (clock : Clock) (pause : Int) (count : Nat) :
    clock.waits pause (count + 1) = (clock.wait pause).waits pause count := rfl

@[simp] theorem now_waits (clock : Clock) (pause : Int) (count : Nat) :
    (clock.waits pause count).now = clock.now + count * pause := by
  induction count generalizing clock with
  | zero => simp
  | succ count ih =>
      rw [waits_succ, ih, now_wait]
      push_cast
      ring

end Clock

namespace Network

namespace Patience

/-- A wait of so many pauses, from one clock to a later one. Each pause is made only while patience
lasts. -/
inductive Waits (patience : Patience) (started : Int) : Clock → Nat → Clock → Prop where
  | done (clock : Clock) : Waits patience started clock 0 clock
  | pause {clock after : Clock} {count : Nat} (hlasts : patience.expired started clock.now = false)
      (hrest : Waits patience started (clock.wait patience.pause) count after) :
      Waits patience started clock (count + 1) after

variable {patience : Patience} {started : Int} {clock after : Clock} {count : Nat}

/-- Waits one after another are one wait, in front of all of whose pauses patience lasts. -/
theorem Waits.trans {last : Clock} {more : Nat} (h : patience.Waits started clock count after)
    (hmore : patience.Waits started after more last) :
    patience.Waits started clock (count + more) last := by
  induction h with
  | done clock => rwa [Nat.zero_add]
  | pause hlasts _ ih =>
      rw [Nat.add_right_comm]
      exact .pause hlasts (ih hmore)

theorem Waits.clock_eq (h : patience.Waits started clock count after) :
    after = clock.waits patience.pause count := by
  induction h with
  | done clock => rfl
  | pause _ _ ih => rw [ih, Clock.waits_succ]

theorem Waits.lasts (h : patience.Waits started clock count after) :
    ∀ earlier < count, patience.expired started (clock.waits patience.pause earlier).now = false := by
  induction h with
  | done clock => simp
  | pause hlasts _ ih =>
      intro earlier hearlier
      cases earlier with
      | zero => exact hlasts
      | succ earlier => exact ih earlier (by omega)

/-- Where limit and pause are exact there are no more pauses than fit into the limit and one more,
and none of them ends later than one pause behind the limit. -/
theorem Waits.le_limit {limit : Decimal} {pause : Int} (hlimit : 0 ≤ limit.millis)
    (hpause : 0 < pause) (hexact : Exact limit pause clock.now)
    (h : (ofLimit (some limit) pause).Waits clock.now clock count after) :
    count ≤ ⌊limit.millis / pause⌋₊ + 1 ∧
      ∀ moment ≤ count, ((clock.waits pause moment).now : ℚ) ≤ clock.now + limit.millis + pause := by
  have hpause' : (0 : ℚ) < pause := by exact_mod_cast hpause
  have hearlier (earlier : Nat) (hlt : earlier < count)
      (hle : earlier ≤ ⌊limit.millis / pause⌋₊ + 1) : (earlier : ℚ) * pause ≤ limit.millis := by
    have hlasts : exceeds limit clock.now (clock.waits pause earlier).now = false :=
      h.lasts earlier hlt
    rw [Clock.now_waits, hexact.exceeds_eq earlier hle, Bool.eq_false_iff, ne_eq,
      Decimal.ltMillis_iff, not_lt] at hlasts
    exact_mod_cast hlasts
  have hcount : count ≤ ⌊limit.millis / pause⌋₊ + 1 := by
    by_contra hmore
    -- The pause behind the last one that fits would have been the last one.
    have hfits := hearlier (⌊limit.millis / pause⌋₊ + 1) (by omega) le_rfl
    rw [← le_floor_iff hlimit hpause] at hfits
    omega
  refine ⟨hcount, fun moment hmoment => ?_⟩
  rw [Clock.now_waits]
  push_cast
  cases moment with
  | zero =>
      push_cast
      linarith
  | succ moment =>
      have hbefore := hearlier moment hmoment (by omega)
      push_cast
      linarith

end Patience

/-! ## Waits of a link -/

/-- A wait for data pauses behind every look but the last, and it runs out of time only when
patience has ended. -/
theorem awaitData_waits (size : Nat) (patience : Patience) (started : Int)
    (receipts : List Receipt) (clock : Clock) :
    let run := awaitData size patience started receipts clock
    (∃ count, run.attempts = count + 1 ∧ patience.Waits started clock count run.clock) ∧
      (run.arrival = .timedOut → patience.expired started run.clock.now = true) := by
  fun_induction awaitData size patience started receipts clock with
  | case1 | case2 | case3 | case4 => exact ⟨⟨0, rfl, .done _⟩, fun h => by cases h⟩
  | case5 receipt rest clock _ _ hexpired => exact ⟨⟨0, rfl, .done clock⟩, fun _ => hexpired⟩
  | case6 => exact ⟨⟨0, rfl, .done _⟩, fun h => by cases h⟩
  | case7 receipt rest clock _ _ hlasts _ later ih =>
      obtain ⟨⟨count, hattempts, hwaits⟩, htimedOut⟩ := ih
      refine ⟨⟨count + 1, ?_, .pause (Bool.eq_false_iff.mpr hlasts) hwaits⟩, htimedOut⟩
      exact congrArg (· + 1) hattempts

theorem receive_waits (size : Int) (patience : Patience) (started : Int) (receipts : List Receipt)
    (clock : Clock) :
    let run := receive size patience started receipts clock
    (∃ count, patience.Waits started clock count run.clock) ∧
      (run.arrival = .timedOut → patience.expired started run.clock.now = true) := by
  unfold receive
  split
  · exact ⟨⟨0, .done clock⟩, nofun⟩
  · obtain ⟨⟨count, -, hwaits⟩, hexpired⟩ := awaitData_waits size.toNat patience started receipts clock
    exact ⟨⟨count, hwaits⟩, hexpired⟩

/-- Connecting pauses behind every attempt but the last, and it runs out of time only when patience
has ended. -/
theorem awaitConnection_waits (patience : Patience) (started : Int) (connects : List Int)
    (clock : Clock) :
    let run := awaitConnection patience started connects clock
    (∃ count, run.attempts = count + 1 ∧ patience.Waits started clock count run.clock) ∧
      (run.ending = .timedOut → patience.expired started run.clock.now = true) := by
  fun_induction awaitConnection patience started connects clock with
  | case1 clock => exact ⟨⟨0, rfl, .done clock⟩, fun h => by cases h⟩
  | case2 => exact ⟨⟨0, rfl, .done _⟩, fun h => by cases h⟩
  | case3 => exact ⟨⟨0, rfl, .done _⟩, fun h => by cases h⟩
  | case4 result rest clock _ _ hexpired => exact ⟨⟨0, rfl, .done clock⟩, fun _ => hexpired⟩
  | case5 => exact ⟨⟨0, rfl, .done _⟩, fun h => by cases h⟩
  | case6 result rest clock _ _ hlasts _ later ih =>
      obtain ⟨⟨count, hattempts, hwaits⟩, htimedOut⟩ := ih
      refine ⟨⟨count + 1, ?_, .pause (Bool.eq_false_iff.mpr hlasts) hwaits⟩, htimedOut⟩
      exact congrArg (· + 1) hattempts

theorem Arrival.eq_timedOut {arrival : Arrival} {config : Config} {failure : Failure}
    (h : arrival.fault config = .failure failure) (hkind : failure.kind = .receiveTimeout) :
    arrival = .timedOut := by
  cases arrival with
  | timedOut => rfl
  | pauseRefused | negativeSize => cases h
  | data | closed | failed =>
      cases h
      cases hkind

/-- However often data arrives while a line is put together, the pauses make one wait, and a line
runs out of time only when patience has ended since the start. -/
theorem assembleLine_waits (config : Config) (isOpen : Bool) (started : Int) (inbox : Inbox)
    (line : List UInt8) :
    let result := assembleLine config isOpen started inbox line
    (∃ count, config.readPatience.Waits started inbox.clock count result.2.clock) ∧
      ∀ failure, result.1 = .error (.failure failure) → failure.kind = .receiveTimeout →
        config.readPatience.expired started result.2.clock.now = true := by
  fun_induction assembleLine config isOpen started inbox line with
  | case1 => exact ⟨⟨0, .done _⟩, fun _ h => by cases h⟩
  | case2 inbox line _ _ _ _ _ run bytes hdata ih =>
      obtain ⟨⟨later, hlater⟩, hexpired⟩ := ih
      obtain ⟨⟨count, hwaits⟩, -⟩ := receive_waits config.bufferSize config.readPatience started
        inbox.receipts inbox.clock
      exact ⟨⟨count + later, hwaits.trans hlater⟩, hexpired⟩
  | case3 inbox line _ _ _ _ run hdata =>
      obtain ⟨⟨count, hwaits⟩, hexpired⟩ := receive_waits config.bufferSize config.readPatience
        started inbox.receipts inbox.clock
      exact ⟨⟨count, hwaits⟩, fun failure hfailure hkind =>
        hexpired (Arrival.eq_timedOut (Except.error.inj hfailure) hkind)⟩
  | case4 =>
      refine ⟨⟨0, .done _⟩, fun failure hfailure hkind => ?_⟩
      cases hfailure
      cases hkind

namespace Station

theorem clock_deliver (station : Station) (line : String) :
    (station.deliver line).2.clock = station.clock := by
  unfold deliver
  dsimp only
  split <;> rfl

/-- Delivering a line takes no time, and it does not fail. -/
theorem readLine_waits (station : Station) :
    (∃ count, station.link.config.readPatience.Waits station.clock.now station.clock count
      station.readLine.2.clock) ∧
      ∀ failure, station.readLine.1 = .error (.failure failure) → failure.kind = .receiveTimeout →
        station.link.config.readPatience.expired station.clock.now
          station.readLine.2.clock.now = true := by
  obtain ⟨hwaits, hexpired⟩ := assembleLine_waits station.link.config station.socket.isSome
    station.clock.now (station.inbox.log [station.link.config.detail "reading_line"]) []
  unfold readLine
  split
  · rename_i line middle hraw
    have hclock := congrArg (fun result => result.2.clock) hraw
    dsimp only at hclock ⊢
    rw [clock_deliver, ← hclock]
    exact ⟨hwaits, nofun⟩
  · rename_i failure middle hraw
    have hclock := congrArg (fun result => result.2.clock) hraw
    dsimp only at hclock ⊢
    rw [← hclock]
    refine ⟨hwaits, fun other hother => hexpired other ?_⟩
    cases hother
    exact error_of_map (congrArg Prod.fst hraw)

end Station

/-! ## Waits of a call -/

/-- What a call does with its time: it waits from its start, and if it ends with a failure of a
kind, patience has ended. -/
structure Performed.Timed (performed : Performed) (patience : Patience) (kind : FailureKind) :
    Prop where
  waits : ∃ count, patience.Waits performed.before.clock.now performed.before.clock count
    performed.after.clock
  expired : ∀ failure, performed.outcome = .error (.failure failure) → failure.kind = kind →
    patience.expired performed.before.clock.now performed.after.clock.now = true

/-- A call keeps to a limit: it makes no more pauses than fit into the limit and one more, at no
moment has it lasted longer than the limit and one pause, and if it ends with a failure of a kind,
it has lasted longer than the limit. -/
structure Performed.KeepsTo (performed : Performed) (limit : Decimal) (pause : Int)
    (kind : FailureKind) : Prop where
  pauses : ∃ count : Nat, performed.after.clock = performed.before.clock.waits pause count ∧
    count ≤ ⌊limit.millis / pause⌋₊ + 1 ∧
    ∀ moment ≤ count, ((performed.before.clock.waits pause moment).now : ℚ) ≤
      performed.before.clock.now + limit.millis + pause
  late : ∀ failure, performed.outcome = .error (.failure failure) → failure.kind = kind →
    performed.before.clock.now + limit.millis < performed.after.clock.now

theorem Performed.Timed.keepsTo {performed : Performed} {limit : Decimal} {pause : Int}
    {kind : FailureKind} (h : performed.Timed (.ofLimit (some limit) pause) kind)
    (hlimit : 0 ≤ limit.millis) (hpause : 0 < pause)
    (hexact : Patience.Exact limit pause performed.before.clock.now) :
    performed.KeepsTo limit pause kind := by
  obtain ⟨count, hwaits⟩ := h.waits
  obtain ⟨hcount, hmoments⟩ := hwaits.le_limit hlimit hpause hexact
  refine ⟨⟨count, hwaits.clock_eq, hcount, hmoments⟩, fun failure hfailure hkind => ?_⟩
  have hexpired : Patience.exceeds limit performed.before.clock.now performed.after.clock.now =
      true := h.expired failure hfailure hkind
  rw [hwaits.clock_eq] at hexpired ⊢
  change Patience.exceeds _ _ (performed.before.clock.waits pause count).now = true at hexpired
  rw [Clock.now_waits, hexact.exceeds_eq count hcount, Decimal.ltMillis_iff] at hexpired
  change _ < ((performed.before.clock.waits pause count).now : ℚ)
  rw [Clock.now_waits]
  push_cast at hexpired ⊢
  linarith

namespace World

variable {world : World} {label : String} {place : Nat} {link : Link}

theorem readLine_timed (hfind : world.findLink label = some (place, link)) :
    (world.perform label .readLine).Timed link.config.readPatience .receiveTimeout := by
  obtain ⟨hwaits, hexpired⟩ := (world.station link).readLine_waits
  have hread : world.readLine label = _ := work_of_findLink hfind Station.readLine
  have hafter : (world.perform label .readLine).after.clock =
      (world.station link).readLine.2.clock := by
    change (world.readLine label).2.clock = _
    rw [hread]
    rfl
  refine ⟨hafter ▸ hwaits, fun failure hfailure hkind => ?_⟩
  rw [hafter]
  have houtcome : (world.readLine label).1 = .error (.failure failure) := error_of_map hfailure
  rw [hread] at houtcome
  exact hexpired failure houtcome hkind

/-- Connecting waits for the connection and for nothing else. -/
theorem clock_connect (world : World) (place : Nat) (link : Link) (socket : Socket) :
    (world.connect place link socket).2.clock =
      (awaitConnection link.config.connectPatience world.clock.now socket.behaviour.connects
        world.clock).clock := by
  unfold connect
  dsimp only
  split <;> rfl

theorem connect_waits (world : World) (place : Nat) (link : Link) (socket : Socket) :
    let result := world.connect place link socket
    (∃ count, link.config.connectPatience.Waits world.clock.now world.clock count result.2.clock) ∧
      ∀ failure, result.1 = .error (.failure failure) → failure.kind = .connectTimeout →
        link.config.connectPatience.expired world.clock.now result.2.clock.now = true := by
  obtain ⟨⟨count, -, hwaits⟩, hexpired⟩ := awaitConnection_waits link.config.connectPatience
    world.clock.now socket.behaviour.connects world.clock
  dsimp only
  rw [clock_connect]
  refine ⟨⟨count, hwaits⟩, fun failure hfailure hkind => ?_⟩
  unfold connect at hfailure
  dsimp only at hfailure
  split at hfailure
  · cases hfailure
  · rcases fault_of_abandon hfailure with hfault | ⟨error, hfault, -⟩
    · cases hfault
      cases hkind
    · cases hfault
  · rename_i hending
    exact hexpired hending
  · cases hfailure

/-- A network in which a link is about to be connected: the link is as good as new, and nothing else
has moved but what the services have on offer. -/
structure Opening (world : World) (place : Nat) (link : Link) (opening : World) : Prop where
  links : opening.links = world.links.set place link.renewed
  sockets : opening.sockets = world.sockets
  clock : opening.clock = world.clock

/-- Starting opens a connection and then connects. -/
theorem exists_opening (hfind : world.findLink label = some (place, link)) :
    let endpoint := link.config.endpoint
    ∃ opening, world.Opening place link opening ∧
      (∀ error, (world.openConnection endpoint.host endpoint.port).1 = .error error →
        world.start label = (.error (error.fault endpoint), opening)) ∧
      ∀ behaviour, (world.openConnection endpoint.host endpoint.port).1 = .ok behaviour →
        world.start label =
          opening.connect place link.renewed (.fresh endpoint.address behaviour) := by
  intro endpoint
  let config := link.renewed.config
  let asked := (world.setLink place link.renewed).log
    (config.note "session_connecting"
      [("host", .text config.endpoint.host), ("port", .int config.endpoint.port)])
  have hsame : (asked.openConnection config.endpoint.host config.endpoint.port).1 =
      (world.openConnection endpoint.host endpoint.port).1 :=
    openConnection_congr (by rfl) (by rfl) _ _
  rcases hopening : asked.openConnection config.endpoint.host config.endpoint.port with
    ⟨outcome, opening⟩
  obtain ⟨services, outages, rfl⟩ := eq_of_openConnection hopening
  rw [hopening] at hsame
  unfold start
  rw [hfind]
  dsimp only
  rw [hopening]
  refine ⟨{ asked with services := services, outages := outages }, ⟨rfl, rfl, rfl⟩,
    fun error herror => ?_, fun behaviour hbehaviour => ?_⟩
  · obtain rfl : outcome = .error error := hsame.trans herror
    rfl
  · obtain rfl : outcome = .ok behaviour := hsame.trans hbehaviour
    rfl

theorem start_timed (hfind : world.findLink label = some (place, link)) :
    (world.perform label .start).Timed link.config.connectPatience .connectTimeout := by
  have hwaits : (∃ count, link.config.connectPatience.Waits world.clock.now world.clock count
        (world.start label).2.clock) ∧
      ∀ failure, (world.start label).1 = .error (.failure failure) →
        failure.kind = .connectTimeout → link.config.connectPatience.expired world.clock.now
          (world.start label).2.clock.now = true := by
    obtain ⟨opening, hopening, hfailed, hopened⟩ := exists_opening hfind
    cases hresult : (world.openConnection link.config.endpoint.host link.config.endpoint.port).1 with
    | error error =>
        rw [hfailed error hresult, hopening.clock]
        refine ⟨⟨0, .done _⟩, fun failure hfailure hkind => ?_⟩
        cases error with
        | system =>
            cases hfailure
            cases hkind
        | rejected => cases hfailure
    | ok behaviour =>
        rw [hopened behaviour hresult, ← hopening.clock]
        exact connect_waits opening place link.renewed _
  exact ⟨hwaits.1, fun failure hfailure => hwaits.2 failure (error_of_map hfailure)⟩

/-- A limit bounds the wait of a call from its start, whatever the network does meanwhile. Reading a
line keeps to the limit for reading, in however many pieces data trickles in, and starting keeps to
the limit for connecting. Both limits and both pauses are those of the settings, unless the link has
been given limits of its own, and they are taken in seconds, where these are exact. -/
theorem perform_keepsTo_limit {settings : Settings} {endpoint : Endpoint} {quiet : Option Bool}
    {shebang : Option String} {readTimeout connectTimeout : Option Decimal} {bufferSize : Option Int}
    (hfind : world.findLink label = some (place, link))
    (hconfig : link.config = .ofSettings settings endpoint quiet shebang readTimeout connectTimeout
      bufferSize) {limit : Decimal} (hlimit : 0 ≤ limit.millis) :
    (readTimeout.or settings.readTimeout = some limit → 0 < settings.readPollMillis →
      Patience.Exact limit settings.readPollMillis world.clock.now →
      (world.perform label .readLine).KeepsTo limit settings.readPollMillis .receiveTimeout) ∧
    (connectTimeout.or settings.connectTimeout = some limit → 0 < settings.connectPollMillis →
      Patience.Exact limit settings.connectPollMillis world.clock.now →
      (world.perform label .start).KeepsTo limit settings.connectPollMillis .connectTimeout) := by
  constructor
  · intro htimeout hpause hexact
    have hpatience : link.config.readPatience = .ofLimit (some limit) settings.readPollMillis := by
      rw [hconfig, ← htimeout]
      exact congrArg (Patience.ofLimit _) hexact.pauseOf_eq
    exact (hpatience ▸ readLine_timed hfind).keepsTo hlimit hpause hexact
  · intro htimeout hpause hexact
    have hpatience : link.config.connectPatience =
        .ofLimit (some limit) settings.connectPollMillis := by
      rw [hconfig, ← htimeout]
      exact congrArg (Patience.ofLimit _) hexact.pauseOf_eq
    exact (hpatience ▸ start_timed hfind).keepsTo hlimit hpause hexact

/-- Data trickles in between attempts that bring nothing. The limit of 25 milliseconds counts from
the start of the call, so the third pause is the last one and the fourth empty attempt is too
late. -/
theorem perform_keepsTo_limit_of_trickle :
    let settings : Settings := { readTimeout := some ⟨25, 3⟩, readPollMillis := 10
                                 connectTimeout := some ⟨25, 3⟩, connectPollMillis := 10 }
    let config := Config.ofSettings settings ⟨"mail", "localhost", 143⟩ none none none none none
    let receipts : List Receipt := [.data [72], .retry, .data [105], .retry, .data [33], .retry,
      .data [46], .retry, .data [10]]
    let world := { World.ofServices
        [⟨"localhost", 143, [⟨[115, 114, 115, 115, 0], receipts, [], none⟩,
          ⟨[], receipts, [], none⟩], none, none⟩]
      with links := [.fresh config], clock := .system }
    let start := world.perform "mail" .start
    let read := (start.after.perform "mail" .start).after.perform "mail" .readLine
    0 ≤ Decimal.millis ⟨25, 3⟩ ∧ Patience.Exact ⟨25, 3⟩ 10 start.before.clock.now ∧
      Patience.Exact ⟨25, 3⟩ 10 read.before.clock.now ∧
      start.KeepsTo ⟨25, 3⟩ 10 .connectTimeout ∧ read.KeepsTo ⟨25, 3⟩ 10 .receiveTimeout ∧
      (faultOf? start.outcome).map Fault.typeName = some "ConnectionTimeoutError" ∧
      (faultOf? read.outcome).map Fault.typeName = some "ReceiveTimeoutError" ∧
      read.after.clock = read.before.clock.waits 10 3 := by
  intro settings config receipts world start read
  have hmillis : Decimal.millis ⟨25, 3⟩ = (25 : Int) := by
    norm_num [Decimal.millis, Decimal.denominator]
  have hlimit : 0 ≤ Decimal.millis ⟨25, 3⟩ := by norm_num [hmillis]
  have hexact (started : Int) (hstarted : Binary64.Common started)
      (hlast : Binary64.Common (started + 25 + 10)) : Patience.Exact ⟨25, 3⟩ 10 started :=
    Patience.exact_of_bounds hmillis (by decide) (by decide) (by decide) (by decide) hstarted hlast
      fun h => absurd h (by decide)
  have hstart : Patience.Exact ⟨25, 3⟩ 10 start.before.clock.now := hexact 0 (by decide) (by decide)
  have hread : Patience.Exact ⟨25, 3⟩ 10 read.before.clock.now := by
    have hnow : read.before.clock.now = 30 := by decide +kernel
    rw [hnow]
    exact hexact 30 (by decide) (by decide)
  have hconfig : (Link.fresh config).config =
      .ofSettings settings ⟨"mail", "localhost", 143⟩ none none none none none := rfl
  have hfind : world.findLink "mail" = some (0, .fresh config) := rfl
  obtain ⟨failed, hfailed, hfailedConfig⟩ := findLink_perform hfind .start
  obtain ⟨connected, hconnected, hconnectedConfig⟩ := findLink_perform hfailed .start
  exact ⟨hlimit, hstart, hread,
    (perform_keepsTo_limit hfind hconfig hlimit).2 rfl (by decide) hstart,
    (perform_keepsTo_limit hconnected (hconnectedConfig.trans (hfailedConfig.trans hconfig))
      hlimit).1 rfl (by decide) hread,
    by decide +kernel, by decide +kernel, by decide +kernel⟩

end World

end Network

end MailScript
