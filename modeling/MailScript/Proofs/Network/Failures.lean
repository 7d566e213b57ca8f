import MailScript.Proofs.Network.Ownership
import MailScript.Proofs.Network.Stream
import MailScript.Proofs.Sessions

/-! # What links fail with

Working over a link fails because of its connection, and so does starting it. Other faults escape:
an error of closing a socket that could not be connected, an address that cannot be put to the
system, a pause that the clock refuses, and a negative number of bytes to be received. Each of them
goes back to the settings of the link or to what the network has on offer from the first. -/

namespace MailScript

/-- A failure of a connection: there is none, it cannot be made, or it breaks down. -/
def Failure.OfTransport : Failure → Prop
  | .notConnected _ | .openFailed .. | .connectRefused .. | .connectTimedOut .. | .sendFailed ..
  | .receiveFailed .. | .peerClosed _ | .receiveTimedOut .. => True
  | _ => False

theorem Failure.OfTransport.kind {failure : Failure} (h : failure.OfTransport) :
    failure.kind.isA .transport := by
  cases failure
  case notConnected | openFailed | connectRefused | connectTimedOut => rfl
  case sendFailed | receiveFailed | peerClosed | receiveTimedOut => rfl
  all_goals exact absurd h id

/-- A fault that is a failure of a connection. -/
def Fault.OfTransport (fault : Fault) : Prop :=
  ∃ failure, fault = .failure failure ∧ failure.OfTransport

namespace Network

/-! ## Work over a link -/

/-- The faults of work over a link: failures of its connection, pauses that the clock refuses, and,
where the work receives, a negative number of bytes. -/
inductive WorkFault (config : Config) (clock : Clock) (receives : Prop) : Fault → Prop where
  | transport {failure : Failure} (h : failure.OfTransport) :
      WorkFault config clock receives (.failure failure)
  | pauseRefused {error : WaitError}
      (h : clock.refusal? config.readPatience.pause = some error) :
      WorkFault config clock receives (.pauseRefused error)
  | negativeSize (hreceives : receives) (h : config.bufferSize < 0) :
      WorkFault config clock receives .negativeSize

section Faults

variable {config : Config} {clock other : Clock} {receives : Prop} {fault : Fault}

theorem WorkFault.congr (h : WorkFault config other receives fault)
    (hlimited : other.limited = clock.limited) : WorkFault config clock receives fault := by
  cases h with
  | transport h => exact .transport h
  | pauseRefused h => exact .pauseRefused ((Clock.refusal?_congr hlimited _).symm.trans h)
  | negativeSize hreceives h => exact .negativeSize hreceives h

/-- A wait ends with a pause that the clock refuses only if it refuses that pause. -/
theorem refusal?_of_awaitData {size : Nat} {patience : Patience} {started : Int}
    {receipts : List Receipt} {error : WaitError}
    (h : (awaitData size patience started receipts clock).arrival = .pauseRefused error) :
    clock.refusal? patience.pause = some error := by
  fun_induction awaitData size patience started receipts clock with
  | case6 receipt rest clock _ _ _ error' hrefused =>
      cases h
      exact hrefused
  | case7 receipt rest clock _ _ _ _ later ih => exact ih h
  | _ => cases h

theorem arrival_awaitData_ne (size : Nat) (patience : Patience) (started : Int)
    (receipts : List Receipt) (clock : Clock) :
    (awaitData size patience started receipts clock).arrival ≠ .negativeSize := by
  intro h
  fun_induction awaitData size patience started receipts clock with
  | case7 receipt rest clock _ _ _ _ later ih => exact ih h
  | _ => cases h

/-- Where no data arrives, this is a fault of work over the link. -/
theorem workFault_of_receive {started : Int} {receipts : List Receipt}
    (h : ∀ bytes, (receive config.bufferSize config.readPatience started receipts clock).arrival ≠
      .data bytes) :
    WorkFault config clock True
      ((receive config.bufferSize config.readPatience started receipts clock).arrival.fault
        config) := by
  unfold receive at h ⊢
  split
  · exact .negativeSize trivial ‹_›
  · rw [if_neg ‹_›] at h
    cases harrival : (awaitData config.bufferSize.toNat config.readPatience started receipts
      clock).arrival with
    | data bytes => exact absurd harrival (h bytes)
    | pauseRefused error => exact .pauseRefused (refusal?_of_awaitData harrival)
    | negativeSize => exact absurd harrival (arrival_awaitData_ne _ _ _ _ _)
    | closed | failed | timedOut => exact .transport trivial

/-- A line that is not put together ends with a fault of work over the link. -/
theorem workFault_of_assembleLine {isOpen : Bool} {started : Int} {inbox : Inbox}
    {line : List UInt8} (h : (assembleLine config isOpen started inbox line).1 = .error fault) :
    WorkFault config inbox.clock True fault := by
  fun_induction assembleLine config isOpen started inbox line with
  | case1 => cases h
  | case2 inbox line hcut line' emptied hopen asking run bytes hdata ih =>
      exact (ih h).congr (limited_receive ..)
  | case3 =>
      rename_i hdata
      cases h
      exact workFault_of_receive hdata
  | case4 =>
      cases h
      exact .transport trivial

end Faults

namespace Station

/-- A job that fails only with the faults of work over a link. -/
def FailsByWork {α : Type} (receives : Prop) (job : Station → Except Fault α × Station) : Prop :=
  ∀ station fault, (job station).1 = .error fault →
    WorkFault station.link.config station.clock receives fault

theorem failsByWork_readLine : FailsByWork True readLine := by
  intro station fault h
  unfold readLine at h
  split at h
  · cases h
  · rename_i other after hraw
    cases h
    have houtcome : station.readRawLine.1 = .error fault := congrArg Prod.fst hraw
    exact workFault_of_assembleLine (error_of_map houtcome)

theorem failsByWork_send (data : List UInt8) : FailsByWork False (send data) := by
  intro station fault h
  unfold send at h
  split at h
  · cases h
    exact .transport trivial
  · dsimp only at h
    split at h
    · cases h
    · rename_i error herror
      cases h
      cases error with
      | failed error => exact .transport trivial
      | pauseRefused error => exact .pauseRefused (refusal?_of_sendAll herror)

theorem failsByWork_sendEnded (data : List UInt8) : FailsByWork False (sendEnded data) := by
  intro station fault h
  unfold sendEnded at h
  split at h
  · rename_i middle hsend
    have hkept := kept_send data station
    have hending := failsByWork_send lineEnding middle fault h
    rw [hsend] at hkept
    rw [hkept.config] at hending
    exact hending.congr hkept.limited
  · rename_i hsend
    cases h
    exact failsByWork_send data station fault (congrArg Prod.fst hsend)

theorem failsByWork_writeLine (line : String) : FailsByWork False (writeLine line) := by
  intro station fault h
  unfold writeLine at h
  dsimp only at h
  split at h
  · cases h
  · rename_i hsend
    cases h
    exact failsByWork_sendEnded (Text.encodeAscii line) (station.log _) fault
      (congrArg Prod.fst hsend)

theorem failsByWork_upload (attachment : Attachment) :
    FailsByWork False (upload attachment) :=
  fun station => failsByWork_sendEnded attachment.data (station.log _)

end Station

/-! ## What a network has on offer -/

/-- A connection may be given up in some network: it is refused, or patience ends before it is
made. -/
def Behaviour.GivenUp (limited : Bool) (patience : Patience) (behaviour : Behaviour) : Prop :=
  ∃ clock : Clock, clock.limited = limited ∧
    let ending := (awaitConnection patience clock.now behaviour.connects clock).ending
    ending = .timedOut ∨ ∃ number, ending = .refused number

/-- All connections that services have on offer. -/
def offered (services : List Service) : List Behaviour :=
  services.flatMap Service.connections

namespace World

variable {origin world after : World} {label : String} {config : Config} {fault : Fault}

/-- The errors of resolving the hosts of services, and the outages to come. -/
def openErrors (world : World) : List OpenError :=
  world.services.filterMap Service.resolveError ++ world.outages.filterMap id

/-- The faults that escape from a link with certain settings in a network. None of them is a
failure. -/
inductive Escapes (world : World) (config : Config) : Fault → Prop where
  | unclosed {behaviour : Behaviour} {error : SystemError}
      (hoffered : behaviour ∈ offered world.services)
      (hclose : behaviour.closeError = some error)
      (hgivenUp : behaviour.GivenUp world.clock.limited config.connectPatience) :
      Escapes world config (.system error)
  | rejected {category text : String} (h : .rejected category text ∈ world.openErrors) :
      Escapes world config (.addressRejected category text)
  | connectPause {error : WaitError}
      (h : world.clock.refusal? config.connectPatience.pause = some error) :
      Escapes world config (.pauseRefused error)
  | readPause {error : WaitError}
      (h : world.clock.refusal? config.readPatience.pause = some error) :
      Escapes world config (.pauseRefused error)
  | negativeSize (h : config.bufferSize < 0) : Escapes world config .negativeSize

theorem Escapes.foreign (h : world.Escapes config fault) : fault.Foreign := by
  cases h <;> exact nofun

/-- A network at a later time has nothing on offer that it did not have, and its clock refuses what
it refused. -/
structure Later (origin world : World) : Prop where
  offered : offered world.services ⊆ offered origin.services
  openErrors : world.openErrors ⊆ origin.openErrors
  limited : world.clock.limited = origin.clock.limited

theorem Later.refl (world : World) : world.Later world :=
  ⟨List.Subset.refl _, List.Subset.refl _, rfl⟩

theorem Later.trans (h : origin.Later world) (hafter : world.Later after) : origin.Later after :=
  ⟨List.Subset.trans hafter.offered h.offered, List.Subset.trans hafter.openErrors h.openErrors,
    hafter.limited.trans h.limited⟩

theorem Later.of_eq (hservices : after.services = world.services)
    (houtages : after.outages = world.outages)
    (hlimited : after.clock.limited = world.clock.limited) : world.Later after := by
  refine ⟨hservices ▸ List.Subset.refl _, ?_, hlimited⟩
  unfold World.openErrors
  rw [hservices, houtages]
  exact List.Subset.refl _

/-- What escapes later would have escaped at first. -/
theorem Escapes.of_later (h : world.Escapes config fault) (hlater : origin.Later world) :
    origin.Escapes config fault := by
  cases h with
  | unclosed hoffered hclose hgivenUp =>
      exact .unclosed (hlater.offered hoffered) hclose (hlater.limited ▸ hgivenUp)
  | rejected h => exact .rejected (hlater.openErrors h)
  | connectPause h => exact .connectPause ((Clock.refusal?_congr hlater.limited _).symm.trans h)
  | readPause h => exact .readPause ((Clock.refusal?_congr hlater.limited _).symm.trans h)
  | negativeSize h => exact .negativeSize h

theorem WorkFault.escapes {clock : Clock} {receives : Prop}
    (h : WorkFault config clock receives fault) (hclock : clock.limited = world.clock.limited) :
    fault.OfTransport ∨ world.Escapes config fault := by
  cases h with
  | transport h => exact .inl ⟨_, rfl, h⟩
  | pauseRefused h => exact .inr (.readPause ((Clock.refusal?_congr hclock _).symm.trans h))
  | negativeSize _ h => exact .inr (.negativeSize h)

/-! ## Opening connections -/

/-- A connection is taken from those on offer, unless there are none. -/
theorem offered_of_takeConnection {host : String} {port : Int} {services later : List Service}
    {behaviour : Behaviour} (h : takeConnection host port services = .ok (behaviour, later)) :
    (behaviour = refusing ∨ behaviour ∈ offered services) ∧ offered later ⊆ offered services ∧
      later.filterMap Service.resolveError = services.filterMap Service.resolveError := by
  induction services generalizing later with
  | nil => cases h
  | cons service rest ih =>
      unfold takeConnection at h
      split at h
      · split at h
        · cases h
        · cases h
          exact ⟨.inl rfl, List.Subset.refl _, rfl⟩
        · rename_i behaviour' others _ hconnections
          cases h
          simp only [offered, List.flatMap_cons, hconnections]
          exact ⟨.inr List.mem_cons_self, List.subset_cons_self _ _, rfl⟩
      · cases htake : takeConnection host port rest with
        | error error =>
            rw [htake] at h
            cases h
        | ok taken =>
            obtain ⟨behaviour', services⟩ := taken
            rw [htake] at h
            cases h
            obtain ⟨hbehaviour, hlater, hresolve⟩ := ih htake
            simp only [offered, List.flatMap_cons, List.filterMap_cons, hresolve]
            refine ⟨hbehaviour.imp_right (List.mem_append_right _), ?_, trivial⟩
            exact List.append_subset.mpr ⟨List.subset_append_left _ _,
              List.Subset.trans hlater (List.subset_append_right _ _)⟩

/-- An address that cannot be put to the system is one of a service that has such an error. -/
theorem mem_of_takeConnection {host : String} {port : Int} {services : List Service}
    {category text : String}
    (h : takeConnection host port services = .error (.rejected category text)) :
    .rejected category text ∈ services.filterMap Service.resolveError := by
  induction services with
  | nil => cases h
  | cons service rest ih =>
      unfold takeConnection at h
      split at h
      · split at h
        · rename_i error herror
          cases h
          rcases Option.or_eq_some_iff.mp herror with hresolve | ⟨-, hsocket⟩
          · exact List.mem_filterMap.mpr ⟨service, List.mem_cons_self, hresolve⟩
          · obtain ⟨_, -, hcases⟩ := Option.map_eq_some_iff.mp hsocket
            cases hcases
        · cases h
        · cases h
      · cases htake : takeConnection host port rest with
        | error error =>
            rw [htake] at h
            cases h
            obtain ⟨other, hother, hresolve⟩ := List.mem_filterMap.mp (ih htake)
            exact List.mem_filterMap.mpr ⟨other, List.mem_cons_of_mem _ hother, hresolve⟩
        | ok taken =>
            rw [htake] at h
            cases h

/-- What an attempt to open a connection takes from a network. -/
structure Opens (world : World) (outcome : Except OpenError Behaviour) (after : World) : Prop where
  later : world.Later after
  behaviour : ∀ behaviour, outcome = .ok behaviour →
    behaviour = refusing ∨ behaviour ∈ offered world.services
  rejected : ∀ category text, outcome = .error (.rejected category text) →
    .rejected category text ∈ world.openErrors

theorem opens_openConnection {host : String} {port : Int}
    {outcome : Except OpenError Behaviour}
    (h : world.openConnection host port = (outcome, after)) : world.Opens outcome after := by
  have htail : world.outages.tail.filterMap id ⊆ world.outages.filterMap id := by
    cases world.outages with
    | nil => exact List.Subset.refl _
    | cons outage rest => cases outage <;> simp
  have hlater (services : List Service) (hoffered : offered services ⊆ offered world.services)
      (hresolve : services.filterMap Service.resolveError =
        world.services.filterMap Service.resolveError) :
      world.Later { world with outages := world.outages.tail, services := services } := by
    refine ⟨hoffered, ?_, rfl⟩
    unfold World.openErrors
    rw [hresolve]
    exact List.append_subset.mpr ⟨List.subset_append_left _ _,
      List.Subset.trans htail (List.subset_append_right _ _)⟩
  unfold openConnection at h
  dsimp only at h
  split at h
  · rename_i error herror
    cases h
    refine ⟨hlater _ (List.Subset.refl _) rfl, nofun, fun category text hrejected => ?_⟩
    cases hrejected
    obtain ⟨outages, houtages⟩ : ∃ outages,
        world.outages = some (.rejected category text) :: outages := by
      cases houtages : world.outages with
      | nil => simp [houtages] at herror
      | cons outage outages => exact ⟨outages, by simpa [houtages] using herror⟩
    refine List.mem_append_right _ (List.mem_filterMap.mpr ⟨_, ?_, rfl⟩)
    rw [houtages]
    exact List.mem_cons_self
  · split at h
    · rename_i error herror
      cases h
      refine ⟨hlater _ (List.Subset.refl _) rfl, nofun, fun category text hrejected => ?_⟩
      cases hrejected
      exact List.mem_append_left _ (mem_of_takeConnection herror)
    · rename_i behaviour services htake
      cases h
      obtain ⟨hbehaviour, hoffered, hresolve⟩ := offered_of_takeConnection htake
      exact ⟨hlater services hoffered hresolve, fun other hother => Except.ok.inj hother ▸ hbehaviour,
        nofun⟩

/-! ## Starting a link -/

theorem fault_of_abandon {socket : Socket} {failure : Failure}
    (h : (world.abandon socket failure).1 = .error fault) :
    fault = .failure failure ∨
      ∃ error, fault = .system error ∧ socket.behaviour.closeError = some error := by
  unfold abandon Socket.close at h
  dsimp only at h
  split at h
  · rename_i error hclose
    cases h
    exact .inr ⟨error, rfl, hclose⟩
  · cases h
    exact .inl rfl

/-- Connecting fails because of the connection, unless a socket that was given up cannot be closed
or the clock refuses to pause. -/
theorem fault_of_connect {place : Nat} {link : Link} {socket : Socket}
    (h : (world.connect place link socket).1 = .error fault) :
    fault.OfTransport ∨
      (∃ error, fault = .system error ∧ socket.behaviour.closeError = some error ∧
        socket.behaviour.GivenUp world.clock.limited link.config.connectPatience) ∨
      ∃ error, fault = .pauseRefused error ∧
        world.clock.refusal? link.config.connectPatience.pause = some error := by
  unfold connect at h
  dsimp only at h
  split at h
  · cases h
  · rename_i number hending
    rcases fault_of_abandon h with rfl | ⟨error, hfault, hclose⟩
    · exact .inl ⟨_, rfl, trivial⟩
    · exact .inr (.inl ⟨error, hfault, hclose, world.clock, rfl, .inr ⟨number, hending⟩⟩)
  · rename_i hending
    rcases fault_of_abandon h with rfl | ⟨error, hfault, hclose⟩
    · exact .inl ⟨_, rfl, trivial⟩
    · exact .inr (.inl ⟨error, hfault, hclose, world.clock, rfl, .inl hending⟩)
  · rename_i error hending
    cases h
    exact .inr (.inr ⟨error, rfl, refusal?_of_awaitConnection hending⟩)

/-- A link that is about to be connected has taken nothing from the network yet. -/
theorem later_renewed (world : World) (place : Nat) (link : Link) (event : Event) :
    world.Later ((world.setLink place link).log event) :=
  .of_eq rfl rfl rfl

/-- Starting a link fails because of its connection, or with a fault that escapes. -/
theorem fault_of_start (h : (world.start label).1 = .error fault) :
    fault.OfTransport ∨ ∃ place link, world.findLink label = some (place, link) ∧
      world.Escapes link.config fault := by
  unfold start at h
  split at h
  · cases h
    exact .inl ⟨_, rfl, trivial⟩
  · rename_i place link hfind
    dsimp only at h
    split at h
    · rename_i error opening hopening
      cases h
      cases error with
      | system error => exact .inl ⟨_, rfl, trivial⟩
      | rejected category text =>
          refine .inr ⟨place, link, hfind, .rejected ?_⟩
          exact (opens_openConnection hopening).rejected category text rfl
    · rename_i behaviour opening hopening
      have hopens := opens_openConnection hopening
      rcases fault_of_connect h with hfault | ⟨error, rfl, hclose, hgivenUp⟩ | ⟨error, rfl, hrefused⟩
      · exact .inl hfault
      · rcases hopens.behaviour behaviour rfl with rfl | hoffered
        · cases hclose
        · exact .inr ⟨place, link, hfind,
            .unclosed hoffered hclose (hopens.later.limited ▸ hgivenUp)⟩
      · refine .inr ⟨place, link, hfind, .connectPause ?_⟩
        exact (Clock.refusal?_congr hopens.later.limited _).symm.trans hrefused

/-- Work over a link fails with the faults of its work, if there is the link. -/
theorem fault_of_work {α : Type} {receives : Prop} {job : Station → Except Fault α × Station}
    (hjob : Station.FailsByWork receives job) (h : (world.work label job).1 = .error fault) :
    fault.OfTransport ∨ ∃ place link, world.findLink label = some (place, link) ∧
      world.Escapes link.config fault := by
  unfold work at h
  split at h
  · cases h
    exact .inl ⟨_, rfl, trivial⟩
  · rename_i place link hfind
    exact (WorkFault.escapes (hjob _ _ h) rfl).imp_right fun hescapes =>
      ⟨place, link, hfind, hescapes⟩

/-! ## What stays as it was -/

theorem later_connect (world : World) (place : Nat) (link : Link) (socket : Socket) :
    world.Later (world.connect place link socket).2 := by
  have hsame : (world.connect place link socket).2.services = world.services ∧
      (world.connect place link socket).2.outages = world.outages := by
    unfold connect
    dsimp only
    split <;> exact ⟨rfl, rfl⟩
  exact .of_eq hsame.1 hsame.2 (limited_connect ..)

theorem later_start (label : String) (world : World) : world.Later (world.start label).2 := by
  unfold start
  split
  · exact .refl world
  · dsimp only
    split
    · rename_i hopening
      exact (later_renewed ..).trans (opens_openConnection hopening).later
    · rename_i hopening
      exact ((later_renewed ..).trans (opens_openConnection hopening).later).trans
        (later_connect ..)

theorem later_stop (label : String) (world : World) : world.Later (world.stop label).2 := by
  have hsame : (world.stop label).2.services = world.services ∧
      (world.stop label).2.outages = world.outages := by
    unfold stop
    split
    · exact ⟨rfl, rfl⟩
    · dsimp only
      split
      · exact ⟨rfl, rfl⟩
      · split <;> exact ⟨rfl, rfl⟩
  exact .of_eq hsame.1 hsame.2 (limited_stop label world)

/-- A network at a later time has links with certain settings. -/
structure Descends (configs : List Config) (origin world : World) : Prop where
  later : origin.Later world
  configs : world.links.map Link.config = configs

variable {configs : List Config}

theorem Descends.refl (world : World) : Descends (world.links.map Link.config) world world :=
  ⟨.refl world, rfl⟩

theorem Descends.of_eq (h : Descends configs origin world) (hlater : world.Later after)
    (hlinks : after.links = world.links) : Descends configs origin after :=
  ⟨h.later.trans hlater, hlinks ▸ h.configs⟩

/-- A link that takes the place of another one has its settings. -/
theorem Descends.set (h : Descends configs origin world) (hlater : world.Later after) {place : Nat}
    {link link' : Link} (hfind : world.findLink label = some (place, link))
    (hconfig : link'.config = link.config) (hlinks : after.links = world.links.set place link') :
    Descends configs origin after := by
  refine ⟨h.later.trans hlater, ?_⟩
  rw [hlinks, map_links_set (findLink_eq_some_iff.mp hfind).1 hconfig, h.configs]

theorem Descends.mem (h : Descends configs origin world) {place : Nat} {link : Link}
    (hfind : world.findLink label = some (place, link)) : link.config ∈ configs := by
  rw [← h.configs]
  exact List.mem_map_of_mem (List.mem_of_getElem? (findLink_eq_some_iff.mp hfind).1)

theorem Descends.start (h : Descends configs origin world) (label : String) :
    Descends configs origin (world.start label).2 := by
  have hlater := later_start label world
  cases start_end label world with
  | unknown hsame => rwa [hsame]
  | unopened hfind hlinks hsockets => exact h.set hlater hfind (by rfl) hlinks
  | abandoned hfind hlinks hdone hsockets => exact h.set hlater hfind (by rfl) hlinks
  | connected hfind hlinks hopen hsockets => exact h.set hlater hfind (by rfl) hlinks

theorem Descends.stop (h : Descends configs origin world) (label : String) :
    Descends configs origin (world.stop label).2 := by
  have hlater := later_stop label world
  cases stop_end label world with
  | idle hidle hlinks hsockets => exact h.of_eq hlater hlinks
  | closed hfind hheld hlinks hsockets => exact h.set hlater hfind (by rfl) hlinks

theorem Descends.work (h : Descends configs origin world) {α : Type} (label : String)
    {job : Station → Except Fault α × Station}
    (hjob : ∀ station : Station, station.Kept (job station).2) :
    Descends configs origin (world.work label job).2 := by
  unfold World.work
  cases hfind : world.findLink label with
  | none => exact h
  | some found =>
      obtain ⟨place, link⟩ := found
      have hkept := hjob (world.station link)
      exact h.set (.of_eq rfl rfl hkept.limited) hfind hkept.config rfl

/-- The sessions of a network keep its settings and what it has on offer while a script runs. -/
theorem keep_descends (world : World) (configs : List Config) (origin : World) :
    (sessions world).Keep (Descends configs origin) :=
  keep_sessions world (fun label _ _ hjob h => h.work label hjob)
    (fun _ world h => h.of_eq (.of_eq rfl rfl (Clock.limited_sleep world.clock _)) rfl)
    fun _ _ h => h.of_eq (.of_eq rfl rfl rfl) rfl

/-- What goes wrong over links while a script runs is a failure of a connection, or a fault that
escapes from one of the links. -/
theorem raiseIn_sessions {P : Fault → Prop} (world : World)
    (htransport : ∀ fault : Fault, fault.OfTransport → P fault)
    (hescapes : ∀ config ∈ configs, ∀ fault, origin.Escapes config fault → P fault) :
    (sessions world).RaiseIn (Descends configs origin) P := by
  have hwork {α : Type} {receives : Prop} {job : Station → Except Fault α × Station}
      (hjob : Station.FailsByWork receives job) (label : String) (world : World) (fault : Fault)
      (h : Descends configs origin world) (hfault : (world.work label job).1 = .error fault) :
      P fault := by
    rcases fault_of_work hjob hfault with hfailure | ⟨place, link, hfind, hescape⟩
    · exact htransport fault hfailure
    · exact hescapes _ (h.mem hfind) fault (hescape.of_later h.later)
  refine ⟨fun label view world h => ?_, fun label line => ?_, fun label attachment => ?_⟩
  · change (reading label view world).Raises _ P
    unfold reading
    split
    · trivial
    · rename_i hread
      exact hwork Station.failsByWork_readLine label world _ h (congrArg Prod.fst hread)
  · exact hwork (Station.failsByWork_writeLine line) label
  · exact hwork (Station.failsByWork_upload attachment) label

end World

end Network

end MailScript
