import MailScript.Proofs.Network.Failures

/-! # Calls of a link

A link may be called in any order, and called again when a call has failed. Stopping never fails.
All other calls fail with failures of the harness, and starting with those of connecting, but for
the faults that escape: a socket that could not be connected may be one that cannot be closed, an
address one that cannot be put to the system, and a clock may refuse to pause. -/

namespace MailScript

/-- A fault that is a failure of a kind or of a more special one. -/
def Fault.IsA (fault : Fault) (kind : FailureKind) : Prop :=
  ∃ failure, fault = .failure failure ∧ failure.kind.isA kind

namespace Network

/-! ## Calls one after another -/

/-- A call of a link. -/
inductive Call where
  | start
  | stop
  | readLine
  | writeLine (line : String)
  | upload (attachment : Attachment)
deriving DecidableEq, Repr

/-- The kind of failures that a call may end with. -/
def Call.failureKind : Call → FailureKind
  | .start => .connect
  | _ => .transport

/-- A call that reads or writes. -/
def Call.transfers : Call → Bool
  | .start | .stop => false
  | .readLine | .writeLine _ | .upload _ => true

/-- A call that has been made: the network in front of it, how it ended, with the line that was read
if there is one, and the network behind it. -/
structure Performed where
  call : Call
  before : World
  outcome : Except Fault (Option String)
  after : World

namespace World

/-- Make a call of the link of a label. -/
def perform (label : String) (call : Call) (world : World) : Performed :=
  let plain (result : Outcome World) : Performed :=
    ⟨call, world, result.1.map fun _ => none, result.2⟩
  match call with
  | .start => plain (world.start label)
  | .stop => plain (world.stop label)
  | .readLine =>
    let result := world.readLine label
    ⟨call, world, result.1.map some, result.2⟩
  | .writeLine line => plain (world.writeLine label line)
  | .upload attachment => plain (world.upload label attachment)

@[simp] theorem call_perform (label : String) (call : Call) (world : World) :
    (world.perform label call).call = call := by
  cases call <;> rfl

@[simp] theorem before_perform (label : String) (call : Call) (world : World) :
    (world.perform label call).before = world := by
  cases call <;> rfl

/-- Make calls one after another, whether they fail or not. -/
def performAll (label : String) : List Call → World → List Performed
  | [], _ => []
  | call :: rest, world =>
    let performed := world.perform label call
    performed :: performAll label rest performed.after

/-- The link of a label is connected. -/
def connected (label : String) (world : World) : Bool :=
  (world.findLink label).any fun found => found.2.connected

variable {world after : World} {label : String} {place : Nat} {link : Link} {fault : Fault}

/-! ## The link of a label -/

theorem findLink_of_set (hfind : world.findLink label = some (place, link)) {link' : Link}
    (hconfig : link'.config = link.config) (hlinks : after.links = world.links.set place link') :
    after.findLink label = some (place, link') := by
  have hlabel : link'.config.label = label := by
    rw [hconfig]
    exact (findLink_eq_some_iff.mp hfind).2.1
  have hset : after.links = (world.setLink place link').links := hlinks
  rw [findLink_congr hset, findLink_setLink hfind hlabel]

theorem work_of_findLink (hfind : world.findLink label = some (place, link)) {α : Type}
    (job : Station → Except Fault α × Station) :
    world.work label job = ((job (world.station link)).1,
      world.afterStation place (job (world.station link)).2) := by
  rw [work, hfind]

/-- What work leaves of a link stands under its label. -/
theorem findLink_work (hfind : world.findLink label = some (place, link)) {α : Type}
    {job : Station → Except Fault α × Station}
    (hjob : ∀ station : Station, station.Kept (job station).2) :
    ∃ link', (world.work label job).2.findLink label = some (place, link') ∧
      link'.config = link.config := by
  have hkept := hjob (world.station link)
  rw [work_of_findLink hfind]
  exact ⟨_, findLink_of_set hfind hkept.config rfl, hkept.config⟩

/-- Behind every call there is a link of the label with the same settings, as in front of it. -/
theorem findLink_perform (hfind : world.findLink label = some (place, link)) (call : Call) :
    ∃ link', (world.perform label call).after.findLink label = some (place, link') ∧
      link'.config = link.config := by
  have hset {place' : Nat} {found link' : Link} {after : World}
      (hfound : world.findLink label = some (place', found))
      (hlinks : after.links = world.links.set place' link') (hconfig : link'.config = found.config) :
      ∃ link', after.findLink label = some (place, link') ∧ link'.config = link.config := by
    cases hfind.symm.trans hfound
    exact ⟨link', findLink_of_set hfound hconfig hlinks, hconfig⟩
  cases call with
  | start =>
      change ∃ link', (world.start label).2.findLink label = some (place, link') ∧ _
      cases start_end label world with
      | unknown hsame =>
          rw [hsame]
          exact ⟨link, hfind, rfl⟩
      | unopened hfound hlinks => exact hset hfound hlinks rfl
      | abandoned hfound hlinks => exact hset hfound hlinks rfl
      | connected hfound hlinks => exact hset hfound hlinks rfl
  | stop =>
      change ∃ link', (world.stop label).2.findLink label = some (place, link') ∧ _
      cases stop_end label world with
      | idle _ hlinks => exact ⟨link, (findLink_congr hlinks label).trans hfind, rfl⟩
      | closed hfound _ hlinks => exact hset hfound hlinks rfl
  | readLine => exact findLink_work hfind Station.kept_readLine
  | writeLine line => exact findLink_work hfind (Station.kept_writeLine line)
  | upload attachment => exact findLink_work hfind (Station.kept_upload attachment)

/-! ## Starts that fail -/

/-- What a start that fails leaves: the link holds what it held, and a socket that was opened has
been closed. An error of closing it is what the start fails with. A pause that the clock refuses
leaves the socket as it is. -/
inductive FailedStart (world : World) (place : Nat) (link : Link) : Fault → World → Prop where
  | unopened {failure : Failure} {after : World} (hkind : failure.kind.isA .connect)
      (hlinks : after.links = world.links.set place link.renewed)
      (hsockets : after.sockets = world.sockets) :
      FailedStart world place link (.failure failure) after
  | rejected {category text : String} {after : World}
      (hopening : (world.openConnection link.config.endpoint.host
        link.config.endpoint.port).1 = .error (.rejected category text))
      (hlinks : after.links = world.links.set place link.renewed)
      (hsockets : after.sockets = world.sockets) :
      FailedStart world place link (.addressRejected category text) after
  | closed {failure : Failure} {socket : Socket} {after : World}
      (hkind : failure.kind.isA .connect) (hclose : socket.behaviour.closeError = none)
      (hlinks : after.links = world.links.set place link.renewed)
      (hsockets : after.sockets = world.sockets ++ [socket]) :
      FailedStart world place link (.failure failure) after
  | unclosed {error : SystemError} {socket : Socket} {after : World}
      (hclose : socket.behaviour.closeError = some error)
      (hlinks : after.links = world.links.set place link.renewed)
      (hsockets : after.sockets = world.sockets ++ [socket]) :
      FailedStart world place link (.system error) after
  | left {error : WaitError} {after : World}
      (hrefused : world.clock.refusal? link.config.connectPatience.pause = some error)
      (hlinks : after.links = world.links.set place link.renewed) :
      FailedStart world place link (.pauseRefused error) after

theorem FailedStart.links (h : world.FailedStart place link fault after) :
    after.links = world.links.set place link.renewed := by
  cases h with
  | unopened _ hlinks _ => exact hlinks
  | rejected _ hlinks _ => exact hlinks
  | closed _ _ hlinks _ => exact hlinks
  | unclosed _ hlinks _ => exact hlinks
  | left _ hlinks => exact hlinks

/-- A socket that is given up is closed. -/
theorem failedStart_of_abandon {opening : World}
    (hlinks : opening.links = world.links.set place link.renewed)
    (hsockets : opening.sockets = world.sockets) {socket : Socket} {failure : Failure}
    (hkind : failure.kind.isA .connect) (h : (opening.abandon socket failure).1 = .error fault) :
    world.FailedStart place link fault (opening.abandon socket failure).2 := by
  have hadded : (opening.abandon socket failure).2.sockets = world.sockets ++ [socket.close.2] := by
    rw [← hsockets]
    rfl
  have hbehaviour : socket.close.2.behaviour.closeError = socket.close.1 := rfl
  unfold abandon at h hadded ⊢
  dsimp only at h hadded ⊢
  cases hclose : socket.close.1 with
  | none =>
      rw [hclose] at h
      cases h
      exact .closed hkind (hbehaviour.trans hclose) hlinks hadded
  | some error =>
      rw [hclose] at h
      cases h
      exact .unclosed (hbehaviour.trans hclose) hlinks hadded

theorem failedStart_of_connect {opening : World}
    (hlinks : opening.links = world.links.set place link.renewed)
    (hsockets : opening.sockets = world.sockets) (hclock : opening.clock = world.clock)
    {socket : Socket} (h : (opening.connect place link.renewed socket).1 = .error fault) :
    world.FailedStart place link fault (opening.connect place link.renewed socket).2 := by
  unfold connect at h ⊢
  dsimp only at h ⊢
  split at h
  · cases h
  · exact failedStart_of_abandon (by exact hlinks) (by exact hsockets) rfl h
  · exact failedStart_of_abandon (by exact hlinks) (by exact hsockets) rfl h
  · rename_i error hending
    cases h
    have hrefused := refusal?_of_awaitConnection hending
    rw [hclock] at hrefused
    exact .left hrefused hlinks

theorem failedStart (hfind : world.findLink label = some (place, link))
    (h : (world.start label).1 = .error fault) :
    world.FailedStart place link fault (world.start label).2 := by
  unfold start at h ⊢
  rw [hfind] at h ⊢
  dsimp only at h ⊢
  split at h
  · rename_i error opening hopening
    obtain ⟨services, outages, rfl⟩ := eq_of_openConnection hopening
    cases h
    cases error with
    | system error => exact .unopened rfl rfl rfl
    | rejected category text =>
        refine .rejected (Eq.trans ?_ (congrArg Prod.fst hopening)) rfl rfl
        exact openConnection_congr (by rfl) (by rfl) _ _
  · rename_i hopening
    obtain ⟨services, outages, rfl⟩ := eq_of_openConnection hopening
    exact failedStart_of_connect (by rfl) (by rfl) (by rfl) h

/-- A socket that was opened is still there behind a start that failed, and cannot be closed. -/
def Unclosed (before after : World) : Prop :=
  ∃ socket error, after.sockets = before.sockets ++ [socket] ∧
    socket.behaviour.closeError = some error

end World

/-! ## What holds of every call -/

/-- The faults that escape from a call of the link of a label: an error of closing a socket that was
opened and given up, an address that cannot be put to the system, a pause that the clock refuses,
and a negative number of bytes to be received. -/
inductive Performed.Escapes (label : String) (performed : Performed) : Fault → Prop where
  | unclosed {socket : Socket} {error : SystemError} (hcall : performed.call = .start)
      (hsockets : performed.after.sockets = performed.before.sockets ++ [socket])
      (hclose : socket.behaviour.closeError = some error) :
      Escapes label performed (.system error)
  | rejected {place : Nat} {link : Link} {category text : String} (hcall : performed.call = .start)
      (hfind : performed.before.findLink label = some (place, link))
      (hopening : (performed.before.openConnection link.config.endpoint.host
        link.config.endpoint.port).1 = .error (.rejected category text)) :
      Escapes label performed (.addressRejected category text)
  | connectPause {place : Nat} {link : Link} {error : WaitError} (hcall : performed.call = .start)
      (hfind : performed.before.findLink label = some (place, link))
      (hrefused : performed.before.clock.refusal? link.config.connectPatience.pause = some error) :
      Escapes label performed (.pauseRefused error)
  | readPause {place : Nat} {link : Link} {error : WaitError}
      (hcall : performed.call.transfers)
      (hfind : performed.before.findLink label = some (place, link))
      (hrefused : performed.before.clock.refusal? link.config.readPatience.pause = some error) :
      Escapes label performed (.pauseRefused error)
  | negativeSize {place : Nat} {link : Link} (hcall : performed.call = .readLine)
      (hfind : performed.before.findLink label = some (place, link))
      (hsize : link.config.bufferSize < 0) :
      Escapes label performed .negativeSize

/-- None of the faults that escape is a failure. -/
theorem Performed.Escapes.foreign {label : String} {performed : Performed} {fault : Fault}
    (h : performed.Escapes label fault) : fault.Foreign := by
  cases h <;> exact nofun

theorem not_isA_of_foreign {fault : Fault} (h : fault.Foreign) (kind : FailureKind) :
    ¬ fault.IsA kind := by
  rintro ⟨failure, rfl, -⟩
  exact h failure rfl

namespace World

variable {world after : World} {label : String} {place : Nat} {link : Link} {fault : Fault}

/-- A start that failed and gave up a socket which cannot be closed. -/
def GaveUpUnclosed (performed : Performed) : Prop :=
  performed.call = .start ∧ performed.outcome.isOk = false ∧
    performed.before.Unclosed performed.after

/-- What is said of a call. Stopping does not fail. A start that fails connects nothing. A call that
fails does so with a failure of its kind exactly if its fault is none that escapes. Where a start
gives up a socket that cannot be closed, a fault escapes. -/
structure Contained (label : String) (performed : Performed) : Prop where
  stop : performed.call = .stop → performed.outcome.isOk
  start : performed.call = .start → performed.outcome.isOk = false →
    performed.before.connected label = false → performed.after.connected label = false
  faults : ∀ fault, performed.outcome = .error fault →
    (fault.IsA performed.call.failureKind ↔ ¬ performed.Escapes label fault)
  unclosed : GaveUpUnclosed performed →
    ∃ fault, performed.outcome = .error fault ∧ performed.Escapes label fault

/-- A fault of a call is a failure of its kind, or it escapes, and it is not both. -/
theorem faults_of_or {performed : Performed}
    (h : ∀ fault, performed.outcome = .error fault →
      fault.IsA performed.call.failureKind ∨ performed.Escapes label fault) (fault : Fault)
    (hfault : performed.outcome = .error fault) :
    fault.IsA performed.call.failureKind ↔ ¬ performed.Escapes label fault :=
  ⟨fun hisA hescapes => not_isA_of_foreign hescapes.foreign _ hisA,
    (h fault hfault).resolve_right⟩

/-- A start that fails leaves what a failed start leaves. -/
theorem failedStart_of_perform (hfind : world.findLink label = some (place, link))
    (h : (world.perform label .start).outcome = .error fault) :
    world.FailedStart place link fault (world.perform label .start).after :=
  failedStart hfind (error_of_map h)

/-- A start that fails does so with a failure of connecting, or a fault escapes. The former leaves
no socket that cannot be closed. -/
theorem FailedStart.contains (hfind : world.findLink label = some (place, link))
    (h : world.FailedStart place link fault (world.perform label .start).after) :
    fault.IsA .connect ∧ ¬ world.Unclosed (world.perform label .start).after ∨
      (world.perform label .start).Escapes label fault := by
  generalize hperformed : world.perform label .start = performed at h
  have hcall : performed.call = .start := hperformed ▸ rfl
  have hbefore : performed.before = world := hperformed ▸ rfl
  generalize hafter : performed.after = after at h
  cases h with
  | unopened hkind _ hsockets =>
      refine .inl ⟨⟨_, rfl, hkind⟩, ?_⟩
      rintro ⟨socket, error, hadded, -⟩
      cases List.self_eq_append_right.mp (hsockets.symm.trans hadded)
  | closed hkind hnone _ hsockets =>
      refine .inl ⟨⟨_, rfl, hkind⟩, ?_⟩
      rintro ⟨socket, error, hadded, hclose⟩
      cases List.append_cancel_left (hsockets.symm.trans hadded)
      cases hnone.symm.trans hclose
  | rejected hopening _ _ =>
      exact .inr (.rejected hcall (hbefore ▸ hfind) (hbefore ▸ hopening))
  | unclosed hclose _ hsockets =>
      exact .inr (.unclosed hcall (hafter ▸ hbefore ▸ hsockets) hclose)
  | left hrefused _ => exact .inr (.connectPause hcall (hbefore ▸ hfind) (hbefore ▸ hrefused))

theorem contained_start (hfind : world.findLink label = some (place, link)) :
    Contained label (world.perform label .start) := by
  have hfailed (fault : Fault) (h : (world.perform label .start).outcome = .error fault) :=
    failedStart_of_perform hfind h
  refine ⟨nofun, fun _ hfails hidle => ?_, faults_of_or fun fault hfault => ?_, fun hgaveUp => ?_⟩
  · cases houtcome : (world.perform label .start).outcome with
    | ok _ => cases houtcome ▸ hfails
    | error fault =>
        have hafter := findLink_of_set hfind (by rfl) (hfailed fault houtcome).links
        have hbefore : (world.perform label .start).before.findLink label = some (place, link) :=
          hfind
        simp only [connected, hbefore, hafter] at hidle ⊢
        exact hidle
  · exact ((hfailed fault hfault).contains hfind).imp_left And.left
  · cases houtcome : (world.perform label .start).outcome with
    | ok _ => cases houtcome ▸ hgaveUp.2.1
    | error fault =>
        refine ⟨fault, rfl, ((hfailed fault houtcome).contains hfind).resolve_left fun h => ?_⟩
        exact h.2 hgaveUp.2.2

/-- An address that cannot be put to the system escapes from a start, and so does a pause of more than
three hundred years. A negative pause escapes from a read and from a write, and so does a negative
size from a read. -/
example :
    let ended (settings : Settings) (service : Service) (calls : List Call) : List (Option String) :=
      let config := Config.ofSettings settings ⟨"imap", "mail", 143⟩ none none none none none
      let world := { World.ofServices [service] with links := [.fresh config], clock := .system }
      (world.performAll "imap" calls).map fun entry => (faultOf? entry.outcome).map Fault.typeName
    let service (behaviour : Behaviour) : Service := ⟨"mail", 143, [behaviour], none, none⟩
    ended {} ⟨"mail", 143, [], some (.rejected "UnicodeError" "label too long"), none⟩ [.start] =
        [some "UnicodeError"] ∧
      ended { connectPollMillis := 10000000000000 } (service ⟨[115], [], [], none⟩) [.start] =
        [some "OverflowError"] ∧
      ended { readPollMillis := -1 } (service ⟨[], [.retry], [], none⟩) [.start, .readLine] =
        [none, some "ValueError"] ∧
      ended { readPollMillis := -1 } (service ⟨[], [], [.retry], none⟩) [.start, .writeLine "A"] =
        [none, some "ValueError"] ∧
      ended { readBufferSize := -1 } (service ⟨[], [], [], none⟩) [.start, .readLine] =
        [none, some "ValueError"] := by
  decide +kernel

end World

end Network

end MailScript
