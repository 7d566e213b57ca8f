import MailScript.Proofs.Conversation.Bracket
import MailScript.Proofs.Network.Failures
import MailScript.Proofs.Network.Patience
import MailScript.Task

/-! # What a task leaves behind

However scripts end and whatever the network does, a task has closed every socket that was opened
while it ran, each of them once and for good, unless the clock has refused to pause while one was
being connected. For whatever else is proved about tasks, the ways in which an attempt at a script
and the script itself end are told here once. -/

namespace MailScript

namespace Network.World

/-- Behind a world there are more sockets, all of them done with. -/
def Closes (left : Prop) (world after : World) : Prop :=
  ∃ opened, after.sockets = world.sockets ++ opened ∧ ∀ socket ∈ opened, socket.Done left

variable {left : Prop}

theorem Closes.of_eq {world after : World} (h : after.sockets = world.sockets) :
    world.Closes left after :=
  ⟨[], by rw [h, List.append_nil], nofun⟩

theorem Closes.trans {a b c : World} (hab : a.Closes left b) (hbc : b.Closes left c) :
    a.Closes left c := by
  obtain ⟨first, hfirst, hclosed⟩ := hab
  obtain ⟨second, hsecond, hclosed'⟩ := hbc
  refine ⟨first ++ second, by rw [hsecond, hfirst, List.append_assoc], fun socket hsocket => ?_⟩
  rcases List.mem_append.mp hsocket with hmem | hmem
  · exact hclosed socket hmem
  · exact hclosed' socket hmem

/-- A run over idle links with different labels closes what it opens, as long as the clock takes the
pauses of the links. -/
theorem closes_runSessions {world : World}
    (hnodup : (world.links.map fun link => link.config.label).Nodup)
    (hidle : ∀ link ∈ world.links, link.socket = none) (hpauses : world.Pauses left)
    (elements : List Element) (keepGoing : Bool) (store : Variables) :
    let conversation : Conversation World := ⟨sessions world, elements, keepGoing⟩
    world.Closes left (conversation.runSessions.exec (.initial store world)).2.world := by
  intro conversation
  have hsessions : conversation.sessions = sessions world := rfl
  have hstarted : ((conversation.startAll conversation.sessions.labels).exec
      (.initial store world)).2.world.Accounted left conversation.sessions.labels world.sockets :=
    Conversation.accounted_startAll hsessions hnodup (accounted_of_idle hidle hpauses)
      fun label _ link hlink _ => hidle link hlink
  have hended : (conversation.startAndExecute.exec (.initial store world)).2.world.Accounted left
      conversation.sessions.labels world.sockets := by
    unfold Conversation.startAndExecute
    rw [Conversation.exec_bind]
    split
    · rename_i hok
      rw [hok] at hstarted
      exact Conversation.Keeps.execute (keep_accounted world left _ _) _ hstarted
    · rename_i herror
      rwa [herror] at hstarted
  obtain ⟨haccounted, hidle'⟩ :=
    Conversation.accounted_stopAll hsessions hnodup conversation.sessions.labels hended
  rw [Conversation.exec_runSessions]
  exact haccounted.finish fun label hlabel => hidle' label (.inl hlabel)

/-- A run keeps the settings of the links and what the network has on offer. -/
theorem descends_runSessions (world : World) (elements : List Element) (keepGoing : Bool)
    (store : Variables) :
    let conversation : Conversation World := ⟨sessions world, elements, keepGoing⟩
    Descends (world.links.map Link.config) world
      (conversation.runSessions.exec (.initial store world)).2.world :=
  Conversation.Keeps.runSessions (fun label _ h => h.start label) (keep_descends world _ world)
    (fun label _ h => h.stop label) (.initial store world) (.refl world)

end Network.World

namespace Task

open Network (World Factory)

variable {task : Task}

/-- A task that can be run has hosts with different labels. -/
theorem nodup_labels (h : task.problem? = none) : (task.hosts.map HostAddress.label).Nodup := by
  have hempty : task.duplicateLabels = [] := by
    unfold problem? at h
    split at h
    · cases h
    split at h
    · cases h
    split at h
    · exact List.isEmpty_iff.mp ‹_›
    · cases h
  refine List.nodup_iff_count.mpr fun label => Nat.le_of_not_lt fun hmany => ?_
  have hmem : label ∈ task.duplicateLabels := by
    unfold duplicateLabels
    rw [List.mem_mergeSort, List.mem_eraseDups, List.mem_filter]
    refine ⟨List.count_pos_iff.mp (by omega), ?_⟩
    simpa using hmany
  rw [hempty] at hmem
  cases hmem

/-! ## Links -/

/-- Why no links can be made for a task, if there are any to be made. -/
def linkFault? (task : Task) (settings : Settings) : Option Fault :=
  if task.hosts.isEmpty then none else Network.Config.fault? settings

/-- The links of a task when a script is about to be tried. -/
def freshLinks (task : Task) (settings : Settings) : List Network.Link :=
  (task.factories settings).map fun factory => .fresh (factory.config settings)

theorem labels_freshLinks (task : Task) (settings : Settings) :
    (task.freshLinks settings).map (fun link => link.config.label) =
      task.hosts.map HostAddress.label := by
  unfold freshLinks factories
  rw [List.map_map, List.map_map]
  rfl

/-- Fresh links hold no sockets, and they pause as the settings say. -/
theorem of_mem_freshLinks {settings : Settings} {link : Network.Link}
    (h : link ∈ task.freshLinks settings) :
    link.socket = none ∧ ∃ factory, link.config = Factory.config factory settings := by
  obtain ⟨factory, -, rfl⟩ := List.mem_map.mp h
  exact ⟨rfl, factory, rfl⟩

theorem makeLinks_of_none {settings : Settings} (h : Network.Config.fault? settings = none)
    (factories : List Factory) (world : World) :
    ∃ events, makeLinks settings factories world = (.ok (), { world with
      links := world.links ++ factories.map fun factory => .fresh (factory.config settings)
      events := events }) := by
  induction factories generalizing world with
  | nil => exact ⟨world.events, by simp [makeLinks]⟩
  | cons factory rest ih =>
      obtain ⟨events, hrest⟩ := ih (factory.create settings world)
      refine ⟨events, ?_⟩
      simp only [makeLinks, Factory.make, h, hrest]
      simp [Factory.create]

/-- The links of a task are made anew for each script. -/
theorem connectLinks_of_none {settings : Settings} (h : task.linkFault? settings = none)
    (world : World) :
    ∃ events, task.connectLinks settings world =
      (.ok (), { world with links := task.freshLinks settings, events := events }) := by
  unfold connectLinks freshLinks
  unfold linkFault? at h
  split at h
  · rename_i hempty
    rw [factories, List.isEmpty_iff.mp hempty]
    exact ⟨world.events, rfl⟩
  · exact makeLinks_of_none h (task.factories settings) { world with links := [] }

theorem connectLinks_of_fault {settings : Settings} {fault : Fault}
    (h : task.linkFault? settings = some fault) (world : World) :
    ∃ events, task.connectLinks settings world =
      (.error fault, { world with links := [], events := events }) := by
  unfold linkFault? at h
  unfold connectLinks factories
  split at h
  · cases h
  · rename_i hempty
    cases hhosts : task.hosts with
    | nil => exact absurd (hhosts ▸ rfl) hempty
    | cons host rest =>
        simp only [List.map_cons, makeLinks, Factory.make, h]
        exact ⟨_, rfl⟩

/-! ## Attempts -/

/-- What a script in a file compiles to. -/
def compiled (around : Surroundings) (path : Path) : Except Fault (List Element) :=
  (Script.compileFile (setting around) around.settings.scriptEncoding path).result

/-- What there is to run of a script, if links can be made for it and it compiles. -/
def prepared (task : Task) (around : Surroundings) (path : Path) : Except Fault (List Element) :=
  match task.linkFault? around.settings with
  | some fault => .error fault
  | none => compiled around path

theorem prepared_eq_ok_iff {around : Surroundings} {path : Path} {elements : List Element} :
    task.prepared around path = .ok elements ↔
      task.linkFault? around.settings = none ∧ compiled around path = .ok elements := by
  unfold prepared
  cases task.linkFault? around.settings <;> simp

theorem prepared_eq_error_iff {around : Surroundings} {path : Path} {fault : Fault} :
    task.prepared around path = .error fault ↔
      task.linkFault? around.settings = some fault ∨
        task.linkFault? around.settings = none ∧ compiled around path = .error fault := by
  unfold prepared
  cases task.linkFault? around.settings <;> simp

/-- How trying a script goes: it cannot be run, or it runs over links that were made for it. -/
inductive AttemptEnd (task : Task) (around : Surroundings) (path : Path) (world : World) :
    ScriptRun × World → Prop where
  | unprepared {fault : Fault} {after : World} (hprepared : task.prepared around path = .error fault)
      (hlater : world.Later after) (hsockets : after.sockets = world.sockets) :
      AttemptEnd task around path world (⟨0, .error fault⟩, after)
  | ran {elements : List Element} {begun : World} {keepGoing : Bool} {store : Variables}
      {ended : Except Fault Unit × Conversation.State World}
      (hprepared : task.prepared around path = .ok elements) (hlater : world.Later begun)
      (hsockets : begun.sockets = world.sockets)
      (hlinks : begun.links = task.freshLinks around.settings)
      (hran : (⟨Network.sessions begun, elements, keepGoing⟩ :
        Conversation World).runSessions.exec (.initial store begun) = ended) :
      AttemptEnd task around path world
        (⟨elements.length, ended.1.map fun _ => ended.2.failures⟩, ended.2.world)

theorem attempt_end (task : Task) (around : Surroundings) (path : Path) (world : World) :
    task.AttemptEnd around path world (task.attempt around path world) := by
  let seeded := { world with events := world.events ++ (task.seed around).events }
  unfold attempt
  dsimp only
  cases hlinks : task.linkFault? around.settings with
  | some fault =>
      obtain ⟨events, hconnect⟩ := connectLinks_of_fault hlinks seeded
      rw [hconnect]
      exact .unprepared (prepared_eq_error_iff.mpr (.inl hlinks)) (.of_eq rfl rfl rfl) rfl
  | none =>
      obtain ⟨events, hconnect⟩ := connectLinks_of_none hlinks seeded
      rw [hconnect]
      dsimp only
      split
      · rename_i fault hcompile
        have hprepared : task.prepared around path = .error fault :=
          prepared_eq_error_iff.mpr (.inr ⟨hlinks, hcompile⟩)
        exact .unprepared hprepared (.of_eq rfl rfl rfl) rfl
      · rename_i elements hcompile
        have hprepared : task.prepared around path = .ok elements :=
          prepared_eq_ok_iff.mpr ⟨hlinks, hcompile⟩
        refine .ran hprepared (.of_eq ?_ ?_ ?_) ?_ ?_ rfl <;> rfl

/-- A script that cannot be run ends with the fault that keeps it from being run. -/
theorem attempt_of_unprepared {around : Surroundings} {path : Path} {fault : Fault}
    (h : task.prepared around path = .error fault) (world : World) :
    (task.attempt around path world).1 = ⟨0, .error fault⟩ := by
  have hend := attempt_end task around path world
  generalize task.attempt around path world = result at hend
  cases hend with
  | unprepared hprepared hlater hsockets =>
      cases hprepared.symm.trans h
      rfl
  | ran hprepared hlater hsockets hlinks hran => cases hprepared.symm.trans h

/-- An attempt leaves a network that has nothing new on offer. -/
theorem later_attempt (task : Task) (around : Surroundings) (path : Path) (world : World) :
    world.Later (task.attempt around path world).2 := by
  have hend := attempt_end task around path world
  generalize task.attempt around path world = result at hend
  cases hend with
  | unprepared hprepared hlater hsockets => exact hlater
  | @ran elements begun keepGoing store ended hprepared hlater hsockets hlinks hran =>
      subst hran
      exact hlater.trans (World.descends_runSessions begun elements keepGoing store).later

/-! ## Results -/

/-- A network when a script is about to be tried. -/
def announced (task : Task) (around : Surroundings) (path : Path) (world : World) : World :=
  world.log (task.note around.settings (" --- Running script: " ++ path.name ++ " --- "))

/-- The result of a script that ends by itself. -/
def finishedResult (path : Path) (count : Nat) (failures : List Failure) : ScriptResult :=
  ⟨path.name, if failures.isEmpty then .passed else .failed, count, failures.map Failure.message,
    none⟩

/-- The result of a script that a failure ends. -/
def failedResult (path : Path) (count : Nat) (cause : Failure) : ScriptResult :=
  ⟨path.name, .failed, count, [], some (blame path.name cause).message⟩

variable {around : Surroundings} {path : Path} {paths : List Path} {world after : World}
  {run : ScriptRun} {result : ScriptResult}

theorem runScript_of_ok {failures : List Failure}
    (h : task.attempt around path (task.announced around path world) = (run, after))
    (houtcome : run.outcome = .ok failures) :
    task.runScript around path world =
      (.ok (finishedResult path run.elementCount failures),
        after.log (scriptFinished path.name (if failures.isEmpty then .passed else .failed)
          failures.length)) := by
  unfold announced at h
  unfold runScript
  simp only [h, houtcome]
  rfl

theorem runScript_of_failure {cause : Failure}
    (h : task.attempt around path (task.announced around path world) = (run, after))
    (houtcome : run.outcome = .error (.failure cause)) :
    task.runScript around path world =
      (if task.failFast then fail (blame path.name cause)
        else .ok (failedResult path run.elementCount cause),
        after.log (scriptFailed path.name cause)) := by
  unfold announced at h
  unfold runScript
  simp only [h, houtcome]
  split <;> rfl

theorem runScript_of_fault {fault : Fault}
    (h : task.attempt around path (task.announced around path world) = (run, after))
    (houtcome : run.outcome = .error fault) (hforeign : fault.Foreign) :
    task.runScript around path world = (.error fault, after) := by
  unfold announced at h
  unfold runScript
  cases fault
  case failure cause => exact absurd rfl (hforeign cause)
  all_goals simp only [h, houtcome]

/-- How running a script goes: it ends by itself, a failure ends it, or a fault that is none does. -/
inductive ScriptEnd (task : Task) (around : Surroundings) (path : Path) (world : World) :
    Except Fault ScriptResult × World → Prop where
  | finished {run : ScriptRun} {failures : List Failure} {after : World}
      (hattempt : task.attempt around path (task.announced around path world) = (run, after))
      (houtcome : run.outcome = .ok failures) :
      ScriptEnd task around path world
        (.ok (finishedResult path run.elementCount failures),
          after.log (scriptFinished path.name (if failures.isEmpty then .passed else .failed)
            failures.length))
  | failed {run : ScriptRun} {cause : Failure} {after : World}
      (hattempt : task.attempt around path (task.announced around path world) = (run, after))
      (houtcome : run.outcome = .error (.failure cause)) :
      ScriptEnd task around path world
        (if task.failFast then fail (blame path.name cause)
          else .ok (failedResult path run.elementCount cause),
          after.log (scriptFailed path.name cause))
  | broken {run : ScriptRun} {fault : Fault} {after : World}
      (hattempt : task.attempt around path (task.announced around path world) = (run, after))
      (houtcome : run.outcome = .error fault) (hforeign : fault.Foreign) :
      ScriptEnd task around path world (.error fault, after)

theorem script_end (task : Task) (around : Surroundings) (path : Path) (world : World) :
    task.ScriptEnd around path world (task.runScript around path world) := by
  rcases hattempt : task.attempt around path (task.announced around path world) with ⟨run, after⟩
  rcases houtcome : run.outcome with fault | failures
  · rcases fault.failure_or_foreign with ⟨cause, rfl⟩ | hforeign
    · rw [runScript_of_failure hattempt houtcome]
      exact .failed hattempt houtcome
    · rw [runScript_of_fault hattempt houtcome hforeign]
      exact .broken hattempt houtcome hforeign
  · rw [runScript_of_ok hattempt houtcome]
    exact .finished hattempt houtcome

/-- A script with a result is followed by the scripts behind it. -/
theorem runScripts_cons_of_ok (h : task.runScript around path world = (.ok result, after))
    (paths : List Path) :
    task.runScripts around (path :: paths) world =
      ((task.runScripts around paths after).1.map fun results => result :: results,
        (task.runScripts around paths after).2) := by
  simp only [runScripts, h]

/-- A script with a fault ends the task. -/
theorem runScripts_cons_of_error {fault : Fault}
    (h : task.runScript around path world = (.error fault, after)) (paths : List Path) :
    task.runScripts around (path :: paths) world = (.error fault, after) := by
  simp only [runScripts, h]

/-- What a task comes to if it is run. -/
theorem execute_eq {paths : List Path} (hvalid : task.problem? = none) (hskip : task.skip = false)
    (hpaths : around.files.discover around.settings.scriptPattern task.scripts = .ok paths) :
    task.execute around world =
      match task.runScripts around paths world with
      | (.error fault, last) => (.error fault, last)
      | (.ok results, last) => (.ok results, last.log (completed results)) := by
  unfold execute
  rw [hvalid, hskip, hpaths]
  rfl

/-- Whatever becomes of a script, behind it there is the network that its attempt has left. -/
theorem later_runScript (task : Task) (around : Surroundings) (path : Path) (world : World) :
    world.Later (task.runScript around path world).2 := by
  have hattempted := later_attempt task around path (task.announced around path world)
  have hbegun : world.Later (task.announced around path world) := .of_eq rfl rfl rfl
  have hend := script_end task around path world
  generalize task.runScript around path world = ended at hend
  cases hend with
  | finished hattempt | failed hattempt =>
      rw [hattempt] at hattempted
      exact (hbegun.trans hattempted).trans (.of_eq rfl rfl rfl)
  | broken hattempt =>
      rw [hattempt] at hattempted
      exact hbegun.trans hattempted

/-! ## Sockets -/

/-- The pause between two attempts at a connection. -/
def connectPause (around : Surroundings) : Int :=
  Network.Patience.pauseOf around.settings.connectPollMillis

section Sockets

variable {left : Prop} (h : task.problem? = none) (around : Surroundings)

include h

theorem closes_attempt (path : Path) {world : World}
    (hpause : world.clock.Takes (connectPause around) ∨ left) :
    world.Closes left (task.attempt around path world).2 := by
  have hend := attempt_end task around path world
  generalize task.attempt around path world = result at hend
  cases hend with
  | unprepared hprepared hlater hsockets => exact .of_eq hsockets
  | ran hprepared hlater hsockets hlinks hran =>
      subst hran
      -- The links are new, so none of them holds a socket of an earlier script.
      refine World.Closes.trans (.of_eq hsockets) (World.closes_runSessions ?_ ?_ ?_ _ _ _)
      · rw [hlinks, labels_freshLinks]
        exact nodup_labels h
      · rw [hlinks]
        exact fun link hlink => (of_mem_freshLinks hlink).1
      · intro link hlink
        rw [hlinks] at hlink
        obtain ⟨-, factory, hconfig⟩ := of_mem_freshLinks hlink
        rw [hconfig]
        exact hpause.imp_left fun htakes => htakes.congr hlater.limited

theorem closes_runScript (path : Path) {world : World}
    (hpause : world.clock.Takes (connectPause around) ∨ left) :
    world.Closes left (task.runScript around path world).2 := by
  have hbegun : (task.announced around path world).clock.Takes (connectPause around) ∨ left := hpause
  have hattempted := closes_attempt h around path hbegun
  have hend := script_end task around path world
  generalize task.runScript around path world = ended at hend
  cases hend with
  | finished hattempt | failed hattempt | broken hattempt =>
      rw [hattempt] at hattempted
      exact hattempted

theorem closes_runScripts (paths : List Path) {world : World}
    (hpause : world.clock.Takes (connectPause around) ∨ left) :
    world.Closes left (task.runScripts around paths world).2 := by
  induction paths generalizing world with
  | nil => exact .of_eq rfl
  | cons path rest ih =>
      have hfirst := closes_runScript h around path hpause
      have hlater := later_runScript task around path world
      rcases hrun : task.runScript around path world with ⟨fault | result, after⟩
      · rw [hrun] at hfirst
        rw [runScripts_cons_of_error hrun]
        exact hfirst
      · rw [hrun] at hfirst hlater
        rw [runScripts_cons_of_ok hrun]
        exact hfirst.trans (ih (hpause.imp_left fun htakes => htakes.congr hlater.limited))

end Sockets

/-- A pause of more than three hundred years is refused, and the socket in front of it is left open.
-/
example :
    let path : Path := ⟨"", ["a.mpt"]⟩
    let around : Surroundings := ⟨{ connectPollMillis := 10000000000000 },
      ⟨[[]], [(["a.mpt"], [])]⟩, ⟨2024, 10, 7, 14, 3, 9, 0⟩⟩
    let task : Task := { scripts := [path], hosts := [⟨"imap", "127.0.0.1", 143⟩] }
    let world := { World.ofServices [⟨"127.0.0.1", 143, [⟨[115], [], [], none⟩], none, none⟩]
      with clock := .system }
    let ended := task.execute around world
    (faultOf? ended.1).map Fault.typeName = some "OverflowError" ∧
      ended.2.sockets.map Network.Socket.calls = [[.connect]] := by
  decide +kernel

end Task

end MailScript
