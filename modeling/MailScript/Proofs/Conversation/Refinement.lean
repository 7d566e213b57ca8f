import MailScript.Proofs.Conversation.Lifecycle
import MailScript.Proofs.Conversation.Sending
import MailScript.Proofs.Memory
import MailScript.Proofs.Network.Delivery
import Mathlib.Data.List.Nodup

/-! # Sessions in memory and links to servers

A script that runs over links does what it does with sessions in memory that have the lines of the
servers. It may do more only where a session in memory has run out of lines. -/

namespace MailScript

/-! ## What is written -/

namespace Memory

/-- What an action writes to the session of a label. -/
def Action.writing? (label : String) : Action → Option Network.Writing
  | .wrote other line => if other = label then some (.line line) else none
  | .uploaded other attachment => if other = label then some (.upload attachment) else none
  | _ => none

/-- What was written to the session of a label, as the bytes that a link puts on its connection. -/
def World.wireBytes (world : World) (label : String) : List UInt8 :=
  (world.trace.filterMap (Action.writing? label)).flatMap Network.Writing.bytes

/-- A session was asked for a line when it had none left. -/
def Action.isExhaustion : Action → Bool
  | .exhausted _ => true
  | _ => false

/-- A session has run out of lines. -/
def World.RanOut (world : World) : Prop :=
  ∃ action ∈ world.trace, action.isExhaustion

instance : DecidablePred World.RanOut := fun world =>
  inferInstanceAs (Decidable (∃ action ∈ world.trace, action.isExhaustion))

/-- Sessions in memory that deliver certain lines and never ask to resume, with a clock. -/
def World.ofLines (lines : List (String × List String)) (clock : Clock) : World :=
  { World.ofSessions (lines.map fun entry => ⟨entry.1, entry.2, .never, none, none⟩) with
    clock := clock }

theorem World.declare_of_forall {session : Session} {declared : List Session}
    (h : ∀ other ∈ declared, other.label ≠ session.label) :
    declare session declared = declared ++ [session] := by
  induction declared with
  | nil => rfl
  | cons other rest ih =>
      rw [List.forall_mem_cons] at h
      rw [declare, if_neg h.1, ih h.2]
      rfl

/-- Sessions of different labels are declared as they are. -/
theorem World.sessions_ofSessions {sessions : List Session}
    (h : (sessions.map Session.label).Nodup) : (ofSessions sessions).sessions = sessions := by
  suffices hfold : ∀ declared : List Session, ((declared ++ sessions).map Session.label).Nodup →
      sessions.foldl (fun declared session => declare session declared) declared =
        declared ++ sessions from hfold [] h
  clear h
  induction sessions with
  | nil => exact fun declared _ => (List.append_nil declared).symm
  | cons session rest ih =>
      intro declared h
      have hdeclare : declare session declared = declared ++ [session] := by
        refine declare_of_forall fun other hother hsame => ?_
        rw [List.map_append, List.nodup_append] at h
        exact h.2.2 _ (List.mem_map_of_mem hother) _ (List.mem_map_of_mem List.mem_cons_self) hsame
      rw [List.append_cons] at h ⊢
      rw [List.foldl_cons, hdeclare, ih _ h]

theorem World.wireBytes_add (world : World) (action : Action) (label : String) :
    (world.add action).wireBytes label =
      world.wireBytes label ++ (action.writing? label).toList.flatMap Network.Writing.bytes := by
  simp only [wireBytes, add, List.filterMap_append, List.flatMap_append]
  cases h : action.writing? label <;> simp [h]

end Memory

/-! ## Two worlds -/

/-- Sessions in memory and links of the same labels, with clocks that refuse the same pauses: each
link is ready to deliver the lines of its session, and what was written to the session is on its
connection. -/
structure Corresponds (labels : List String) (memory : Memory.World) (network : Network.World) :
    Prop where
  quiet : memory.Uniform .never
  labels_eq : memory.sessions.map Memory.Session.label = labels
  orderly : network.Orderly labels
  limited : memory.clock.limited = network.clock.limited
  plain : ∀ session ∈ memory.sessions, ∀ line ∈ session.lines, Network.Plain line
  ready : ∀ session ∈ memory.sessions,
    network.Ready session.label session.lines (memory.wireBytes session.label)

namespace Corresponds

variable {labels : List String} {memory memory' : Memory.World} {network network' : Network.World}

theorem of_eq (h : Corresponds labels memory network) (hsessions : memory'.sessions = memory.sessions)
    (htrace : memory'.trace = memory.trace) (hlinks : network'.links = network.links)
    (hsockets : network'.sockets = network.sockets)
    (hlimited : memory'.clock.limited = memory.clock.limited)
    (hlimited' : network'.clock.limited = network.clock.limited) :
    Corresponds labels memory' network' where
  quiet := fun session hsession => h.quiet session (hsessions ▸ hsession)
  labels_eq := hsessions ▸ h.labels_eq
  orderly := h.orderly.of_eq hlinks
  limited := hlimited.trans (h.limited.trans hlimited'.symm)
  plain := hsessions ▸ h.plain
  ready := by
    intro session hsession
    have hready := (h.ready session (hsessions ▸ hsession)).of_eq hlinks hsockets hlimited'
    unfold Memory.World.wireBytes
    rw [htrace]
    exact hready

/-- The session of a label. -/
theorem exists_session (h : Corresponds labels memory network) {label : String}
    (hlabel : label ∈ labels) :
    ∃ session ∈ memory.sessions, memory.session? label = some session ∧ session.label = label := by
  rw [← h.labels_eq] at hlabel
  obtain ⟨session, hsession, rfl⟩ := List.mem_map.mp hlabel
  have hsome : (memory.session? session.label).isSome :=
    List.find?_isSome.mpr ⟨session, hsession, by simp⟩
  obtain ⟨found, hfound⟩ := Option.isSome_iff_exists.mp hsome
  exact ⟨found, List.mem_of_find?_eq_some hfound, hfound, by simpa using List.find?_some hfound⟩

/-- A line that a session in memory delivers is delivered by its link as well. -/
theorem deliver (h : Corresponds labels memory network) {session : Memory.Session}
    (hsession : session ∈ memory.sessions) {line : String} {rest : List String}
    (hlines : session.lines = line :: rest) :
    ∃ network', network.readLine session.label = (.ok line, network') ∧
      Corresponds labels
        ((memory.change session.label fun session => { session with lines := rest }).add
          (.delivered session.label line)) network' := by
  have hready := h.ready session hsession
  have hplain := h.plain session hsession
  rw [hlines] at hready hplain
  obtain ⟨network', hread, horderly, hlimited, hafter, hothers⟩ :=
    hready.work h.orderly Network.Station.kept_readLine fun station hstation =>
      hstation.readLine (hplain line List.mem_cons_self)
  have hbytes (label : String) :
      ((memory.change session.label fun session => { session with lines := rest }).add
        (.delivered session.label line)).wireBytes label = memory.wireBytes label := by
    rw [Memory.World.wireBytes_add]
    exact List.append_nil _
  refine ⟨network', hread, h.quiet.change _ _, ?_, horderly, h.limited.trans hlimited.symm, ?_, ?_⟩
  · refine Eq.trans ?_ h.labels_eq
    simp only [Memory.World.add, Memory.World.change, List.map_map]
    refine List.map_congr_left fun other _ => ?_
    simp only [Function.comp_apply]
    split <;> rfl
  · intro after hmem
    obtain ⟨other, hother, rfl⟩ := List.mem_map.mp hmem
    split
    · exact fun text htext => hplain text (List.mem_cons_of_mem _ htext)
    · exact h.plain other hother
  · intro after hmem
    rw [hbytes]
    obtain ⟨other, hother, rfl⟩ := List.mem_map.mp hmem
    split
    · rename_i hsame
      dsimp only
      rw [hsame]
      exact hafter
    · rename_i hdifferent
      exact hothers _ _ _ (Ne.symm hdifferent) (h.ready other hother)

/-- What is written to a session in memory is written to its link as well. -/
theorem write (h : Corresponds labels memory network) {label : String} (hlabel : label ∈ labels)
    {action : Memory.Action} {writing : Network.Writing}
    (hsame : action.writing? label = some writing)
    (hother : ∀ other, label ≠ other → action.writing? other = none) :
    ∃ network', network.work label (Network.Station.write writing) = (.ok (), network') ∧
      Corresponds labels (memory.add action) network' := by
  obtain ⟨session, hsession, -, rfl⟩ := h.exists_session hlabel
  obtain ⟨network', hwrite, horderly, hlimited, hafter, hothers⟩ :=
    (h.ready session hsession).work h.orderly (Network.Station.kept_write writing)
      fun station hstation => hstation.write writing
  refine ⟨network', hwrite, h.quiet, h.labels_eq, horderly, h.limited.trans hlimited.symm, h.plain,
    fun other hmem => ?_⟩
  rw [Memory.World.wireBytes_add]
  by_cases heq : session.label = other.label
  · have hnodup := h.orderly.distinct
    rw [← h.labels_eq] at hnodup
    obtain rfl : session = other := List.inj_on_of_nodup_map hnodup hsession hmem heq
    rw [hsame]
    simpa using hafter
  · rw [hother _ heq]
    simpa using hothers _ _ _ heq (h.ready other hmem)

end Corresponds

namespace Conversation

/-! ## Two states -/

variable {World World' : Type}

/-- The same state over another world. -/
def State.over (state : State World) (world : World') : State World' :=
  ⟨state.position, state.current, state.phase, state.parked, state.failures, state.store, world,
    state.journal⟩

/-- An action over links ends as an action with sessions in memory does, unless a session has run
out of lines. -/
inductive Follows (labels : List String) {α : Type} :
    Except Fault α × State Memory.World → Except Fault α × State Network.World → Prop where
  | ranOut {fault : Fault} {state : State Memory.World}
      {result : Except Fault α × State Network.World} (h : state.world.RanOut) :
      Follows labels (.error fault, state) result
  | alike {outcome : Except Fault α} {state : State Memory.World} {network : Network.World}
      (hworld : Corresponds labels state.world network)
      (hcurrent : ∀ label, state.current = some label → label ∈ labels) :
      Follows labels (outcome, state) (outcome, state.over network)

/-- In states that differ in their worlds only, an action over links does what an action with
sessions in memory does. -/
def Refines (labels : List String) {α : Type} (act : Act Memory.World α)
    (act' : Act Network.World α) : Prop :=
  ∀ (state : State Memory.World) (network : Network.World), Corresponds labels state.world network →
    (∀ label, state.current = some label → label ∈ labels) →
      Follows labels (act.exec state) (act'.exec (state.over network))

namespace Refines

variable {labels : List String} {α β : Type}

theorem pure (x : α) :
    Refines labels (Pure.pure x : Act Memory.World α) (Pure.pure x) :=
  fun _ _ hworld hcurrent => .alike hworld hcurrent

theorem throw (fault : Fault) :
    Refines labels (MonadExcept.throw fault : Act Memory.World α) (MonadExcept.throw fault) :=
  fun _ _ hworld hcurrent => .alike hworld hcurrent

theorem bind {act : Act Memory.World α} {act' : Act Network.World α}
    {next : α → Act Memory.World β} {next' : α → Act Network.World β}
    (hact : Refines labels act act') (hnext : ∀ x, Refines labels (next x) (next' x)) :
    Refines labels (act >>= next) (act' >>= next') := by
  intro state network hworld hcurrent
  have hfirst := hact state network hworld hcurrent
  rw [exec_bind, exec_bind]
  generalize act.exec state = result, act'.exec (state.over network) = result' at hfirst
  cases hfirst with
  | ranOut h => exact .ranOut h
  | @alike outcome after network' hworld' hcurrent' =>
      cases outcome with
      | error fault => exact .alike hworld' hcurrent'
      | ok x => exact hnext x after network' hworld' hcurrent'

theorem enter (entry : JournalEntry) :
    Refines labels (Conversation.enter entry : Act Memory.World Unit) (Conversation.enter entry) :=
  fun _ _ hworld hcurrent => .alike hworld hcurrent

/-- What comes next may depend on all of a state but its world. -/
theorem get_bind {next : State Memory.World → Act Memory.World β}
    {next' : State Network.World → Act Network.World β}
    (hnext : ∀ state network, Refines labels (next state) (next' (state.over network))) :
    Refines labels (get >>= next) (get >>= next') :=
  fun state network hworld hcurrent => hnext state network state network hworld hcurrent

/-- A call that writes does the same in memory and over a link. -/
theorem perform {label : String} (hlabel : label ∈ labels) (action : Memory.Action)
    (writing : Network.Writing) (hsame : action.writing? label = some writing)
    (hother : ∀ other, label ≠ other → action.writing? other = none) :
    Refines labels
      (Conversation.perform fun world : Memory.World => (.ok (), world.add action))
      (Conversation.perform (Network.World.work label (Network.Station.write writing))) := by
  intro state network hworld hcurrent
  obtain ⟨network', hwrite, hafter⟩ := hworld.write hlabel hsame hother
  rw [exec_perform, exec_perform]
  change Follows labels _ ((network.work label _).1, State.over _ (network.work label _).2)
  rw [hwrite]
  exact .alike hafter hcurrent

theorem writeLine {label : String} (hlabel : label ∈ labels) (line : String) :
    Refines labels
      (Conversation.perform fun world : Memory.World => (.ok (), world.add (.wrote label line)))
      (Conversation.perform (Network.World.writeLine label line)) :=
  perform hlabel (.wrote label line) (.line line) (if_pos rfl) fun _ hne => if_neg hne

theorem upload {label : String} (hlabel : label ∈ labels) (attachment : Attachment) :
    Refines labels
      (Conversation.perform fun world : Memory.World =>
        (.ok (), world.add (.uploaded label attachment)))
      (Conversation.perform (Network.World.upload label attachment)) :=
  perform hlabel (.uploaded label attachment) (.upload attachment) (if_pos rfl) fun _ hne =>
    if_neg hne

end Refines

/-- The same script with sessions in memory and over links of the same labels. -/
structure Counterpart (labels : List String) (conversation : Conversation Memory.World)
    (other : Conversation Network.World) : Prop where
  sessions : ∃ memory, conversation.sessions = Memory.sessions memory
  links : ∃ network, other.sessions = Network.sessions network
  labels_eq : conversation.sessions.labels = labels
  labels_eq' : other.sessions.labels = labels
  elements : conversation.elements = other.elements
  keepGoing : conversation.keepGoing = other.keepGoing

namespace Counterpart

variable {labels : List String} {conversation : Conversation Memory.World}
  {other : Conversation Network.World} (h : Counterpart labels conversation other)

include h

theorem log (event : Event) : Refines labels (conversation.log event) (other.log event) := by
  obtain ⟨memory, hmemory⟩ := h.sessions
  obtain ⟨network, hnetwork⟩ := h.links
  intro state world hworld hcurrent
  rw [exec_log, exec_log, hmemory, hnetwork]
  exact .alike (hworld.of_eq rfl rfl rfl rfl rfl rfl) hcurrent

/-- A pause that one clock refuses is refused by the other one. -/
theorem wait (seconds : Binary64) :
    Refines labels (conversation.wait seconds) (other.wait seconds) := by
  obtain ⟨memory, hmemory⟩ := h.sessions
  obtain ⟨network, hnetwork⟩ := h.links
  intro state world hworld hcurrent
  have hslept : ((other.sessions.pause seconds world).1 : Except Fault Unit) =
      (conversation.sessions.pause seconds state.world).1 := by
    rw [hmemory, hnetwork]
    exact congrArg (Except.mapError Fault.pauseRefused) (Clock.sleep_congr hworld.limited _).symm
  unfold Conversation.wait
  rw [exec_perform, exec_perform]
  change Follows labels _ ((other.sessions.pause seconds world).1,
    State.over _ (other.sessions.pause seconds world).2)
  rw [hslept]
  refine .alike ?_ hcurrent
  rw [hmemory, hnetwork]
  exact hworld.of_eq rfl rfl rfl rfl (Clock.limited_sleep ..) (Clock.limited_sleep ..)

theorem assign (binding : Binding) :
    Refines labels (conversation.assign binding) (other.assign binding) := by
  unfold Conversation.assign
  exact .bind (fun _ _ hworld hcurrent => .alike hworld hcurrent) fun _ => h.log _

theorem report (failure : Failure) :
    Refines labels (conversation.report failure) (other.report failure) := by
  unfold Conversation.report
  rw [h.keepGoing]
  split
  · exact .bind (fun _ _ hworld hcurrent => .alike hworld hcurrent) fun _ => h.log _
  · exact .throw _

theorem switchTo (label : String) :
    Refines labels (conversation.switchTo label) (other.switchTo label) := by
  obtain ⟨memory, hmemory⟩ := h.sessions
  obtain ⟨network, hnetwork⟩ := h.links
  intro state world hworld hcurrent
  rw [exec_switchTo, exec_switchTo, h.labels_eq, h.labels_eq']
  split
  · rename_i hlabel
    rw [hmemory, hnetwork]
    refine .alike (hworld.of_eq rfl rfl rfl rfl rfl rfl) fun current hother => ?_
    cases hother
    exact List.contains_iff_mem.mp hlabel
  · exact .alike hworld hcurrent

/-- What comes next has the same session in use, or there is none to be used. -/
theorem currentLabel_bind {α : Type} {next : String → Act Memory.World α}
    {next' : String → Act Network.World α}
    (hnext : ∀ label ∈ labels, Refines labels (next label) (next' label)) :
    Refines labels (conversation.currentLabel >>= next) (other.currentLabel >>= next') := by
  intro state network hworld hcurrent
  obtain ⟨position, current, phase, parked, failures, store, world, journal⟩ := state
  rw [exec_bind, exec_bind, exec_currentLabel, exec_currentLabel, h.labels_eq, h.labels_eq']
  cases current with
  | some label => exact hnext label (hcurrent label rfl) _ network hworld hcurrent
  | none =>
      cases labels with
      | nil => exact .alike hworld hcurrent
      | cons label rest =>
          refine hnext label List.mem_cons_self _ network hworld fun other hother => ?_
          cases hother
          exact List.mem_cons_self

theorem currentLabel : Refines labels conversation.currentLabel other.currentLabel := by
  have hbind : Refines labels (conversation.currentLabel >>= Pure.pure)
      (other.currentLabel >>= Pure.pure) := h.currentLabel_bind fun label _ => .pure label
  rwa [bind_pure, bind_pure] at hbind

theorem readLine (index : Nat) :
    Refines labels (conversation.readLine index) (other.readLine index) := by
  obtain ⟨memory, hmemory⟩ := h.sessions
  obtain ⟨links, hlinks⟩ := h.links
  unfold Conversation.readLine
  refine h.currentLabel_bind fun label hlabel state network hworld hcurrent => ?_
  rw [exec_get_bind, exec_get_bind, exec_bind_ok (exec_enter ..), exec_bind_ok (exec_enter ..),
    hmemory, hlinks]
  obtain ⟨session, hsession, hfound, rfl⟩ := hworld.exists_session hlabel
  change Follows labels
    (Act.exec (conversation.follow (Memory.readLine Memory.closedByPeer session.label
      state.view state.world) >>= _) _)
    (Act.exec (other.follow (Network.World.reading session.label state.view network) >>= _) _)
  -- Sessions that never ask to resume deliver their next line and do nothing else, as links do.
  rw [hworld.quiet.readLine_eq _ _ _ (.inl rfl)]
  unfold Memory.deliver
  rw [hfound, Option.map_some]
  cases hlines : session.lines with
  | nil =>
      -- What a link does at the end of its stream is left open.
      exact .ranOut ⟨.exhausted session.label, List.mem_append_right _ List.mem_cons_self, rfl⟩
  | cons line rest =>
      obtain ⟨network', hread, hafter⟩ := hworld.deliver hsession hlines
      unfold Network.World.reading
      rw [hread]
      exact .alike hafter hcurrent

theorem send (step : Step) : Refines labels (conversation.send step) (other.send step) := by
  obtain ⟨memory, hmemory⟩ := h.sessions
  obtain ⟨links, hlinks⟩ := h.links
  unfold Conversation.send
  refine .bind (.enter _) fun _ => ?_
  rw [hmemory, hlinks]
  cases step.element with
  | request template =>
      refine h.currentLabel_bind fun label hlabel => .get_bind fun state network => ?_
      exact .bind (.enter _) fun _ => .writeLine hlabel _
  | upload attachment =>
      refine h.currentLabel_bind fun label hlabel => .get_bind fun state network => ?_
      exact .bind (.enter _) fun _ => .upload hlabel attachment
  | _ => exact .pure ()

theorem runCongruence : RunCongruence conversation other (Refines labels) where
  pure := .pure
  throw _ := .throw _
  bind := .bind
  enter _ := .enter _
  log := h.log
  wait := h.wait
  assign := h.assign
  report := h.report
  currentLabel := h.currentLabel
  switchTo := h.switchTo
  readLine := h.readLine
  elements := h.elements
  start _ := .enter _
  send _ := h.send _
  pass _ := fun _ _ hworld hcurrent => .alike hworld hcurrent
  expectPrompt := fun _ _ hworld hcurrent => .alike hworld hcurrent
  takeParked := fun _ _ hworld hcurrent => .alike hworld hcurrent
  look hnext := fun state network hworld hcurrent =>
    hnext state (state.over network) rfl rfl state network hworld hcurrent

/-- A whole run over links is one with sessions in memory. -/
theorem execute : Refines labels conversation.execute other.execute :=
  (h.runCongruence).execute fun _ _ hworld _ => .alike hworld nofun

end Counterpart

/-! ## Whole runs -/

/-- Links that have all been started serve the lines that their peers send. -/
theorem serves_of_startAll {conversation : Conversation Network.World} {world : Network.World}
    (hsessions : conversation.sessions = Network.sessions world)
    {lines : List (String × List String)} {state after : State Network.World}
    (hlabels : state.world.links.map (fun link => link.config.label) = lines.map Prod.fst)
    (hdistinct : (lines.map Prod.fst).Nodup)
    (hidle : ∀ link ∈ state.world.links, link.socket = none)
    (hstart : (conversation.startAll (lines.map Prod.fst)).exec state = (.ok (), after))
    (hmeets : ∀ entry ∈ lines, ∀ place link,
      after.world.findLink entry.1 = some (place, link) →
        (after.world.station link).Meets entry.2) :
    after.world.Serves lines := by
  -- Here it does not matter what becomes of a socket whose link cannot pause.
  have haccounted : state.world.Accounted True (lines.map Prod.fst) state.world.sockets :=
    hlabels ▸ Network.World.accounted_of_idle hidle fun _ _ => .inr trivial
  have hfree : ∀ label ∈ lines.map Prod.fst, state.world.Idle label :=
    fun _ _ link hlink _ => hidle link hlink
  have hend := accounted_startAll hsessions hdistinct haccounted hfree
  rw [hstart] at hend
  exact ⟨hend.orderly hdistinct, fun entry hentry =>
    fresh_startAll hsessions hstart (.inl (List.mem_map_of_mem hentry)), hmeets⟩

/-- At the start links serve the lines that the sessions in memory have. -/
theorem corresponds_of_serves {lines : List (String × List String)} {network : Network.World}
    (h : network.Serves lines)
    (hlines : ∀ entry ∈ lines, ∀ line ∈ entry.2, Network.Plain line) :
    Corresponds (lines.map Prod.fst) (Memory.World.ofLines lines network.clock) network := by
  have hlabels : (lines.map fun entry => (⟨entry.1, entry.2, .never, none, none⟩ :
      Memory.Session)).map Memory.Session.label = lines.map Prod.fst := by
    rw [List.map_map]
    rfl
  have hsessions : (Memory.World.ofLines lines network.clock).sessions =
      lines.map fun entry => ⟨entry.1, entry.2, .never, none, none⟩ :=
    Memory.World.sessions_ofSessions (hlabels ▸ h.orderly.distinct)
  refine ⟨?_, hsessions ▸ hlabels, h.orderly, rfl, ?_, ?_⟩
  · intro session hsession
    rw [hsessions] at hsession
    obtain ⟨entry, -, rfl⟩ := List.mem_map.mp hsession
    rfl
  · intro session hsession
    rw [hsessions] at hsession
    obtain ⟨entry, hentry, rfl⟩ := List.mem_map.mp hsession
    exact hlines entry hentry
  · intro session hsession
    rw [hsessions] at hsession
    obtain ⟨entry, hentry, rfl⟩ := List.mem_map.mp hsession
    exact h.ready hentry

/-- A script does the same over links as with sessions in memory that have the lines of the peers
and the same clock, however these come in and however the writes go out, unless a session runs out
of lines. What was written to each session is on the connection of its link. -/
theorem execute_over_links {lines : List (String × List String)} {network : Network.World}
    (hnetwork : network.Serves lines)
    (hlines : ∀ entry ∈ lines, ∀ line ∈ entry.2, Network.Plain line) (elements : List Element)
    (keepGoing : Bool) (store : Variables) :
    let memory := Memory.World.ofLines lines network.clock
    let inMemory : Conversation Memory.World := ⟨Memory.sessions memory, elements, keepGoing⟩
    let overLinks : Conversation Network.World := ⟨Network.sessions network, elements, keepGoing⟩
    let expected := inMemory.execute.exec (.initial store memory)
    let actual := overLinks.execute.exec (.initial store network)
    ¬ expected.2.world.RanOut →
      actual.1 = expected.1 ∧ actual.2.failures = expected.2.failures ∧
        actual.2.store = expected.2.store ∧
        ∀ entry ∈ lines, (actual.2.world.connection? entry.1).map Network.Socket.sent =
          some (expected.2.world.wireBytes entry.1) := by
  intro memory inMemory overLinks expected actual hlasted
  have hworlds := corresponds_of_serves hnetwork hlines
  have hcounterpart : Counterpart (lines.map Prod.fst) inMemory overLinks :=
    ⟨⟨memory, rfl⟩, ⟨network, rfl⟩, hworlds.labels_eq, hnetwork.orderly.labels_eq, rfl, rfl⟩
  have hfollows : Follows (lines.map Prod.fst) expected actual :=
    hcounterpart.execute (.initial store memory) network hworlds nofun
  generalize expected = result, actual = result' at hfollows hlasted
  cases hfollows with
  | ranOut h => exact absurd h hlasted
  | @alike _ _ after hworld _ =>
      refine ⟨rfl, rfl, rfl, fun entry hentry => ?_⟩
      obtain ⟨session, hsession, -, hlabel⟩ :=
        hworld.exists_session (List.mem_map_of_mem hentry)
      obtain ⟨place, link, hfind, hready⟩ := hworld.ready session hsession
      obtain ⟨socket, hsocket, -, hsent⟩ := hready.connection
      have hconnection := Network.World.connection?_eq_some_iff.mpr ⟨place, link, hfind, hsocket⟩
      rw [hlabel] at hconnection hsent
      change (after.connection? entry.1).map Network.Socket.sent = _
      rw [hconnection, Option.map_some, hsent]

section

open Network

/-- Two links of which one gets its lines in pieces and sends in parts. Its second line ends up in
what is sent over the other link, whose first line is not the expected one. -/
theorem execute_over_links_of_chunks :
    let lines := [("imap", ["* OK ready", "a1 OK token=x7"]), ("smtp", ["220 Gr\xfc\xdf"])]
    let elements : List Element := [.response "\\* OK .*" ⟨"t.mpt:1", none⟩ [], .request "a1 LOGIN",
      .response "a1 OK token=(.*)" ⟨"t.mpt:3", some "a1 LOGIN"⟩ ["token"], .switch "smtp",
      .response "250" ⟨"t.mpt:5", none⟩ [], .request "EHLO $\x7btoken\x7d \xfc"]
    let receipts : List Receipt := [.retry, .data (lineBytes "* OK re"), .retry,
      .data (lineBytes "ady" ++ [carriageReturn]),
      .data (lineFeed :: lineBytes "a1 OK token=x7" ++ [carriageReturn, lineFeed])]
    let services : List Service :=
      [⟨"localhost", 143, [⟨[], receipts, [.upTo 2, .retry, .upTo 0, .upTo 5], none⟩], none, none⟩,
        ⟨"localhost", 25, [⟨[], [.data (wire ["220 Gr\xfc\xdf"])], [], none⟩], none, none⟩]
    let link (label : String) (port : Int) : Link :=
      .fresh (.ofSettings {} ⟨label, "localhost", port⟩ none none none none none)
    let idle : Network.World :=
      { Network.World.ofServices services with
        links := [link "imap" 143, link "smtp" 25], clock := .system }
    let first := (idle.start "imap").2
    let network := (first.start "smtp").2
    let memory := Memory.World.ofLines lines network.clock
    let inMemory : Conversation Memory.World := ⟨Memory.sessions memory, elements, true⟩
    let overLinks : Conversation Network.World := ⟨Network.sessions network, elements, true⟩
    let expected := inMemory.execute.exec (.initial .empty memory)
    let actual := overLinks.execute.exec (.initial .empty network)
    network.Serves lines ∧ (∀ entry ∈ lines, ∀ line ∈ entry.2, Plain line) ∧
      ¬ expected.2.world.RanOut ∧ actual.1.toOption = some () ∧
      actual.2.failures.map Failure.message =
        [(Failure.mismatch ⟨"t.mpt:5", none⟩ "250" "220 Gr\xfc\xdf").message] ∧
      actual.2.store.get "token" = some "x7" ∧
      (actual.2.world.connection? "imap").map Socket.sent =
        some (Text.encodeAscii "a1 LOGIN" ++ Station.lineEnding) ∧
      (actual.2.world.connection? "smtp").map Socket.sent =
        some (Text.encodeAscii "EHLO x7 ?" ++ Station.lineEnding) := by
  intro lines elements receipts services link idle first network memory inMemory overLinks expected
    actual
  have hserves : network.Serves lines := by
    let conversation : Conversation Network.World := ⟨Network.sessions idle, elements, true⟩
    have hfirst : (perform (conversation.sessions.start "imap")).exec (.initial .empty idle) =
        (.ok (), .initial .empty first) := (exec_perform ..).trans (Prod.ext rfl rfl)
    have hsecond : (perform (conversation.sessions.start "smtp")).exec (.initial .empty first) =
        (.ok (), .initial .empty network) := (exec_perform ..).trans (Prod.ext rfl rfl)
    have hstart : (conversation.startAll (lines.map Prod.fst)).exec (.initial .empty idle) =
        (.ok (), .initial .empty network) := by
      change (conversation.startAll ["imap", "smtp"]).exec _ = _
      rw [startAll, exec_bind_ok hfirst, startAll, exec_bind_ok hsecond]
      rfl
    have himap : network.findLink "imap" =
        some (0, { link "imap" 143 with socket := some 0 }) := rfl
    have hsmtp : network.findLink "smtp" =
        some (1, { link "smtp" 25 with socket := some 1 }) := rfl
    have hidle : ∀ link ∈ idle.links, link.socket = none := by
      simp [idle, link, Link.fresh]
    have hdistinct : (lines.map Prod.fst).Nodup := by decide
    refine serves_of_startAll (rfl : conversation.sessions = Network.sessions idle) rfl hdistinct
      hidle hstart ?_
    simp only [lines, List.forall_mem_cons]
    refine ⟨fun place found hfound => ?_, fun place found hfound => ?_, by simp⟩
    · cases himap.symm.trans hfound
      exact ⟨rfl, Config.endless_ofSettings rfl _ _ _ _ _, by decide +kernel, by decide, _,
        rfl, by decide, by decide, by decide⟩
    · cases hsmtp.symm.trans hfound
      exact ⟨rfl, Config.endless_ofSettings rfl _ _ _ _ _, by decide +kernel, by decide, _,
        rfl, by decide, by decide, by decide⟩
  have hplain : ∀ entry ∈ lines, ∀ line ∈ entry.2, Plain line := by decide +kernel +zetaReduce
  have hresult := execute_over_links hserves hplain elements true .empty
  dsimp only [expected, actual, inMemory, overLinks, memory]
  have hlasted : ¬ ((⟨Memory.sessions (.ofLines lines network.clock), elements, true⟩ :
      Conversation _).execute.exec
        (.initial .empty (.ofLines lines network.clock))).2.world.RanOut := by
    decide +kernel +zetaReduce
  obtain ⟨houtcome, hfailures, hstore, hsent⟩ := hresult hlasted
  refine ⟨hserves, hplain, hlasted, ?_, ?_, ?_, ?_, ?_⟩
  · rw [houtcome]
    decide +kernel +zetaReduce
  · rw [hfailures]
    decide +kernel +zetaReduce
  · rw [hstore]
    decide +kernel +zetaReduce
  · rw [hsent ("imap", _) List.mem_cons_self]
    decide +kernel +zetaReduce
  · rw [hsent ("smtp", _) (List.mem_cons_of_mem _ List.mem_cons_self)]
    decide +kernel +zetaReduce

end

end Conversation

end MailScript
