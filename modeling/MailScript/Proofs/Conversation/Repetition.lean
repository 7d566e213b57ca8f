import MailScript.Proofs.Conversation.Captures
import MailScript.Proofs.Memory
import MailScript.Proofs.Template

/-! # Running a script again

A script may be run many times over the same sessions. A run begins at the first element with no
failures and nothing parked, but with the variables that the runs before it have left. Two runs do the
same if their sessions do the same and the variables that requests mention have the same values. -/

namespace MailScript

variable {World : Type}

/-! ## Sessions that do the same -/

/-- Two reads do the same, from worlds that are related to worlds that are related. -/
inductive Reading.Alike (R : World → World → Prop) : Reading World → Reading World → Prop where
  | line {text : String} {world world' : World} (h : R world world') :
      Alike R (.line text world) (.line text world')
  | broken {fault : Fault} {world world' : World} (h : R world world') :
      Alike R (.broken fault world) (.broken fault world')
  | resume {world world' : World}
      {next next' : Except Fault Unit → View → World → Reading World} (h : R world world')
      (hnext : ∀ outcome view world world', R world world' →
        Alike R (next outcome view world) (next' outcome view world')) :
      Alike R (.resume world next) (.resume world' next')

/-- Two calls end alike, in related worlds. -/
def Outcome.Alike (R : World → World → Prop) (outcome outcome' : Outcome World) : Prop :=
  outcome.1 = outcome'.1 ∧ R outcome.2 outcome'.2

/-- Sessions do the same in related worlds, which stay related. -/
structure Sessions.Respect (R : World → World → Prop) (sessions : Sessions World) : Prop where
  readLine : ∀ label view world world', R world world' →
    (sessions.readLine label view world).Alike R (sessions.readLine label view world')
  writeLine : ∀ label line world world', R world world' →
    Outcome.Alike R (sessions.writeLine label line world) (sessions.writeLine label line world')
  upload : ∀ label attachment world world', R world world' →
    Outcome.Alike R (sessions.upload label attachment world)
      (sessions.upload label attachment world')
  wait : ∀ seconds world world', R world world' →
    Outcome.Alike R (sessions.pause seconds world) (sessions.pause seconds world')
  log : ∀ event world world', R world world' →
    R (sessions.log event world) (sessions.log event world')

namespace Memory

/-- Two worlds have the same lines to deliver, and their clocks refuse the same pauses. -/
structure Similar (world world' : Memory.World) : Prop where
  sessions : world.sessions = world'.sessions
  limited : world.clock.limited = world'.clock.limited

theorem Similar.wait {world world' : Memory.World} (h : Similar world world')
    (seconds : Binary64) :
    (Memory.wait seconds world).1 = (Memory.wait seconds world').1 ∧
      Similar (Memory.wait seconds world).2 (Memory.wait seconds world').2 := by
  unfold Memory.wait Clock.sleep
  rw [Clock.refusal?_congr h.limited]
  cases world'.clock.refusal? (Clock.millisOf seconds) with
  | some error => exact ⟨rfl, h⟩
  | none => exact ⟨rfl, h.sessions, h.limited⟩

theorem deliver_alike (exhaustion : Exhaustion) (label : String) {world world' : Memory.World}
    (h : Similar world world') :
    Reading.Alike Similar (deliver exhaustion label world)
      (deliver exhaustion label world') := by
  unfold deliver Memory.World.session?
  rw [h.sessions]
  split
  · exact .line ⟨congrArg (List.map _) h.sessions, h.limited⟩
  · exact .broken ⟨h.sessions, h.limited⟩

/-- Sessions in memory do the same as long as they have the same lines to deliver. -/
theorem respect_sessions (world : Memory.World) (exhaustion : Exhaustion) :
    (sessions world exhaustion).Respect Similar where
  readLine label view world world' h := by
    change Reading.Alike _ (Memory.readLine exhaustion label view world)
      (Memory.readLine exhaustion label view world')
    unfold Memory.readLine Memory.World.session?
    rw [h.sessions]
    split
    · refine .resume ⟨h.sessions, h.limited⟩ fun outcome view world world' h => ?_
      cases outcome with
      | ok _ => exact deliver_alike exhaustion label ⟨h.sessions, h.limited⟩
      | error fault => exact .broken h
    · exact deliver_alike exhaustion label h
  writeLine _ _ _ _ h := ⟨rfl, h.sessions, h.limited⟩
  upload _ _ _ _ h := ⟨rfl, h.sessions, h.limited⟩
  wait seconds _ _ h := by
    obtain ⟨houtcome, hworld⟩ := h.wait seconds
    exact ⟨congrArg (Except.mapError _) houtcome, hworld⟩
  log _ _ _ h := ⟨h.sessions, h.limited⟩

end Memory

namespace Conversation

/-- A request of the script mentions a name. -/
def Mentions (conversation : Conversation World) (name : String) : Prop :=
  ∃ template, Element.request template ∈ conversation.elements ∧ Template.Mentions template name

/-! ## Twin states -/

/-- Two states agree but for their worlds, which are related, some variables and what was in their
journals at first. -/
structure Twin (R : World → World → Prop) (names : String → Prop) (first second : State World)
    (state state' : State World) : Prop where
  position : state.position = state'.position
  current : state.current = state'.current
  phase : state.phase = state'.phase
  parked : state.parked = state'.parked
  failures : state.failures = state'.failures
  store : ∀ name, names name → state.store.value? name = state'.store.value? name
  world : R state.world state'.world
  journal : ∃ entries, state.journal = first.journal ++ entries ∧
    state'.journal = second.journal ++ entries

namespace Twin

variable {R : World → World → Prop} {names : String → Prop} {first second state state' : State World}

theorem enter (h : Twin R names first second state state') (entry : JournalEntry) :
    Twin R names first second (state.enter entry) (state'.enter entry) := by
  obtain ⟨entries, hjournal, hjournal'⟩ := h.journal
  refine { h with journal := ⟨entries ++ [entry], ?_, ?_⟩ }
  · rw [State.enter, hjournal, List.append_assoc]
  · rw [State.enter, hjournal', List.append_assoc]

theorem inWorlds (h : Twin R names first second state state') {world world' : World}
    (hworld : R world world') :
    Twin R names first second { state with world := world } { state' with world := world' } :=
  { h with world := hworld }

theorem sight (h : Twin R names first second state state') : state.sight = state'.sight := by
  rw [State.sight, State.sight, h.position, h.phase, h.parked]

theorem view (h : Twin R names first second state state') : state.view = state'.view := by
  rw [State.view, State.view, h.position, h.phase]

end Twin

/-- In twin states an action ends alike, in twin states. -/
def Repeats (R : World → World → Prop) (names : String → Prop) (first second : State World)
    {α : Type} (act act' : Act World α) : Prop :=
  ∀ state state', Twin R names first second state state' →
    (act.exec state).1 = (act'.exec state').1 ∧
      Twin R names first second (act.exec state).2 (act'.exec state').2

namespace Repeats

variable {R : World → World → Prop} {names : String → Prop} {first second : State World}
  {α β : Type}

theorem pure (x : α) : Repeats R names first second (Pure.pure x : Act World α) (Pure.pure x) :=
  fun _ _ h => ⟨rfl, h⟩

theorem throw (fault : Fault) :
    Repeats R names first second (MonadExcept.throw fault : Act World α)
      (MonadExcept.throw fault) :=
  fun _ _ h => ⟨rfl, h⟩

/-- What comes next has to end alike only behind values that the action in front of it has. -/
theorem bind_of_ok {act act' : Act World α} {next next' : α → Act World β}
    (hact : Repeats R names first second act act')
    (hnext : ∀ state x after, act.exec state = (.ok x, after) →
      Repeats R names first second (next x) (next' x)) :
    Repeats R names first second (act >>= next) (act' >>= next') := by
  intro state state' h
  obtain ⟨houtcome, hafter⟩ := hact state state' h
  rcases hexec : act.exec state with ⟨outcome, after⟩
  rcases hexec' : act'.exec state' with ⟨outcome', after'⟩
  rw [hexec, hexec'] at houtcome hafter
  obtain rfl : outcome = outcome' := houtcome
  cases outcome with
  | error fault =>
      rw [exec_bind_error hexec, exec_bind_error hexec']
      exact ⟨rfl, hafter⟩
  | ok x =>
      rw [exec_bind_ok hexec, exec_bind_ok hexec']
      exact hnext state x after hexec after after' hafter

theorem bind {act act' : Act World α} {next next' : α → Act World β}
    (hact : Repeats R names first second act act')
    (hnext : ∀ x, Repeats R names first second (next x) (next' x)) :
    Repeats R names first second (act >>= next) (act' >>= next') :=
  hact.bind_of_ok fun _ x _ _ => hnext x

/-- What comes next may depend on all that twins agree in. -/
theorem get_bind {next next' : State World → Act World β}
    (hnext : ∀ state state', Twin R names first second state state' →
      Repeats R names first second (next state) (next' state')) :
    Repeats R names first second (get >>= next) (get >>= next') :=
  fun state state' h => hnext state state' h state state' h

theorem enter (entry : JournalEntry) :
    Repeats R names first second (Conversation.enter entry : Act World Unit)
      (Conversation.enter entry) :=
  fun _ _ h => ⟨rfl, h.enter entry⟩

theorem perform {call : World → Outcome World}
    (hcall : ∀ world world', R world world' → Outcome.Alike R (call world) (call world')) :
    Repeats R names first second (Conversation.perform call) (Conversation.perform call) := by
  intro state state' h
  obtain ⟨houtcome, hworld⟩ := hcall _ _ h.world
  rw [exec_perform, exec_perform]
  exact ⟨houtcome, h.inWorlds hworld⟩

variable {conversation : Conversation World}

theorem currentLabel :
    Repeats R names first second conversation.currentLabel conversation.currentLabel := by
  intro state state' h
  rw [exec_currentLabel, exec_currentLabel, ← h.current]
  cases hcurrent : state.current with
  | some label => exact ⟨rfl, h⟩
  | none =>
      cases conversation.sessions.labels with
      | nil => exact ⟨rfl, h⟩
      | cons label rest => exact ⟨rfl, { h with current := rfl }⟩

variable (hsessions : conversation.sessions.Respect R)

include hsessions

theorem log (event : Event) :
    Repeats R names first second (conversation.log event) (conversation.log event) :=
  fun _ _ h => ⟨rfl, h.inWorlds (hsessions.log event _ _ h.world)⟩

theorem assign (binding : Binding) :
    Repeats R names first second (conversation.assign binding) (conversation.assign binding) := by
  refine bind (fun state state' h => ⟨rfl, { h with store := fun name hname => ?_ }⟩) fun _ =>
    log hsessions _
  simp only [exec_modify, Variables.value?_set, h.store name hname]

theorem report (failure : Failure) :
    Repeats R names first second (conversation.report failure) (conversation.report failure) := by
  unfold Conversation.report
  split
  · refine bind (fun state state' h => ⟨rfl, { h with failures := ?_ }⟩) fun _ => log hsessions _
    exact congrArg (· ++ [failure]) h.failures
  · exact throw _

theorem switchTo (label : String) :
    Repeats R names first second (conversation.switchTo label) (conversation.switchTo label) := by
  unfold Conversation.switchTo
  split
  · exact bind (log hsessions _) fun _ _ _ h => ⟨rfl, { h with current := rfl }⟩
  · exact throw _

variable (hnames : ∀ name, conversation.Mentions name → names name)

include hnames

theorem send {step : Step} (hstep : step ∈ conversation.steps) :
    Repeats R names first second (conversation.send step) (conversation.send step) := by
  unfold Conversation.send
  refine bind (enter _) fun _ => ?_
  cases helement : step.element with
  | request template =>
      refine bind currentLabel fun label => get_bind fun state state' h => ?_
      have hmem : Element.request template ∈ conversation.elements :=
        helement ▸ element_mem_of_mem_steps hstep
      have hline : Template.fill template state.store = Template.fill template state'.store :=
        Template.fill_congr fun name hname => h.store name (hnames name ⟨template, hmem, hname⟩)
      rw [hline, h.sight]
      exact bind (enter _) fun _ => perform (hsessions.writeLine _ _)
  | upload attachment =>
      refine bind currentLabel fun label => get_bind fun state state' h => ?_
      rw [h.sight]
      exact bind (enter _) fun _ => perform (hsessions.upload _ _)
  | _ => exact pure ()

theorem runAhead (rest : List Step) (hrest : ∀ step ∈ rest, step ∈ conversation.steps) :
    Repeats R names first second (conversation.runAhead rest) (conversation.runAhead rest) := by
  induction rest with
  | nil => exact pure ()
  | cons step rest ih =>
      rw [List.forall_mem_cons] at hrest
      unfold Conversation.runAhead
      refine bind (fun _ _ h => ⟨rfl, { h with position := rfl }⟩) fun _ => ?_
      split
      · exact bind (send hsessions hnames hrest.1) fun _ => ih hrest.2
      · exact fun _ _ h => ⟨rfl, { h with parked := rfl }⟩

theorem resume : Repeats R names first second conversation.resume conversation.resume := by
  refine get_bind fun state state' h => ?_
  rw [h.phase, h.position]
  split
  · refine bind (fun _ _ _ => ⟨rfl, { h with position := rfl, phase := rfl }⟩) fun _ => ?_
    refine bind (runAhead hsessions hnames _ fun _ hstep => List.mem_of_mem_drop hstep) fun _ => ?_
    refine get_bind fun ahead ahead' hahead => ?_
    rw [resumedEvent, resumedEvent, hahead.position, hahead.parked]
    exact log hsessions _
  · exact report hsessions _

theorem follow {reading reading' : Reading World} (hreading : reading.Alike R reading') :
    Repeats R names first second (conversation.follow reading) (conversation.follow reading') := by
  induction hreading with
  | line h => exact fun _ _ htwin => ⟨rfl, htwin.inWorlds h⟩
  | broken h => exact fun _ _ htwin => ⟨rfl, htwin.inWorlds h⟩
  | resume h hnext ih =>
      intro state state' htwin
      obtain ⟨houtcome, hresumed⟩ := resume hsessions hnames _ _ (htwin.inWorlds h)
      rw [exec_follow_resume, exec_follow_resume]
      dsimp only
      rw [houtcome, hresumed.view]
      exact ih _ _ _ _ hresumed.world _ _ hresumed

theorem readLine (index : Nat) :
    Repeats R names first second (conversation.readLine index) (conversation.readLine index) := by
  unfold Conversation.readLine
  refine bind currentLabel fun label state state' h => ?_
  rw [exec_get_bind, exec_get_bind, h.sight, h.view]
  refine bind (enter _) (fun _ => ?_) state state' h
  refine bind (follow hsessions hnames (hsessions.readLine _ _ _ _ h.world)) fun line => ?_
  exact bind (enter _) fun _ => pure line

theorem congruence :
    Congruence conversation conversation (Repeats R names first second) where
  pure := pure
  throw _ := throw _
  bind := bind
  enter _ := enter _
  log := log hsessions
  wait seconds := perform (hsessions.wait seconds)
  assign := assign hsessions
  report := report hsessions
  currentLabel := currentLabel
  switchTo := switchTo hsessions
  readLine := readLine hsessions hnames

theorem runStep {step : Step} (hstep : step ∈ conversation.steps) :
    Repeats R names first second (conversation.runStep step) (conversation.runStep step) := by
  have htake : Repeats R names first second (takeParked : Act World (Option Step)) takeParked :=
    fun _ _ h => ⟨congrArg Except.ok h.parked, { h with phase := rfl, parked := rfl }⟩
  unfold Conversation.runStep
  split
  · exact bind (send hsessions hnames hstep) fun _ => pure none
  · refine bind (enter _) fun _ => ?_
    split
    · refine bind (fun _ _ h => ⟨rfl, { h with phase := rfl, parked := rfl }⟩) fun _ => ?_
      refine bind (readLine hsessions hnames _) fun line => ?_
      split
      · exact bind (report hsessions _) fun _ => htake
      · exact htake
    · exact bind ((congruence hsessions hnames).attend step) fun _ => pure none

theorem settle (fuel : Nat) {step : Step} (hstep : step ∈ conversation.steps) :
    Repeats R names first second (conversation.settle fuel step)
      (conversation.settle fuel step) := by
  induction fuel generalizing step with
  | zero => exact pure ()
  | succ fuel ih =>
      refine bind_of_ok (runStep hsessions hnames hstep) fun state parked after hrun => ?_
      cases parked with
      | none => exact pure ()
      | some parked => exact ih (mem_steps_of_runStep hrun)

theorem runRest (fuel : Nat) :
    Repeats R names first second (conversation.runRest fuel) (conversation.runRest fuel) := by
  induction fuel with
  | zero => exact pure ()
  | succ fuel ih =>
      refine get_bind fun state state' h => ?_
      rw [h.position]
      cases hnext : conversation.steps[state'.position]? with
      | none => exact pure ()
      | some step =>
          refine bind (fun _ _ h => ⟨rfl, { h with position := rfl }⟩) fun _ => ?_
          exact bind (settle hsessions hnames _ (List.mem_of_getElem? hnext)) fun _ => ih

/-- Two runs do the same if the names that requests mention have the same values at their starts. -/
theorem execute (hstore : ∀ name, names name → first.store.value? name = second.store.value? name)
    (hworld : R first.world second.world) :
    (conversation.execute.exec first).1 = (conversation.execute.exec second).1 ∧
      Twin R names first second (conversation.execute.exec first).2
        (conversation.execute.exec second).2 := by
  have hopened : Twin R names first second (conversation.opened first)
      (conversation.opened second) :=
    ⟨rfl, rfl, rfl, rfl, rfl, hstore, hsessions.log _ _ _ hworld,
      [], (List.append_nil _).symm, (List.append_nil _).symm⟩
  obtain ⟨houtcome, hlast⟩ := runRest hsessions hnames conversation.elements.length _ _ hopened
  rw [exec_execute, exec_execute]
  generalize (conversation.runRest conversation.elements.length).exec (conversation.opened first) =
    result, (conversation.runRest conversation.elements.length).exec (conversation.opened second) =
    result' at houtcome hlast
  obtain ⟨outcome, last⟩ := result
  obtain ⟨outcome', last'⟩ := result'
  obtain rfl : outcome = outcome' := houtcome
  cases outcome with
  | error fault => exact ⟨rfl, hlast⟩
  | ok _ =>
      refine ⟨rfl, hlast.inWorlds ?_⟩
      rw [hlast.failures]
      exact hsessions.log _ _ _ hlast.world

end Repeats

/-! ## Whole runs -/

/-- The states between runs of a script that has been given certain variables at first. The sessions
may have got anything to deliver in between. -/
inductive Reruns (conversation : Conversation World) (seed : Variables) : State World → Prop where
  | fresh (world : World) : Reruns conversation seed (.initial seed world)
  | again {state : State World} (h : Reruns conversation seed state) (world : World) :
      Reruns conversation seed { (conversation.execute.exec state).2 with world := world }

/-- Between runs the variables are those given at first with all that was captured since. -/
theorem Reruns.captured_store {conversation : Conversation World} {seed : Variables}
    {state : State World} (h : conversation.Reruns seed state) :
    state.store = seed.setAll (captured state.journal) ∧
      ∀ binding ∈ captured state.journal, binding.1 ∈ conversation.captureNames := by
  induction h with
  | fresh world => exact ⟨rfl, nofun⟩
  | @again state _ world ih =>
      have hexecute : conversation.execute.Within (Captures conversation.captureNames) := Captures.execute
      obtain ⟨entries, hjournal, hstore, hnames⟩ := hexecute state
      dsimp only
      rw [hjournal, hstore, ih.1, captured_append, Variables.setAll_append]
      exact ⟨rfl, List.forall_mem_append.mpr ⟨ih.2, hnames⟩⟩

/-- A name that no element captures has the value that it was given at first. -/
theorem Reruns.value?_eq {conversation : Conversation World} {seed : Variables}
    {state : State World} (h : conversation.Reruns seed state) {name : String}
    (hname : name ∉ conversation.captureNames) : state.store.value? name = seed.value? name := by
  rw [h.captured_store.1]
  refine Variables.value?_setAll_of_not_mem (fun hmem => hname ?_) seed
  obtain ⟨binding, hbinding, rfl⟩ := List.mem_map.mp hmem
  exact h.captured_store.2 binding hbinding

/-- Runs begin with the variables given at first and with what all runs before them have captured. If
that leaves the names that requests mention with the same values, two runs over sessions that do the
same do the same: they write the same lines, note the same failures, capture the same and end alike. -/
theorem execute_repeats {conversation : Conversation World} {R : World → World → Prop}
    (hsessions : conversation.sessions.Respect R) {seed : Variables} {first second : State World}
    (hfirst : conversation.Reruns seed first) (hsecond : conversation.Reruns seed second)
    (hworld : R first.world second.world) :
    (first.store = seed.setAll (captured first.journal) ∧
      second.store = seed.setAll (captured second.journal)) ∧
    (∀ name ∉ conversation.captureNames,
      first.store.value? name = seed.value? name ∧ second.store.value? name = seed.value? name) ∧
    ∀ names : String → Prop, (∀ name, conversation.Mentions name → names name) →
      (∀ name, names name → first.store.value? name = second.store.value? name) →
      ∃ outcome last last' entries, conversation.execute.exec first = (outcome, last) ∧
        conversation.execute.exec second = (outcome, last') ∧
        last.journal = first.journal ++ entries ∧ last'.journal = second.journal ++ entries ∧
        last.failures = last'.failures ∧
        (∀ name, names name → last.store.value? name = last'.store.value? name) ∧
        R last.world last'.world := by
  refine ⟨⟨hfirst.captured_store.1, hsecond.captured_store.1⟩,
    fun name hname => ⟨hfirst.value?_eq hname, hsecond.value?_eq hname⟩,
    fun names hnames hstores => ?_⟩
  obtain ⟨houtcome, hlast⟩ := Repeats.execute hsessions hnames hstores hworld
  rcases hexec : conversation.execute.exec first with ⟨outcome, last⟩
  rcases hexec' : conversation.execute.exec second with ⟨outcome', last'⟩
  rw [hexec, hexec'] at houtcome hlast
  obtain rfl : outcome = outcome' := houtcome
  obtain ⟨entries, hjournal, hjournal'⟩ := hlast.journal
  exact ⟨outcome, last, last', entries, rfl, rfl, hjournal, hjournal', hlast.failures, hlast.store,
    hlast.world⟩

/-- In between, another run has captured a value, and a third one has captured the first value
again. -/
theorem execute_repeats_of_restored :
    let served (line : String) : Memory.World := .ofSessions [⟨"imap", [line], .never, none, none⟩]
    let elements : List Element := [.request "$\x7bu\x7d", .response "(\\w+)" ⟨"t.mpt:2", none⟩ ["u"]]
    let conversation : Conversation Memory.World :=
      ⟨Memory.sessions (served "bob"), elements, false⟩
    let seed := Variables.empty.set "u" (some "ann")
    let first : State Memory.World := .initial seed (served "bob")
    let second := { (conversation.execute.exec first).2 with world := served "ann" }
    let third := { (conversation.execute.exec second).2 with world := served "bob" }
    second.store.get "u" = some "bob" ∧
    ∃ outcome last last' entries, conversation.execute.exec first = (outcome, last) ∧
      conversation.execute.exec third = (outcome, last') ∧
      last.journal = first.journal ++ entries ∧ last'.journal = third.journal ++ entries ∧
      last.failures = last'.failures ∧
      ∀ name, last.store.value? name = last'.store.value? name := by
  intro served elements conversation seed first second third
  have hsessions : conversation.sessions.Respect _ :=
    Memory.respect_sessions (served "bob") Memory.closedByPeer
  have hfirst : conversation.Reruns seed first := .fresh _
  have hsecond : conversation.Reruns seed second := .again hfirst (served "ann")
  have hthird : conversation.Reruns seed third := .again hsecond (served "bob")
  have hstores : first.store = third.store := by decide +kernel +zetaReduce
  have hbob : second.store.get "u" = some "bob" := by decide +kernel +zetaReduce
  have hrepeats := (execute_repeats hsessions hfirst hthird ⟨rfl, rfl⟩).2.2
    (fun _ => True) (fun _ _ => trivial) fun name _ => congrArg (Variables.value? · name) hstores
  clear_value first second third conversation
  obtain ⟨outcome, last, last', entries, hexec, hexec', hjournal, hjournal', hfailures, hstore, -⟩ :=
    hrepeats
  exact ⟨hbob, outcome, last, last', entries, hexec, hexec', hjournal, hjournal', hfailures,
    fun name => hstore name trivial⟩

/-- What a run has captured is still there in the next one, which sends it in place of the value given
at first. -/
theorem execute_differs_of_capture :
    let served : Memory.World := .ofSessions [⟨"imap", ["bob"], .never, none, none⟩]
    let elements : List Element := [.request "$\x7bu\x7d", .response "(\\w+)" ⟨"t.mpt:2", none⟩ ["u"]]
    let conversation : Conversation Memory.World := ⟨Memory.sessions served, elements, false⟩
    let first : State Memory.World := .initial (Variables.empty.set "u" (some "ann")) served
    let second := { (conversation.execute.exec first).2 with world := served }
    (conversation.execute.exec first).2.world.written = [.wrote "imap" "ann"] ∧
      (conversation.execute.exec second).2.world.written = [.wrote "imap" "bob"] := by
  decide +kernel +zetaReduce

end Conversation

end MailScript
