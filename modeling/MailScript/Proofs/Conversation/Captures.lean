import MailScript.Proofs.Conversation.Endings
import MailScript.Proofs.Conversation.Order
import MailScript.Proofs.Variables

/-! # What runs capture

Only an element that matches a line assigns variables, and it assigns what it has captured. So the
variables behind a run are those in front of it with everything that the run has captured. -/

namespace MailScript

/-! ## Capturing -/

/-- The names that an element captures. -/
def Element.captures : Element → List String
  | .response _ _ captures => captures
  | _ => []

/-- What an entry of a journal says was captured. -/
def JournalEntry.bindings : JournalEntry → List Binding
  | .captured _ bindings => bindings
  | _ => []

theorem names_of_matchLine {source line : String} {names : List String} {found : LineMatch}
    (h : matchLine source line names = .ok found) :
    ∀ binding ∈ found.captured, binding.1 ∈ names := by
  obtain ⟨pattern, -, hrest⟩ := ok_of_bind h
  obtain ⟨bindings, hcaptures, hfound⟩ := ok_of_bind hrest
  cases hfound
  unfold Pattern.captures at hcaptures
  dsimp only at hcaptures
  split at hcaptures
  · cases hcaptures
  · cases hcaptures
    intro binding hmem
    obtain ⟨pair, hpair, rfl⟩ := List.mem_map.mp hmem
    exact (List.of_mem_zip hpair).2

namespace Conversation

variable {World : Type} {α : Type}

/-- What a journal says was captured, in order. -/
def captured (journal : List JournalEntry) : List Binding :=
  journal.flatMap JournalEntry.bindings

@[simp] theorem captured_append (front back : List JournalEntry) :
    captured (front ++ back) = captured front ++ captured back :=
  List.flatMap_append

/-- The names that the elements of a script capture. -/
def captureNames (conversation : Conversation World) : List String :=
  conversation.elements.flatMap Element.captures

theorem element_mem_of_mem_steps {conversation : Conversation World} {step : Step}
    (h : step ∈ conversation.steps) : step.element ∈ conversation.elements := by
  obtain ⟨entry, hentry, rfl⟩ := List.mem_map.mp h
  exact List.fst_mem_of_mem_zipIdx hentry

theorem mem_captureNames {conversation : Conversation World} {step : Step}
    (hstep : step ∈ conversation.steps) {name : String} (hname : name ∈ step.element.captures) :
    name ∈ conversation.captureNames :=
  List.mem_flatMap.mpr ⟨step.element, element_mem_of_mem_steps hstep, hname⟩

theorem exec_forM_assign (conversation : Conversation World) (bindings : List Binding)
    (state : State World) :
    ∃ world, (bindings.forM conversation.assign).exec state =
      (.ok (), { state with store := state.store.setAll bindings, world := world }) := by
  induction bindings generalizing state with
  | nil => exact ⟨_, rfl⟩
  | cons binding rest ih =>
      rw [List.forM, exec_bind_ok (exec_assign ..)]
      exact ih _

/-- Variables have got the values that were captured since, of some names. -/
def Captures (names : List String) (before after : State World) : Prop :=
  ∃ entries, after.journal = before.journal ++ entries ∧
    after.store = before.store.setAll (captured entries) ∧
    ∀ binding ∈ captured entries, binding.1 ∈ names

namespace Captures

variable {conversation : Conversation World} {names : List String}

/-- Other names keep their values. -/
theorem value? {before after : State World} (h : Captures names before after) {name : String}
    (hname : name ∉ names) : after.store.value? name = before.store.value? name := by
  obtain ⟨entries, -, hstore, hnames⟩ := h
  rw [hstore, Variables.value?_setAll_of_not_mem]
  intro hmem
  obtain ⟨binding, hbinding, rfl⟩ := List.mem_map.mp hmem
  exact hname (hnames binding hbinding)

theorem of_eq {before after : State World} (hstore : after.store = before.store)
    (hjournal : after.journal = before.journal) : Captures names before after :=
  ⟨[], by rw [hjournal, List.append_nil], hstore, nofun⟩

theorem trans (a b c : State World) (hab : Captures names a b) (hbc : Captures names b c) :
    Captures names a c := by
  obtain ⟨first, hfirst, hstore, hnames⟩ := hab
  obtain ⟨second, hsecond, hstore', hnames'⟩ := hbc
  refine ⟨first ++ second, by rw [hsecond, hfirst, List.append_assoc], ?_, ?_⟩
  · rw [hstore', hstore, captured_append, Variables.setAll_append]
  · rw [captured_append]
    exact List.forall_mem_append.mpr ⟨hnames, hnames'⟩

theorem pure (x : α) : (Pure.pure x : Act World α).Within (Captures names) :=
  fun _ => of_eq rfl rfl

theorem throw (fault : Fault) :
    (MonadExcept.throw fault : Act World α).Within (Captures names) :=
  fun _ => of_eq rfl rfl

/-- Noting anything but what was captured. -/
theorem enter {entry : JournalEntry} (h : entry.bindings = []) :
    (enter entry : Act World Unit).Within (Captures names) := by
  intro state
  have hnothing : captured [entry] = [] := (List.append_nil _).trans h
  refine ⟨[entry], rfl, ?_, ?_⟩
  · rw [hnothing]
    rfl
  · rw [hnothing]
    exact nofun

theorem perform (call : World → Outcome World) :
    (Conversation.perform call).Within (Captures names) := by
  intro state
  rw [exec_perform]
  exact of_eq rfl rfl

theorem report (failure : Failure) :
    (conversation.report failure).Within (Captures names) := by
  intro state
  by_cases h : conversation.keepGoing
  · rw [exec_report_tolerant h]
    exact of_eq rfl rfl
  · rw [exec_report_strict h]
    exact of_eq rfl rfl

theorem currentLabel : conversation.currentLabel.Within (Captures names) := by
  intro state
  rw [exec_currentLabel]
  split <;> exact of_eq rfl rfl

theorem switchTo (label : String) :
    (conversation.switchTo label).Within (Captures names) := by
  intro state
  rw [exec_switchTo]
  split <;> exact of_eq rfl rfl

theorem send (step : Step) : (conversation.send step).Within (Captures names) := by
  unfold Conversation.send
  refine (enter rfl).bind trans fun _ => ?_
  cases step.element with
  | request template =>
      refine currentLabel.bind trans fun label state => ?_
      exact (enter rfl).bind trans (fun _ => perform _) state
  | upload attachment =>
      refine currentLabel.bind trans fun label state => ?_
      exact (enter rfl).bind trans (fun _ => perform _) state
  | _ => exact pure ()

theorem runAhead (rest : List Step) :
    (conversation.runAhead rest).Within (Captures names) := by
  induction rest with
  | nil => exact pure ()
  | cons step rest ih =>
      have hpass : (pass step : Act World Unit).Within (Captures names) :=
        fun _ => of_eq rfl rfl
      refine hpass.bind trans fun _ => ?_
      split
      · exact (send step).bind trans fun _ => ih
      · exact fun _ => of_eq rfl rfl

theorem resume : conversation.resume.Within (Captures names) := by
  intro state
  by_cases hphase : state.phase = .paused
  · have hrest : Act.Within (Captures names)
        (conversation.runAhead (conversation.steps.drop state.position)) := runAhead _
    have hahead := hrest { state with phase := .resuming }
    rw [exec_resume_paused conversation hphase]
    dsimp only
    split
    · exact hahead
    · exact hahead
  · rw [exec_resume_unexpected conversation hphase]
    exact report _ state

theorem follow (reading : Reading World) :
    (conversation.follow reading).Within (Captures names) := by
  induction reading with
  | line text world => exact fun _ => of_eq rfl rfl
  | broken fault world => exact fun _ => of_eq rfl rfl
  | resume world next ih =>
      intro state
      rw [exec_follow_resume]
      exact trans _ _ _ (resume { state with world := world }) (ih _ _ _ _)

theorem readLine (index : Nat) :
    (conversation.readLine index).Within (Captures names) := by
  unfold Conversation.readLine
  refine currentLabel.bind trans fun label state => ?_
  rw [exec_get_bind]
  refine (enter rfl).bind trans (fun _ => ?_) state
  exact (follow _).bind trans fun line => (enter rfl).bind trans fun _ => pure line

/-- What was captured from a line is noted and assigned. -/
theorem checkResponse (index : Nat) (pattern : String) (origin : Origin) {captures : List String}
    (hnames : ∀ name ∈ captures, name ∈ names) (line : String) :
    (conversation.checkResponse index pattern origin captures line).Within (Captures names) := by
  unfold Conversation.checkResponse
  cases hmatch : matchLine pattern line captures with
  | error fault => exact throw fault
  | ok found =>
      intro state
      obtain ⟨world, hassign⟩ := exec_forM_assign conversation found.captured
        (state.enter (.captured index found.captured))
      have hcaptured : captured [.captured index found.captured] = found.captured :=
        List.append_nil _
      have hassigned : Captures names state
          { state.enter (.captured index found.captured) with
            store := state.store.setAll found.captured, world := world } := by
        refine ⟨[.captured index found.captured], rfl, by rw [hcaptured], ?_⟩
        rw [hcaptured]
        exact fun binding hbinding => hnames _ (names_of_matchLine hmatch binding hbinding)
      dsimp only
      rw [exec_bind_ok (exec_enter ..), exec_bind_ok hassign]
      split
      · exact hassigned
      · exact trans _ _ _ hassigned (report _ _)

theorem receiveUnordered (index : Nat) (location : String) (patterns : List String) (count : Nat)
    (remaining : List String) :
    Act.Within (Captures names) (MailScript.receiveUnordered accepts
      (conversation.readLine index) conversation.report location patterns count remaining) := by
  induction count generalizing remaining with
  | zero => exact pure []
  | succ count ih =>
      unfold MailScript.receiveUnordered
      refine (readLine index).bind trans fun line => ?_
      have hrest (fewer : List String) := (ih fewer).bind trans fun lines =>
        (pure (line :: lines) : Act.Within (Captures names) _)
      cases takeAccepting accepts line remaining with
      | error fault => exact (throw fault).bind trans hrest
      | ok found =>
          cases found with
          | some fewer => exact hrest fewer
          | none => exact (report _).bind trans fun _ => hrest remaining

theorem attend {step : Step} (hnames : ∀ name ∈ step.element.captures, name ∈ names) :
    (conversation.attend step).Within (Captures names) := by
  have hlog (event : Event) : (conversation.log event).Within (Captures names) :=
    fun _ => of_eq rfl rfl
  unfold Conversation.attend
  cases helement : step.element with
  | response pattern origin captures =>
      rw [helement] at hnames
      exact (readLine _).bind trans fun line => checkResponse _ _ _ hnames line
  | unordered patterns origin =>
      refine (currentLabel.bind trans fun _ => pure ()).bind trans fun _ => ?_
      exact (receiveUnordered _ _ _ _ _).bind trans fun _ => hlog _
  | skipped description origin => exact (readLine _).bind trans fun _ => hlog _
  | pause millis =>
      unfold Conversation.pause
      refine (hlog _).bind trans fun _ => ?_
      cases Binary64.seconds millis with
      | none => exact throw _
      | some seconds => exact (enter rfl).bind trans fun _ => perform _
  | switch label => exact switchTo label
  | prompt => exact pure ()
  | request template => exact pure ()
  | upload attachment => exact pure ()

/-- An element assigns no variables but those that it captures. -/
theorem runStep {step : Step} (hnames : ∀ name ∈ step.element.captures, name ∈ names) :
    (conversation.runStep step).Within (Captures names) := by
  unfold Conversation.runStep
  split
  · exact (send step).bind trans fun _ => pure none
  · refine (enter rfl).bind trans fun _ => ?_
    split
    · have hexpect : (expectPrompt : Act World Unit).Within (Captures names) :=
        fun _ => of_eq rfl rfl
      have htake : (takeParked : Act World (Option Step)).Within (Captures names) :=
        fun _ => of_eq rfl rfl
      refine hexpect.bind trans fun _ => (readLine _).bind trans fun line => ?_
      split
      · exact (report _).bind trans fun _ => htake
      · exact htake
    · exact (attend hnames).bind trans fun _ => pure none

/-- Running an element that leaves nothing parked assigns no variables but those that it captures. -/
theorem run {step : Step} (hprompt : step.element ≠ .prompt) :
    (conversation.run step).Within (Captures step.element.captures) := by
  intro state
  have hstep : (conversation.runStep step).Within (Captures step.element.captures) :=
    runStep fun _ hname => hname
  unfold Conversation.run settle
  rcases hexec : (conversation.runStep step).exec state with ⟨fault | parked, after⟩
  · rw [exec_bind_error hexec]
    exact hstep.of_exec hexec
  · obtain rfl := eq_none_of_runStep hprompt hexec
    rw [exec_bind_ok hexec]
    exact hstep.of_exec hexec

/-! ## Whole runs -/

theorem settles {step : Step} {state last : State World} {outcome : Except Fault Unit}
    (h : Settles conversation step state outcome last) (hstep : step ∈ conversation.steps) :
    Captures conversation.captureNames state last := by
  have hrun {step : Step} (hstep : step ∈ conversation.steps) :
      (conversation.runStep step).Within (Captures conversation.captureNames) :=
    runStep fun _ hname => mem_captureNames hstep hname
  induction h with
  | broken hexec => exact (hrun hstep).of_exec hexec
  | done hexec => exact (hrun hstep).of_exec hexec
  | parked hexec _ ih =>
      exact trans _ _ _ ((hrun hstep).of_exec hexec) (ih (mem_steps_of_runStep hexec))

theorem completes {state last : State World} {outcome : Except Fault Unit}
    (h : Completes conversation state outcome last) :
    Captures conversation.captureNames state last := by
  induction h with
  | finished => exact of_eq rfl rfl
  | broken hnext hstep => exact (settles hstep (List.mem_of_getElem? hnext) :)
  | next hnext hstep _ ih => exact trans _ _ _ (settles hstep (List.mem_of_getElem? hnext) :) ih

/-- The variables behind a run are those in front of it with what the run has captured. -/
theorem execute : conversation.execute.Within (Captures conversation.captureNames) := by
  intro state
  rcases hexec : conversation.execute.exec state with ⟨outcome, last⟩
  cases (executes_iff ..).mpr hexec with
  | broken hrun => exact (completes hrun :)
  | finished hrun => exact (completes hrun :)

end Captures

end Conversation

end MailScript
