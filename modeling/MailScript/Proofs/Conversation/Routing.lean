import MailScript.Proofs.Conversation.Order
import MailScript.Proofs.Conversation.Sending
import Mathlib.Algebra.BigOperators.Group.List.Basic
import Mathlib.Algebra.Order.Ring.Nat

/-! # Sessions by the script alone

Which session an element uses can be read off the script: it is the one that the nearest element in
front of it has gone over to. That holds of elements run in their turn, ahead of it and from being
parked. How many lines are read from a session can be read off the script too. -/

namespace MailScript

/-- The label of the session that an element goes over to. -/
def Element.target? : Element → Option String
  | .switch label => some label
  | _ => none

namespace Element

theorem eq_switch_of_target? {element : Element} {label : String}
    (h : element.target? = some label) : element = .switch label := by
  cases element <;> cases h
  rfl

theorem target?_of_isClient {element : Element} (h : element.isClient) : element.target? = none := by
  cases element with
  | request template => rfl
  | upload attachment => rfl
  | _ => cases h

theorem lineCount_of_isClient {element : Element} (h : element.isClient) :
    element.lineCount = 0 := by
  cases element with
  | request template => rfl
  | upload attachment => rfl
  | _ => cases h

end Element

namespace JournalEntry

/-- The element that uses a session, with the label of the session. -/
def use? : JournalEntry → Option (Nat × String)
  | .reading index label _ => some (index, label)
  | .received index label _ => some (index, label)
  | .writing index label _ _ => some (index, label)
  | .uploading index label _ _ => some (index, label)
  | _ => none

/-- The element that has received a line. -/
def reader? : JournalEntry → Option Nat
  | .received index _ _ => some index
  | _ => none

/-- A line has been received from the session of a label. -/
def isReceivedFrom (label : String) : JournalEntry → Bool
  | .received _ source _ => source == label
  | _ => false

end JournalEntry

namespace Conversation

variable {World : Type} {α β : Type}

/-! ## What the script says -/

/-- The label of the session for the element at an index: that of the nearest element in front of it
that goes over to a session, or the first label if there is none. -/
def route? (conversation : Conversation World) (index : Nat) : Option String :=
  ((conversation.elements.take index).filterMap Element.target?).getLast?.or
    conversation.sessions.labels.head?

/-- The elements in front of an index, each as often as it reads a line. -/
def readers (conversation : Conversation World) (index : Nat) : List Nat :=
  (conversation.steps.take index).flatMap fun step =>
    List.replicate step.element.lineCount step.index

variable {conversation : Conversation World}

theorem route?_succ {index : Nat} {step : Step} (h : conversation.steps[index]? = some step) :
    conversation.route? (index + 1) = step.element.target?.or (conversation.route? index) := by
  rw [getElem?_steps, Option.map_eq_some_iff] at h
  obtain ⟨element, helement, rfl⟩ := h
  have htake : conversation.elements.take (index + 1) = conversation.elements.take index ++ [element] := by
    rw [List.take_add_one, helement]
    rfl
  unfold route?
  rw [htake, List.filterMap_append, List.getLast?_append]
  cases htarget : element.target? with
  | none => simp [htarget]
  | some label => simp [htarget]

theorem readers_succ {index : Nat} {step : Step} (h : conversation.steps[index]? = some step) :
    conversation.readers (index + 1) = conversation.readers index ++
      List.replicate step.element.lineCount index := by
  unfold readers
  rw [List.take_add_one, h, List.flatMap_append, (index_of_getElem?_steps h).1.symm]
  simp

/-- An element that sends changes neither. -/
theorem route?_succ_of_isClient {index : Nat} {step : Step}
    (h : conversation.steps[index]? = some step) (hclient : step.element.isClient) :
    conversation.route? (index + 1) = conversation.route? index ∧
      conversation.readers (index + 1) = conversation.readers index := by
  rw [route?_succ h, readers_succ h, Element.target?_of_isClient hclient,
    Element.lineCount_of_isClient hclient]
  exact ⟨Option.none_or, List.append_nil _⟩

/-- A session is used by an element that is routed to it. -/
def Routes (conversation : Conversation World) (entry : JournalEntry) : Prop :=
  ∀ index label, entry.use? = some (index, label) → conversation.route? index = some label

/-! ## What elements do -/

/-- The number of elements gone past, less the last one if it is parked. -/
def State.reached (state : State World) : Nat :=
  (state.parked.map Step.index).getD state.position

theorem reached_of_sight_eq {state after : State World} (h : after.sight = state.sight) :
    after.reached = state.reached := by
  have hparked : after.parked.map Step.index = state.parked.map Step.index :=
    congrArg Sight.parked h
  have hposition : after.position = state.position := congrArg Sight.position h
  unfold State.reached
  rw [hparked, hposition]

/-- The journal of a state has got entries of sessions used as they are routed, and of lines received
by certain elements. -/
def Adds (conversation : Conversation World) (state after : State World) (received : List Nat) :
    Prop :=
  ∃ entries, after.journal = state.journal ++ entries ∧
    (∀ entry ∈ entries, conversation.Routes entry) ∧
    entries.filterMap JournalEntry.reader? = received

namespace Adds

theorem of_eq {state after : State World} (h : after.journal = state.journal) :
    conversation.Adds state after [] :=
  ⟨[], by rw [h, List.append_nil], nofun, rfl⟩

theorem trans {a b c : State World} {front back : List Nat} (hab : conversation.Adds a b front)
    (hbc : conversation.Adds b c back) : conversation.Adds a c (front ++ back) := by
  obtain ⟨earlier, hfirst, hroutes, hfront⟩ := hab
  obtain ⟨later, hsecond, hroutes', hback⟩ := hbc
  refine ⟨earlier ++ later, by rw [hsecond, hfirst, List.append_assoc], ?_, ?_⟩
  · exact List.forall_mem_append.mpr ⟨hroutes, hroutes'⟩
  · rw [List.filterMap_append, hfront, hback]

end Adds

/-- Between two steps and while lines are read, the session in use is the one of the elements to
come, and the prompt is expected only as long as no element is parked. -/
structure Aligned (conversation : Conversation World) (state : State World) : Prop where
  inUse : conversation.labelInUse? state = conversation.route? state.reached
  unparked : state.phase = .paused → state.parked = none

/-- What happens while lines are read: the session in use stays, elements that send may be gone past,
and lines are received by certain elements. -/
structure Moves (conversation : Conversation World) (state after : State World)
    (received : List Nat) : Prop where
  inUse : conversation.labelInUse? after = conversation.labelInUse? state
  route : conversation.route? after.reached = conversation.route? state.reached
  readers : conversation.readers after.reached = conversation.readers state.reached
  unparked : (state.phase = .paused → state.parked = none) →
    after.phase = .paused → after.parked = none
  adds : conversation.Adds state after received

namespace Moves

theorem trans {a b c : State World} {front back : List Nat} (hab : conversation.Moves a b front)
    (hbc : conversation.Moves b c back) : conversation.Moves a c (front ++ back) :=
  ⟨hbc.inUse.trans hab.inUse, hbc.route.trans hab.route, hbc.readers.trans hab.readers,
    hbc.unparked ∘ hab.unparked, hab.adds.trans hbc.adds⟩

theorem aligned {state after : State World} {received : List Nat}
    (h : conversation.Moves state after received) (haligned : conversation.Aligned state) :
    conversation.Aligned after :=
  ⟨by rw [h.inUse, haligned.inUse, h.route], h.unparked haligned.unparked⟩

/-- What leaves the place in the script alone moves nothing. -/
theorem of_sight_eq {state after : State World} {received : List Nat}
    (hsight : after.sight = state.sight)
    (hinUse : conversation.labelInUse? after = conversation.labelInUse? state)
    (hadds : conversation.Adds state after received) : conversation.Moves state after received := by
  have hreached := reached_of_sight_eq hsight
  refine ⟨hinUse, by rw [hreached], by rw [hreached], fun h hphase => ?_, hadds⟩
  rw [show after.phase = state.phase from congrArg Sight.phase hsight] at hphase
  have hparked : after.parked.map Step.index = state.parked.map Step.index :=
    congrArg Sight.parked hsight
  rw [h hphase] at hparked
  exact Option.map_eq_none_iff.mp hparked

end Moves

/-- An action for the element at an index receives so many lines, if it comes to its end. -/
def Reads (conversation : Conversation World) (index count : Nat) (act : Act World α) : Prop :=
  ∀ state, conversation.Aligned state →
    conversation.labelInUse? state = conversation.route? index →
    ∃ done ≤ count, conversation.Moves state (act.exec state).2 (List.replicate done index) ∧
      ∀ x, (act.exec state).1 = .ok x → done = count

namespace Reads

variable {index : Nat}

theorem of_moves {act : Act World α}
    (h : ∀ state, conversation.Moves state (act.exec state).2 []) :
    conversation.Reads index 0 act :=
  fun state _ _ => ⟨0, Nat.le_refl 0, h state, fun _ _ => rfl⟩

/-- An action that leaves place, session and journal alone. -/
theorem of_same {act : Act World α} (h : ∀ state, (act.exec state).2.sight = state.sight ∧
    (act.exec state).2.current = state.current ∧
    (act.exec state).2.journal = state.journal) : conversation.Reads index 0 act :=
  of_moves fun state => .of_sight_eq (h state).1
    (by simp only [labelInUse?, (h state).2.1]) (.of_eq (h state).2.2)

theorem pure (x : α) : conversation.Reads index 0 (Pure.pure x : Act World α) :=
  of_same fun _ => ⟨rfl, rfl, rfl⟩

theorem throw (count : Nat) (fault : Fault) :
    conversation.Reads index count (throw fault : Act World α) :=
  fun _ _ _ => ⟨0, Nat.zero_le _, .of_sight_eq rfl rfl (.of_eq rfl), nofun⟩

theorem bind {m n : Nat} {act : Act World α} {next : α → Act World β}
    (hact : conversation.Reads index m act) (hnext : ∀ x, conversation.Reads index n (next x)) :
    conversation.Reads index (m + n) (act >>= next) := by
  intro state haligned hroute
  obtain ⟨done, hle, hmoves, hall⟩ := hact state haligned hroute
  rw [exec_bind]
  rcases hexec : act.exec state with ⟨fault | x, middle⟩
  · rw [hexec] at hmoves
    exact ⟨done, by omega, hmoves, nofun⟩
  · rw [hexec] at hmoves hall
    obtain ⟨later, hle', hmoves', hall'⟩ :=
      hnext x middle (hmoves.aligned haligned) (hmoves.inUse.trans hroute)
    refine ⟨done + later, by omega, ?_, fun y hy => ?_⟩
    · rw [List.replicate_add]
      exact hmoves.trans hmoves'
    · rw [hall x rfl, hall' y hy]

theorem get_bind {count : Nat} {next : State World → Act World β}
    (h : ∀ state, conversation.Reads index count (next state)) :
    conversation.Reads index count (get >>= next) :=
  fun state => h state state

/-- An action that reads nothing stands in front of another one. -/
theorem andThen {count : Nat} {act : Act World α} {next : α → Act World β}
    (hact : conversation.Reads index 0 act) (hnext : ∀ x, conversation.Reads index count (next x)) :
    conversation.Reads index count (act >>= next) := by
  have hboth := hact.bind hnext
  rwa [Nat.zero_add] at hboth

/-- An entry of a session used by the element at an index, if it is routed there. -/
theorem routes_of_use {entry : JournalEntry} {label : String}
    (huse : entry.use? = some (index, label)) (hroute : conversation.route? index = some label) :
    conversation.Routes entry := by
  intro index' label' huse'
  rw [huse] at huse'
  cases huse'
  exact hroute

theorem routes_of_no_use {entry : JournalEntry} (huse : entry.use? = none) :
    conversation.Routes entry := by
  intro index label huse'
  rw [huse] at huse'
  cases huse'

theorem enter_moves {entry : JournalEntry} (hroutes : conversation.Routes entry)
    (state : State World) :
    conversation.Moves state (state.enter entry) entry.reader?.toList := by
  refine .of_sight_eq rfl rfl ⟨[entry], rfl, List.forall_mem_singleton.mpr hroutes, ?_⟩
  cases hreader : entry.reader? <;> simp [hreader]

theorem enter {entry : JournalEntry} (hreader : entry.reader? = none)
    (hroutes : conversation.Routes entry) :
    conversation.Reads index 0 (Conversation.enter entry : Act World Unit) := by
  refine of_moves fun state => ?_
  have hmoves := enter_moves hroutes state
  rwa [hreader] at hmoves

theorem log (event : Event) : conversation.Reads index 0 (conversation.log event) :=
  of_same fun _ => ⟨rfl, rfl, rfl⟩

theorem perform (call : World → Outcome World) :
    conversation.Reads index 0 (Conversation.perform call) := by
  refine of_same fun state => ?_
  rw [exec_perform]
  exact ⟨rfl, rfl, rfl⟩

theorem report_same (conversation : Conversation World) (failure : Failure) (state : State World) :
    ((conversation.report failure).exec state).2.sight = state.sight ∧
      ((conversation.report failure).exec state).2.current = state.current ∧
      ((conversation.report failure).exec state).2.journal = state.journal := by
  by_cases h : conversation.keepGoing
  · rw [exec_report_tolerant h]
    exact ⟨rfl, rfl, rfl⟩
  · rw [exec_report_strict h]
    exact ⟨rfl, rfl, rfl⟩

theorem report (failure : Failure) : conversation.Reads index 0 (conversation.report failure) :=
  of_same (report_same conversation failure)

/-- The session in use is the one that the element is routed to. -/
theorem currentLabel_bind {count : Nat} {next : String → Act World β}
    (h : ∀ label, conversation.route? index = some label →
      conversation.Reads index count (next label)) :
    conversation.Reads index count (conversation.currentLabel >>= next) := by
  intro state haligned hroute
  cases hlabel : conversation.labelInUse? state with
  | some label =>
      have hmoves : conversation.Moves state { state with current := some label } [] :=
        .of_sight_eq rfl hlabel.symm (.of_eq rfl)
      rw [exec_bind_ok (exec_currentLabel_inUse hlabel)]
      obtain ⟨done, hle, hnext, hall⟩ := h label (hroute.symm.trans hlabel) _
        (hmoves.aligned haligned) (hmoves.inUse.trans hroute)
      exact ⟨done, hle, hmoves.trans hnext, hall⟩
  | none =>
      obtain ⟨hcurrent, hlabels⟩ := Option.or_eq_none_iff.mp hlabel
      have hexec : conversation.currentLabel.exec state =
          (.error (.failure (.unknownLabel "<none>" [])), state) := by
        rw [exec_currentLabel, hcurrent, List.head?_eq_none_iff.mp hlabels]
      rw [exec_bind_error hexec]
      exact ⟨0, Nat.zero_le _, .of_sight_eq rfl rfl (.of_eq rfl), nofun⟩

/-- An element that sends reads nothing. -/
theorem send (step : Step) : conversation.Reads step.index 0 (conversation.send step) := by
  unfold Conversation.send
  refine (enter rfl (routes_of_no_use rfl)).andThen fun _ => ?_
  cases step.element with
  | request template =>
      refine currentLabel_bind fun label hlabel => get_bind fun state => ?_
      exact (enter rfl (routes_of_use rfl hlabel)).andThen fun _ => perform _
  | upload attachment =>
      refine currentLabel_bind fun label hlabel => get_bind fun state => ?_
      exact (enter rfl (routes_of_use rfl hlabel)).andThen fun _ => perform _
  | _ => exact pure ()

end Reads

/-! ## Resuming -/

/-- Running ahead goes past elements that send only, so it reads nothing, and the session in use stays
the one of the elements to come. -/
theorem runAhead_moves (rest : List Step) (state : State World)
    (hrest : conversation.steps.drop state.position = rest) (haligned : conversation.Aligned state)
    (hparked : state.parked = none) (hphase : state.phase ≠ .paused) :
    conversation.Moves state ((conversation.runAhead rest).exec state).2 [] := by
  induction rest generalizing state with
  | nil => exact .of_sight_eq rfl rfl (.of_eq rfl)
  | cons step rest ih =>
      obtain ⟨hstep, hrest⟩ := getElem?_steps_of_drop hrest
      obtain ⟨hindex, -⟩ := index_of_getElem?_steps hstep
      have hreached : state.reached = state.position := by rw [State.reached, hparked]; rfl
      unfold runAhead
      rw [exec_bind_ok (exec_pass ..)]
      by_cases hclient : step.element.isClient
      · rw [if_pos hclient]
        obtain ⟨hroute, hreaders⟩ := route?_succ_of_isClient hstep hclient
        have hpassed : conversation.Moves state { state with position := step.index + 1 } [] := by
          have hafter : ({ state with position := step.index + 1 } : State World).reached =
              state.position + 1 := by rw [State.reached, hparked, hindex]; rfl
          refine ⟨rfl, ?_, ?_, id, .of_eq rfl⟩
          · rw [hafter, hreached, hroute]
          · rw [hafter, hreached, hreaders]
        obtain ⟨done, hle, hsent, -⟩ := Reads.send step _ (hpassed.aligned haligned)
          (by rw [hpassed.inUse, haligned.inUse, hreached, hindex])
        obtain rfl : done = 0 := Nat.le_zero.mp hle
        have hcursor := send_cursor conversation step { state with position := step.index + 1 }
        rcases hexec : (conversation.send step).exec { state with position := step.index + 1 } with
          ⟨fault | _, after⟩
        · rw [exec_bind_error hexec]
          rw [hexec] at hsent
          exact hpassed.trans hsent
        · rw [exec_bind_ok hexec]
          rw [hexec] at hsent hcursor
          have hposition : after.position = step.index + 1 := congrArg Cursor.position hcursor
          have hrest' : conversation.steps.drop after.position = rest := by
            rw [hposition, hindex, hrest]
          have hphase' : after.phase ≠ .paused := by
            rwa [show after.phase = state.phase from congrArg Cursor.phase hcursor]
          have hmoves := hpassed.trans hsent
          exact hmoves.trans (ih after hrest' (hmoves.aligned haligned)
            ((congrArg Cursor.parked hcursor).trans hparked) hphase')
      · rw [if_neg hclient]
        have hafter : ({ state with position := step.index + 1, parked := some step } :
            State World).reached = state.reached := hindex.trans hreached.symm
        refine ⟨rfl, ?_, ?_, fun _ hpaused => absurd hpaused hphase, .of_eq rfl⟩
        · exact congrArg conversation.route? hafter
        · exact congrArg conversation.readers hafter

/-- A session may resume whenever it likes: nothing is read meanwhile. -/
theorem resume_moves (state : State World) (haligned : conversation.Aligned state) :
    conversation.Moves state (conversation.resume.exec state).2 [] := by
  by_cases hphase : state.phase = .paused
  · have hparked := haligned.unparked hphase
    have hresuming : conversation.Moves state { state with phase := .resuming } [] :=
      ⟨rfl, rfl, rfl, fun _ => nofun, .of_eq rfl⟩
    have hahead := hresuming.trans (runAhead_moves _ _ rfl (hresuming.aligned haligned) hparked nofun)
    rw [exec_resume_paused conversation hphase]
    dsimp only
    split
    · exact hahead.trans (.of_sight_eq rfl rfl (.of_eq rfl))
    · exact hahead
  · rw [exec_resume_unexpected conversation hphase]
    obtain ⟨hsight, hcurrent, hjournal⟩ :=
      Reads.report_same conversation (.continuationUnexpected state.phase.name) state
    exact .of_sight_eq hsight (by simp only [labelInUse?, hcurrent]) (.of_eq hjournal)

theorem follow_moves (reading : Reading World) (state : State World)
    (haligned : conversation.Aligned state) :
    conversation.Moves state ((conversation.follow reading).exec state).2 [] := by
  have hworld (state : State World) (world : World) :
      conversation.Moves state { state with world := world } [] := .of_sight_eq rfl rfl (.of_eq rfl)
  induction reading generalizing state with
  | line text world => exact hworld state world
  | broken fault world => exact hworld state world
  | resume world next ih =>
      rw [exec_follow_resume]
      have hmoves := (hworld state world).trans
        (resume_moves _ ((hworld state world).aligned haligned))
      exact hmoves.trans (ih _ _ _ _ (hmoves.aligned haligned))

namespace Reads

variable {index : Nat}

/-- A read takes one line from the session that the element is routed to. -/
theorem readLine (index : Nat) : conversation.Reads index 1 (conversation.readLine index) := by
  unfold Conversation.readLine
  refine currentLabel_bind fun label hlabel => get_bind fun state => ?_
  refine (enter rfl (routes_of_use rfl hlabel)).andThen fun _ => ?_
  have hfollow (reading : Reading World) :
      conversation.Reads index 0 (conversation.follow reading) :=
    fun state haligned _ => ⟨0, Nat.le_refl 0, follow_moves reading state haligned, fun _ _ => rfl⟩
  refine (hfollow _).andThen fun line => ?_
  have hreceived : conversation.Reads index 1
      (Conversation.enter (.received index label line) : Act World Unit) :=
    fun state _ _ => ⟨1, Nat.le_refl 1, enter_moves (routes_of_use rfl hlabel) state, fun _ _ => rfl⟩
  exact hreceived.bind fun _ => pure line

theorem assign (binding : Binding) : conversation.Reads index 0 (conversation.assign binding) :=
  of_same fun _ => ⟨rfl, rfl, rfl⟩

theorem checkResponse (pattern : String) (origin : Origin) (captures : List String)
    (line : String) :
    conversation.Reads index 0
      (conversation.checkResponse index pattern origin captures line) := by
  have hassign (bindings : List Binding) :
      conversation.Reads index 0 (bindings.forM conversation.assign) := by
    induction bindings with
    | nil => exact pure ()
    | cons binding rest ih => exact (assign binding).andThen fun _ => ih
  unfold Conversation.checkResponse
  cases matchLine pattern line captures with
  | error fault => exact throw 0 fault
  | ok found =>
      refine (enter rfl (routes_of_no_use rfl)).andThen fun _ => ?_
      refine (hassign found.captured).andThen fun _ => ?_
      cases found.accepted with
      | true => exact pure ()
      | false => exact report _

/-- A block reads as many lines as it has patterns, however many of them match. -/
theorem receiveUnordered (location : String) (patterns : List String) (count : Nat)
    (remaining : List String) :
    conversation.Reads index count (MailScript.receiveUnordered accepts
      (conversation.readLine index) conversation.report location patterns count remaining) := by
  induction count generalizing remaining with
  | zero => exact pure []
  | succ count ih =>
      unfold MailScript.receiveUnordered
      rw [Nat.add_comm]
      refine (readLine index).bind fun line => ?_
      have hrest (fewer : List String) : conversation.Reads index count
          (MailScript.receiveUnordered accepts (conversation.readLine index) conversation.report
            location patterns count fewer >>= fun lines => Pure.pure (line :: lines)) :=
        (ih fewer).bind fun lines => pure (line :: lines)
      cases takeAccepting accepts line remaining with
      | error fault => exact (throw 0 fault).andThen hrest
      | ok found =>
          cases found with
          | some fewer => exact hrest fewer
          | none => exact (report _).andThen fun _ => hrest remaining

theorem pause (millis : Int) : conversation.Reads index 0 (conversation.pause index millis) := by
  unfold Conversation.pause
  refine (log _).andThen fun _ => ?_
  cases Binary64.seconds millis with
  | none => exact throw 0 _
  | some seconds => exact (enter rfl (routes_of_no_use rfl)).andThen fun _ => perform _

/-- An element that neither sends nor goes over to a session nor waits for the prompt reads as many
lines as the script says. -/
theorem attend {step : Step} (hclient : ¬ step.element.isClient) (hprompt : step.element ≠ .prompt)
    (htarget : step.element.target? = none) :
    conversation.Reads step.index step.element.lineCount (conversation.attend step) := by
  unfold Conversation.attend
  cases helement : step.element with
  | response pattern origin captures => exact (readLine _).bind fun _ => checkResponse _ _ _ _
  | unordered patterns origin =>
      have hlabel : conversation.Reads step.index 0 (discard conversation.currentLabel) :=
        currentLabel_bind fun _ _ => pure ()
      refine hlabel.andThen fun _ => ?_
      exact (receiveUnordered _ _ _ _).bind fun _ => log _
  | skipped description origin => exact (readLine _).bind fun _ => log _
  | pause millis => exact pause millis
  | prompt => exact absurd helement hprompt
  | switch label => simp [helement, Element.target?] at htarget
  | request template => simp [helement, Element.isClient] at hclient
  | upload attachment => simp [helement, Element.isClient] at hclient

end Reads

/-! ## One step -/

/-- The index of the step that comes next: the parked one, or the one at the position. -/
def upcoming (parked : Option Step) (state : State World) : Nat :=
  (parked.map Step.index).getD state.position

/-- A step is about to be run, and the session in use is the one that it is routed to. -/
structure Begins (conversation : Conversation World) (step : Step) (state : State World) :
    Prop where
  step_mem : conversation.steps[step.index]? = some step
  sight : state.sight = ⟨step.index + 1, .idle, none⟩
  inUse : conversation.labelInUse? state = conversation.route? step.index

namespace Begins

variable {step : Step} {state : State World}

theorem position_eq (h : conversation.Begins step state) : state.position = step.index + 1 :=
  congrArg Sight.position h.sight

theorem phase_eq (h : conversation.Begins step state) : state.phase = .idle :=
  congrArg Sight.phase h.sight

theorem reached_eq (h : conversation.Begins step state) : state.reached = step.index + 1 := by
  have hparked : state.parked.map Step.index = none := congrArg Sight.parked h.sight
  rw [State.reached, hparked, h.position_eq]
  rfl

theorem route?_eq (h : conversation.Begins step state) (htarget : step.element.target? = none) :
    conversation.route? (step.index + 1) = conversation.route? step.index := by
  rw [route?_succ h.step_mem, htarget, Option.none_or]

theorem aligned (h : conversation.Begins step state) (htarget : step.element.target? = none) :
    conversation.Aligned state :=
  ⟨by rw [h.inUse, h.reached_eq, h.route?_eq htarget],
    fun _ => Option.map_eq_none_iff.mp (congrArg Sight.parked h.sight)⟩

theorem enter (h : conversation.Begins step state) (entry : JournalEntry) :
    conversation.Begins step (state.enter entry) :=
  ⟨h.step_mem, h.sight, h.inUse⟩

/-- Expecting the prompt moves nothing. From then on a session may resume, and elements behind the
prompt may be sent before its line. -/
theorem expecting (h : conversation.Begins step state) :
    conversation.Moves state { state with phase := .paused, parked := none } [] := by
  have hreached : ({ state with phase := .paused, parked := none } : State World).reached =
      state.reached := h.position_eq.trans h.reached_eq.symm
  exact ⟨rfl, by rw [hreached], by rw [hreached], fun _ _ => rfl, .of_eq rfl⟩

end Begins

/-- What a step comes to: it has received as many lines as the script says if it comes to its end,
and then the session in use is the one of the step that comes next. -/
def StepReads (conversation : Conversation World) (step : Step) (state : State World)
    (result : Except Fault (Option Step) × State World) : Prop :=
  ∃ done, conversation.Adds state result.2 (List.replicate done step.index) ∧
    ∀ parked, result.1 = .ok parked → done = step.element.lineCount ∧
      conversation.labelInUse? result.2 = conversation.route? (upcoming parked result.2) ∧
      conversation.readers (upcoming parked result.2) = conversation.readers (step.index + 1)

/-- A step that parks nothing, behind which the next one comes. -/
theorem StepReads.of_unit {step : Step} {state : State World} {act : Act World Unit} {done : Nat}
    (hadds : conversation.Adds state (act.exec state).2 (List.replicate done step.index))
    (hposition : (act.exec state).2.position = step.index + 1)
    (hend : (act.exec state).1 = .ok () → done = step.element.lineCount ∧
      conversation.labelInUse? (act.exec state).2 = conversation.route? (step.index + 1)) :
    StepReads conversation step state ((act >>= fun _ => pure none).exec state) := by
  rcases hexec : act.exec state with ⟨fault | _, after⟩
  · rw [exec_bind_error hexec]
    rw [hexec] at hadds
    exact ⟨done, hadds, nofun⟩
  · rw [exec_bind_ok hexec]
    rw [hexec] at hadds hposition hend
    obtain ⟨hdone, hinUse⟩ := hend rfl
    refine ⟨done, hadds, fun parked hnone => ?_⟩
    cases hnone
    exact ⟨hdone, hinUse.trans (congrArg _ hposition.symm), congrArg conversation.readers hposition⟩

/-- An element that reads or waits takes as many lines as the script says. -/
theorem StepReads.of_reads {step : Step} {state : State World} {act : Act World Unit}
    (h : conversation.Begins step state) (htarget : step.element.target? = none)
    (hreads : conversation.Reads step.index step.element.lineCount act)
    (hposition : (act.exec state).2.position = step.index + 1) :
    StepReads conversation step state ((act >>= fun _ => pure none).exec state) := by
  obtain ⟨done, -, hmoves, hall⟩ := hreads state (h.aligned htarget) h.inUse
  refine of_unit hmoves.adds hposition fun hok => ⟨hall () hok, ?_⟩
  rw [hmoves.inUse, h.inUse, h.route?_eq htarget]

/-- Going over to a session puts it in use for the elements behind. -/
theorem StepReads.of_switch {step : Step} {state : State World} {label : String}
    (h : conversation.Begins step state) (hswitch : step.element = .switch label) :
    StepReads conversation step state
      ((conversation.switchTo label >>= fun _ => pure none).exec state) := by
  have hroute : conversation.route? (step.index + 1) = some label := by
    rw [route?_succ h.step_mem, hswitch]
    rfl
  have hexec := exec_switchTo conversation label state
  have hadds : conversation.Adds state ((conversation.switchTo label).exec state).2
      (List.replicate 0 step.index) := by
    rw [hexec]
    split <;> exact .of_eq rfl
  refine of_unit hadds ?_ fun hok => ⟨by rw [hswitch]; rfl, ?_⟩
  all_goals rw [hexec] at *
  · split <;> exact h.position_eq
  · split at hok
    · rename_i hknown
      rw [if_pos hknown, hroute]
      rfl
    · cases hok

/-- Waiting for the prompt takes one line, however often the session resumes meanwhile. -/
theorem StepReads.of_prompt {step : Step} {state : State World}
    (h : conversation.Begins step state) (hprompt : step.element = .prompt) :
    StepReads conversation step state ((conversation.awaitPrompt step.index).exec state) := by
  have haligned := h.aligned (by rw [hprompt]; rfl)
  have hexpecting := h.expecting
  have htake {middle : State World}
      (hmoves : conversation.Moves state middle (List.replicate 1 step.index)) :
      StepReads conversation step state ((takeParked : Act World (Option Step)).exec middle) := by
    refine ⟨1, hmoves.adds, fun parked hparked => ?_⟩
    cases hparked
    refine ⟨by rw [hprompt]; rfl, (hmoves.aligned haligned).inUse, ?_⟩
    rw [← h.reached_eq]
    exact hmoves.readers
  unfold awaitPrompt
  rw [exec_bind_ok (exec_expectPrompt _)]
  obtain ⟨done, -, hmoves, hall⟩ := Reads.readLine step.index _ (hexpecting.aligned haligned) h.inUse
  replace hmoves := hexpecting.trans hmoves
  rcases hread : (conversation.readLine step.index).exec
    { state with phase := .paused, parked := none } with ⟨fault | line, after⟩
  · rw [exec_bind_error hread]
    rw [hread] at hmoves
    exact ⟨done, hmoves.adds, nofun⟩
  · rw [exec_bind_ok hread]
    rw [hread] at hmoves hall
    obtain rfl : done = 1 := hall line rfl
    by_cases hline : line ≠ promptLine
    · rw [if_pos hline]
      obtain ⟨hsight, hcurrent, hjournal⟩ :=
        Reads.report_same conversation (.continuationMissing line) after
      have hreported := hmoves.trans (.of_sight_eq hsight
        (by simp only [labelInUse?, hcurrent]) (.of_eq hjournal))
      rcases hexec : (conversation.report (.continuationMissing line)).exec after with
        ⟨fault | _, reported⟩
      · rw [exec_bind_error hexec]
        rw [hexec] at hreported
        exact ⟨1, hreported.adds, nofun⟩
      · rw [exec_bind_ok hexec]
        rw [hexec] at hreported
        exact htake hreported
    · rw [if_neg hline]
      exact htake hmoves

/-- A step uses the session that it is routed to. -/
theorem runStep_reads {step : Step} {state : State World} (h : conversation.Begins step state) :
    StepReads conversation step state ((conversation.runStep step).exec state) := by
  unfold runStep
  by_cases hclient : step.element.isClient
  · rw [if_pos hclient]
    have hreads : conversation.Reads step.index 0 (conversation.send step) := Reads.send step
    rw [← Element.lineCount_of_isClient hclient] at hreads
    refine .of_reads h (Element.target?_of_isClient hclient) hreads ?_
    exact (congrArg Cursor.position (send_cursor conversation step state)).trans h.position_eq
  · rw [if_neg hclient, exec_bind_ok (exec_enter ..)]
    have hstarted : conversation.Moves state (state.enter (.started step.index)) [] :=
      Reads.enter_moves (Reads.routes_of_no_use rfl) state
    suffices hbegun : StepReads conversation step (state.enter (.started step.index))
        ((if step.element = .prompt then conversation.awaitPrompt step.index
          else conversation.attend step >>= fun _ => pure none : Act World (Option Step)).exec
            (state.enter (.started step.index))) by
      obtain ⟨done, hadds, hend⟩ := hbegun
      exact ⟨done, hstarted.adds.trans hadds, hend⟩
    replace h := h.enter (.started step.index)
    generalize state.enter (.started step.index) = begun at h
    by_cases hprompt : step.element = .prompt
    · rw [if_pos hprompt]
      exact .of_prompt h hprompt
    · rw [if_neg hprompt]
      cases htarget : step.element.target? with
      | none =>
          refine .of_reads h htarget (Reads.attend hclient hprompt htarget) ?_
          have hcursor := (Steady.congruence conversation).attend step begun (by simp [h.phase_eq])
          exact (congrArg Cursor.position hcursor).trans h.position_eq
      | some label =>
          have hswitch := Element.eq_switch_of_target? htarget
          have hattend : conversation.attend step = conversation.switchTo label := by
            unfold attend
            rw [hswitch]
          rw [hattend]
          exact .of_switch h hswitch

/-! ## Whole runs -/

/-- Between two steps: the elements in front of an index have used the sessions that they are routed
to and have read as many lines as the script says, and the next one will find its session in use. -/
structure Booked (conversation : Conversation World) (start state : State World) (index : Nat) :
    Prop where
  inUse : conversation.labelInUse? state = conversation.route? index
  adds : conversation.Adds start state (conversation.readers index)

theorem Due.begins {before : List Nat} {step : Step} {state : State World}
    (h : Due conversation before step state.cursor)
    (hinUse : conversation.labelInUse? state = conversation.route? step.index) :
    conversation.Begins step state := by
  have hposition : state.position = step.index + 1 := congrArg Cursor.position h.cursor_eq
  have hphase : state.phase = .idle := congrArg Cursor.phase h.cursor_eq
  have hparked : state.parked = none := congrArg Cursor.parked h.cursor_eq
  refine ⟨h.step_mem, ?_, hinUse⟩
  rw [State.sight, hposition, hphase, hparked]
  rfl

theorem StepReads.booked {start state after : State World} {step : Step} {parked : Option Step}
    (h : StepReads conversation step state (.ok parked, after))
    (hstep : conversation.steps[step.index]? = some step)
    (hbooked : conversation.Booked start state step.index) :
    conversation.Booked start after (upcoming parked after) := by
  obtain ⟨done, hadds, hend⟩ := h
  obtain ⟨rfl, hinUse, hreaders⟩ := hend parked rfl
  refine ⟨hinUse, ?_⟩
  rw [hreaders, readers_succ hstep]
  exact hbooked.adds.trans hadds

/-- A step and whatever it leaves parked keep the books. -/
theorem Settles.booked {before : List Nat} {start state last : State World} {step : Step}
    {outcome : Except Fault Unit} (h : Settles conversation step state outcome last)
    (hdue : Due conversation before step state.cursor)
    (hbooked : conversation.Booked start state step.index) :
    (∃ received, conversation.Adds start last received) ∧
      (outcome = .ok () → conversation.Booked start last last.position ∧
        ∃ count, last.cursor = Cursor.resting before count) := by
  induction h with
  | broken hstep =>
      obtain ⟨done, hadds, -⟩ := hstep ▸ runStep_reads (hdue.begins hbooked.inUse)
      exact ⟨⟨_, hbooked.adds.trans hadds⟩, nofun⟩
  | @done step state after hstep =>
      have hend := hstep ▸ runStep_end hdue
      have hreads := hstep ▸ runStep_reads (hdue.begins hbooked.inUse)
      have hafter := hreads.booked hdue.step_mem hbooked
      refine ⟨⟨_, hafter.adds⟩, fun _ => ⟨hafter, ?_⟩⟩
      generalize hcursor : after.cursor = cursor at hend
      cases hend with
      | @done count => exact ⟨count, rfl⟩
  | @parked step parked state after outcome last hstep _ ih =>
      -- The step that was parked comes next in the script, so the books are those in front of it.
      have hend := hstep ▸ runStep_end hdue
      have hreads := hstep ▸ runStep_reads (hdue.begins hbooked.inUse)
      have hafter := hreads.booked hdue.step_mem hbooked
      generalize hcursor : after.cursor = cursor at hend
      cases hend with
      | parked _ hparked => exact ih (hcursor ▸ hparked) hafter

/-- Between two steps the next one is due once it has been gone past, and the books are kept. -/
theorem Booked.pass {before : List Nat} {start state : State World} {step : Step}
    (h : conversation.Booked start state state.position)
    (hnext : conversation.steps[state.position]? = some step)
    (hcursor : ∃ count, state.cursor = Cursor.resting before count) :
    Due conversation before step ({ state with position := step.index + 1 } : State World).cursor ∧
      conversation.Booked start { state with position := step.index + 1 } step.index := by
  obtain ⟨count, hcursor⟩ := hcursor
  refine ⟨.of_resting hcursor hnext, ?_⟩
  rw [(index_of_getElem?_steps hnext).1]
  exact ⟨h.inUse, h.adds⟩

theorem Completes.booked {before : List Nat} {start state last : State World}
    {outcome : Except Fault Unit} (h : Completes conversation state outcome last)
    (hcursor : ∃ count, state.cursor = Cursor.resting before count)
    (hbooked : conversation.Booked start state state.position) :
    (∃ received, conversation.Adds start last received) ∧
      (outcome = .ok () → conversation.Booked start last last.position ∧
        conversation.steps[last.position]? = none) := by
  induction h with
  | finished hnext => exact ⟨⟨_, hbooked.adds⟩, fun _ => ⟨hbooked, hnext⟩⟩
  | broken hnext hstep =>
      obtain ⟨hdue, hready⟩ := hbooked.pass hnext hcursor
      exact ⟨(hstep.booked hdue hready).1, nofun⟩
  | next hnext hstep _ ih =>
      obtain ⟨hdue, hready⟩ := hbooked.pass hnext hcursor
      obtain ⟨hafter, hresting⟩ := (hstep.booked hdue hready).2 rfl
      exact ih hresting hafter

/-- The lines received from a session are those of the elements routed to it. -/
theorem countP_isReceivedFrom {entries : List JournalEntry}
    (h : ∀ entry ∈ entries, conversation.Routes entry) (label : String) :
    entries.countP (JournalEntry.isReceivedFrom label) =
      (entries.filterMap JournalEntry.reader?).countP fun index =>
        conversation.route? index == some label := by
  rw [List.countP_filterMap]
  refine List.countP_congr fun entry hentry => ?_
  cases entry with
  | received index source line =>
      have hroute : conversation.route? index = some source := h _ hentry index source rfl
      simp [JournalEntry.isReceivedFrom, JournalEntry.reader?, hroute]
  | _ => simp [JournalEntry.isReceivedFrom, JournalEntry.reader?]

theorem readers_of_end {index : Nat} (h : conversation.steps[index]? = none) :
    conversation.readers index = conversation.steps.flatMap fun step =>
      List.replicate step.element.lineCount step.index := by
  unfold readers
  rw [List.take_of_length_le (List.getElem?_eq_none_iff.mp h)]

/-- Of the reads of a script those of the elements that pass a test are as many as the script
says. -/
theorem countP_reads (steps : List Step) (test : Nat → Bool) :
    (steps.flatMap fun step => List.replicate step.element.lineCount step.index).countP test =
      ((steps.filter fun step => test step.index).map fun step => step.element.lineCount).sum := by
  induction steps with
  | nil => rfl
  | cons step rest ih =>
      rw [List.flatMap_cons, List.countP_append, ih, List.countP_replicate, List.filter_cons]
      split <;> simp

theorem booked_opened (conversation : Conversation World) (state : State World) :
    conversation.Booked state (conversation.opened state) 0 where
  inUse := by simp [labelInUse?, opened, State.rewind, route?]
  adds := .of_eq rfl

/-- Elements use the session that the nearest element in front of them has gone over to, or the first
one, whatever sessions do while lines are read. If a script ends without a fault, each element has read
as many lines as the script says, in order, so the lines read from a session can be counted from the
script. -/
theorem execute_routed (conversation : Conversation World) (state : State World) :
    ∃ entries, (conversation.execute.exec state).2.journal = state.journal ++ entries ∧
      (∀ entry ∈ entries, ∀ index label, entry.use? = some (index, label) →
        conversation.route? index = some label) ∧
      ((conversation.execute.exec state).1 = .ok () →
        entries.filterMap JournalEntry.reader? =
          (conversation.steps.flatMap fun step =>
            List.replicate step.element.lineCount step.index) ∧
        ∀ label, entries.countP (JournalEntry.isReceivedFrom label) =
          ((conversation.steps.filter fun step =>
            conversation.route? step.index == some label).map fun step =>
              step.element.lineCount).sum) := by
  have hcursor : (conversation.opened state).cursor = Cursor.resting (started state.journal) 0 := by
    simp [opened, State.rewind, State.cursor, Cursor.resting]
  have hopened := booked_opened conversation state
  rcases hexec : conversation.execute.exec state with ⟨outcome, last⟩
  cases (executes_iff ..).mpr hexec with
  | broken hrun =>
      obtain ⟨_, entries, hjournal, hroutes, -⟩ := (hrun.booked ⟨0, hcursor⟩ hopened).1
      refine ⟨entries, hjournal, hroutes, fun hok => ?_⟩
      cases hok
  | finished hrun =>
      obtain ⟨⟨-, entries, hjournal, hroutes, hreaders⟩, hend⟩ :=
        (hrun.booked ⟨0, hcursor⟩ hopened).2 rfl
      rw [readers_of_end hend] at hreaders
      refine ⟨entries, hjournal, hroutes, fun _ => ⟨hreaders, fun label => ?_⟩⟩
      rw [countP_isReceivedFrom hroutes, hreaders, countP_reads]

end Conversation

end MailScript
