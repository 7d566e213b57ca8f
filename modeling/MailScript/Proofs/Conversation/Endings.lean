import MailScript.Proofs.Conversation.Faults
import MailScript.Proofs.Conversation.Growth
import MailScript.Proofs.Script.Patterns

/-! # What scripts end with

An element that is parked comes from the script. So a run ends only with faults that elements of the
script end with, and if the patterns of the script can be read, none of these comes from a pattern. -/

namespace MailScript

/-- A fault of a pattern: it cannot be read, or it lacks the group that a capture needs. -/
def Fault.IsPatternFault : Fault → Prop
  | .malformedPattern .. | .noGroup => True
  | _ => False

/-! ## Lines and readable patterns -/

section Readable

open Script (IsPattern)

/-- A pattern that captures needs a group; without names nothing is captured. -/
theorem captures_of_groups {pattern : Pattern} {names : List String}
    (h : names ≠ [] → pattern.groups ≠ 0) (line : String) :
    ∃ bindings, pattern.captures line names = .ok bindings := by
  unfold Pattern.captures
  dsimp only
  split
  · rename_i hmissing
    refine absurd hmissing.1 (h fun hnames => hmissing.2 ?_)
    rw [hnames, List.zip_nil_right]
  · exact ⟨_, rfl⟩

theorem readPattern_of_parse {source : String} {parsed : Pattern}
    (h : Pattern.parse source = .ok parsed) : readPattern source = .ok parsed := by
  rw [readPattern, h]

theorem matchLine_of_parse {source : String} {parsed : Pattern} {names : List String}
    (hparse : Pattern.parse source = .ok parsed) (hgroups : names ≠ [] → parsed.groups ≠ 0)
    (line : String) : ∃ found, matchLine source line names = .ok found := by
  obtain ⟨bindings, hcaptures⟩ := captures_of_groups hgroups line
  refine ⟨⟨bindings, parsed.fullMatches line⟩, ?_⟩
  simp only [matchLine, readPattern_of_parse hparse, bind, Except.bind, hcaptures]
  rfl

theorem accepts_of_isPattern {source : String} (h : IsPattern source) (line : String) :
    ∃ accepted, accepts source line = .ok accepted := by
  obtain ⟨parsed, hparse⟩ := h
  refine ⟨parsed.fullMatches line, ?_⟩
  rw [accepts, readPattern_of_parse hparse]
  rfl

/-- A line can be held against patterns that can all be read, and those that remain are among
them. -/
theorem takeAccepting_of_isPattern {patterns : List String} (h : ∀ pattern ∈ patterns, IsPattern pattern)
    (line : String) :
    ∃ found, takeAccepting accepts line patterns = .ok found ∧
      ∀ remaining, found = some remaining → ∀ pattern ∈ remaining, IsPattern pattern := by
  induction patterns with
  | nil => exact ⟨none, rfl, nofun⟩
  | cons pattern rest ih =>
      rw [List.forall_mem_cons] at h
      obtain ⟨accepted, haccepts⟩ := accepts_of_isPattern h.1 line
      unfold takeAccepting
      rw [haccepts]
      cases accepted with
      | true =>
          refine ⟨some rest, rfl, fun remaining hremaining => ?_⟩
          cases hremaining
          exact h.2
      | false =>
          obtain ⟨found, htake, hremaining⟩ := ih h.2
          refine ⟨found.map (List.cons pattern), ?_, fun remaining hfound => ?_⟩
          · simp only [bind, Except.bind, htake]
            rfl
          · obtain ⟨fewer, hfewer, rfl⟩ := Option.map_eq_some_iff.mp hfound
            exact List.forall_mem_cons.mpr ⟨h.1, hremaining fewer hfewer⟩

end Readable

/-- What an element that pauses for a number of milliseconds ends with: there are too many of them,
or the sessions refuse to wait. -/
structure Sessions.PauseRaises {World : Type} (I : World → Prop) (P : Fault → Prop) (millis : Int)
    (sessions : Sessions World) : Prop where
  tooLong : Binary64.seconds millis = none → P .pauseTooLong
  refused : ∀ seconds world error, I world → Binary64.seconds millis = some seconds →
    (sessions.wait seconds world).1 = .error error → P (.pauseRefused error)

namespace Conversation

variable {World : Type} {conversation : Conversation World}

/-! ## Parked elements -/

/-- An element that is parked belongs to the script. -/
def ParkedWithin (conversation : Conversation World) (state : State World) : Prop :=
  ∀ step, state.parked = some step → step ∈ conversation.steps

/-- Parking an element of the script only. -/
def Parks (conversation : Conversation World) (before after : State World) : Prop :=
  conversation.ParkedWithin before → conversation.ParkedWithin after

namespace Parks

theorem trans (a b c : State World) (hab : conversation.Parks a b) (hbc : conversation.Parks b c) :
    conversation.Parks a c :=
  hbc ∘ hab

theorem of_cursor_eq {before after : State World} (h : after.cursor = before.cursor) :
    conversation.Parks before after := by
  intro hbefore step hstep
  have hparked : after.parked = before.parked := congrArg Cursor.parked h
  exact hbefore step (hparked ▸ hstep)

theorem of_beside (before after : State World) (h : Beside before after) :
    conversation.Parks before after :=
  of_cursor_eq h.cursor

theorem runAhead (rest : List Step) (h : ∀ step ∈ rest, step ∈ conversation.steps) :
    (conversation.runAhead rest).Within conversation.Parks := by
  induction rest with
  | nil => exact fun _ hstate => hstate
  | cons step rest ih =>
      rw [List.forall_mem_cons] at h
      have hpass : (pass step : Act World Unit).Within conversation.Parks :=
        fun _ hstate => hstate
      refine hpass.bind trans fun _ => ?_
      by_cases hclient : step.element.isClient
      · rw [if_pos hclient]
        refine Act.Within.bind (fun state hstate => ?_) trans fun _ => ih h.2
        intro parked hparked
        have hsame : ((conversation.send step).exec state).2.parked = state.parked :=
          congrArg Cursor.parked (send_cursor conversation step state)
        exact hstate parked (hsame ▸ hparked)
      · rw [if_neg hclient]
        intro state _ parked hparked
        cases hparked
        exact h.1

theorem resume (conversation : Conversation World) :
    conversation.resume.Within conversation.Parks := by
  intro state hstate
  by_cases hphase : state.phase = .paused
  · have hahead := runAhead (conversation.steps.drop state.position)
      (fun _ hstep => List.mem_of_mem_drop hstep) { state with phase := .resuming } hstate
    rw [exec_resume_paused conversation hphase]
    dsimp only
    split
    · exact hahead
    · exact hahead
  · rw [exec_resume_unexpected conversation hphase]
    exact of_beside _ _ (Beside.report conversation _ state) hstate

end Parks

theorem parked_of_takeParked {parked : Step} {state after : State World}
    (h : (takeParked : Act World (Option Step)).exec state = (.ok (some parked), after)) :
    state.parked = some parked :=
  Except.ok.inj (congrArg Prod.fst ((exec_takeParked state).symm.trans h))

/-- Only an element that waits for the prompt leaves another one parked. -/
theorem eq_none_of_runStep {step : Step} {parked : Option Step} {state after : State World}
    (hprompt : step.element ≠ .prompt)
    (h : (conversation.runStep step).exec state = (.ok parked, after)) : parked = none := by
  unfold runStep at h
  by_cases hclient : step.element.isClient
  · rw [if_pos hclient, exec_bind] at h
    split at h <;> cases h
    rfl
  · rw [if_neg hclient, exec_bind_ok (exec_enter ..), if_neg hprompt, exec_bind] at h
    split at h <;> cases h
    rfl

/-- What an element leaves parked belongs to the script. -/
theorem mem_steps_of_runStep {step parked : Step} {state after : State World}
    (h : (conversation.runStep step).exec state = (.ok (some parked), after)) :
    parked ∈ conversation.steps := by
  have hread := readLine_within (R := conversation.Parks) Parks.trans Parks.of_beside
    (Parks.resume conversation) step.index
  have hreport (failure : Failure) :=
    (Beside.report conversation failure).mono (S := conversation.Parks) Parks.of_beside
  have hprompt : step.element = .prompt := Decidable.byContradiction fun hother =>
    absurd (eq_none_of_runStep hother h) (Option.some_ne_none parked)
  have hserver : ¬ step.element.isClient := by
    rw [hprompt]
    exact Bool.false_ne_true
  unfold runStep at h
  -- Nothing is parked when the prompt is expected, so it was parked while the line was read.
  rw [if_neg hserver, exec_bind_ok (exec_enter ..), if_pos hprompt, awaitPrompt,
    exec_bind_ok (exec_expectPrompt ..)] at h
  generalize hbegun : ({ (state.enter (.started step.index)) with
    phase := Phase.paused, parked := none } : State World) = begun at h
  have hnone : conversation.ParkedWithin begun := by
    subst hbegun
    exact nofun
  have hline := hread begun hnone
  rw [exec_bind] at h
  split at h
  · rename_i line received hreceived
    rw [hreceived] at hline
    split at h
    · have hreported := hreport (.continuationMissing line) received hline
      rw [exec_bind] at h
      split at h
      · rename_i hdone
        rw [hdone] at hreported
        exact hreported parked (parked_of_takeParked h)
      · cases h
    · exact hline parked (parked_of_takeParked h)
  · cases h

/-! ## Faults of runs -/

namespace Raises

variable {I : World → Prop} {P : Fault → Prop}

section Elements

variable (hkeep : conversation.sessions.Keep I)
  (hlabel : ∀ label labels, P (.failure (.unknownLabel label labels)))
  (hsessions : conversation.sessions.RaiseIn I P)
  (hreport : ∀ failure, (Fault.failure failure).IsMismatch → (conversation.report failure).Raises I P)

include hkeep hreport

theorem checkResponse {pattern : String} {parsed : Pattern} {captures : List String}
    (hparse : Pattern.parse pattern = .ok parsed) (hgroups : captures ≠ [] → parsed.groups ≠ 0)
    (index : Nat) (origin : Origin) (line : String) :
    (conversation.checkResponse index pattern origin captures line).Raises I P := by
  obtain ⟨found, hmatch⟩ := matchLine_of_parse hparse hgroups line
  have hassign (binding : String × Option String) : (conversation.assign binding).Raises I P :=
    of_ok (fun _ hstate => hkeep.log _ _ hstate) fun _ => ⟨(), rfl⟩
  unfold Conversation.checkResponse
  rw [hmatch]
  refine bind (update fun _ => rfl) fun _ => bind ?_ fun _ => ?_
  · induction found.captured with
    | nil => exact pure ()
    | cons binding rest ih => exact bind (hassign binding) fun _ => ih
  · split
    · exact pure ()
    · exact hreport _ ⟨_, rfl, .inl rfl⟩

include hlabel hsessions

theorem receiveUnordered (index : Nat) (location : String) (patterns : List String) (count : Nat)
    {remaining : List String} (h : ∀ pattern ∈ remaining, Script.IsPattern pattern) :
    Act.Raises I P (MailScript.receiveUnordered accepts (conversation.readLine index)
      conversation.report location patterns count remaining) := by
  induction count generalizing remaining with
  | zero => exact pure []
  | succ count ih =>
      unfold MailScript.receiveUnordered
      refine bind (readLine hkeep hlabel hsessions hreport index) fun line => ?_
      obtain ⟨found, htake, hremaining⟩ := takeAccepting_of_isPattern h line
      have hrest {fewer : List String} (hfewer : ∀ pattern ∈ fewer, Script.IsPattern pattern) :=
        bind (ih hfewer) fun lines => pure (I := I) (P := P) (line :: lines)
      rw [htake]
      cases found with
      | some fewer => exact hrest (hremaining fewer rfl)
      | none => exact bind (hreport _ ⟨_, rfl, .inl rfl⟩) fun _ => hrest h

/-- An element with readable patterns ends with faults of its sessions, unless it waits for too long
or its wait is refused. -/
theorem attend {step : Step} (hreadable : step.element.Readable)
    (hpause : ∀ millis, step.element = .pause millis → conversation.sessions.PauseRaises I P millis) :
    (conversation.attend step).Raises I P := by
  unfold Conversation.attend
  cases helement : step.element with
  | response pattern origin captures =>
      rw [helement] at hreadable
      obtain ⟨parsed, hparse, hgroups⟩ := hreadable
      refine bind (readLine hkeep hlabel hsessions hreport _) fun line => ?_
      exact checkResponse hkeep hreport hparse hgroups _ _ _
  | unordered patterns origin =>
      rw [helement] at hreadable
      refine bind (bind (currentLabel hlabel) fun _ => pure ()) fun _ => ?_
      refine bind (receiveUnordered hkeep hlabel hsessions hreport _ _ _ _ hreadable) fun lines => ?_
      exact log hkeep _
  | skipped description origin =>
      exact bind (readLine hkeep hlabel hsessions hreport _) fun line => log hkeep _
  | pause millis =>
      unfold Conversation.pause
      refine bind (log hkeep _) fun _ => ?_
      cases hseconds : Binary64.seconds millis with
      | none =>
          refine ⟨fun _ hstate => hstate, fun state fault _ hfault => ?_⟩
          cases hfault
          exact (hpause millis helement).tooLong hseconds
      | some seconds =>
          refine bind (update fun _ => rfl) fun _ =>
            perform (fun world hworld => hkeep.wait seconds world hworld) ?_
          intro world fault hworld hfault
          obtain ⟨error, herror, rfl⟩ := error_of_mapError hfault
          exact (hpause millis helement).refused seconds world error hworld hseconds herror
  | switch label => exact switchTo hkeep hlabel label
  | prompt => exact pure ()
  | request template => exact pure ()
  | upload attachment => exact pure ()

theorem runStep {step : Step} (hattend : (conversation.attend step).Raises I P) :
    (conversation.runStep step).Raises I P := by
  unfold Conversation.runStep
  split
  · exact bind (send hkeep hlabel hsessions step) fun _ => pure none
  · refine bind (update fun _ => rfl) fun _ => ?_
    split
    · refine bind (update fun _ => rfl) fun _ => ?_
      refine bind (readLine hkeep hlabel hsessions hreport _) fun line => ?_
      split
      · exact bind (hreport _ ⟨_, rfl, .inr rfl⟩) fun _ => takeParked
      · exact takeParked
    · exact bind hattend fun _ => pure none

variable (hattend : ∀ step ∈ conversation.steps, (conversation.attend step).Raises I P)

include hattend

/-- Whatever an element leaves parked belongs to the script as well. -/
theorem settle (fuel : Nat) {step : Step} (hstep : step ∈ conversation.steps) :
    (conversation.settle fuel step).Raises I P := by
  refine ⟨(Keeps.runCongruence hkeep).settle fuel step, fun state fault hstate hfault => ?_⟩
  induction fuel generalizing step state with
  | zero => cases hfault
  | succ fuel ih =>
      unfold Conversation.settle at hfault
      have hfirst := runStep hkeep hlabel hsessions hreport (hattend step hstep)
      have hkept := hfirst.keeps state hstate
      rw [exec_bind] at hfault
      rcases hrun : (conversation.runStep step).exec state with ⟨broken | _ | parked, after⟩
      · rw [hrun] at hfault
        cases hfault
        exact hfirst.faults state fault hstate (congrArg Prod.fst hrun)
      · rw [hrun] at hfault
        cases hfault
      · rw [hrun] at hfault hkept
        exact ih (mem_steps_of_runStep hrun) after hkept hfault

theorem runRest (fuel : Nat) : (conversation.runRest fuel).Raises I P := by
  induction fuel with
  | zero => exact pure ()
  | succ fuel ih =>
      unfold Conversation.runRest
      refine get_bind fun state _ => ?_
      cases hnext : conversation.steps[state.position]? with
      | none => exact pure ()
      | some step =>
          refine bind (update fun _ => rfl) fun _ => bind ?_ fun _ => ih
          exact settle hkeep hlabel hsessions hreport hattend _ (List.mem_of_getElem? hnext)

/-- A run ends with faults that the elements of its script end with. -/
theorem execute_of_attend : conversation.execute.Raises I P := by
  unfold Conversation.execute
  refine bind (update fun _ => rfl) fun _ => bind (log hkeep _) fun _ => ?_
  refine bind (runRest hkeep hlabel hsessions hreport hattend _) fun _ => get_bind fun state _ => ?_
  exact log hkeep _

omit hattend

/-- A script with readable patterns ends with faults of its sessions, unless it waits for too long
or a wait is refused. -/
theorem execute_of_readable (hreadable : ∀ element ∈ conversation.elements, element.Readable)
    (hpause : ∀ millis, Element.pause millis ∈ conversation.elements →
      conversation.sessions.PauseRaises I P millis) : conversation.execute.Raises I P := by
  refine execute_of_attend hkeep hlabel hsessions hreport fun step hstep => ?_
  obtain ⟨entry, hentry, rfl⟩ := List.mem_map.mp hstep
  have helement : entry.1 ∈ conversation.elements := List.fst_mem_of_mem_zipIdx hentry
  refine attend hkeep hlabel hsessions hreport (hreadable _ helement) fun millis hmillis => ?_
  exact hpause millis (hmillis ▸ helement)

end Elements

end Raises

/-! ## Patterns of scripts that compile -/

/-- In a script that compiles every pattern that captures has a group, and a run of the script does
not end with a fault of a pattern: whatever lines arrive, whenever the sessions ask to resume, and
whether failures end the run or not. -/
theorem execute_no_pattern_fault {setting : Script.Setting} {transcript : Script.Transcript}
    {elements : List Element} (h : (Script.compile setting transcript).result = .ok elements)
    {sessions : Sessions World} (hsessions : sessions.Raise fun fault => ¬ fault.IsPatternFault)
    (keepGoing : Bool) (state : State World) :
    (∀ pattern origin captures, Element.response pattern origin captures ∈ elements →
      captures ≠ [] → ∃ parsed, Pattern.parse pattern = .ok parsed ∧ parsed.groups ≠ 0) ∧
    ∀ fault,
      ((⟨sessions, elements, keepGoing⟩ : Conversation World).execute.exec state).1 = .error fault →
        ¬ fault.IsPatternFault := by
  have hreadable := Script.readable_of_compile h
  refine ⟨fun pattern origin captures helement hcaptures => ?_, fun fault => ?_⟩
  · obtain ⟨parsed, hparse, hgroups⟩ := hreadable _ helement
    exact ⟨parsed, hparse, hgroups hcaptures⟩
  · have hkeep := sessions.keep_true
    have hraises : (⟨sessions, elements, keepGoing⟩ : Conversation World).execute.Raises
        (fun _ => True) fun fault => ¬ fault.IsPatternFault :=
      Raises.execute_of_readable hkeep (fun _ _ => id) hsessions
        (fun _ _ => Raises.reporting hkeep id) hreadable
        fun _ _ => ⟨fun _ => id, fun _ _ _ _ _ _ => id⟩
    exact hraises.faults state fault trivial

/-- Sessions that always ask to resume deliver a line from which two names capture, and a line that
does not match. -/
theorem execute_no_pattern_fault_of_capture :
    let setting : Script.Setting := ⟨"t.mpt", ⟨[], []⟩, none, 100⟩
    let source := Script.Source.text
      "S<user><mail>: (\\w+)@?\nSUB \x7b\nS: a+\nS: b+\n\x7d\nATTACHMENT \x7b\nPUT\n\\+ .*\n\x7d\n"
    let world := Memory.World.ofSessions [⟨"imap", ["ann@here", "b"], .never, none, none⟩]
    let sessions := (Memory.sessions world).hooked (fun _ _ _ => true) Memory.World.nextLine
    let elements : List Element := [.response "(\\w+)@?" ⟨"t.mpt:1", some ""⟩ ["user", "mail"],
      .unordered ["a+", "b+"] ⟨"t.mpt:2", some ""⟩, .request "PUT \x7b-2\x7d",
      .response "\\+ .*" ⟨"t.mpt:6", some "PUT \x7b-2\x7d"⟩ []]
    let conversation : Conversation Memory.World := ⟨sessions, elements, true⟩
    let result := conversation.execute.exec (.initial .empty world)
    (Script.compile setting (source.transcript "utf-8")).result = .ok elements ∧
      sessions.Raise (fun fault => ¬ fault.IsPatternFault) ∧
      result.2.store.get "mail" = some "here" ∧
      ∃ fault, result.1 = .error fault ∧ fault.message = "Connection closed by peer" ∧
        ¬ fault.IsPatternFault := by
  intro setting source world sessions elements conversation result
  have hcompile : (Script.compile setting (source.transcript "utf-8")).result = .ok elements :=
    eq_ok_of_toOption (by decide +kernel)
  have hsessions : sessions.Raise (fun fault => ¬ fault.IsPatternFault) :=
    (Memory.raise_sessions world fun _ => id).hooked (fun _ _ _ => true) Memory.World.nextLine
  have hmessage : (faultOf? result.1).map Fault.message = some "Connection closed by peer" := by
    decide +kernel +zetaReduce
  obtain ⟨fault, hfault, htext⟩ := eq_error_of_faultOf? hmessage
  exact ⟨hcompile, hsessions, by decide +kernel +zetaReduce, fault, hfault, htext,
    (execute_no_pattern_fault hcompile hsessions true _).2 fault hfault⟩

end Conversation

end MailScript
