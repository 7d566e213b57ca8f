import MailScript.Proofs.Results
import MailScript.Proofs.Task

/-! # What is reported of a script

The mismatches that a script has noted are reported if it ends by itself. If a failure ends it, then
only that failure is reported. -/

namespace MailScript.Task

open Network (World)

variable {task : Task} {around : Surroundings} {path : Path} {world : World}

/-- The network when the elements of a script are about to be run, with a fresh link to every host. -/
def readied (task : Task) (around : Surroundings) (path : Path) (world : World) : World :=
  let seeded := { world with events := world.events ++ (task.seed around).events }
  let connected := (task.connectLinks around.settings seeded).2
  { connected with
    events := connected.events ++
      (Script.compileFile (setting around) around.settings.scriptEncoding path).events }

/-- The conversation that runs elements over a network. -/
def conversationOver (task : Task) (around : Surroundings) (world : World)
    (elements : List Element) : Conversation World :=
  ⟨Network.sessions world, elements, task.keepGoing.getD around.settings.continueAfterFailure⟩

/-- The elements of a script are run. -/
def performed (task : Task) (around : Surroundings) (path : Path) (world : World)
    (elements : List Element) : Except Fault Unit × Conversation.State World :=
  let readied := task.readied around path world
  (task.conversationOver around readied elements).runSessions.exec
    (.initial (task.seed around).store readied)

/-- The failures that are noted while a script is tried, in order. They stay noted if a fault ends the
script. -/
def noted (task : Task) (around : Surroundings) (path : Path) (world : World) : List Failure :=
  match task.prepared around path with
  | .error _ => []
  | .ok elements => (task.performed around path world elements).2.failures

theorem attempt_of_prepared {elements : List Element}
    (h : task.prepared around path = .ok elements) :
    task.attempt around path world =
      let ended := task.performed around path world elements
      (⟨elements.length, ended.1.map fun _ => ended.2.failures⟩, ended.2.world) := by
  let seeded := { world with events := world.events ++ (task.seed around).events }
  obtain ⟨hlinks, hcompile⟩ := prepared_eq_ok_iff.mp h
  obtain ⟨events, hconnect⟩ := connectLinks_of_none hlinks seeded
  unfold compiled at hcompile
  unfold attempt performed readied
  simp only [seeded] at hconnect
  simp only [hconnect, hcompile]
  rfl

/-- How trying a script goes, with the failures noted meanwhile. -/
inductive Tried (task : Task) (around : Surroundings) (path : Path) (world : World) :
    ScriptRun → List Failure → Prop where
  | unprepared {fault : Fault} (hprepared : task.prepared around path = .error fault) :
      Tried task around path world ⟨0, .error fault⟩ []
  | broken {elements : List Element} {fault : Fault} {last : Conversation.State World}
      (hprepared : task.prepared around path = .ok elements)
      (hran : task.performed around path world elements = (.error fault, last)) :
      Tried task around path world ⟨elements.length, .error fault⟩ last.failures
  | finished {elements : List Element} {last : Conversation.State World}
      (hprepared : task.prepared around path = .ok elements)
      (hran : task.performed around path world elements = (.ok (), last)) :
      Tried task around path world ⟨elements.length, .ok last.failures⟩ last.failures

theorem tried_attempt (task : Task) (around : Surroundings) (path : Path) (world : World) :
    task.Tried around path world (task.attempt around path world).1
      (task.noted around path world) := by
  unfold noted
  cases hprepared : task.prepared around path with
  | error fault =>
      rw [attempt_of_unprepared hprepared]
      exact .unprepared hprepared
  | ok elements =>
      rw [attempt_of_prepared hprepared]
      dsimp only
      rcases hran : task.performed around path world elements with ⟨fault | _, last⟩
      · exact .broken hprepared hran
      · exact .finished hprepared hran

/-- A script has run to its end. -/
def Completed (task : Task) (around : Surroundings) (path : Path) (world : World) : Prop :=
  ∃ elements, task.prepared around path = .ok elements ∧
    (task.performed around path world elements).1 = .ok ()

namespace Tried

variable {run : ScriptRun} {noted : List Failure}

/-- A script has run to its end exactly if trying it came to the failures that it noted. -/
theorem completed_iff (h : task.Tried around path world run noted) :
    task.Completed around path world ↔ run.outcome = .ok noted := by
  cases h with
  | unprepared hprepared =>
      refine iff_of_false ?_ nofun
      rintro ⟨elements, hprepared', -⟩
      cases hprepared.symm.trans hprepared'
  | broken hprepared hran =>
      refine iff_of_false ?_ nofun
      rintro ⟨elements, hprepared', hok⟩
      cases hprepared.symm.trans hprepared'
      rw [hran] at hok
      cases hok
  | finished hprepared hran => exact iff_of_true ⟨_, hprepared, congrArg Prod.fst hran⟩ rfl

theorem eq_noted (h : task.Tried around path world run noted) {failures : List Failure}
    (houtcome : run.outcome = .ok failures) : failures = noted := by
  cases h with
  | unprepared => cases houtcome
  | broken => cases houtcome
  | finished => exact (Except.ok.inj houtcome).symm

end Tried

/-- The failures reported of a script are those that it has noted, in order, unless a failure has ended
it and it had noted any before: then only the failure that ended it is reported. A script has passed
exactly if no failure is reported. -/
theorem runScript_reports_noted {result : ScriptResult} {after : World}
    (h : task.runScript around path world = (.ok result, after)) :
    let begun := task.announced around path world
    let noted := task.noted around path begun
    (result.error = none ↔ task.Completed around path begun) ∧
      (result.failures = noted.map Failure.message ↔
        task.Completed around path begun ∨ noted = []) ∧
      (result.status = .passed ↔ result.failures = [] ∧ result.error = none) := by
  intro begun noted
  have htried : task.Tried around path begun (task.attempt around path begun).1 noted :=
    tried_attempt task around path begun
  have hend := script_end task around path world
  generalize task.runScript around path world = ended at hend h
  clear_value noted
  cases hend with
  | broken => cases h
  | @finished run failures last hattempt houtcome =>
      cases h
      rw [hattempt] at htried
      obtain rfl : failures = noted := htried.eq_noted houtcome
      have hcompleted : task.Completed around path begun := htried.completed_iff.mpr houtcome
      refine ⟨iff_of_true rfl hcompleted, iff_of_true rfl (.inl hcompleted), ?_⟩
      cases failures <;> simp [finishedResult]
  | @failed run cause last hattempt houtcome =>
      obtain rfl : failedResult path run.elementCount cause = result := by
        split at h
        · cases h
        · exact Except.ok.inj (congrArg Prod.fst h)
      rw [hattempt] at htried
      have hbroken : ¬ task.Completed around path begun := by
        intro hcompleted
        cases houtcome.symm.trans (htried.completed_iff.mp hcompleted)
      refine ⟨iff_of_false nofun hbroken, ?_, iff_of_false nofun fun hpassed => nomatch hpassed.2⟩
      rw [or_iff_right hbroken, eq_comm]
      exact List.map_eq_nil_iff

/-- The only line is not the one expected, and the script ends by itself. -/
theorem runScript_reports_noted_of_mismatch :
    let path : Path := ⟨"", ["a.mpt"]⟩
    let around : Surroundings :=
      ⟨{}, ⟨[[]], [(["a.mpt"], Text.encodeAscii "S: OK")]⟩, ⟨2024, 10, 7, 14, 3, 9, 0⟩⟩
    let task : Task := { scripts := [path], hosts := [⟨"imap", "127.0.0.1", 143⟩]
                         keepGoing := some true, failFast := false }
    let world := World.ofServices [⟨"127.0.0.1", 143,
      [⟨[], [.data (Text.encodeAscii "NO\n")], [], none⟩], none, none⟩]
    let begun := task.announced around path world
    let mismatch := "\nLocation: a.mpt:1\nLastClientMsg: \nExpected: 'OK'\nActual   : 'NO'"
    let result : ScriptResult := ⟨"a.mpt", .failed, 1, [mismatch], none⟩
    let after := (task.runScript around path world).2
    task.runScript around path world = (.ok result, after) ∧ task.Completed around path begun ∧
      [mismatch] = (task.noted around path begun).map Failure.message := by
  intro path around task world begun mismatch result after
  have hresult : (task.runScript around path world).1 = .ok result :=
    eq_ok_of_toOption (by decide +kernel)
  have h : task.runScript around path world = (.ok result, after) := Prod.ext hresult rfl
  obtain ⟨herror, hfailures, -⟩ := runScript_reports_noted h
  have hcompleted := herror.mp rfl
  exact ⟨h, hcompleted, hfailures.mpr (.inl hcompleted)⟩

/-- The first line is not the one expected, and the server closes the connection in front of the second
one. The mismatch is not reported. -/
theorem runScript_omits_noted :
    let path : Path := ⟨"", ["a.mpt"]⟩
    let around : Surroundings :=
      ⟨{}, ⟨[[]], [(["a.mpt"], Text.encodeAscii "S: OK\nS: OK")]⟩, ⟨2024, 10, 7, 14, 3, 9, 0⟩⟩
    let task : Task := { scripts := [path], hosts := [⟨"imap", "127.0.0.1", 143⟩]
                         keepGoing := some true, failFast := false }
    let world := World.ofServices [⟨"127.0.0.1", 143,
      [⟨[], [.data (Text.encodeAscii "NO\n")], [], none⟩], none, none⟩]
    let mismatch := "\nLocation: a.mpt:1\nLastClientMsg: \nExpected: 'OK'\nActual   : 'NO'"
    let error := "[FAILURE] in script a.mpt\nConnection closed by peer"
    (task.runScript around path world).1.toOption = some ⟨"a.mpt", .failed, 2, [], some error⟩ ∧
      (task.noted around path (task.announced around path world)).map Failure.message =
        [mismatch] := by
  decide +kernel

end MailScript.Task
