import MailScript.Proofs.Files
import MailScript.Proofs.Task.FailFast
import MailScript.Proofs.Task.Reporting

/-! # Whether scripts pass

A script passes if it compiles, its sessions start, and its elements run to their end without noting a
mismatch. The results of a task tell whether all of its scripts pass, and so does the failure that ends
a task: they do not. None of this depends on whether the task goes on behind failures. -/

namespace MailScript.Task

open Network (World)

variable {task : Task} {around : Surroundings} {path : Path} {paths : List Path} {world : World}

/-- A script compiles, there are sessions for it and all of them start, and its elements run to
their end and note no mismatch. -/
def Passes (task : Task) (around : Surroundings) (path : Path) (world : World) : Prop :=
  let begun := task.readied around path world
  ∃ elements started ended, task.prepared around path = .ok elements ∧
    let conversation := task.conversationOver around begun elements
    (conversation.startAll conversation.sessions.labels).exec
      (.initial (task.seed around).store begun) = (.ok (), started) ∧
    conversation.execute.exec started = (.ok (), ended) ∧ ended.failures = []

/-- Scripts pass, one after another. -/
inductive AllPass (task : Task) (around : Surroundings) : List Path → World → Prop where
  | nil {world : World} : AllPass task around [] world
  | cons {path : Path} {rest : List Path} {world : World}
      (hfirst : task.Passes around path (task.announced around path world))
      (hrest : AllPass task around rest (task.runScript around path world).2) :
      AllPass task around (path :: rest) world

@[simp] theorem allPass_cons :
    task.AllPass around (path :: paths) world ↔
      task.Passes around path (task.announced around path world) ∧
        task.AllPass around paths (task.runScript around path world).2 := by
  constructor
  · rintro ⟨⟩
    exact ⟨‹_›, ‹_›⟩
  · exact fun h => .cons h.1 h.2

/-! ## One script -/

/-- Sessions are stopped behind the elements, and nothing is noted meanwhile. -/
theorem performed_eq (task : Task) (around : Surroundings) (path : Path) (world : World)
    (elements : List Element) :
    let begun := task.readied around path world
    let ended := (task.conversationOver around begun elements).startAndExecute.exec
      (.initial (task.seed around).store begun)
    ∃ last, task.performed around path world elements = (ended.1, { ended.2 with world := last }) := by
  intro begun ended
  let conversation := task.conversationOver around begun elements
  obtain ⟨stops, last, -, -, hlast⟩ :=
    conversation.stopAll_end conversation.sessions.labels ended.2
  refine ⟨last, ?_⟩
  unfold performed
  rw [Conversation.exec_runSessions]
  exact congrArg (Prod.mk ended.1) hlast

/-- A script passes exactly if an attempt at it ends by itself with nothing noted. -/
theorem passes_iff (task : Task) (around : Surroundings) (path : Path) (world : World) :
    task.Passes around path world ↔ (task.attempt around path world).1.outcome = .ok [] := by
  cases hprepared : task.prepared around path with
  | error fault =>
      rw [attempt_of_unprepared hprepared]
      refine iff_of_false ?_ nofun
      rintro ⟨elements, -, -, hprepared', -⟩
      cases hprepared.symm.trans hprepared'
  | ok elements =>
      obtain ⟨last, hperformed⟩ := performed_eq task around path world elements
      rw [attempt_of_prepared hprepared, hperformed]
      constructor
      · rintro ⟨elements', started, ended, hprepared', hstart, hexecute, hclean⟩
        cases hprepared.symm.trans hprepared'
        unfold Conversation.startAndExecute
        rw [Conversation.exec_bind_ok hstart, hexecute]
        exact congrArg Except.ok hclean
      · intro h
        obtain ⟨⟨⟩, hok, hclean⟩ := ok_of_map h
        unfold Conversation.startAndExecute at hok hclean
        rw [Conversation.exec_bind] at hok hclean
        split at hok
        · rename_i started hstart
          rw [hstart] at hclean
          exact ⟨elements, started, _, hprepared, hstart, Prod.ext hok rfl, hclean⟩
        · cases hok

/-- What becomes of scripts tells whether they pass: results do if those of scripts that pass have some
property, and a failure tells that they do not, and does not blame the configuration. -/
inductive Tells {α : Type} (passed : α → Prop) (pass : Prop) : Except Fault α → Prop where
  | result {x : α} (h : passed x ↔ pass) : Tells passed pass (.ok x)
  | failure {failure : Failure} (h : ¬ pass) (hkind : ¬ failure.kind.isA .configuration) :
      Tells passed pass (fail failure)
  | fault {fault : Fault} (hforeign : fault.Foreign) : Tells passed pass (.error fault)

/-- The failure of a script does not blame the configuration. -/
theorem not_configuration_of_blame (name : String) (cause : Failure) :
    ¬ (blame name cause).kind.isA .configuration := by
  unfold blame
  split
  · rename_i hload
    rw [eq_scriptLoad_of_isA hload]
    decide
  · change ¬ FailureKind.scriptFailed.isA .configuration
    decide

theorem tells_runScript (task : Task) (around : Surroundings) (path : Path) (world : World) :
    Tells (fun result => result.passed)
      (task.Passes around path (task.announced around path world))
      (task.runScript around path world).1 := by
  have hend := script_end task around path world
  have hpasses := passes_iff task around path (task.announced around path world)
  generalize task.runScript around path world = ended at hend
  cases hend with
  | @finished run failures after hattempt houtcome =>
      rw [hattempt] at hpasses
      refine .result (Iff.trans ?_ hpasses.symm)
      rw [houtcome]
      cases failures <;> simp [finishedResult, ScriptResult.passed]
  | @failed run cause after hattempt houtcome =>
      rw [hattempt] at hpasses
      have hfails : ¬ task.Passes around path (task.announced around path world) := by
        intro h
        cases houtcome.symm.trans (hpasses.mp h)
      dsimp only
      split
      · exact .failure hfails (not_configuration_of_blame path.name cause)
      · exact .result (iff_of_false Bool.false_ne_true hfails)
  | broken hattempt houtcome hforeign => exact .fault hforeign

/-! ## All scripts -/

theorem tells_runScripts (task : Task) (around : Surroundings) (paths : List Path)
    (world : World) :
    Tells (fun results => ∀ result ∈ results, result.passed) (task.AllPass around paths world)
      (task.runScripts around paths world).1 := by
  induction paths generalizing world with
  | nil => exact .result (iff_of_true nofun .nil)
  | cons path rest ih =>
      have hfirst := tells_runScript task around path world
      rw [allPass_cons]
      rcases hrun : task.runScript around path world with ⟨outcome, after⟩
      rw [hrun] at hfirst
      cases hfirst with
      | result hresult =>
          have hrest := ih after
          rw [runScripts_cons_of_ok hrun]
          generalize (task.runScripts around rest after).1 = outcome at hrest
          cases hrest with
          | result hall =>
              refine .result ?_
              rw [List.forall_mem_cons, hresult, hall]
          | failure hfails hkind => exact .failure (fun h => hfails h.2) hkind
          | fault hforeign => exact .fault hforeign
      | failure hfails hkind =>
          rw [runScripts_cons_of_error hrun]
          exact .failure (fun h => hfails h.1) hkind
      | fault hforeign =>
          rw [runScripts_cons_of_error hrun]
          exact .fault hforeign

/-- A task is to be skipped, or all scripts that are found pass. -/
def Succeeds (task : Task) (around : Surroundings) (world : World) : Prop :=
  task.skip = true ∨ ∃ paths,
    around.files.discover around.settings.scriptPattern task.scripts = .ok paths ∧
      task.AllPass around paths world

theorem succeeds_iff_of_discover (hskip : task.skip = false)
    (hpaths : around.files.discover around.settings.scriptPattern task.scripts = .ok paths) :
    task.Succeeds around world ↔ task.AllPass around paths world := by
  unfold Succeeds
  simp [hskip, hpaths]

/-- What becomes of a task that can be run tells whether it succeeds. -/
theorem tells_execute (hvalid : task.problem? = none) (around : Surroundings) (world : World) :
    Tells (fun results => ∀ result ∈ results, result.passed) (task.Succeeds around world)
      (task.execute around world).1 := by
  cases hskip : task.skip with
  | true =>
      unfold execute
      rw [hvalid, hskip]
      exact .result (iff_of_true nofun (.inl hskip))
  | false =>
      cases hpaths : around.files.discover around.settings.scriptPattern task.scripts with
      | error fault =>
          have hunfailing :=
            around.files.unfailing_discover around.settings.scriptPattern task.scripts
          unfold execute
          rw [hvalid, hskip, hpaths]
          refine .fault fun failure heq => ?_
          rw [hpaths, heq] at hunfailing
          exact hunfailing failure rfl
      | ok paths =>
          have hscripts := tells_runScripts task around paths world
          rw [execute_eq hvalid hskip hpaths, succeeds_iff_of_discover hskip hpaths]
          rcases hrun : task.runScripts around paths world with ⟨_ | _, last⟩
          · rwa [hrun] at hscripts
          · rwa [hrun] at hscripts

/-! ## Going on behind failures -/

/-- A script leaves the same network whether a task goes on behind failures or not. -/
theorem runScript_world_of_failFast (task : Task) (failFast : Bool) (around : Surroundings)
    (path : Path) (world : World) :
    ({ task with failFast := failFast }.runScript around path world).2 =
      (task.runScript around path world).2 := by
  let other : Task := { task with failFast := failFast }
  have htry : other.attempt around path (other.announced around path world) =
      task.attempt around path (task.announced around path world) := rfl
  change (other.runScript around path world).2 = _
  have hend := script_end task around path world
  generalize task.runScript around path world = ended at hend
  cases hend with
  | finished hattempt houtcome => rw [runScript_of_ok (htry.trans hattempt) houtcome]
  | failed hattempt houtcome => rw [runScript_of_failure (htry.trans hattempt) houtcome]
  | broken hattempt houtcome hforeign =>
      rw [runScript_of_fault (htry.trans hattempt) houtcome hforeign]

/-- Scripts pass whether a task goes on behind failures or not. -/
theorem allPass_of_failFast (task : Task) (failFast : Bool) (around : Surroundings)
    (paths : List Path) (world : World) :
    { task with failFast := failFast }.AllPass around paths world ↔
      task.AllPass around paths world := by
  induction paths generalizing world with
  | nil => exact iff_of_true .nil .nil
  | cons path rest ih =>
      rw [allPass_cons, allPass_cons, runScript_world_of_failFast, ih]
      rfl

theorem succeeds_of_failFast (task : Task) (failFast : Bool) (around : Surroundings)
    (world : World) :
    { task with failFast := failFast }.Succeeds around world ↔ task.Succeeds around world := by
  unfold Succeeds
  simp only [allPass_of_failFast]

end MailScript.Task
