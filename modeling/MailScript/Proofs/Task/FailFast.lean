import MailScript.Proofs.Task.Attempt

/-! # Ending at the first script that fails

A task that ends at the first failure does what a task that goes on does, up to and including the
first script that a failure ends. That failure is then what the task ends with. Mismatches that were
noted are results like others. -/

namespace MailScript.Task

open Network (World Socket)

/-- The task that goes on behind a script that fails. -/
def tolerant (task : Task) : Task := { task with failFast := false }

/-- The task that ends at the first script that fails. -/
def strict (task : Task) : Task := { task with failFast := true }

variable {task : Task} {around : Surroundings} {path : Path} {paths : List Path}
  {world after last : World} {result : ScriptResult} {results : List ScriptResult}

/-- A failure that ends a task at a script says that the script is missing if it cannot be read, and
that it has failed otherwise. -/
structure EndsAt (around : Surroundings) (path : Path) (failure : Failure) : Prop where
  scriptLoad : (∃ fault, around.files.read path = .error fault) → failure.kind = .scriptLoad
  scriptFailed : (∃ bytes, around.files.read path = .ok bytes) → failure.kind = .scriptFailed

theorem eq_scriptLoad_of_isA {kind : FailureKind} (h : kind.isA .scriptLoad) :
    kind = .scriptLoad := by
  revert h
  cases kind <;> decide

/-- The failure of a script is named after the script unless the script cannot be read. -/
theorem endsAt_blame {cause : Failure}
    (h : (task.attempt around path world).1.outcome = .error (.failure cause)) :
    EndsAt around path (blame path.name cause) := by
  have hload := scriptLoad_iff_of_attempt h
  refine ⟨fun hunread => ?_, fun ⟨bytes, hread⟩ => ?_⟩
  · rw [blame, if_pos (hload.mpr hunread)]
    exact eq_scriptLoad_of_isA (hload.mpr hunread)
  · have hother : ¬ cause.kind.isA .scriptLoad := fun hkind => by
      obtain ⟨fault, hunread⟩ := hload.mp hkind
      cases hread.symm.trans hunread
    rw [blame, if_neg hother]
    rfl

/-- How a task that ends at failures runs a script that has a result in a task that goes on: it has
the same result, unless a failure ended it; then the task ends with that failure. -/
inductive StrictEnd (task : Task) (around : Surroundings) (path : Path) (result : ScriptResult)
    (after : World) : Except Fault ScriptResult × World → Prop where
  | finished (herror : result.error = none) :
      StrictEnd task around path result after (.ok result, after)
  | failed {failure : Failure} (herror : result.error = some failure.message)
      (hends : EndsAt around path failure) :
      StrictEnd task around path result after (fail failure, after)

theorem strictEnd_runScript
    (h : task.tolerant.runScript around path world = (.ok result, after)) :
    StrictEnd task around path result after (task.strict.runScript around path world) := by
  -- What is tried does not depend on what is done about failures.
  have hstrict : task.strict.attempt around path (task.strict.announced around path world) =
      task.tolerant.attempt around path (task.tolerant.announced around path world) := rfl
  have hend := script_end task.tolerant around path world
  rw [h] at hend
  cases hend with
  | finished hattempt houtcome =>
      rw [runScript_of_ok (hstrict.trans hattempt) houtcome]
      exact .finished rfl
  | failed hattempt houtcome =>
      rw [runScript_of_failure (hstrict.trans hattempt) houtcome]
      have hfault := (congrArg (fun tried => tried.1.outcome) hattempt).trans houtcome
      exact .failed rfl (endsAt_blame hfault)

/-- A task with results has one for the first script and the others for the scripts behind it. -/
theorem runScripts_cons_eq_ok
    (h : task.runScripts around (path :: paths) world = (.ok results, last)) :
    ∃ result middle later, task.runScript around path world = (.ok result, middle) ∧
      task.runScripts around paths middle = (.ok later, last) ∧ results = result :: later := by
  rcases hrun : task.runScript around path world with ⟨fault | result, middle⟩
  · rw [runScripts_cons_of_error hrun] at h
    cases h
  · rw [runScripts_cons_of_ok hrun] at h
    have hlast : (task.runScripts around paths middle).2 = last := congrArg Prod.snd h
    obtain ⟨later, hlater, rfl⟩ := ok_of_map (congrArg Prod.fst h)
    exact ⟨result, middle, later, rfl, Prod.ext hlater hlast, rfl⟩

/-- How a task that ends at failures runs scripts that all have results in a task that goes on: it has
the same results, or it ends behind the first script that a failure ended. -/
inductive StrictEnds (task : Task) (around : Surroundings) (paths : List Path) (world : World)
    (results : List ScriptResult) (last : World) :
    Except Fault (List ScriptResult) × World → Prop where
  | finished (herrors : ∀ result ∈ results, result.error = none) :
      StrictEnds task around paths world results last (.ok results, last)
  | failed (front : List ScriptResult) {back : List ScriptResult} {result : ScriptResult}
      {path : Path} {failure : Failure} {after : World} (hresults : results = front ++ result :: back)
      (hfront : ∀ earlier ∈ front, earlier.error = none)
      (hpath : paths[front.length]? = some path) (herror : result.error = some failure.message)
      (hends : EndsAt around path failure)
      (hran : task.tolerant.runScripts around (paths.take (front.length + 1)) world =
        (.ok (front ++ [result]), after))
      (hrest : task.tolerant.runScripts around (paths.drop (front.length + 1)) after =
        (.ok back, last)) :
      StrictEnds task around paths world results last (fail failure, after)

theorem strictEnds_runScripts
    (h : task.tolerant.runScripts around paths world = (.ok results, last)) :
    StrictEnds task around paths world results last (task.strict.runScripts around paths world) := by
  induction paths generalizing world results with
  | nil =>
      cases h
      exact .finished nofun
  | cons path rest ih =>
      obtain ⟨result, middle, later, hfirst, hlater, rfl⟩ := runScripts_cons_eq_ok h
      have hend := strictEnd_runScript hfirst
      generalize hstrict : task.strict.runScript around path world = ended at hend
      cases hend with
      | finished herror =>
          have hends := ih hlater
          rw [runScripts_cons_of_ok hstrict]
          generalize task.strict.runScripts around rest middle = ended at hends
          cases hends with
          | finished herrors => exact .finished (List.forall_mem_cons.mpr ⟨herror, herrors⟩)
          | failed front hresults hfront hpath herror' hends hran hback =>
              refine .failed (result :: front) (congrArg (List.cons result) hresults)
                (List.forall_mem_cons.mpr ⟨herror, hfront⟩) hpath herror' hends ?_ hback
              rw [List.length_cons, List.take_succ_cons, runScripts_cons_of_ok hfirst, hran]
              rfl
      | failed herror hends =>
          rw [runScripts_cons_of_error hstrict]
          refine .failed [] rfl nofun rfl herror hends ?_ hlater
          exact runScripts_cons_of_ok hfirst []

/-- A task with results has been skipped, or they are those of the scripts that are found. -/
theorem execute_eq_ok (h : task.execute around world = (.ok results, last)) :
    task.problem? = none ∧
      (task.skip = true ∧ results = [] ∨
        task.skip = false ∧ ∃ paths before,
          around.files.discover around.settings.scriptPattern task.scripts = .ok paths ∧
          task.runScripts around paths world = (.ok results, before) ∧
          last = before.log (completed results)) := by
  cases hproblem : task.problem? with
  | some cause =>
      unfold execute at h
      rw [hproblem] at h
      cases h
  | none =>
      refine ⟨rfl, ?_⟩
      cases hskip : task.skip with
      | true =>
          unfold execute at h
          rw [hproblem, hskip] at h
          cases h
          exact .inl ⟨rfl, rfl⟩
      | false =>
          cases hpaths : around.files.discover around.settings.scriptPattern task.scripts with
          | error fault =>
              unfold execute at h
              rw [hproblem, hskip, hpaths] at h
              cases h
          | ok paths =>
              rw [execute_eq hproblem hskip hpaths] at h
              split at h
              · cases h
              · rename_i hrun
                cases h
                exact .inr ⟨rfl, paths, _, rfl, hrun, rfl⟩

/-- If a task that goes on behind failures has results, then a task that ends at the first failure has
the same ones, provided that no script has an error. Otherwise it ends with the error of the first
script that has one, right behind that script: the network is as the other task leaves it there, and
what happened on its sockets stays so. -/
theorem strict_execute_of_tolerant
    (h : task.tolerant.execute around world = (.ok results, last)) :
    ((∀ result ∈ results, result.error = none) ∧
        task.strict.execute around world = (.ok results, last)) ∨
      ∃ paths front result back path failure after,
        around.files.discover around.settings.scriptPattern task.scripts = .ok paths ∧
        results = front ++ result :: back ∧ (∀ earlier ∈ front, earlier.error = none) ∧
        paths[front.length]? = some path ∧ result.error = some failure.message ∧
        EndsAt around path failure ∧
        task.strict.execute around world = (fail failure, after) ∧
        task.tolerant.runScripts around (paths.take (front.length + 1)) world =
          (.ok (front ++ [result]), after) ∧
        after.sockets <+: last.sockets := by
  obtain ⟨hvalid, ⟨hskip, rfl⟩ | ⟨hskip, paths, before, hpaths, hrun, rfl⟩⟩ := execute_eq_ok h
  · refine .inl ⟨nofun, ?_⟩
    have hstrict : task.strict.execute around world = task.tolerant.execute around world := by
      unfold execute
      rw [show task.strict.problem? = none from hvalid, hvalid]
      rw [show task.strict.skip = true from hskip, hskip]
      rfl
    exact hstrict.trans h
  · have hexecute : task.strict.execute around world = _ := execute_eq hvalid hskip hpaths
    have hends := strictEnds_runScripts hrun
    generalize task.strict.runScripts around paths world = ended at hends hexecute
    cases hends with
    | finished herrors => exact .inl ⟨herrors, hexecute⟩
    | @failed front back result path failure after hresults hfront hpath herror hends hran hrest =>
        refine .inr ⟨paths, front, result, back, path, failure, after, hpaths, hresults, hfront,
          hpath, herror, hends, hexecute, hran, ?_⟩
        -- What was opened later is behind the earlier sockets, whether it is closed or not.
        have hcloses : after.Closes True
            (task.tolerant.runScripts around (paths.drop (front.length + 1)) after).2 :=
          closes_runScripts hvalid around _ (.inr trivial)
        rw [hrest] at hcloses
        obtain ⟨opened, hopened, -⟩ := hcloses
        exact ⟨opened, hopened.symm⟩

/-- The first script notes a mismatch, the connection of the second one is closed by the server, and
the third one passes, or is not run. -/
theorem strict_execute_of_tolerant_of_closed :
    let path (name : String) : Path := ⟨"", [name]⟩
    let files : FileTree := ⟨[[]], [(["a.mpt"], Text.encodeAscii "S: OK"),
      (["b.mpt"], Text.encodeAscii "C: NOOP\nS: OK"), (["c.mpt"], Text.encodeAscii "C: QUIT")]⟩
    let around : Surroundings := ⟨{}, files, ⟨2024, 10, 7, 14, 3, 9, 0⟩⟩
    let task : Task :=
      { scripts := [path "a.mpt", path "b.mpt", path "c.mpt"], keepGoing := some true
        hosts := [⟨"imap", "127.0.0.1", 143⟩] }
    let world := World.ofServices [⟨"127.0.0.1", 143,
      [⟨[], [.data (Text.encodeAscii "NO\n")], [], none⟩, ⟨[], [], [], none⟩, ⟨[], [], [], none⟩],
      none, none⟩]
    let mismatch := "\nLocation: a.mpt:1\nLastClientMsg: \nExpected: 'OK'\nActual   : 'NO'"
    let error := "[FAILURE] in script b.mpt\nConnection closed by peer"
    let results : List ScriptResult := [⟨"a.mpt", .failed, 1, [mismatch], none⟩,
      ⟨"b.mpt", .failed, 2, [], some error⟩, ⟨"c.mpt", .passed, 1, [], none⟩]
    let last := (task.tolerant.execute around world).2
    task.tolerant.execute around world = (.ok results, last) ∧
      last.sockets.map Socket.sent =
        [[], Text.encodeAscii "NOOP\r\n", Text.encodeAscii "QUIT\r\n"] ∧
      ∃ failure after, task.strict.execute around world = (fail failure, after) ∧
        failure.message = error ∧ failure.kind = .scriptFailed ∧
        after.sockets <+: last.sockets := by
  intro path files around task world mismatch error results last
  have hresults : (task.tolerant.execute around world).1 = .ok results :=
    eq_ok_of_toOption (by decide +kernel)
  have h : task.tolerant.execute around world = (.ok results, last) := Prod.ext hresults rfl
  refine ⟨h, by decide +kernel, ?_⟩
  rcases strict_execute_of_tolerant h with ⟨hnone, -⟩ | hends
  · cases hnone ⟨"b.mpt", .failed, 2, [], some error⟩ (by decide)
  · obtain ⟨paths, front, result, back, stuck, failure, after, hpaths, hsplit, hfront, hpath, herror,
      hends, hstrict, -, hsockets⟩ := hends
    have hfound : around.files.discover around.settings.scriptPattern task.scripts =
        .ok task.scripts := eq_ok_of_toOption (by decide +kernel)
    have hread : around.files.read (path "b.mpt") = .ok (Text.encodeAscii "C: NOOP\nS: OK") :=
      eq_ok_of_toOption (by decide +kernel)
    cases hfound.symm.trans hpaths
    -- The second result is the first one with an error.
    rcases front with _ | ⟨first, _ | ⟨second, rest⟩⟩
    · obtain ⟨rfl, -⟩ := List.cons.inj hsplit
      cases herror
    · obtain ⟨rfl, -⟩ := List.cons.inj (List.cons.inj hsplit).2
      cases hpath
      exact ⟨failure, after, hstrict, (Option.some.inj herror).symm, hends.scriptFailed ⟨_, hread⟩,
        hsockets⟩
    · obtain ⟨rfl, -⟩ := List.cons.inj (List.cons.inj hsplit).2
      cases hfront _ (List.mem_cons_of_mem first List.mem_cons_self)

end MailScript.Task
