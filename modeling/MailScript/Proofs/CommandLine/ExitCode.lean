import MailScript.CommandLine.Run
import MailScript.Proofs.CommandLine.Arguments
import MailScript.Proofs.Task.Verdict
import MailScript.Proofs.Text

/-! # What an exit code says

The exit code says whether the specifications of hosts and variables make sense and, if they do,
whether all scripts pass. It says so whether scripts behind a failure are run or not. -/

namespace MailScript.CommandLine

open List (Sublist)
open Network (World)

/-! ## Specifications -/

/-- A text specifies a variable: it has an equals sign, and a name in front of the first one. -/
def NamesVariable (spec : String) : Prop :=
  ∃ name value, spec.toList = name ++ '=' :: value ∧ '=' ∉ name ∧ name ≠ []

/-- A specification of a host or of a variable makes no sense, or two hosts have the same label. -/
inductive Malformed (hosts assignments : List String) : Prop where
  | host {spec : String} (hmem : spec ∈ hosts)
      (h : ∀ address, HostAddress.parse spec ≠ .ok address) : Malformed hosts assignments
  | variable {spec : String} (hmem : spec ∈ assignments) (h : ¬ NamesVariable spec) :
      Malformed hosts assignments
  | label {spec other : String} {address twin : HostAddress} (hmem : Sublist [spec, other] hosts)
      (haddress : HostAddress.parse spec = .ok address)
      (htwin : HostAddress.parse other = .ok twin) (h : address.label = twin.label) :
      Malformed hosts assignments

/-- The host that a text specifies. -/
def parseHost (spec : String) : Except Fault HostAddress :=
  (HostAddress.parse spec).mapError fun e => .failure (.configuration (.badHost spec e))

theorem parseHost_eq_ok_iff {spec : String} {address : HostAddress} :
    parseHost spec = .ok address ↔ HostAddress.parse spec = .ok address := by
  unfold parseHost
  cases HostAddress.parse spec with
  | error e =>
      change Except.error _ = Except.ok address ↔ _
      simp
  | ok host =>
      change Except.ok host = Except.ok address ↔ _
      simp

theorem parseHosts_eq_mapM (specs : List String) : parseHosts specs = specs.mapM parseHost := by
  induction specs with
  | nil => rfl
  | cons spec rest ih =>
      rw [List.mapM_cons, parseHosts, parseHost, ih]
      cases HostAddress.parse spec <;> rfl

/-- Hosts are read from their specifications, or one of these makes no sense. -/
theorem parseHosts_cases (specs : List String) :
    (∃ hosts, parseHosts specs = .ok hosts ∧ specs.map parseHost = hosts.map .ok) ∨
      ∃ spec ∈ specs, (∀ address, HostAddress.parse spec ≠ .ok address) ∧
        ∃ cause, parseHosts specs = fail (.configuration cause) := by
  rw [parseHosts_eq_mapM]
  refine (mapM_cases parseHost specs).imp id ?_
  rintro ⟨spec, hspec, fault, hfault, herror⟩
  obtain ⟨e, he, rfl⟩ := error_of_mapError hfault
  refine ⟨spec, hspec, ?_, _, herror⟩
  rw [he]
  exact fun _ => nofun

/-- A text that specifies no variable is a failure of the configuration. -/
theorem parseVariable_cases (spec : String) :
    (NamesVariable spec ∧ ∃ binding, parseVariable spec = .ok binding) ∨
      ¬ NamesVariable spec ∧ parseVariable spec = fail (.configuration (.badVariable spec)) := by
  unfold parseVariable
  split
  · rename_i c name value hcut
    obtain ⟨hspec, hname⟩ := Text.cutAtFirst_eq_some hcut
    exact .inl ⟨⟨c :: name, value, hspec, hname, List.cons_ne_nil c name⟩, _, rfl⟩
  · rename_i hcut
    refine .inr ⟨?_, rfl⟩
    rintro ⟨_ | ⟨c, name⟩, value, hspec, hname, hne⟩
    · exact hne rfl
    · exact hcut c name value (hspec ▸ Text.cutAtFirst_append value hname)

/-- Variables are read from their specifications, or one of these makes no sense. -/
theorem parseVariables_cases (specs : List String) :
    ((∀ spec ∈ specs, NamesVariable spec) ∧ ∃ store, parseVariables specs = .ok store) ∨
      ∃ spec ∈ specs, ¬ NamesVariable spec ∧
        ∃ cause, parseVariables specs = fail (.configuration cause) := by
  unfold parseVariables
  rcases mapM_cases parseVariable specs with
    ⟨bindings, hok, hmap⟩ | ⟨spec, hspec, fault, hfault, herror⟩
  · rw [hok]
    refine .inl ⟨fun spec hspec => ?_, _, rfl⟩
    obtain ⟨binding, -, hbinding⟩ := List.mem_map.mp (hmap ▸ List.mem_map_of_mem hspec)
    refine (parseVariable_cases spec).elim And.left fun ⟨_, hfail⟩ => ?_
    cases hbinding.trans hfail
  · rw [herror]
    rcases parseVariable_cases spec with ⟨-, binding, hbinding⟩ | ⟨hnone, hfail⟩
    · cases hbinding.symm.trans hfault
    · cases hfail.symm.trans hfault
      exact .inr ⟨spec, hspec, hnone, _, rfl⟩

/-- Hosts have different labels if no two of their specifications give the same one. -/
theorem pairwise_label_iff {specs : List String} {hosts : List HostAddress}
    (h : specs.map parseHost = hosts.map .ok) :
    (hosts.map HostAddress.label).Nodup ↔
      ∀ {spec other : String}, Sublist [spec, other] specs → ∀ {address twin : HostAddress},
        HostAddress.parse spec = .ok address → HostAddress.parse other = .ok twin →
          address.label ≠ twin.label := by
  let Differ (a b : Except Fault HostAddress) : Prop :=
    ∀ {address twin : HostAddress}, a = .ok address → b = .ok twin → address.label ≠ twin.label
  have hhosts : (hosts.map HostAddress.label).Nodup ↔ (hosts.map Except.ok).Pairwise Differ := by
    rw [List.Nodup, List.pairwise_map, List.pairwise_map]
    simp [Differ]
  rw [hhosts, ← h, List.pairwise_map, List.pairwise_iff_forall_sublist]
  simp only [Differ, parseHost_eq_ok_iff]

/-- If all specifications make sense, then one of them is malformed only because of a label that two
hosts have. -/
theorem malformed_iff {specs assignments : List String} {hosts : List HostAddress}
    (hmap : specs.map parseHost = hosts.map .ok)
    (hnames : ∀ spec ∈ assignments, NamesVariable spec) :
    Malformed specs assignments ↔ ¬ (hosts.map HostAddress.label).Nodup := by
  rw [pairwise_label_iff hmap]
  constructor
  · rintro (⟨hmem, hnone⟩ | ⟨hmem, hnone⟩ | ⟨hmem, haddress, htwin, hlabel⟩) hdiffer
    · obtain ⟨address, -, haddress⟩ := List.mem_map.mp (hmap ▸ List.mem_map_of_mem hmem)
      exact hnone address (parseHost_eq_ok_iff.mp haddress.symm)
    · exact hnone (hnames _ hmem)
    · exact hdiffer hmem haddress htwin hlabel
  · intro hsame
    refine Classical.not_not.mp fun hsound => hsame fun hmem _ _ haddress htwin hlabel => ?_
    exact hsound (.label hmem haddress htwin hlabel)

/-! ## Tasks -/

/-- A task with scripts and hosts can be run exactly if the labels of the hosts are different. -/
theorem problem?_eq_none_iff {task : Task} (hscripts : task.scripts ≠ []) (hhosts : task.hosts ≠ []) :
    task.problem? = none ↔ (task.hosts.map HostAddress.label).Nodup := by
  refine ⟨Task.nodup_labels, fun hnodup => ?_⟩
  have hnone : task.duplicateLabels = [] := by
    unfold Task.duplicateLabels
    dsimp only
    rw [List.filter_eq_nil_iff.mpr fun label _ => by
      simpa using List.nodup_iff_count.mp hnodup label]
    simp
  unfold Task.problem?
  rw [if_neg (by simpa using hscripts), if_neg (by simpa using hhosts), hnone]
  rfl

/-- What options that name scripts and hosts come to: a task that can be run, unless a specification
is malformed. -/
inductive Settles (options : Options) : Except Fault Task → Prop where
  | refused {cause : ConfigurationCause} (h : Malformed options.hosts options.assignments) :
      Settles options (fail (.configuration cause))
  | ambiguous {task : Task} {cause : ConfigurationCause}
      (h : Malformed options.hosts options.assignments) (hproblem : task.problem? = some cause) :
      Settles options (.ok task)
  | sound {task : Task} (h : ¬ Malformed options.hosts options.assignments)
      (hvalid : task.problem? = none) : Settles options (.ok task)

theorem taskOf_of_ok {options : Options} {hosts : List HostAddress} {store : Variables}
    (hhosts : parseHosts options.hosts = .ok hosts)
    (hstore : parseVariables options.assignments = .ok store) :
    ∃ task, taskOf options = .ok task ∧ task.hosts = hosts ∧
      task.scripts = options.scripts.map Path.ofString := by
  unfold taskOf
  rw [hhosts, hstore]
  exact ⟨_, rfl, rfl, rfl⟩

theorem settles_taskOf {options : Options} (hscripts : options.scripts ≠ [])
    (hhosts : options.hosts ≠ []) : Settles options (taskOf options) := by
  rcases parseHosts_cases options.hosts with ⟨hosts, hparsed, hmap⟩ | ⟨spec, hspec, hnone, cause, h⟩
  · rcases parseVariables_cases options.assignments with
      ⟨hnames, store, hstore⟩ | ⟨spec, hspec, hnone, cause, h⟩
    · obtain ⟨task, htask, rfl, hpaths⟩ := taskOf_of_ok hparsed hstore
      have hvalid : task.problem? = none ↔ ¬ Malformed options.hosts options.assignments := by
        rw [malformed_iff hmap hnames, Classical.not_not]
        refine problem?_eq_none_iff (by simpa [hpaths] using hscripts) fun hnil => ?_
        rw [hnil, List.map_nil, List.map_eq_nil_iff] at hmap
        exact hhosts hmap
      rw [htask]
      cases hproblem : task.problem? with
      | none => exact .sound (hvalid.mp hproblem) hproblem
      | some cause =>
          refine .ambiguous (Classical.not_not.mp fun hsound => ?_) hproblem
          cases hproblem.symm.trans (hvalid.mpr hsound)
    · have hfail : taskOf options = fail (.configuration cause) := by
        unfold taskOf
        rw [hparsed, h]
        rfl
      rw [hfail]
      exact .refused (.variable hspec hnone)
  · have hfail : taskOf options = fail (.configuration cause) := by
      unfold taskOf
      rw [h]
      rfl
    rw [hfail]
    exact .refused (.host hspec hnone)

/-! ## Exit codes -/

/-- What an exit code says of options: a specification is malformed, or the task succeeds, or it does
not. -/
inductive Says (malformed succeeds : Prop) : Int → Prop where
  | badConfiguration (h : malformed) : Says malformed succeeds exitBadConfiguration
  | ok (h : ¬ malformed) (hsucceeds : succeeds) : Says malformed succeeds exitOk
  | failure (h : ¬ malformed) (hfails : ¬ succeeds) : Says malformed succeeds exitFailure

namespace Says

variable {malformed succeeds : Prop} {code other : Int}

theorem unique (h : Says malformed succeeds code) (hother : Says malformed succeeds other) :
    other = code := by
  cases h <;> cases hother <;> first
    | rfl
    | contradiction

theorem badConfiguration_iff (h : Says malformed succeeds code) : code = 2 ↔ malformed := by
  cases h with
  | badConfiguration h => exact iff_of_true rfl h
  | ok h | failure h => exact iff_of_false (by decide) h

theorem ok_iff (h : Says malformed succeeds code) : code = 0 ↔ ¬ malformed ∧ succeeds := by
  cases h with
  | badConfiguration h => exact iff_of_false (by decide) fun hok => hok.1 h
  | ok h hsucceeds => exact iff_of_true rfl ⟨h, hsucceeds⟩
  | failure h hfails => exact iff_of_false (by decide) fun hok => hfails hok.2

theorem failure_iff (h : Says malformed succeeds code) : code = 1 ↔ ¬ malformed ∧ ¬ succeeds := by
  cases h with
  | badConfiguration h => exact iff_of_false (by decide) fun hok => hok.1 h
  | ok h hsucceeds => exact iff_of_false (by decide) fun hok => hok.2 hsucceeds
  | failure h hfails => exact iff_of_true rfl ⟨h, hfails⟩

end Says

/-- The exit code for what becomes of a task. Failures of the harness have exit codes of their own. -/
def codeOf : Except Fault (List ScriptResult) → Except Fault Int
  | .ok results => .ok (exitCode results)
  | .error (.failure cause) =>
    .ok (if cause.kind.isA .configuration then exitBadConfiguration else exitFailure)
  | .error fault => .error fault

theorem codeOf_configuration (cause : ConfigurationCause) :
    codeOf (fail (.configuration cause)) = .ok exitBadConfiguration := by
  cases cause <;> rfl

theorem runOptions_eq_codeOf (options : Options) (around : Surroundings) (world : World) :
    (runOptions options around world).1 =
      codeOf (taskOf options >>= fun task => (task.execute around world).1) := by
  unfold runOptions
  cases taskOf options with
  | error fault =>
      cases fault
      case failure cause =>
        dsimp only [bind, Except.bind, codeOf]
        split <;> rfl
      all_goals rfl
  | ok task =>
      dsimp only [bind, Except.bind]
      rcases task.execute around world with ⟨fault | results, last⟩
      · cases fault
        case failure cause =>
          dsimp only [codeOf]
          split <;> rfl
        all_goals rfl
      · rfl

theorem exitCode_eq (results : List ScriptResult) :
    exitCode results = if ∀ result ∈ results, result.passed then exitOk else exitFailure := by
  simp [exitCode]

/-- A task that can be run comes to one of two exit codes, or to a fault that has none. -/
theorem says_of_tells {malformed pass : Prop} {outcome : Except Fault (List ScriptResult)}
    {code : Int} (hsound : ¬ malformed)
    (htells : Task.Tells (fun results => ∀ result ∈ results, result.passed) pass outcome)
    (h : codeOf outcome = .ok code) : Says malformed pass code := by
  cases htells with
  | result hall =>
      cases h
      rw [exitCode_eq]
      split
      · exact .ok hsound (hall.mp ‹_›)
      · exact .failure hsound (mt hall.mpr ‹_›)
  | @failure failure hfails hkind =>
      cases h
      rw [if_neg hkind]
      exact .failure hsound hfails
  | @fault fault hforeign =>
      cases fault
      case failure cause => exact absurd rfl (hforeign cause)
      all_goals cases h

/-- The task that options ask for succeeds. -/
def Options.Succeed (options : Options) (around : Surroundings) (world : World) : Prop :=
  ∃ task, taskOf options = .ok task ∧ task.Succeeds around world

theorem says_runOptions {options : Options} {around : Surroundings} {world : World} {code : Int}
    (h : (runOptions options around world).1 = .ok code) (hscripts : options.scripts ≠ [])
    (hhosts : options.hosts ≠ []) :
    Says (Malformed options.hosts options.assignments) (options.Succeed around world) code := by
  have hsettles := settles_taskOf hscripts hhosts
  rw [runOptions_eq_codeOf] at h
  unfold Options.Succeed
  generalize taskOf options = settled at hsettles h ⊢
  cases hsettles with
  | @refused cause hmalformed =>
      cases h.symm.trans (codeOf_configuration cause)
      exact .badConfiguration hmalformed
  | @ambiguous task cause hmalformed hproblem =>
      have hexecute : (task.execute around world).1 = fail (.configuration cause) := by
        unfold Task.execute
        rw [hproblem]
      change codeOf (task.execute around world).1 = _ at h
      rw [hexecute] at h
      cases h.symm.trans (codeOf_configuration cause)
      exact .badConfiguration hmalformed
  | @sound task hsound hvalid =>
      have hsucceed : (∃ other, Except.ok (ε := Fault) task = .ok other ∧
          other.Succeeds around world) ↔ task.Succeeds around world := by
        simp
      rw [hsucceed]
      exact says_of_tells hsound (task.tells_execute hvalid around world) h

/-! ## Command lines -/

/-- A command line with an exit code of its own ran the task that its options ask for. -/
theorem runOptions_of_run {arguments : List String} {options : Options} {around : Surroundings}
    {world : World} {code : Int} (hoptions : parseArguments arguments = .ok options)
    (h : (run arguments around world).outcome = .ok code) :
    (runOptions options around world).1 = .ok code := by
  unfold run at h
  rw [hoptions] at h
  dsimp only at h
  split at h
  · cases h
  · exact h

theorem taskOf_keepGoing (options : Options) (keepGoing : Bool) :
    taskOf { options with keepGoing := keepGoing } =
      (taskOf options).map fun task => { task with failFast := !keepGoing } := by
  unfold taskOf
  cases parseHosts options.hosts with
  | error fault => rfl
  | ok hosts => cases parseVariables options.assignments <;> rfl

/-- The task that options ask for succeeds or not, whether scripts behind a failure are run or not. -/
theorem succeed_keepGoing (options : Options) (keepGoing : Bool) (around : Surroundings)
    (world : World) :
    { options with keepGoing := keepGoing }.Succeed around world ↔ options.Succeed around world := by
  unfold Options.Succeed
  rw [taskOf_keepGoing]
  cases taskOf options with
  | error fault => simp [Except.map]
  | ok task => simpa [Except.map] using task.succeeds_of_failFast (!keepGoing) around world

/-- Two accepted command lines that differ in whether scripts behind a failure are run have the same
exit code, if both of them have one. It is two exactly if a specification of a host or of a variable is
malformed or two hosts have the same label; else it is zero if the task is to be skipped or all scripts
that are found pass, and one if not. -/
theorem run_exitCode {arguments others : List String} {options : Options} {keepGoing : Bool}
    {around : Surroundings} {world : World} {code other : Int}
    (hoptions : parseArguments arguments = .ok options)
    (hothers : parseArguments others = .ok { options with keepGoing := keepGoing })
    (hcode : (run arguments around world).outcome = .ok code)
    (hother : (run others around world).outcome = .ok other) :
    parseArguments ("--keep-going" :: arguments) = .ok { options with keepGoing := true } ∧
      other = code ∧
      (code = 2 ↔ Malformed options.hosts options.assignments) ∧
      (code = 0 ↔ ¬ Malformed options.hosts options.assignments ∧ options.Succeed around world) ∧
      (code = 1 ↔ ¬ Malformed options.hosts options.assignments ∧ ¬ options.Succeed around world) := by
  obtain ⟨hscripts, hhosts⟩ := named_of_parseArguments hoptions
  have hsays := says_runOptions (runOptions_of_run hoptions hcode) hscripts hhosts
  have hsaysOther := says_runOptions (runOptions_of_run hothers hother) hscripts hhosts
  rw [succeed_keepGoing] at hsaysOther
  refine ⟨?_, hsays.unique hsaysOther, hsays.badConfiguration_iff, hsays.ok_iff, hsays.failure_iff⟩
  rw [parseArguments_keepGoing, hoptions]
  rfl

/-- The connection of the first script is closed by the server, and the second one passes, or is not
run. -/
theorem run_exitCode_of_closed :
    let files : FileTree := ⟨[[]], [(["a.mpt"], Text.encodeAscii "C: NOOP\nS: OK"),
      (["b.mpt"], Text.encodeAscii "C: QUIT")]⟩
    let around : Surroundings := ⟨{}, files, ⟨2024, 10, 7, 14, 3, 9, 0⟩⟩
    let world := World.ofServices [⟨"127.0.0.1", 143,
      [⟨[], [], [], none⟩, ⟨[], [], [], none⟩], none, none⟩]
    let arguments := ["a.mpt", "b.mpt", "--host", "imap=127.0.0.1:143"]
    let others := ["--keep", "--host=imap=127.0.0.1:143", "--", "a.mpt", "b.mpt"]
    let options : Options := { scripts := ["a.mpt", "b.mpt"], hosts := ["imap=127.0.0.1:143"] }
    parseArguments arguments = .ok options ∧
      parseArguments others = .ok { options with keepGoing := true } ∧
      (run arguments around world).outcome = .ok 1 ∧ (run others around world).outcome = .ok 1 ∧
      (run arguments around world).world.sockets.length = 1 ∧
      (run others around world).world.sockets.length = 2 ∧
      ¬ Malformed options.hosts options.assignments ∧ ¬ options.Succeed around world := by
  intro files around world arguments others options
  have hoptions : parseArguments arguments = .ok options := eq_ok_of_toOption (by decide +kernel)
  have hothers : parseArguments others = .ok { options with keepGoing := true } :=
    eq_ok_of_toOption (by decide +kernel)
  have hcode : (run arguments around world).outcome = .ok 1 := eq_ok_of_toOption (by decide +kernel)
  have hother : (run others around world).outcome = .ok 1 := eq_ok_of_toOption (by decide +kernel)
  obtain ⟨-, -, -, -, hfailure⟩ := run_exitCode hoptions hothers hcode hother
  exact ⟨hoptions, hothers, hcode, hother, by decide +kernel, by decide +kernel, hfailure.mp rfl⟩

end MailScript.CommandLine
