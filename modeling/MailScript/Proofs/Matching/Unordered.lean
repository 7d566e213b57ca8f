import MailScript.Matching
import MailScript.Proofs.Results
import Mathlib.Data.Fintype.EquivFin
import Mathlib.Data.List.FinRange
import Mathlib.Data.List.NodupEquivFin
import Mathlib.Data.List.Perm.Basic

/-! # Lines in any order

Each line that arrives uses up the first pattern left that accepts it. If any two patterns accept
the same lines or none in common, it does not matter which of several patterns is used up: the
number of lines that find none is the same whatever their order, and it is zero exactly if the lines
can be assigned to the patterns one to one. -/

namespace MailScript

/-- The lines that find no pattern left, in order of arrival. -/
def strays (fits : String → String → Bool) : List String → List String → List String
  | _, [] => []
  | remaining, line :: rest =>
    let later := strays fits (remaining.eraseP (fits · line)) rest
    if remaining.any (fits · line) then later else line :: later

section

variable {fits : String → String → Bool} {patterns remaining lines : List String}

/-! ## Which lines are reported -/

section Reading

variable {accepts : String → String → Except Fault Bool} {location : String}

theorem takeAccepting_eq {line : String}
    (h : ∀ pattern ∈ remaining, accepts pattern line = .ok (fits pattern line)) :
    takeAccepting accepts line remaining =
      .ok (if remaining.any (fits · line) then some (remaining.eraseP (fits · line))
        else none) := by
  induction remaining with
  | nil => rfl
  | cons pattern rest ih =>
      rw [List.forall_mem_cons] at h
      unfold takeAccepting
      rw [h.1, ih h.2]
      cases hfits : fits pattern line with
      | true => simp [hfits, bind, Except.bind, pure, Except.pure]
      | false =>
          rw [List.any_cons, hfits, Bool.false_or, List.eraseP_cons_of_neg (by simp [hfits])]
          cases rest.any (fits · line) <;> rfl

section

variable {σ α β : Type}

theorem run_bind_stateful (act : ExceptT Fault (StateM σ) α) (next : α → ExceptT Fault (StateM σ) β)
    (state : σ) :
    (act >>= next).run.run state =
      match act.run.run state with
      | (.ok x, after) => (next x).run.run after
      | (.error fault, after) => (.error fault, after) := by
  rw [ExceptT.run_bind, StateT.run_bind]
  rcases act.run.run state with ⟨_ | _, after⟩ <;> rfl

variable {read : ExceptT Fault (StateM σ) String} {state heard : σ}

/-- A line that is read uses up a pattern, or it is reported. -/
theorem run_receiveUnordered {line : String} (hread : read.run.run state = (.ok line, heard))
    (report : Failure → ExceptT Fault (StateM σ) Unit) (count : Nat)
    (h : ∀ pattern ∈ remaining, accepts pattern line = .ok (fits pattern line)) :
    (receiveUnordered accepts read report location patterns (count + 1) remaining).run.run state =
      match (if remaining.any (fits · line) then pure ()
        else report (.unorderedMismatch location patterns line)).run.run heard with
      | (.ok _, after) =>
        let later := (receiveUnordered accepts read report location patterns count
          (remaining.eraseP (fits · line))).run.run after
        (later.1.map (line :: ·), later.2)
      | (.error fault, after) => (.error fault, after) := by
  have hlater (fewer : List String) (after : σ) :
      (receiveUnordered accepts read report location patterns count fewer >>= fun later =>
        pure (line :: later)).run.run after =
      let later := (receiveUnordered accepts read report location patterns count
        fewer).run.run after
      (later.1.map (line :: ·), later.2) := by
    rw [run_bind_stateful]
    rcases (receiveUnordered accepts read report location patterns count fewer).run.run after
      with ⟨_ | _, last⟩ <;> rfl
  rw [receiveUnordered, run_bind_stateful, hread]
  dsimp only
  rw [takeAccepting_eq h]
  cases hany : remaining.any (fits · line) with
  | true =>
      simp only [if_true, pure_bind]
      exact hlater _ _
  | false =>
      have hsame : remaining.eraseP (fits · line) = remaining :=
        List.eraseP_of_forall_not fun pattern hpattern hfits =>
          List.any_eq_false.mp hany pattern hpattern hfits
      simp only [Bool.false_eq_true, if_false, hsame, pure_bind]
      rw [run_bind_stateful]
      rcases (report (.unorderedMismatch location patterns line)).run.run _ with ⟨_ | _, after⟩
      · rfl
      · exact hlater remaining after

end

theorem run_read_cons (line : String) (unread : List String) (reads : Nat)
    (failures : List Failure) :
    Feed.read.run.run ⟨line :: unread, reads, failures⟩ =
      (.ok line, ⟨unread, reads + 1, failures⟩) := rfl

/-- What accepts decides the same way for the patterns that are left. -/
theorem forall_mem_eraseP {rest : List String}
    (h : ∀ line ∈ rest, ∀ pattern ∈ remaining, accepts pattern line = .ok (fits pattern line))
    (line : String) :
    ∀ line' ∈ rest, ∀ pattern ∈ remaining.eraseP (fits · line),
      accepts pattern line' = .ok (fits pattern line') :=
  fun line' hline pattern hpattern => h line' hline pattern (List.mem_of_mem_eraseP hpattern)

variable (patterns location) in
/-- With collecting all lines are read, and the strays are reported. -/
theorem receiveUnordered_collect (unread : List String) (reads : Nat) (failures : List Failure)
    (h : ∀ line ∈ lines, ∀ pattern ∈ remaining, accepts pattern line = .ok (fits pattern line)) :
    (receiveUnordered accepts Feed.read Feed.collect location patterns lines.length
        remaining).run.run ⟨lines ++ unread, reads, failures⟩ =
      (.ok lines, ⟨unread, reads + lines.length, failures ++
        (strays fits remaining lines).map (Failure.unorderedMismatch location patterns)⟩) := by
  induction lines generalizing remaining reads failures with
  | nil =>
      rw [strays, List.map_nil, List.append_nil]
      rfl
  | cons line rest ih =>
      rw [List.forall_mem_cons] at h
      have hreads : reads + 1 + rest.length = reads + (rest.length + 1) := by omega
      rw [List.length_cons, List.cons_append,
        run_receiveUnordered (run_read_cons ..) _ _ h.1, strays]
      cases hany : remaining.any (fits · line) with
      | true =>
          have hrest := ih (reads + 1) failures (forall_mem_eraseP h.2 line)
          rw [hreads] at hrest
          exact congrArg (fun later => (later.1.map (line :: ·), later.2)) hrest
      | false =>
          have hrest := ih (reads + 1)
            (failures ++ [.unorderedMismatch location patterns line]) (forall_mem_eraseP h.2 line)
          rw [hreads, List.append_assoc] at hrest
          exact congrArg (fun later => (later.1.map (line :: ·), later.2)) hrest

variable (patterns location) in
/-- Without collecting the first stray ends the reading. -/
theorem receiveUnordered_refuse (unread : List String) (reads : Nat) (failures : List Failure)
    (h : ∀ line ∈ lines, ∀ pattern ∈ remaining, accepts pattern line = .ok (fits pattern line)) :
    ((receiveUnordered accepts Feed.read Feed.refuse location patterns lines.length
        remaining).run.run ⟨lines ++ unread, reads, failures⟩).1 =
      match strays fits remaining lines with
      | [] => .ok lines
      | line :: _ => fail (.unorderedMismatch location patterns line) := by
  induction lines generalizing remaining reads failures with
  | nil => rfl
  | cons line rest ih =>
      rw [List.forall_mem_cons] at h
      rw [List.length_cons, List.cons_append,
        run_receiveUnordered (run_read_cons ..) _ _ h.1, strays]
      cases hany : remaining.any (fits · line) with
      | true =>
          have hrest := ih (reads + 1) failures (forall_mem_eraseP h.2 line)
          refine (congrArg (Except.map (line :: ·)) hrest).trans ?_
          simp only [if_true]
          cases strays fits (remaining.eraseP (fits · line)) rest <;> rfl
      | false => rfl

/-- As many lines as there are patterns are accepted if none of them is a stray. -/
theorem isOk_matchLines_iff (hlength : lines.length = patterns.length)
    (h : ∀ line ∈ lines, ∀ pattern ∈ patterns, accepts pattern line = .ok (fits pattern line)) :
    (matchLines accepts false location patterns lines).1.isOk ↔
      strays fits patterns lines = [] := by
  have hrun := receiveUnordered_refuse patterns location [] 0 [] h
  rw [List.append_nil, hlength] at hrun
  change (Prod.fst ((receiveUnordered accepts Feed.read Feed.refuse location patterns
    patterns.length patterns).run.run ⟨lines, 0, []⟩)).isOk ↔ _
  rw [hrun]
  cases strays fits patterns lines with
  | nil => simp [Except.isOk, Except.toBool]
  | cons line rest => simp [fail, Except.isOk, Except.toBool]

theorem failures_matchLines (hlength : lines.length = patterns.length)
    (h : ∀ line ∈ lines, ∀ pattern ∈ patterns, accepts pattern line = .ok (fits pattern line)) :
    (matchLines accepts true location patterns lines).2.failures =
      (strays fits patterns lines).map (Failure.unorderedMismatch location patterns) := by
  have hrun := receiveUnordered_collect patterns location [] 0 [] h
  rw [List.append_nil, hlength] at hrun
  exact congrArg (fun result => result.2.failures) hrun

end Reading

/-! ## The order of the lines -/

/-- Any two of the patterns accept the same ones of the lines, or none in common. -/
def Divided (fits : String → String → Bool) (patterns lines : List String) : Prop :=
  ∀ first ∈ patterns, ∀ second ∈ patterns,
    (∀ line ∈ lines, fits first line = fits second line) ∨
      ∀ line ∈ lines, ¬ (fits first line ∧ fits second line)

theorem Divided.mono (h : Divided fits patterns lines) {fewer some : List String}
    (hpatterns : fewer ⊆ patterns) (hlines : some ⊆ lines) : Divided fits fewer some :=
  fun first hfirst second hsecond =>
    (h first (hpatterns hfirst) second (hpatterns hsecond)).imp
      (fun hsame line hline => hsame line (hlines hline))
      fun hapart line hline => hapart line (hlines hline)

/-- Two lines that a pattern accepts both are alike to all patterns. -/
theorem Divided.alike (h : Divided fits remaining lines) {first second : String}
    (hfirst : first ∈ lines) (hsecond : second ∈ lines) {pattern : String}
    (hpattern : pattern ∈ remaining) (hboth : fits pattern first ∧ fits pattern second) :
    ∀ other ∈ remaining, fits other first = fits other second := by
  intro other hother
  rcases h pattern hpattern other hother with hsame | hapart
  · rw [← hsame first hfirst, ← hsame second hsecond, hboth.1, hboth.2]
  · have hnot : fits other first = false := by simpa [hboth.1] using hapart first hfirst
    have hnot' : fits other second = false := by simpa [hboth.2] using hapart second hsecond
    rw [hnot, hnot']

theorem length_strays_cons (fits : String → String → Bool) (remaining : List String)
    (line : String) (rest : List String) :
    (strays fits remaining (line :: rest)).length =
      (if remaining.any (fits · line) then 0 else 1) +
        (strays fits (remaining.eraseP (fits · line)) rest).length := by
  rw [strays]
  split
  · exact (Nat.zero_add _).symm
  · exact Nat.add_comm _ _

/-- A pattern that one line uses up is no loss to another line that it does not accept. -/
theorem any_eraseP_of_apart {first second : String}
    (h : ∀ pattern ∈ remaining, ¬ (fits pattern first ∧ fits pattern second)) :
    (remaining.eraseP (fits · first)).any (fits · second) = remaining.any (fits · second) := by
  rw [Bool.eq_iff_iff, List.any_eq_true, List.any_eq_true]
  constructor
  · rintro ⟨pattern, hmem, hfits⟩
    exact ⟨pattern, List.mem_of_mem_eraseP hmem, hfits⟩
  · rintro ⟨pattern, hmem, hfits⟩
    have hnot : ¬ fits pattern first := fun hfirst => h pattern hmem ⟨hfirst, hfits⟩
    exact ⟨pattern, (List.mem_eraseP_of_neg (p := (fits · first)) hnot).mpr hmem, hfits⟩

theorem eraseP_congr {p q : String → Bool} (h : ∀ pattern ∈ remaining, p pattern = q pattern) :
    remaining.eraseP p = remaining.eraseP q := by
  induction remaining with
  | nil => rfl
  | cons pattern rest ih =>
      rw [List.forall_mem_cons] at h
      rw [List.eraseP_cons, List.eraseP_cons, h.1, ih h.2]

/-- Two lines that arrive one behind the other may as well arrive the other way around. -/
theorem length_strays_swap {first second : String} {rest : List String}
    (h : Divided fits remaining (first :: second :: rest)) :
    (strays fits remaining (first :: second :: rest)).length =
      (strays fits remaining (second :: first :: rest)).length := by
  simp only [length_strays_cons]
  by_cases hshared : ∃ pattern ∈ remaining, fits pattern first ∧ fits pattern second
  · -- The two lines use up the same patterns, whichever comes first.
    obtain ⟨pattern, hpattern, hboth⟩ := hshared
    have halike := h.alike (by simp) (by simp) hpattern hboth
    have hany {some : List String} (hsome : some ⊆ remaining) :
        some.any (fits · first) = some.any (fits · second) := by
      rw [Bool.eq_iff_iff, List.any_eq_true, List.any_eq_true]
      refine exists_congr fun other => and_congr_right fun hother => ?_
      rw [halike other (hsome hother)]
    have herase {some : List String} (hsome : some ⊆ remaining) :
        some.eraseP (fits · first) = some.eraseP (fits · second) :=
      eraseP_congr fun other hother => halike other (hsome hother)
    rw [hany (List.Subset.refl _), herase (List.Subset.refl _), hany List.eraseP_subset,
      herase List.eraseP_subset]
  · -- Neither line uses up a pattern of the other one.
    have hapart : ∀ pattern ∈ remaining, ¬ (fits pattern first ∧ fits pattern second) :=
      fun pattern hpattern hboth => hshared ⟨pattern, hpattern, hboth⟩
    rw [any_eraseP_of_apart hapart,
      any_eraseP_of_apart fun pattern hpattern hboth => hapart pattern hpattern hboth.symm,
      List.eraseP_comm fun pattern hpattern => not_and_or.mp (hapart pattern hpattern)]
    omega

theorem length_strays_perm {lines' : List String} (hperm : lines'.Perm lines)
    (h : Divided fits remaining lines) :
    (strays fits remaining lines').length = (strays fits remaining lines).length := by
  induction hperm generalizing remaining with
  | nil => rfl
  | cons line hrest ih =>
      rw [length_strays_cons, length_strays_cons,
        ih (h.mono List.eraseP_subset (List.subset_cons_self _ _))]
  | swap first second rest => exact (length_strays_swap h).symm
  | trans hfirst hsecond ih ih' =>
      exact (ih (h.mono (List.Subset.refl _) hsecond.subset)).trans (ih' h)

/-! ## Assignments of lines to patterns -/

/-- Lines that arrive in the order of patterns that accept them are no strays. -/
theorem strays_of_forall₂
    (h : List.Forall₂ (fun pattern line => fits pattern line) patterns lines) :
    strays fits patterns lines = [] := by
  induction h with
  | nil => rfl
  | cons hfits hrest ih => simp [strays, hfits, ih]

theorem exists_assignment {used : List String} (hused : used.Perm patterns)
    (hlength : lines.length = patterns.length)
    (h : List.Forall₂ (fun pattern line => fits pattern line) used lines) :
    ∃ assignment : Fin lines.length ≃ Fin patterns.length,
      ∀ index, fits patterns[assignment index] lines[index] := by
  have hplaces : used.Perm ((List.finRange patterns.length).map patterns.get) := by
    rwa [List.map_get_finRange]
  obtain ⟨places, rfl, hperm⟩ :=
    (congrFun₂ (List.eq_map_comp_perm patterns.get) used _).mpr hplaces
  have hplacesLength : lines.length = places.length := by
    rw [← h.length_eq, List.length_map]
  have hinjective : Function.Injective fun index : Fin lines.length =>
      places.get (index.cast hplacesLength) :=
    (List.nodup_iff_injective_get.mp (hperm.nodup_iff.mpr (List.nodup_finRange _))).comp
      (Fin.cast_injective _)
  have hbijective := (Fintype.bijective_iff_injective_and_card _).mpr
    ⟨hinjective, by simp [hlength]⟩
  refine ⟨.ofBijective _ hbijective, fun index => ?_⟩
  have hfits := h.get (i := index) (by simp [← hplacesLength]) index.isLt
  simpa using hfits

theorem forall₂_of_assignment (assignment : Fin lines.length ≃ Fin patterns.length)
    (h : ∀ index, fits patterns[assignment index] lines[index]) :
    ∃ used, patterns.Perm used ∧
      List.Forall₂ (fun pattern line => fits pattern line) used lines := by
  have hperm : ((List.finRange lines.length).map assignment).Perm
      (List.finRange patterns.length) := by
    rw [List.perm_ext_iff_of_nodup ((List.nodup_finRange _).map assignment.injective)
      (List.nodup_finRange _)]
    intro place
    simpa using assignment.surjective place
  refine ⟨((List.finRange lines.length).map assignment).map patterns.get, ?_, ?_⟩
  · have hmap := (hperm.map patterns.get).symm
    rwa [List.map_get_finRange] at hmap
  · refine List.forall₂_iff_get.mpr ⟨by simp, fun i _ hi => ?_⟩
    simpa using h ⟨i, hi⟩

/-- Where there are no strays every line used up a pattern that accepts it. -/
theorem exists_used (h : strays fits remaining lines = []) :
    ∃ used left, (used ++ left).Perm remaining ∧
      List.Forall₂ (fun pattern line => fits pattern line) used lines := by
  induction lines generalizing remaining with
  | nil => exact ⟨[], remaining, .refl _, .nil⟩
  | cons line rest ih =>
      rw [strays] at h
      split at h
      · rename_i hany
        obtain ⟨pattern, hpattern, hfits⟩ := List.any_eq_true.mp hany
        obtain ⟨used, left, hused, hrest⟩ := ih h
        obtain ⟨taken, before, behind, -, htaken, hremaining, herased⟩ :=
          List.exists_of_eraseP (p := (fits · line)) hpattern hfits
        refine ⟨taken :: used, left, ?_, .cons htaken hrest⟩
        rw [herased] at hused
        rw [hremaining]
        exact (hused.cons taken).trans List.perm_middle.symm
      · cases h

/-- If any two patterns accept the same ones of as many lines as there are patterns, or none in
common, the lines are accepted exactly if they can be assigned one to one to patterns that accept
them. In whatever order they arrive, they are accepted alike, and as many failures are noted. -/
theorem matchLines_any_order {accepts : String → String → Except Fault Bool} (location : String)
    (haccepts : ∀ line ∈ lines, ∀ pattern ∈ patterns,
      accepts pattern line = .ok (fits pattern line))
    (hlength : lines.length = patterns.length) (hdivided : Divided fits patterns lines) :
    let accepted (lines : List String) : Prop :=
      (matchLines accepts false location patterns lines).1.isOk
    let noted (lines : List String) : Nat :=
      (matchLines accepts true location patterns lines).2.failures.length
    (accepted lines ↔ ∃ assignment : Fin lines.length ≃ Fin patterns.length,
        ∀ index, fits patterns[assignment index] lines[index]) ∧
      ∀ lines' : List String, lines'.Perm lines →
        (accepted lines' ↔ accepted lines) ∧ noted lines' = noted lines := by
  intro accepted noted
  have hstrays (lines' : List String) (hperm : lines'.Perm lines) :
      (accepted lines' ↔ strays fits patterns lines' = []) ∧
        noted lines' = (strays fits patterns lines').length := by
    have hlength' := hperm.length_eq.trans hlength
    have haccepts' : ∀ line ∈ lines', _ := fun line hline => haccepts line (hperm.subset hline)
    refine ⟨isOk_matchLines_iff hlength' haccepts', ?_⟩
    rw [← List.length_map (Failure.unorderedMismatch location patterns),
      ← failures_matchLines hlength' haccepts']
  refine ⟨(hstrays lines (.refl _)).1.trans ⟨fun hnone => ?_, fun ⟨assignment, hfits⟩ => ?_⟩,
    fun lines' hperm => ⟨?_, ?_⟩⟩
  · obtain ⟨used, left, hused, hfits⟩ := exists_used hnone
    have hleft : left = [] := by
      have hcount := hused.length_eq
      rw [List.length_append, hfits.length_eq, hlength] at hcount
      exact List.length_eq_zero_iff.mp (by omega)
    rw [hleft, List.append_nil] at hused
    exact exists_assignment hused hlength hfits
  · obtain ⟨used, hused, hfits⟩ := forall₂_of_assignment assignment hfits
    obtain ⟨lines', hfits', hperm⟩ := List.perm_comp_forall₂ hused hfits
    rw [← List.length_eq_zero_iff, ← length_strays_perm hperm hdivided, strays_of_forall₂ hfits']
    rfl
  · rw [(hstrays lines' hperm).1, (hstrays lines (.refl _)).1, ← List.length_eq_zero_iff,
      ← List.length_eq_zero_iff, length_strays_perm hperm hdivided]
  · rw [(hstrays lines' hperm).2, (hstrays lines (.refl _)).2, length_strays_perm hperm hdivided]

end

/-- Two lines of one kind and a line of another kind arrive in an order that is not that of their
patterns. -/
theorem matchLines_any_order_of_kinds :
    let patterns := ["\\* \\d+ EXISTS", "\\* OK .*", "\\* \\d+ EXISTS"]
    let lines := ["* OK ready", "* 3 EXISTS", "* 4 EXISTS"]
    let arriving := ["* 4 EXISTS", "* 3 EXISTS", "* OK ready"]
    let fits (pattern line : String) : Bool := (accepts pattern line).toOption == some true
    (∀ line ∈ lines, ∀ pattern ∈ patterns, accepts pattern line = .ok (fits pattern line)) ∧
      lines.length = patterns.length ∧ Divided fits patterns lines ∧ arriving.Perm lines ∧
      (matchLines accepts false "greeting:1" patterns arriving).1.isOk ∧
      ∃ assignment : Fin lines.length ≃ Fin patterns.length,
        ∀ index, fits patterns[assignment index] lines[index] := by
  intro patterns lines arriving fits
  have haccepts : ∀ line ∈ lines, ∀ pattern ∈ patterns,
      accepts pattern line = .ok (fits pattern line) := by
    have hvalue : ∀ line ∈ lines, ∀ pattern ∈ patterns,
        (accepts pattern line).toOption = some (fits pattern line) := by decide +kernel
    exact fun line hline pattern hpattern => eq_ok_of_toOption (hvalue line hline pattern hpattern)
  have hdivided : Divided fits patterns lines := by
    unfold Divided
    decide +kernel
  have hperm : arriving.Perm lines := by decide
  have hok : (matchLines accepts false "greeting:1" patterns arriving).1.isOk := by decide +kernel
  obtain ⟨hiff, horder⟩ := matchLines_any_order "greeting:1" haccepts rfl hdivided
  exact ⟨haccepts, rfl, hdivided, hperm, hok, hiff.mp ((horder arriving hperm).1.mp hok)⟩

end MailScript
