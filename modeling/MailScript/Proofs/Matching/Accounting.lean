import MailScript.Proofs.Matching.Unordered
import Mathlib.Data.Finset.Card
import Mathlib.Data.Fintype.Basic

/-! # What becomes of each line and of each pattern

While lines are held against patterns in any order, each line uses up a pattern of its own or is
reported. So behind as many lines as there are patterns, as many lines have been reported as
patterns are left over. With the first report as an end, the reading is the same up to there. -/

namespace MailScript

/-! ## Listening -/

/-- The number of reads so far, and the failures that were handed over, each with the number of reads
up to it. -/
structure Hearing where
  reads : Nat
  noted : List (Nat × Failure)

namespace Hearing

/-- Reading whatever comes. -/
abbrev Listener := ExceptT Fault (StateM Hearing)

/-- Each read ends as it happens to: with a line, or with a fault. -/
def read (arrivals : Nat → Except Fault String) : Listener String := do
  let hearing ← get
  set { hearing with reads := hearing.reads + 1 }
  match arrivals hearing.reads with
  | .ok line => return line
  | .error fault => throw fault

/-- Note a failure and go on. -/
def note (failure : Failure) : Listener Unit :=
  modify fun hearing => { hearing with noted := hearing.noted ++ [(hearing.reads, failure)] }

def refuse (failure : Failure) : Listener Unit :=
  throw (.failure failure)

end Hearing

/-- Hold whatever comes against patterns in any order, given which pattern accepts which line. With
`collecting` failures are noted, without it the first one ends the reading. -/
def hear (fits : String → String → Bool) (arrivals : Nat → Except Fault String) (collecting : Bool)
    (location : String) (patterns : List String) : Except Fault (List String) × Hearing :=
  (matchUnordered (fun pattern line => .ok (fits pattern line)) (Hearing.read arrivals)
    (if collecting then Hearing.note else Hearing.refuse) location patterns).run.run ⟨0, []⟩

/-! ## Patterns used up -/

section Uses

variable {α : Type} {accepts : α → String → Bool}

/-- The first one of a list that passes a test is there between some that fail it and others, or none
is. -/
theorem find?_eraseP_cases (test : α → Bool) (left : List α) :
    (left.find? test = none ∧ left.eraseP test = left ∧ ∀ x ∈ left, ¬ test x) ∨
      ∃ front x back, left = front ++ x :: back ∧ (∀ y ∈ front, ¬ test y) ∧ test x ∧
        left.find? test = some x ∧ left.eraseP test = front ++ back := by
  cases hfind : left.find? test with
  | none =>
      have hnone : ∀ x ∈ left, ¬ test x := List.find?_eq_none.mp hfind
      exact .inl ⟨rfl, List.eraseP_of_forall_not hnone, hnone⟩
  | some x =>
      obtain ⟨htest, front, back, rfl, hfront⟩ := List.find?_eq_some_iff_append.mp hfind
      have hfront : ∀ y ∈ front, ¬ test y := fun y hy => by simpa using hfront y hy
      refine .inr ⟨front, x, back, rfl, hfront, htest, rfl, ?_⟩
      rw [List.eraseP_append_right _ hfront, List.eraseP_cons_of_pos htest]

variable (accepts) in
/-- For each line the first one left that accepts it, which it uses up. -/
def uses : List α → List String → List (Option α)
  | _, [] => []
  | left, line :: rest =>
    left.find? (accepts · line) :: uses (left.eraseP (accepts · line)) rest

theorem length_uses (left : List α) (lines : List String) :
    (uses accepts left lines).length = lines.length := by
  induction lines generalizing left with
  | nil => rfl
  | cons line rest ih => rw [uses, List.length_cons, List.length_cons, ih]

/-- What a line uses up was left and accepts it. -/
theorem of_getElem?_uses {left : List α} {lines : List String} {index : Nat} {x : α}
    (h : (uses accepts left lines)[index]? = some (some x)) :
    x ∈ left ∧ ∃ line, lines[index]? = some line ∧ accepts x line := by
  induction lines generalizing left index with
  | nil => cases h
  | cons line rest ih =>
      cases index with
      | zero =>
          have hfind : left.find? (accepts · line) = some x := Option.some.inj h
          exact ⟨List.mem_of_find?_eq_some hfind, line, rfl,
            List.find?_some (p := (accepts · line)) hfind⟩
      | succ index =>
          obtain ⟨hmem, hline⟩ := ih h
          exact ⟨List.mem_of_mem_eraseP hmem, hline⟩

/-- No two lines use up the same. -/
theorem index_eq_of_uses {left : List α} (hleft : left.Nodup) {lines : List String}
    {index index' : Nat} {x : α} (h : (uses accepts left lines)[index]? = some (some x))
    (h' : (uses accepts left lines)[index']? = some (some x)) : index = index' := by
  induction lines generalizing left index index' with
  | nil => cases h
  | cons line rest ih =>
      -- What the first line uses up is gone for the others.
      have hgone {later : Nat} (hfirst : left.find? (accepts · line) = some x) :
          (uses accepts (left.eraseP (accepts · line)) rest)[later]? ≠ some (some x) := by
        intro hlater
        obtain ⟨hmem, -⟩ := of_getElem?_uses hlater
        rcases find?_eraseP_cases (accepts · line) left with
          ⟨hnone, -⟩ | ⟨front, y, back, rfl, -, -, hfound, herased⟩
        · cases hnone.symm.trans hfirst
        · cases hfound.symm.trans hfirst
          rw [herased] at hmem
          exact (List.nodup_middle.mp hleft).notMem hmem
      cases index with
      | zero =>
          cases index' with
          | zero => rfl
          | succ later => exact absurd h' (hgone (Option.some.inj h))
      | succ earlier =>
          cases index' with
          | zero => exact absurd h (hgone (Option.some.inj h'))
          | succ later =>
              exact congrArg Nat.succ (ih (hleft.sublist List.eraseP_sublist) h h')

/-- What accepts a line has been used up by an earlier line, or the line uses it up or something in
front of it. -/
theorem used_of_accepts [Preorder α] {left : List α} (hleft : left.Pairwise (· < ·))
    {lines : List String} {index : Nat} {line : String} (hline : lines[index]? = some line) {x : α}
    (hx : x ∈ left) (haccepts : accepts x line) :
    (∃ earlier < index, (uses accepts left lines)[earlier]? = some (some x)) ∨
      ∃ first ≤ x, (uses accepts left lines)[index]? = some (some first) := by
  induction lines generalizing left index with
  | nil => cases hline
  | cons first rest ih =>
      cases index with
      | zero =>
          obtain rfl : first = line := Option.some.inj hline
          rcases find?_eraseP_cases (accepts · first) left with
            ⟨-, -, hnone⟩ | ⟨front, y, back, rfl, hfront, -, hfound, -⟩
          · exact absurd haccepts (hnone x hx)
          · refine .inr ⟨y, ?_, congrArg some hfound⟩
            rcases List.mem_append.mp hx with hx | hx
            · exact absurd haccepts (hfront x hx)
            · rcases List.mem_cons.mp hx with rfl | hx
              · exact le_rfl
              · exact (List.rel_of_pairwise_cons (List.pairwise_append.mp hleft).2.1 hx).le
      | succ index =>
          have hrest (hx : x ∈ left.eraseP (accepts · first)) :=
            ih (hleft.sublist List.eraseP_sublist) hline hx
          have hshift (h : (∃ earlier < index, (uses accepts (left.eraseP (accepts · first))
              rest)[earlier]? = some (some x)) ∨ ∃ y ≤ x, (uses accepts
              (left.eraseP (accepts · first)) rest)[index]? = some (some y)) :
              (∃ earlier < index + 1,
                (uses accepts left (first :: rest))[earlier]? = some (some x)) ∨
              ∃ y ≤ x, (uses accepts left (first :: rest))[index + 1]? = some (some y) :=
            h.imp_left fun ⟨earlier, hlt, hused⟩ => ⟨earlier + 1, Nat.succ_lt_succ hlt, hused⟩
          rcases find?_eraseP_cases (accepts · first) left with
            ⟨-, herased, -⟩ | ⟨front, y, back, rfl, -, -, hfound, herased⟩
          · exact hshift (hrest (by rwa [herased]))
          · by_cases hsame : x = y
            · exact .inl ⟨0, Nat.succ_pos _, congrArg some (hsame ▸ hfound)⟩
            · refine hshift (hrest ?_)
              rw [herased]
              simpa [hsame] using hx

end Uses

/-! ## Lines that are reported -/

section Reports

variable {α : Type} (location : String) (patterns : List String)

/-- The reports of the lines that use up nothing, each with the number of reads up to it. -/
def reports : Nat → List String → List (Option α) → List (Nat × Failure)
  | _, [], _ => []
  | _, _ :: _, [] => []
  | reads, line :: rest, used :: later =>
    (if used.isNone then [(reads + 1, .unorderedMismatch location patterns line)] else []) ++
      reports (reads + 1) rest later

theorem reports_eq (reads : Nat) {lines : List String} {used : List (Option α)}
    (hlength : used.length = lines.length) :
    reports location patterns reads lines used =
      ((List.finRange lines.length).filter fun line => used[line].isNone).map
        fun line : Fin lines.length =>
          (reads + line + 1, .unorderedMismatch location patterns lines[line]) := by
  induction lines generalizing reads used with
  | nil => simp [reports]
  | cons line rest ih =>
      obtain ⟨first, later, rfl⟩ := List.exists_cons_of_length_eq_add_one hlength
      have hrest := ih (reads + 1) (Nat.succ.inj hlength)
      have hreads (index : Nat) : reads + 1 + index + 1 = reads + (index + 1) + 1 := by omega
      rw [reports, hrest]
      cases first with
      | none =>
          simp only [List.length_cons, List.finRange_succ]
          rw [List.filter_cons_of_pos rfl]
          simp [List.filter_map, Function.comp_def, hreads]
      | some x => simp [List.finRange_succ, List.filter_map, Function.comp_def, hreads]

end Reports

/-! ## Listening to lines -/

section Listening

variable {fits : String → String → Bool} {arrivals : Nat → Except Fault String} {location : String}
  {patterns : List String}

/-- A pattern, given by its place, accepts a line. -/
abbrev fitsAt (fits : String → String → Bool) (patterns : List String)
    (place : Fin patterns.length) (line : String) : Bool :=
  fits (patterns.get place) line

variable (fits arrivals location patterns) in
/-- Hold what comes against the patterns that are left, given by their places. -/
def listen (report : Failure → Hearing.Listener Unit) (count : Nat)
    (left : List (Fin patterns.length)) : Hearing.Listener (List String) :=
  receiveUnordered (fun pattern line => .ok (fits pattern line)) (Hearing.read arrivals) report
    location patterns count (left.map patterns.get)

theorem hear_eq (collecting : Bool) :
    hear fits arrivals collecting location patterns =
      (listen fits arrivals location patterns (if collecting then Hearing.note else Hearing.refuse)
        patterns.length (List.finRange patterns.length)).run.run ⟨0, []⟩ := by
  rw [hear, matchUnordered, listen, List.map_get_finRange]

variable (arrivals) in
theorem run_read (reads : Nat) (noted : List (Nat × Failure)) :
    (Hearing.read arrivals).run.run ⟨reads, noted⟩ = (arrivals reads, ⟨reads + 1, noted⟩) := by
  change (match arrivals reads with
    | .ok line => (pure line : Hearing.Listener String)
    | .error fault => throw fault).run.run ⟨reads + 1, noted⟩ = _
  cases arrivals reads <;> rfl

variable {report : Failure → Hearing.Listener Unit} {count reads : Nat}
  {left : List (Fin patterns.length)} {noted : List (Nat × Failure)} {line : String} {fault : Fault}

/-- A fault that comes ends the reading. -/
theorem run_listen_fault (h : arrivals reads = .error fault) :
    (listen fits arrivals location patterns report (count + 1) left).run.run ⟨reads, noted⟩ =
      (.error fault, ⟨reads + 1, noted⟩) := by
  rw [listen, receiveUnordered, run_bind_stateful, run_read, h]

/-- A line that comes uses up a pattern. -/
theorem run_listen_used (h : arrivals reads = .ok line)
    (hused : (left.find? (fitsAt fits patterns · line)).isSome) :
    (listen fits arrivals location patterns report (count + 1) left).run.run ⟨reads, noted⟩ =
      let later := (listen fits arrivals location patterns report count
        (left.eraseP (fitsAt fits patterns · line))).run.run ⟨reads + 1, noted⟩
      (later.1.map (line :: ·), later.2) := by
  have hread := (run_read arrivals reads noted).trans (congrArg (·, _) h)
  have hany : (left.map patterns.get).any (fits · line) := by
    rw [List.any_map, ← List.isSome_find?]
    exact hused
  rw [listen, run_receiveUnordered hread report count fun _ _ => rfl, if_pos hany, List.eraseP_map]
  rfl

/-- A line that uses up no pattern is reported. -/
theorem run_listen_reported (h : arrivals reads = .ok line)
    (hunused : left.find? (fitsAt fits patterns · line) = none) :
    (listen fits arrivals location patterns report (count + 1) left).run.run ⟨reads, noted⟩ =
      match (report (.unorderedMismatch location patterns line)).run.run ⟨reads + 1, noted⟩ with
      | (.ok _, after) =>
        let later := (listen fits arrivals location patterns report count
          (left.eraseP (fitsAt fits patterns · line))).run.run after
        (later.1.map (line :: ·), later.2)
      | (.error fault, after) => (.error fault, after) := by
  have hread := (run_read arrivals reads noted).trans (congrArg (·, _) h)
  have hany : ¬ (left.map patterns.get).any (fits · line) := by
    rw [List.any_map, ← List.isSome_find?]
    exact Option.not_isSome_iff_eq_none.mpr hunused
  rw [listen, run_receiveUnordered hread report count fun _ _ => rfl, if_neg hany, List.eraseP_map]
  rcases (report (.unorderedMismatch location patterns line)).run.run _ with ⟨_ | _, after⟩ <;> rfl

variable (fits location patterns count left noted) in
/-- While failures are noted, lines that come use up patterns or are reported. -/
theorem run_listen_lines {lines : List String}
    (h : ∀ (index : Nat) (hindex : index < lines.length),
      arrivals (reads + index) = .ok lines[index]) :
    ∃ behind, (listen fits arrivals location patterns Hearing.note (lines.length + count)
        left).run.run ⟨reads, noted⟩ =
      let later := (listen fits arrivals location patterns Hearing.note count behind).run.run
        ⟨reads + lines.length,
          noted ++ reports location patterns reads lines (uses (fitsAt fits patterns) left lines)⟩
      (later.1.map (lines ++ ·), later.2) := by
  induction lines generalizing left reads noted with
  | nil =>
      refine ⟨left, ?_⟩
      rw [uses, reports, List.append_nil, List.length_nil, Nat.zero_add, Nat.add_zero]
      rcases (listen fits arrivals location patterns Hearing.note count left).run.run ⟨reads, noted⟩
        with ⟨_ | _, last⟩ <;> rfl
  | cons line rest ih =>
      have hline : arrivals reads = .ok line := h 0 (Nat.succ_pos _)
      have hrest (index : Nat) (hindex : index < rest.length) :
          arrivals (reads + 1 + index) = .ok rest[index] := by
        rw [Nat.add_assoc, Nat.add_comm 1]
        exact h (index + 1) (Nat.succ_lt_succ hindex)
      have hcount : (line :: rest).length + count = rest.length + count + 1 := by
        rw [List.length_cons]
        omega
      have hreads : reads + (line :: rest).length = reads + 1 + rest.length := by
        rw [List.length_cons]
        omega
      have hmap (result : Except Fault (List String)) :
          (result.map (rest ++ ·)).map (line :: ·) = result.map (line :: rest ++ ·) := by
        cases result <;> rfl
      rw [hcount, hreads, uses, reports]
      cases hfind : left.find? (fitsAt fits patterns · line) with
      | some place =>
          obtain ⟨behind, hlater⟩ := ih _ noted hrest
          rw [run_listen_used hline (Option.isSome_iff_exists.mpr ⟨place, hfind⟩), hlater]
          exact ⟨behind, congrArg (·, _) (hmap _)⟩
      | none =>
          obtain ⟨behind, hlater⟩ := ih _
            (noted ++ [(reads + 1, .unorderedMismatch location patterns line)]) hrest
          rw [List.append_assoc] at hlater
          refine ⟨behind, (run_listen_reported hline hfind).trans ?_⟩
          exact (congrArg (fun later => (later.1.map (line :: ·), later.2)) hlater).trans
            (congrArg (·, _) (hmap _))

variable (fits arrivals location patterns count reads left noted) in
theorem noted_prefix_listen :
    noted <+: ((listen fits arrivals location patterns Hearing.note count left).run.run
      ⟨reads, noted⟩).2.noted := by
  induction count generalizing left reads noted with
  | zero => exact List.prefix_rfl
  | succ count ih =>
      cases harrival : arrivals reads with
      | error fault =>
          rw [run_listen_fault harrival]
      | ok line =>
          cases hfind : left.find? (fitsAt fits patterns · line) with
          | some place =>
              rw [run_listen_used harrival (Option.isSome_iff_exists.mpr ⟨place, hfind⟩)]
              exact ih _ _ _
          | none =>
              rw [run_listen_reported harrival hfind]
              exact (List.prefix_append _ _).trans (ih _ _ _)

variable (fits arrivals location patterns count reads left noted) in
/-- Where failures are refused the reading ends at the first one, and it is the same up to there. -/
theorem run_listen_refuse :
    ∃ extra,
      ((listen fits arrivals location patterns Hearing.note count left).run.run
        ⟨reads, noted⟩).2.noted = noted ++ extra ∧
      (listen fits arrivals location patterns Hearing.refuse count left).run.run ⟨reads, noted⟩ =
        match extra with
        | [] => (listen fits arrivals location patterns Hearing.note count left).run.run
            ⟨reads, noted⟩
        | (upTo, failure) :: _ => (.error (.failure failure), ⟨upTo, noted⟩) := by
  induction count generalizing left reads with
  | zero => exact ⟨[], (List.append_nil _).symm, rfl⟩
  | succ count ih =>
      cases harrival : arrivals reads with
      | error fault =>
          rw [run_listen_fault harrival, run_listen_fault harrival]
          exact ⟨[], (List.append_nil _).symm, rfl⟩
      | ok line =>
          cases hfind : left.find? (fitsAt fits patterns · line) with
          | some place =>
              have hused := Option.isSome_iff_exists.mpr ⟨place, hfind⟩
              obtain ⟨extra, hextra, hstrict⟩ :=
                ih (reads + 1) (left.eraseP (fitsAt fits patterns · line))
              rw [run_listen_used harrival hused, run_listen_used harrival hused, hstrict]
              refine ⟨extra, hextra, ?_⟩
              cases extra <;> rfl
          | none =>
              obtain ⟨more, hmore⟩ := noted_prefix_listen fits arrivals location patterns count
                (reads + 1) (left.eraseP (fitsAt fits patterns · line))
                (noted ++ [(reads + 1, .unorderedMismatch location patterns line)])
              rw [run_listen_reported harrival hfind, run_listen_reported harrival hfind]
              refine ⟨(reads + 1, .unorderedMismatch location patterns line) :: more, ?_, rfl⟩
              rw [List.append_assoc] at hmore
              exact hmore.symm

end Listening

/-! ## The account -/

/-- Some lines come, as many as are wanted or up to the first fault. -/
theorem exists_arrived (arrivals : Nat → Except Fault String) (reads limit : Nat) :
    ∃ lines : List String, lines.length ≤ limit ∧
      (∀ (index : Nat) (hindex : index < lines.length),
        arrivals (reads + index) = .ok lines[index]) ∧
      (lines.length = limit ∨ ∃ fault, arrivals (reads + lines.length) = .error fault) := by
  induction limit generalizing reads with
  | zero => exact ⟨[], le_rfl, nofun, .inl rfl⟩
  | succ limit ih =>
      cases harrival : arrivals reads with
      | error fault => exact ⟨[], Nat.zero_le _, nofun, .inr ⟨fault, harrival⟩⟩
      | ok line =>
          obtain ⟨lines, hlength, hlines, hend⟩ := ih (reads + 1)
          have hreads (index : Nat) : reads + (index + 1) = reads + 1 + index := by omega
          refine ⟨line :: lines, Nat.succ_le_succ hlength, fun index hindex => ?_, ?_⟩
          · cases index with
            | zero => exact harrival
            | succ index =>
                rw [hreads]
                exact hlines index (Nat.lt_of_succ_lt_succ hindex)
          · rw [List.length_cons, hreads]
            exact hend.imp_left (congrArg Nat.succ)

/-- What has become of lines and of patterns: which pattern each line has used up, and what was noted
of the other lines. -/
structure Account (fits : String → String → Bool) (location : String) (patterns lines : List String)
    (used : Fin lines.length → Option (Fin patterns.length)) (noted : List (Nat × Failure)) :
    Prop where
  accepted : ∀ line place, used line = some place →
    fits (patterns.get place) (lines.get line)
  /-- No two lines use up the same pattern. -/
  once : ∀ line line' place, used line = some place → used line' = some place → line = line'
  /-- A line goes without a pattern that accepts it only if an earlier line has used up the pattern,
  or for the sake of a pattern in front of it. -/
  greedy : ∀ line place, fits (patterns.get place) (lines.get line) →
    (∃ earlier < line, used earlier = some place) ∨ ∃ first ≤ place, used line = some first
  /-- The lines that use up no pattern are noted, in order of arrival. -/
  noted : noted = ((List.finRange lines.length).filter fun line => (used line).isNone).map
    fun line => (line.val + 1, .unorderedMismatch location patterns (lines.get line))

/-- The patterns that no line has used up. -/
def leftOver {m n : Nat} (used : Fin m → Option (Fin n)) : Finset (Fin n) :=
  Finset.univ.filter fun place => ∀ line, used line ≠ some place

theorem card_leftOver {m n : Nat} {used : Fin m → Option (Fin n)}
    (once : ∀ line line' place, used line = some place → used line' = some place → line = line') :
    (leftOver used).card + m = n + (Finset.univ.filter fun line => (used line).isNone).card := by
  have hpairs : (Finset.univ.filter fun line => ¬ (used line).isNone).card =
      (Finset.univ.filter fun place => ¬ ∀ line, used line ≠ some place).card := by
    refine Finset.card_bij (fun line hline => (used line).get (Option.isSome_iff_ne_none.mpr
      (by simpa using hline))) ?_ ?_ ?_
    · intro line hline
      rw [Finset.mem_filter, not_forall_not]
      exact ⟨Finset.mem_univ _, line, (Option.some_get _).symm⟩
    · intro line hline line' hline' hsame
      exact once line line' _ (Option.some_get _).symm
        ((Option.some_get _).symm.trans (congrArg some hsame.symm))
    · intro place hplace
      rw [Finset.mem_filter, not_forall_not] at hplace
      obtain ⟨-, line, hused⟩ := hplace
      exact ⟨line, by simp [hused], by simp [hused]⟩
  have hlines := Finset.card_filter_add_card_filter_not (s := Finset.univ) fun line : Fin m =>
    (used line).isNone
  have hplaces := Finset.card_filter_add_card_filter_not (s := Finset.univ) fun place : Fin n =>
    ∀ line, used line ≠ some place
  rw [Finset.card_univ, Fintype.card_fin] at hlines hplaces
  unfold leftOver
  omega

/-- Lines that came and the places that they have used up, as an account. -/
theorem account_uses (fits : String → String → Bool) (location : String)
    (patterns lines : List String) :
    ∃ used, Account fits location patterns lines used (reports location patterns 0 lines
      (uses (fitsAt fits patterns) (List.finRange patterns.length) lines)) := by
  obtain ⟨found, hfound⟩ : ∃ found,
      uses (fitsAt fits patterns) (List.finRange patterns.length) lines = found := ⟨_, rfl⟩
  have hlength : found.length = lines.length := hfound ▸ length_uses _ _
  have hget (line : Fin lines.length) (place : Option (Fin patterns.length)) :
      found.get (line.cast hlength.symm) = place ↔ found[line.val]? = some place := by
    have hlt : line.val < found.length := hlength.symm ▸ line.isLt
    rw [List.getElem?_eq_getElem hlt, Option.some.injEq]
    rfl
  rw [hfound]
  refine ⟨fun line => found.get (line.cast hlength.symm), ?_, ?_, ?_, ?_⟩
  · intro line place hused
    obtain ⟨-, text, htext, haccepts⟩ := of_getElem?_uses (hfound ▸ (hget line _).mp hused)
    rw [List.getElem?_eq_getElem line.isLt] at htext
    cases htext
    exact haccepts
  · intro line line' place hused hused'
    exact Fin.ext (index_eq_of_uses (List.nodup_finRange _) (hfound ▸ (hget line _).mp hused)
      (hfound ▸ (hget line' _).mp hused'))
  · intro line place haccepts
    have hfits : fitsAt fits patterns place (lines.get line) := haccepts
    have hcases := used_of_accepts (List.pairwise_lt_finRange _)
      (List.getElem?_eq_getElem line.isLt) (List.mem_finRange place) hfits
    rw [hfound] at hcases
    rcases hcases with ⟨earlier, hlt, hused⟩ | ⟨first, hle, hused⟩
    · exact .inl ⟨⟨earlier, hlt.trans line.isLt⟩, hlt, (hget ⟨earlier, _⟩ _).mpr hused⟩
    · exact .inr ⟨first, hle, (hget line _).mpr hused⟩
  · rw [reports_eq location patterns 0 hlength]
    simp only [Nat.zero_add]
    rfl

theorem Account.length_noted {fits : String → String → Bool} {location : String}
    {patterns lines : List String} {used : Fin lines.length → Option (Fin patterns.length)}
    {noted : List (Nat × Failure)} (h : Account fits location patterns lines used noted)
    (hlength : lines.length = patterns.length) : noted.length = (leftOver used).card := by
  have hcount : noted.length = (Finset.univ.filter fun line => (used line).isNone).card := by
    rw [h.noted, List.length_map,
      ← List.toFinset_card_of_nodup ((List.nodup_finRange _).filter _)]
    exact congrArg Finset.card (by ext line; simp)
  have hleft := card_leftOver h.once
  omega

/-- With collecting, lines are read until there are as many as patterns or a read fails, whose fault
is the result. Each line uses up a pattern of its own that accepts it, the first one left, or it is
noted; behind as many lines as patterns, as many have been noted as patterns are left over. Without
collecting, the first line that would be noted ends the reading, and all else is the same. -/
theorem hear_accounts (fits : String → String → Bool) (arrivals : Nat → Except Fault String)
    (location : String) (patterns : List String) :
    let collected := hear fits arrivals true location patterns
    (∃ (lines : List String) (used : Fin lines.length → Option (Fin patterns.length)),
      (∀ (index : Nat) (hindex : index < lines.length), arrivals index = .ok lines[index]) ∧
      Account fits location patterns lines used collected.2.noted ∧
      ((lines.length = patterns.length ∧ collected.1 = .ok lines ∧
          collected.2.reads = lines.length ∧ collected.2.noted.length = (leftOver used).card) ∨
        (lines.length < patterns.length ∧ ∃ fault, arrivals lines.length = .error fault ∧
          collected.1 = .error fault ∧ collected.2.reads = lines.length + 1))) ∧
    hear fits arrivals false location patterns =
      match collected.2.noted with
      | [] => collected
      | (upTo, failure) :: _ => (.error (.failure failure), ⟨upTo, []⟩) := by
  intro collected
  have hcollected : collected = (listen fits arrivals location patterns Hearing.note
      patterns.length (List.finRange patterns.length)).run.run ⟨0, []⟩ := hear_eq true
  refine ⟨?_, ?_⟩
  · obtain ⟨lines, hle, hlines, hend⟩ := exists_arrived arrivals 0 patterns.length
    obtain ⟨used, haccount⟩ := account_uses fits location patterns lines
    obtain ⟨rest, hrest⟩ := Nat.exists_eq_add_of_le hle
    obtain ⟨behind, hrun⟩ :=
      run_listen_lines fits location patterns rest (List.finRange patterns.length) [] hlines
    simp only [Nat.zero_add] at hlines hend
    rw [← hrest, ← hcollected, Nat.zero_add, List.nil_append] at hrun
    refine ⟨lines, used, hlines, ?_⟩
    by_cases hall : lines.length = patterns.length
    · obtain rfl : rest = 0 := by omega
      have hwhole : collected = (.ok lines, ⟨lines.length, reports location patterns 0 lines
          (uses (fitsAt fits patterns) (List.finRange patterns.length) lines)⟩) := by
        rw [hrun]
        exact congrArg (·, _) (congrArg Except.ok (List.append_nil lines))
      rw [hwhole]
      exact ⟨haccount, .inl ⟨hall, rfl, rfl, haccount.length_noted hall⟩⟩
    · obtain ⟨fault, hfault⟩ := hend.resolve_left hall
      obtain ⟨more, rfl⟩ : ∃ more, rest = more + 1 := ⟨rest - 1, by omega⟩
      rw [run_listen_fault hfault] at hrun
      rw [hrun]
      exact ⟨haccount, .inr ⟨by omega, fault, hfault, rfl, rfl⟩⟩
  · obtain ⟨extra, hextra, hstrict⟩ := run_listen_refuse fits arrivals location patterns
      patterns.length 0 (List.finRange patterns.length) []
    rw [← hcollected] at hextra hstrict
    rw [hear_eq, hextra, List.nil_append]
    exact hstrict

end MailScript
