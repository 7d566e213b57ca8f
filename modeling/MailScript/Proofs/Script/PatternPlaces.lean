import MailScript.Proofs.Script.Slips
import Mathlib.Data.List.Induction

/-! # The line number of a rejected pattern

A pattern is rejected if it is malformed, or if it captures and has no group. The failure names the
line on which the pattern is written, but for the prompt of a block of uploads: it is looked at when
the block has ended, and the failure names the closing line. -/

namespace MailScript

/-- The cause is a pattern that is rejected. -/
def CompileCause.OfPattern : CompileCause → Prop
  | .invalidPattern .. | .noCapturingGroup _ => True
  | _ => False

namespace Script

/-! ## Rejected patterns -/

/-- A text is rejected as a pattern, possibly as one that captures. -/
inductive Rejects (text : String) : Bool → CompileCause → Prop where
  | malformed {capturing : Bool} {reason : Pattern.Reason} {position : Option Nat}
      (h : Pattern.parse text = .error (.malformed reason position)) :
      Rejects text capturing (.invalidPattern text (.malformed reason position))
  | groupless {pattern : Pattern} (h : Pattern.parse text = .ok pattern)
      (hgroups : pattern.groups = 0) : Rejects text true (.noCapturingGroup text)

theorem checkPattern_eq_cause_iff {text : String} {capturing : Bool} {cause : CompileCause} :
    checkPattern text capturing = .error (.cause cause) ↔ Rejects text capturing cause := by
  constructor
  · intro h
    unfold checkPattern at h
    split at h
    · rename_i pattern hparse
      split at h
      · rename_i hgroups
        cases h
        rw [hgroups.1]
        exact .groupless hparse hgroups.2
      · cases h
    · rename_i hparse
      cases h
      exact .malformed hparse
    · cases h
  · intro h
    cases h with
    | malformed hparse => rw [checkPattern, hparse]
    | groupless hparse hgroups => simp [checkPattern, hparse, hgroups]

/-! ## Lines with a pattern -/

/-- A pattern is written on a line, given where the line stands. -/
inductive Writes : Stand → Line → String → Bool → Prop where
  | response {line : Line} (htag : line.startsWith "S:")
      (hprompt : ¬ (line = "S: \\+".toList ∨ line = "S: +".toList)) :
      Writes .outside line line.body false
  | capture {line text : Line} (htag : line.startsWith "S<") (hvalue : line.value = .ok text) :
      Writes .outside line (String.ofList text) (line.names ≠ [])
  | inBlock {opened : Nat} {patterns : List String} {line : Line} (htag : line.startsWith "S:") :
      Writes (.unordered opened patterns) line line.body false
  /-- The prompt is the second line of a block of uploads. -/
  | prompt {opened : Nat} {command line : Line} (hgoesOn : ¬ line.startsWith "\x7d")
      (hfile : ¬ line.startsWith "FILE=") :
      Writes (.upload opened [.text command]) line (String.ofList line) false

namespace Directive

/-- What a directive says of the line that it is read from. -/
def ReadFrom (line : Line) : Directive → Prop
  | .response pattern => Writes .outside line pattern false
  | .capture names pattern => Writes .outside line pattern (names ≠ [])
  | _ => True

/-- What a line outside of blocks can be read as. No pattern is rejected at that. -/
inductive Outcome (line : Line) : Except Objection Directive → Prop where
  | ok {directive : Directive} (h : directive.ReadFrom line) : Outcome line (.ok directive)
  | cause {reason : CompileCause} (h : ¬ reason.OfPattern) : Outcome line (.error (.cause reason))
  | fault (other : Fault) : Outcome line (.error (.fault other))

theorem Outcome.ite {line : Line} {condition : Prop} [Decidable condition]
    {yes no : Except Objection Directive} (hyes : condition → Outcome line yes)
    (hno : ¬ condition → Outcome line no) : Outcome line (if condition then yes else no) := by
  split
  · exact hyes ‹_›
  · exact hno ‹_›

theorem Outcome.unplaced {line : Line} {α : Type} {result : Except Fault α}
    {next : α → Except Objection Directive}
    (h : ∀ x, result = .ok x → Outcome line (next x)) :
    Outcome line (Directive.unplaced result >>= next) := by
  cases result with
  | ok x => exact h x rfl
  | error fault => exact .fault fault

theorem outcome_ofLine (line : Line) : Outcome line (ofLine line) := by
  unfold ofLine
  refine .ite (fun _ => .ok trivial) fun hprompt => ?_
  refine .ite (fun _ => .ok trivial) fun _ => ?_
  refine .ite (fun htag => .ok (.response htag hprompt)) fun _ => ?_
  refine .ite (fun htag => .unplaced fun text hvalue => .ok (.capture htag hvalue)) fun _ => ?_
  refine .ite (fun _ => .ok trivial) fun _ => ?_
  refine .ite (fun _ => .ok trivial) fun _ => ?_
  refine .ite (fun _ => .ok trivial) fun _ => ?_
  refine .ite (fun _ => .unplaced fun label _ => ?_) fun _ => ?_
  · exact .ite (fun _ => .cause id) fun _ => .ok trivial
  refine .ite (fun _ => .unplaced fun millis _ => .ok trivial) fun _ => ?_
  exact .ite (fun _ => .ok trivial) fun _ => .cause id

theorem readFrom_of_ofLine {line : Line} {directive : Directive}
    (h : ofLine line = .ok directive) : directive.ReadFrom line := by
  have houtcome := outcome_ofLine line
  rw [h] at houtcome
  cases houtcome with
  | ok hread => exact hread

theorem not_ofPattern_of_ofLine {line : Line} {cause : CompileCause}
    (h : ofLine line = .error (.cause cause)) : ¬ cause.OfPattern := by
  have houtcome := outcome_ofLine line
  rw [h] at houtcome
  cases houtcome with
  | cause hcause => exact hcause

end Directive

namespace Draft

variable {setting : Setting} {draft after : Draft} {number : Nat} {line : Line}

/-! ## Where a pattern is rejected -/

/-- A pattern is rejected at a line, given where the line stands: one that is written on the line,
or the prompt of the block of uploads that the line ends. -/
inductive RejectsAt (stand : Stand) (line : Line) (cause : CompileCause) : Prop where
  | own {text : String} {capturing : Bool} (hwrites : Writes stand line text capturing)
      (hblock : stand.openBlock? ≠ some Directive.uploadTag) (h : Rejects text capturing cause)
  | prompt {opened : Nat} {command prompt : Line} {rest : List Entry}
      (hstand : stand = .upload opened (.text command :: .text prompt :: rest))
      (hclosing : line.startsWith "\x7d") (h : Rejects (String.ofList prompt) false cause)

theorem rejectsAt_of_readOutside {cause : CompileCause} (hcause : cause.OfPattern)
    (h : draft.readOutside setting number line = .error (.cause cause)) :
    RejectsAt .outside line cause := by
  rcases error_of_bind h with hline | ⟨directive, hline, hnext⟩
  · exact absurd hcause (Directive.not_ofPattern_of_ofLine hline)
  · have hread := Directive.readFrom_of_ofLine hline
    cases directive with
    | response pattern =>
        rcases error_of_bind hnext with hcheck | ⟨_, -, hadd⟩
        · exact .own hread nofun (checkPattern_eq_cause_iff.mp hcheck)
        · cases hadd
    | capture names pattern =>
        rcases error_of_bind hnext with hcheck | ⟨_, -, hadd⟩
        · exact .own hread nofun (checkPattern_eq_cause_iff.mp hcheck)
        · cases hadd
    | _ => cases hnext

theorem rejectsAt_of_closeUpload {opened : Nat} {entries : List Entry} {cause : CompileCause}
    (hcause : cause.OfPattern)
    (h : closeUpload setting opened entries draft = .error (.cause cause)) :
    ∃ command prompt rest, entries = .text command :: .text prompt :: rest ∧
      Rejects (String.ofList prompt) false cause := by
  by_cases hhead : ∃ command prompt rest, entries = .text command :: .text prompt :: rest
  · obtain ⟨command, prompt, rest, rfl⟩ := hhead
    rw [closeUpload_eq] at h
    exact ⟨command, prompt, rest, rfl, checkPattern_eq_cause_iff.mp (error_of_map h)⟩
  · rw [closeUpload_of_no_head hhead] at h
    cases h
    cases hcause

theorem entryOf_ne_cause (cause : CompileCause) : entryOf setting line ≠ .error (.cause cause) := by
  intro h
  unfold entryOf at h
  split at h
  · have hload := error_of_map h
    unfold loadAttachment at hload
    dsimp only at hload
    split at hload <;> cases hload
  · cases h

/-- If a pattern is rejected then it is written on the line, or it is the prompt of a block that the
line ends. -/
theorem rejectsAt_of_read {cause : CompileCause} (hcause : cause.OfPattern)
    (h : draft.read setting number line = .error (.cause cause)) :
    RejectsAt draft.stand line cause := by
  cases hstand : draft.stand with
  | outside =>
      rw [read_outside hstand] at h
      exact rejectsAt_of_readOutside hcause h
  | unordered opened patterns =>
      by_cases hclosing : line.startsWith Directive.closingTag
      · rw [read_unordered_closing hstand _ hclosing] at h
        cases h
      · rw [read_unordered hstand _ hclosing] at h
        split at h
        · rename_i htag
          have hcheck := checkPattern_eq_cause_iff.mp (error_of_map h)
          have hblock : (Stand.unordered opened patterns).openBlock? ≠ some Directive.uploadTag :=
            (by decide : some Directive.unorderedTag ≠ some Directive.uploadTag)
          exact .own (.inBlock htag) hblock hcheck
        · cases h
          cases hcause
  | upload opened entries =>
      by_cases hclosing : line.startsWith Directive.closingTag
      · rw [read_upload_closing hstand _ hclosing] at h
        obtain ⟨command, prompt, rest, rfl, hrejects⟩ :=
          rejectsAt_of_closeUpload hcause (error_of_map h)
        exact .prompt rfl hclosing hrejects
      · rw [read_upload hstand _ hclosing] at h
        exact absurd (error_of_map h) (entryOf_ne_cause cause)
  | skipping opened =>
      rw [read_skipping hstand] at h
      cases h

/-- A pattern that is rejected is a failure at its line, unless it is the prompt of a block of
uploads. -/
theorem read_of_writes {text : String} {capturing : Bool} {cause : CompileCause}
    (hwrites : Writes draft.stand line text capturing)
    (hblock : draft.stand.openBlock? ≠ some Directive.uploadTag) (h : Rejects text capturing cause) :
    draft.read setting number line = .error (.cause cause) := by
  have hcheck := checkPattern_eq_cause_iff.mpr h
  generalize hstand : draft.stand = stand at hwrites hblock
  cases hwrites with
  | response htag hprompt =>
      rw [read_outside hstand, readOutside, Directive.ofLine_response_tag htag, if_neg hprompt]
      change (checkPattern line.body false >>= fun _ => _) = _
      rw [hcheck]
      rfl
  | capture htag hvalue =>
      rw [read_outside hstand, readOutside, Directive.ofLine_capture_tag htag, hvalue]
      change (checkPattern _ (line.names ≠ []) >>= fun _ => _) = _
      rw [hcheck]
      rfl
  | inBlock htag =>
      have hclosing : ¬ line.startsWith Directive.closingTag := by
        obtain ⟨rest, rfl⟩ := startsWith_iff.mp htag
        nofun
      rw [read_unordered hstand _ hclosing]
      exact (if_pos htag).trans (by rw [hcheck]; rfl)
  | prompt => exact absurd rfl hblock

/-! ## The lines of a block of uploads -/

theorem entries_eq_nil_of_readOutside {opened : Nat} {entries : List Entry}
    (hstand : draft.stand = .outside) (h : draft.readOutside setting number line = .ok after)
    (hafter : after.stand = .upload opened entries) : entries = [] := by
  obtain ⟨directive, -, hnext⟩ := ok_of_bind h
  cases directive with
  | response | capture =>
      obtain ⟨_, -, hadd⟩ := ok_of_bind hnext
      cases hadd
      cases hstand.symm.trans hafter
  | openUpload =>
      cases hnext
      cases hafter
      rfl
  | openUnordered | skip =>
      cases hnext
      cases hafter
  | _ =>
      cases hnext
      cases hstand.symm.trans hafter

/-- The last entry of a block of uploads is the line that was read last. -/
theorem exists_entry_of_read {opened : Nat} {entries : List Entry}
    (h : draft.read setting number line = .ok after)
    (hafter : after.stand = .upload opened entries) (hentries : entries ≠ []) :
    ∃ seen entry, draft.stand = .upload opened seen ∧ ¬ line.startsWith "\x7d" ∧
      entryOf setting line = .ok entry ∧ entries = seen ++ [entry] := by
  cases hstand : draft.stand with
  | outside =>
      rw [read_outside hstand] at h
      exact absurd (entries_eq_nil_of_readOutside hstand h hafter) hentries
  | unordered first patterns =>
      by_cases hclosing : line.startsWith Directive.closingTag
      · rw [read_unordered_closing hstand _ hclosing] at h
        cases h
        cases hafter
      · rw [read_unordered hstand _ hclosing] at h
        split at h
        · obtain ⟨_, -, rfl⟩ := ok_of_map h
          cases hafter
        · cases h
  | upload first seen =>
      by_cases hclosing : line.startsWith Directive.closingTag
      · rw [read_upload_closing hstand _ hclosing] at h
        obtain ⟨closed, -, rfl⟩ := ok_of_map h
        cases hafter
      · rw [read_upload hstand _ hclosing] at h
        obtain ⟨entry, hentry, rfl⟩ := ok_of_map h
        cases hafter
        exact ⟨seen, entry, rfl, hclosing, hentry, rfl⟩
  | skipping first =>
      rw [read_skipping hstand] at h
      cases h
      cases hafter

end Draft

theorem text_of_entryOf {setting : Setting} {line text : Line}
    (h : entryOf setting line = .ok (.text text)) :
    ¬ line.startsWith attachmentTag ∧ line = text := by
  unfold entryOf at h
  split at h
  · obtain ⟨_, -, hfile⟩ := ok_of_map h
    cases hfile
  · rename_i htag
    cases h
    exact ⟨htag, rfl⟩

/-- Lines that can be compiled are compiled up to the last of them, and then that one. -/
theorem exists_read_of_concat {setting : Setting} {front : List Line} {line : Line} {draft : Draft}
    (h : draftOf setting (front ++ [line]) = (draft, none)) :
    ∃ before, draftOf setting front = (before, none) ∧
      before.read setting (1 + front.length) line = .ok draft := by
  rw [draftOf, Draft.readAll_append] at h
  split at h
  · rename_i before hfront
    refine ⟨before, hfront, ?_⟩
    cases hread : before.read setting (1 + front.length) line with
    | ok after =>
        rw [Draft.readAll_cons_of_ok hread] at h
        exact congrArg Except.ok (Prod.ext_iff.mp h).1
    | error objection =>
        rw [Draft.readAll_cons_of_error hread] at h
        cases h
  · cases h

/-- A pattern is written on the line of a script that has a number. The lines in front of it can be
compiled, and leave it in the given place. -/
def WrittenOn (setting : Setting) (lines : List Line) (stand : Stand) (number : Nat)
    (text : String) (capturing : Bool) : Prop :=
  ∃ front line back draft, lines = front ++ line :: back ∧ number = front.length + 1 ∧
    draftOf setting front = (draft, none) ∧ draft.stand = stand ∧ Writes stand line text capturing

/-- The number is that of the first closing line behind the line with another number. -/
def ClosesBehind (lines : List Line) (number closing : Nat) : Prop :=
  ∃ front between line back, lines = front ++ (between ++ line :: back) ∧ number = front.length ∧
    closing = number + between.length + 1 ∧ line.startsWith "\x7d" ∧
    ∀ other ∈ between, ¬ other.startsWith "\x7d"

/-- The prompt of the block of uploads that is open is written on a line of the block. -/
theorem exists_prompt {setting : Setting} {lines : List Line} {draft : Draft} {opened : Nat}
    {command prompt : Line} {rest : List Entry} (h : draftOf setting lines = (draft, none))
    (hstand : draft.stand = .upload opened (.text command :: .text prompt :: rest)) :
    ∃ front between before, lines = front ++ prompt :: between ∧
      draftOf setting front = (before, none) ∧ before.stand = .upload opened [.text command] ∧
      Writes (.upload opened [.text command]) prompt (String.ofList prompt) false ∧
      ∀ line ∈ between, ¬ line.startsWith "\x7d" := by
  -- The prompt is the line behind which the block has two entries.
  induction lines using List.reverseRecOn generalizing draft rest with
  | nil =>
      cases h
      cases hstand
  | append_singleton front line ih =>
      obtain ⟨before, hfront, hread⟩ := exists_read_of_concat h
      obtain ⟨seen, entry, hseen, hgoesOn, hentry, hentries⟩ :=
        Draft.exists_entry_of_read hread hstand (List.cons_ne_nil _ _)
      rcases seen with _ | ⟨first, _ | ⟨second, later⟩⟩
      · cases hentries
      · cases hentries
        obtain ⟨hfile, rfl⟩ := text_of_entryOf hentry
        exact ⟨front, [], before, rfl, hfront, hseen, .prompt hgoesOn hfile, List.forall_mem_nil _⟩
      · obtain ⟨rfl, rfl, rfl⟩ : .text command = first ∧ .text prompt = second ∧
            rest = later ++ [entry] := by simpa using hentries
        obtain ⟨start, between, opening, rfl, hstart, hopening, hwrites, hbetween⟩ :=
          ih hfront hseen
        refine ⟨start, between ++ [line], opening, by simp, hstart, hopening, hwrites, ?_⟩
        exact List.forall_mem_append.mpr ⟨hbetween, List.forall_mem_singleton.mpr hgoesOn⟩

/-! ## Whole scripts -/

theorem result_of_lineFault {setting : Setting} {transcript : Transcript} {fault : Fault}
    (h : (draftOf setting transcript.lines).2 = some fault) :
    (compile setting transcript).result = .error fault := by
  have hlines : Draft.empty.readAll setting 1 transcript.lines =
      ((draftOf setting transcript.lines).1, some fault) := Prod.ext rfl h
  rw [compile, hlines]
  rfl

/-- A rejected pattern is met while the lines are read. -/
theorem lineFault_of_result {setting : Setting} {source : Source} {encoding script : String}
    {cause : CompileCause} {number : Nat} (hcause : cause.OfPattern)
    (h : (compile setting (source.transcript encoding)).result =
      .error (.failure (.compile cause script number))) :
    (draftOf setting (source.transcript encoding).lines).2 =
      some (.failure (.compile cause script number)) := by
  rcases fault_of_compile h with hline | hend
  · exact hline
  · unfold endFault? at hend
    split at hend
    · rename_i hread
      cases hend
      rcases fault_of_transcript hread with ⟨error, hother⟩ | ⟨name, hother⟩ <;> cases hother
    · cases hend
      cases hcause
    · cases hend

theorem report_compile (cause : CompileCause) (setting : Setting) (number : Nat) :
    (Failure.compile cause setting.script number).report =
      ⟨.compile, cause.message ++ " (" ++ setting.location number ++ ")",
        [("script_name", .text setting.script), ("line_number", .int number)]⟩ := by
  have hmessage : cause.message ++ " (" ++ setting.location number ++ ")" =
      cause.message ++ " (" ++ setting.script ++ ":" ++ toString number ++ ")" := by
    simp only [Setting.location, String.append_assoc]
  rw [hmessage]
  rfl

/-- A failure that names a line was objected to at that line. -/
theorem cause_of_read {setting : Setting} {draft : Draft} {number reported : Nat} {line : Line}
    {objection : Objection} {cause : CompileCause} {script : String}
    (hread : draft.read setting number line = .error objection)
    (h : Fault.failure (.compile cause script reported) =
      objection.place setting.script number) :
    objection = .cause cause ∧ script = setting.script ∧ reported = number := by
  cases objection with
  | cause reason =>
      cases h
      exact ⟨rfl, rfl, rfl⟩
  | unreadable filename error => cases h
  | fault other =>
      cases h
      cases PassesOn.read setting number line draft _ hread

/-- If a script fails because a pattern is rejected then the failure names the line on which the
pattern is written, but for the prompt of a block of uploads: then it names the line behind that
ends the block. A pattern outside of such blocks that is rejected is a failure with its line. -/
theorem compile_rejected_pattern (setting : Setting) (source : Source) (encoding : String) :
    let lines := (source.transcript encoding).lines
    let result := (compile setting (source.transcript encoding)).result
    (∀ cause script number, cause.OfPattern →
      result = .error (.failure (.compile cause script number)) →
        script = setting.script ∧
        (Failure.compile cause script number).report =
          ⟨.compile, cause.message ++ " (" ++ setting.location number ++ ")",
            [("script_name", .text script), ("line_number", .int number)]⟩ ∧
        ∃ stand written text capturing, WrittenOn setting lines stand written text capturing ∧
          Rejects text capturing cause ∧
          (stand.openBlock? ≠ some Directive.uploadTag → number = written) ∧
          (stand.openBlock? = some Directive.uploadTag → ClosesBehind lines written number)) ∧
    ∀ stand written text capturing cause, stand.openBlock? ≠ some Directive.uploadTag →
      WrittenOn setting lines stand written text capturing → Rejects text capturing cause →
        result = .error (.failure (.compile cause setting.script written)) := by
  intro lines result
  constructor
  · intro cause script number hcause hresult
    obtain ⟨front, line, back, draft, objection, hlines, hfront, hread, hplaced⟩ :=
      exists_objection_of_readAll (lineFault_of_result hcause hresult)
    obtain ⟨rfl, rfl, rfl⟩ := cause_of_read hread hplaced
    refine ⟨rfl, report_compile cause setting _, ?_⟩
    cases Draft.rejectsAt_of_read hcause hread with
    | @own text capturing hwrites hblock hrejects =>
        have hwritten : WrittenOn setting lines draft.stand (front.length + 1) text capturing :=
          ⟨front, line, back, draft, hlines, rfl, hfront, rfl, hwrites⟩
        exact ⟨_, _, _, _, hwritten, hrejects, fun _ => Nat.add_comm ..,
          fun hother => absurd hother hblock⟩
    | @prompt opened command prompt rest hstand hclosing hrejects =>
        obtain ⟨start, between, before, rfl, hstart, hopening, hwrites, hbetween⟩ :=
          exists_prompt hfront hstand
        have hwritten : WrittenOn setting lines (.upload opened [.text command])
            (start.length + 1) (String.ofList prompt) false :=
          ⟨start, prompt, between ++ line :: back, before, hlines.trans (by simp), rfl, hstart,
            hopening, hwrites⟩
        have hcloses : ClosesBehind lines (start.length + 1)
            (1 + (start ++ prompt :: between).length) := by
          refine ⟨start ++ [prompt], between, line, back, hlines.trans (by simp), by simp, ?_,
            hclosing, hbetween⟩
          rw [List.length_append, List.length_cons]
          omega
        exact ⟨_, _, _, _, hwritten, hrejects, absurd rfl, fun _ => hcloses⟩
  · rintro stand written text capturing cause hblock
      ⟨front, line, back, draft, hlines, rfl, hfront, rfl, hwrites⟩ hrejects
    have hread : draft.read setting (1 + front.length) line = .error (.cause cause) :=
      Draft.read_of_writes hwrites hblock hrejects
    refine result_of_lineFault ?_
    change (draftOf setting lines).2 = _
    rw [hlines, draftOf, Draft.readAll_append_of_ok hfront, Draft.readAll_cons_of_error hread,
      Nat.add_comm]
    rfl

/-- The second pattern of a block whose lines may arrive in any order. -/
theorem compile_rejected_pattern_of_block :
    let setting : Setting := ⟨"t.mpt", ⟨[], []⟩, none, 100⟩
    let transcript := (Source.text "# a\nSUB \x7b\nS: a\nS: (\n\x7d").transcript "utf-8"
    let cause := CompileCause.invalidPattern "(" (.malformed .unterminatedGroup (some 0))
    WrittenOn setting transcript.lines (.unordered 2 ["a"]) 4 "(" false ∧
      Rejects "(" false cause ∧
      (compile setting transcript).result = .error (.failure (.compile cause "t.mpt" 4)) ∧
      (Failure.compile cause "t.mpt" 4).message =
        "Invalid server pattern '(': missing ), unterminated subpattern at position 0 (t.mpt:4)" := by
  intro setting transcript cause
  have hwritten : WrittenOn setting transcript.lines (.unordered 2 ["a"]) 4 "(" false :=
    ⟨["# a".toList, "SUB \x7b".toList, "S: a".toList], "S: (".toList, ["\x7d".toList],
      ⟨[], "", .unordered 2 ["a"], []⟩, rfl, rfl, rfl, rfl, .inBlock rfl⟩
  have hrejects : Rejects "(" false cause := .malformed rfl
  have hresult : (compile setting transcript).result =
      .error (.failure (.compile cause "t.mpt" 4)) :=
    (compile_rejected_pattern setting _ "utf-8").2 _ _ _ _ _ (by decide) hwritten hrejects
  obtain ⟨-, hreport, -⟩ :=
    (compile_rejected_pattern setting _ "utf-8").1 cause "t.mpt" 4 trivial hresult
  exact ⟨hwritten, hrejects, hresult, congrArg Report.message hreport⟩

/-- The prompt of a block of uploads is written on its third line, and the failure names the line
behind its body. -/
theorem compile_names_closing_line :
    let setting : Setting := ⟨"t.mpt", ⟨[], []⟩, none, 100⟩
    let transcript :=
      (Source.text "ATTACHMENT \x7b\na001 APPEND INBOX\n(\nbody\n\x7d").transcript "utf-8"
    let cause := CompileCause.invalidPattern "(" (.malformed .unterminatedGroup (some 0))
    WrittenOn setting transcript.lines (.upload 1 [.text "a001 APPEND INBOX".toList]) 3 "(" false ∧
      Rejects "(" false cause ∧
      (compile setting transcript).result = .error (.failure (.compile cause "t.mpt" 5)) := by
  intro setting transcript cause
  refine ⟨?_, .malformed rfl, rfl⟩
  exact ⟨["ATTACHMENT \x7b".toList, "a001 APPEND INBOX".toList], "(".toList,
    ["body".toList, "\x7d".toList], ⟨[], "", .upload 1 [.text "a001 APPEND INBOX".toList], []⟩,
    rfl, rfl, rfl, rfl, .prompt nofun nofun⟩

end Script

end MailScript
