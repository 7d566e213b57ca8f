import MailScript.Proofs.Matching
import MailScript.Proofs.Script.Objections
import MailScript.Proofs.Text

/-! # Lines that slip through

What is wrong with a script is reported as a failure of the script, but for a few lines: a capture
without a colon, a pause with too many digits, a pattern that is rejected for being too large rather
than malformed, and the path of an attachment with NUL in it. A script compiles or ends with a
failure exactly if no such line is reached. -/

namespace MailScript.Script

/-! ## Which lines they are -/

/-- A text that is no pattern, for another reason than breaking the notation. -/
def Oversized (text : String) (error : Pattern.Error) : Prop :=
  Pattern.parse text = .error error ∧ ∀ reason position, error ≠ .malformed reason position

/-- The path of an attachment. -/
def Setting.attachmentPath (setting : Setting) (filename : String) : Path :=
  match setting.baseDirectory with
  | some directory => directory.join (Path.ofString filename)
  | none => Path.ofString filename

/-- The name of the attachment that a line asks for. -/
def Line.attachmentName (line : Line) : String :=
  String.ofList (Text.trimChars (line.drop attachmentTag.length))

/-- A line whose fault is passed on, given where the line stands. -/
inductive Slips (setting : Setting) : Stand → Line → Fault → Prop where
  | colon {line : Line} (htag : line.startsWith "S<") (hcolon : ':' ∉ line) :
      Slips setting .outside line .missingColon
  | digits {line text digits : Line} {negative : Bool} (htag : line.startsWith "SLEEP:")
      (hvalue : line.value = .ok text) (hdigits : Line.signedDigits text = some (negative, digits))
      (hlimit : Text.digitLimit < digits.length) :
      Slips setting .outside line (.tooManyDigits digits.length)
  | response {line : Line} {error : Pattern.Error} (htag : line.startsWith "S:")
      (hpattern : Oversized line.body error) :
      Slips setting .outside line (.malformedPattern line.body error)
  | capture {line text : Line} {error : Pattern.Error} (htag : line.startsWith "S<")
      (hvalue : line.value = .ok text) (hpattern : Oversized (String.ofList text) error) :
      Slips setting .outside line (.malformedPattern (String.ofList text) error)
  | inBlock {opened : Nat} {patterns : List String} {line : Line} {error : Pattern.Error}
      (htag : line.startsWith "S:") (hpattern : Oversized line.body error) :
      Slips setting (.unordered opened patterns) line (.malformedPattern line.body error)
  /-- The pattern at the head of a block of uploads is looked at behind the block. -/
  | head {opened : Nat} {command prompt : Line} {rest : List Entry} {line : Line}
      {error : Pattern.Error} (htag : line.startsWith "\x7d")
      (hpattern : Oversized (String.ofList prompt) error) :
      Slips setting (.upload opened (.text command :: .text prompt :: rest)) line
        (.malformedPattern (String.ofList prompt) error)
  | path {opened : Nat} {entries : List Entry} {line : Line} (htag : line.startsWith "FILE=")
      (hpath : '\x00' ∈ (setting.attachmentPath line.attachmentName).render.toList) :
      Slips setting (.upload opened entries) line .nulInPath

/-! ## Results that pass on a fault -/

/-- A result passes on a fault that is no failure. -/
def Passes {α : Type} (result : Except Objection α) (fault : Fault) : Prop :=
  result = .error (.fault fault) ∧ fault.Foreign

section Passes

variable {α β : Type} {fault : Fault}

@[simp] theorem not_passes_ok (x : α) : ¬ Passes (.ok x) fault :=
  fun h => nomatch h.1

@[simp] theorem not_passes_cause (reason : CompileCause) :
    ¬ Passes (.error (.cause reason) : Except Objection α) fault :=
  fun h => nomatch h.1

@[simp] theorem passes_map {result : Except Objection α} {f : α → β} :
    Passes (result.map f) fault ↔ Passes result fault := by
  cases result <;> simp [Passes, Except.map]

theorem checkPattern_passes_iff {text : String} {capturing : Bool} :
    Passes (checkPattern text capturing) fault ↔
      ∃ error, Oversized text error ∧ fault = .malformedPattern text error := by
  have hfault (error : Pattern.Error) (hparse : Pattern.parse text = .error error)
      (h : ∀ reason position, error ≠ .malformed reason position) :
      Passes (.error (.fault (.malformedPattern text error)) : Except Objection Unit) fault ↔
        ∃ error, Oversized text error ∧ fault = .malformedPattern text error := by
    constructor
    · rintro ⟨hsame, -⟩
      cases hsame
      exact ⟨error, ⟨hparse, h⟩, rfl⟩
    · rintro ⟨other, ⟨hother, -⟩, rfl⟩
      cases hparse.symm.trans hother
      exact ⟨rfl, nofun⟩
  have hnone (h : ∀ error, ¬ Oversized text error) :
      ¬ ∃ error, Oversized text error ∧ fault = .malformedPattern text error :=
    fun ⟨error, hoversized, _⟩ => h error hoversized
  unfold checkPattern
  cases hparse : Pattern.parse text with
  | ok parsed =>
      have hnot := hnone fun error h => nomatch hparse.symm.trans h.1
      dsimp only
      split
      · exact iff_of_false (not_passes_cause _) hnot
      · exact iff_of_false (not_passes_ok _) hnot
  | error error =>
      cases error with
      | malformed reason position =>
          refine iff_of_false (not_passes_cause _) (hnone fun error h => ?_)
          cases hparse.symm.trans h.1
          exact h.2 reason position rfl
      | repetitionTooLarge => exact hfault _ hparse nofun
      | codeTooLarge => exact hfault _ hparse nofun
      | alphabetsBothSet => exact hfault _ hparse nofun
      | tooManyDigits count => exact hfault _ hparse nofun

end Passes

/-! ## Attachments -/

theorem locate_eq_nulInPath_iff (tree : FileTree) {path : Path} :
    tree.locate path = .error .nulInPath ↔ '\x00' ∈ path.render.toList := by
  unfold FileTree.locate
  dsimp only
  by_cases hnul : path.render.toList.contains '\x00'
  · rw [if_pos hnul]
    exact iff_of_true rfl (List.contains_iff_mem.mp hnul)
  · rw [if_neg hnul]
    refine iff_of_false ?_ fun hmem => hnul (List.contains_iff_mem.mpr hmem)
    split
    · nofun
    · split <;> nofun

/-- Loading an attachment passes on a fault exactly if its path holds NUL. -/
theorem loadAttachment_passes_iff {setting : Setting} {filename : String} {fault : Fault} :
    Passes (loadAttachment setting filename) fault ↔
      '\x00' ∈ (setting.attachmentPath filename).render.toList ∧ fault = .nulInPath := by
  rw [← locate_eq_nulInPath_iff setting.files]
  unfold loadAttachment
  extract_lets path path' loaded
  have hpath : setting.attachmentPath filename = path' := rfl
  rw [hpath]
  cases hlocate : setting.files.locate path' with
  | error other =>
      have hloaded : loaded = .error other := by
        unfold loaded
        rw [hlocate]
        rfl
      rw [hloaded]
      rcases FileTree.fault_of_locate hlocate with rfl | ⟨error, rfl⟩
      · refine ⟨fun ⟨hsame, _⟩ => ?_, fun ⟨_, hfault⟩ => ?_⟩
        · cases hsame
          exact ⟨rfl, rfl⟩
        · subst hfault
          exact ⟨rfl, fun failure hsame => by cases hsame⟩
      · refine iff_of_false (fun h => ?_) (fun h => ?_) <;> cases h.1
  | ok place =>
      refine iff_of_false ?_ (fun h => by cases h.1)
      have hloaded : loaded = if setting.attachmentLimit < setting.files.sizeAt place then
          fail (.attachmentTooLarge filename (setting.files.sizeAt place) setting.attachmentLimit)
          else (setting.files.readAt path' place).map (⟨·, filename⟩) := by
        unfold loaded
        rw [hlocate]
        rfl
      by_cases hsize : setting.attachmentLimit < setting.files.sizeAt place
      · rw [hloaded, if_pos hsize]
        rintro ⟨hpasses, hforeign⟩
        cases hpasses
        exact hforeign _ rfl
      · rw [hloaded, if_neg hsize]
        cases hread : setting.files.readAt path' place with
        | ok data => exact not_passes_ok _
        | error other =>
            obtain ⟨error, rfl⟩ := FileTree.fault_of_readAt hread
            rintro ⟨hpasses, -⟩
            cases hpasses

/-! ## One line -/

theorem startsWith_iff {line : Line} {tag : String} :
    line.startsWith tag ↔ ∃ rest, line = tag.toList ++ rest := by
  rw [Line.startsWith, List.isPrefixOf_iff_prefix]
  exact ⟨fun ⟨rest, h⟩ => ⟨rest, h.symm⟩, fun ⟨rest, h⟩ => ⟨rest, h.symm⟩⟩

/-- A line has a value exactly if it has a colon. -/
theorem value_eq_error_iff {line : Line} {fault : Fault} :
    line.value = .error fault ↔ ':' ∉ line ∧ fault = .missingColon := by
  unfold Line.value
  rw [← Text.cutAtFirst_eq_none_iff]
  cases Text.cutAtFirst ':' line with
  | none => simp [eq_comm]
  | some parts => simp

/-- The digits of a pause are too many to be read as one number. -/
theorem millis_eq_error_iff {line : Line} {fault : Fault} :
    line.millis = .error fault ↔ (':' ∉ line ∧ fault = .missingColon) ∨
      ∃ text negative digits, line.value = .ok text ∧
        Line.signedDigits text = some (negative, digits) ∧ Text.digitLimit < digits.length ∧
        fault = .tooManyDigits digits.length := by
  unfold Line.millis
  cases hvalue : line.value with
  | error other =>
      obtain ⟨hcolon, rfl⟩ := value_eq_error_iff.mp hvalue
      simp [hcolon, bind, Except.bind, eq_comm]
  | ok text =>
      have hcolon : ¬ ':' ∉ line := fun hcolon =>
        nomatch hvalue.symm.trans (value_eq_error_iff.mpr ⟨hcolon, rfl⟩)
      simp only [bind, Except.bind, hcolon, false_and, false_or, Except.ok.injEq]
      cases hdigits : Line.signedDigits text with
      | none => simp [hdigits, pure, Except.pure]
      | some signed =>
          obtain ⟨negative, digits⟩ := signed
          dsimp only
          by_cases hlimit : Text.digitLimit < digits.length
          · rw [if_pos hlimit]
            constructor
            · rintro ⟨⟩
              exact ⟨text, negative, digits, rfl, hdigits, hlimit, rfl⟩
            · rintro ⟨_, _, _, rfl, hsame, -, rfl⟩
              cases hdigits.symm.trans hsame
              rfl
          · rw [if_neg hlimit]
            refine iff_of_false ?_ ?_
            · cases negative <;> exact nofun
            · rintro ⟨_, _, _, rfl, hsame, hlong, -⟩
              cases hdigits.symm.trans hsame
              exact hlimit hlong

namespace Directive

theorem ofLine_response_tag {line : Line} (h : line.startsWith "S:") :
    ofLine line = if line = "S: \\+".toList ∨ line = "S: +".toList then .ok .prompt
      else .ok (.response line.body) := by
  obtain ⟨rest, rfl⟩ := startsWith_iff.mp h
  simp [ofLine, Line.startsWith, responseTag, pure, Except.pure]

theorem ofLine_capture_tag {line : Line} (h : line.startsWith "S<") :
    ofLine line =
      (unplaced line.value).map fun text => .capture line.names (String.ofList text) := by
  obtain ⟨rest, rfl⟩ := startsWith_iff.mp h
  simp [ofLine, Line.startsWith, responseTag]
  rfl

theorem ofLine_pause_tag {line : Line} (h : line.startsWith "SLEEP:") :
    ofLine line = (unplaced line.millis).map .pause := by
  obtain ⟨rest, rfl⟩ := startsWith_iff.mp h
  simp [ofLine, Line.startsWith, responseTag, unorderedTag, uploadTag, Text.isBlank, Text.inRanges,
    Text.blankRanges]
  rfl

end Directive

namespace Draft

variable {setting : Setting} {draft : Draft} {number : Nat} {line : Line} {fault : Fault}

theorem readOutside_response (h : line.startsWith "S:") :
    Passes (draft.readOutside setting number line) fault ↔
      ∃ error, Oversized line.body error ∧ fault = .malformedPattern line.body error := by
  unfold readOutside
  rw [Directive.ofLine_response_tag h]
  split
  · rename_i hprompt
    refine iff_of_false (not_passes_ok _) ?_
    rintro ⟨error, ⟨hparse, hother⟩, -⟩
    rcases hprompt with rfl | rfl
    · have hsome : (Pattern.parse "\\+").toOption.isSome := by decide +kernel
      obtain ⟨pattern, hpattern⟩ := isPattern_of_isSome hsome
      cases hparse.symm.trans hpattern
    · have hplus : Pattern.parse "+" = .error (.malformed .nothingToRepeat (some 0)) := rfl
      cases hparse.symm.trans hplus
      exact hother _ _ rfl
  · change Passes (checkPattern line.body false >>= fun _ => .ok _) fault ↔ _
    exact passes_map.trans checkPattern_passes_iff

theorem readOutside_capture (h : line.startsWith "S<") :
    Passes (draft.readOutside setting number line) fault ↔
      (':' ∉ line ∧ fault = .missingColon) ∨
        ∃ text error, line.value = .ok text ∧ Oversized (String.ofList text) error ∧
          fault = .malformedPattern (String.ofList text) error := by
  unfold readOutside
  rw [Directive.ofLine_capture_tag h]
  cases hvalue : line.value with
  | error other =>
      obtain ⟨hcolon, rfl⟩ := value_eq_error_iff.mp hvalue
      constructor
      · rintro ⟨hsame, -⟩
        cases hsame
        exact .inl ⟨hcolon, rfl⟩
      · rintro (⟨-, rfl⟩ | ⟨_, _, htext, -⟩)
        · exact ⟨rfl, nofun⟩
        · cases htext
  | ok text =>
      have hcolon : ¬ ':' ∉ line := fun hcolon =>
        nomatch hvalue.symm.trans (value_eq_error_iff.mpr ⟨hcolon, rfl⟩)
      change Passes (checkPattern (String.ofList text) (line.names ≠ []) >>= fun _ => .ok _) fault ↔ _
      refine (passes_map.trans checkPattern_passes_iff).trans ?_
      simp [hcolon]

theorem readOutside_pause (h : line.startsWith "SLEEP:") :
    Passes (draft.readOutside setting number line) fault ↔
      ∃ text negative digits, line.value = .ok text ∧
        Line.signedDigits text = some (negative, digits) ∧ Text.digitLimit < digits.length ∧
        fault = .tooManyDigits digits.length := by
  have hcolon : ':' ∈ line := by
    obtain ⟨rest, rfl⟩ := startsWith_iff.mp h
    simp
  have hmillis : line.millis = .error fault ↔ ∃ text negative digits, line.value = .ok text ∧
      Line.signedDigits text = some (negative, digits) ∧ Text.digitLimit < digits.length ∧
      fault = .tooManyDigits digits.length :=
    millis_eq_error_iff.trans (or_iff_right fun hmissing => hmissing.1 hcolon)
  unfold readOutside
  rw [Directive.ofLine_pause_tag h, ← hmillis]
  cases hresult : line.millis with
  | error other =>
      constructor
      · rintro ⟨hsame, -⟩
        cases hsame
        rfl
      · rintro ⟨⟩
        obtain ⟨-, -, -, -, -, -, rfl⟩ := hmillis.mp hresult
        exact ⟨rfl, nofun⟩
  | ok count => exact iff_of_false (not_passes_ok _) nofun

theorem not_passes_readOutside (hresponse : ¬ line.startsWith "S:")
    (hcapture : ¬ line.startsWith "S<") (hpause : ¬ line.startsWith "SLEEP:") :
    ¬ Passes (draft.readOutside setting number line) fault := by
  have hprompt : ¬ (line = "S: \\+".toList ∨ line = "S: +".toList) := by
    rintro (rfl | rfl) <;> exact hresponse rfl
  intro hpasses
  unfold readOutside Directive.ofLine at hpasses
  rw [if_neg hprompt, Directive.responseTag, if_neg hresponse, if_neg hcapture, if_neg hpause]
    at hpasses
  split at hpasses
  · exact not_passes_ok _ hpasses
  split at hpasses
  · exact not_passes_ok _ hpasses
  split at hpasses
  · exact not_passes_ok _ hpasses
  split at hpasses
  · exact not_passes_ok _ hpasses
  split at hpasses
  · rename_i hswitch
    obtain ⟨rest, rfl⟩ := startsWith_iff.mp hswitch
    cases hvalue : Line.value ("SESSION:".toList ++ rest) with
    | error other =>
        obtain ⟨hcolon, -⟩ := value_eq_error_iff.mp hvalue
        exact hcolon (by simp)
    | ok label =>
        rw [hvalue] at hpasses
        simp only [Directive.unplaced, bind, Except.bind] at hpasses
        by_cases hlabel : label = []
        · rw [if_pos hlabel] at hpasses
          exact not_passes_cause _ hpasses
        · rw [if_neg hlabel] at hpasses
          exact not_passes_ok _ hpasses
  split at hpasses
  · exact not_passes_ok _ hpasses
  · exact not_passes_cause _ hpasses

/-- Outside of blocks a line passes on a fault exactly if it is one of those. -/
theorem readOutside_passes_iff :
    Passes (draft.readOutside setting number line) fault ↔ Slips setting .outside line fault := by
  constructor
  · intro hpasses
    by_cases hresponse : line.startsWith "S:"
    · obtain ⟨error, hpattern, rfl⟩ := (readOutside_response hresponse).mp hpasses
      exact .response hresponse hpattern
    by_cases hcapture : line.startsWith "S<"
    · rcases (readOutside_capture hcapture).mp hpasses with
        ⟨hcolon, rfl⟩ | ⟨text, error, hvalue, hpattern, rfl⟩
      · exact .colon hcapture hcolon
      · exact .capture hcapture hvalue hpattern
    by_cases hpause : line.startsWith "SLEEP:"
    · obtain ⟨text, negative, digits, hvalue, hdigits, hlimit, rfl⟩ :=
        (readOutside_pause hpause).mp hpasses
      exact .digits hpause hvalue hdigits hlimit
    exact absurd hpasses (not_passes_readOutside hresponse hcapture hpause)
  · intro hslips
    cases hslips with
    | colon htag hcolon => exact (readOutside_capture htag).mpr (.inl ⟨hcolon, rfl⟩)
    | digits htag hvalue hdigits hlimit =>
        exact (readOutside_pause htag).mpr ⟨_, _, _, hvalue, hdigits, hlimit, rfl⟩
    | response htag hpattern => exact (readOutside_response htag).mpr ⟨_, hpattern, rfl⟩
    | capture htag hvalue hpattern =>
        exact (readOutside_capture htag).mpr (.inr ⟨_, _, hvalue, hpattern, rfl⟩)

/-- Of the blocks of uploads, those pass on a fault whose head has a pattern that is too large. -/
theorem closeUpload_passes_iff {opened : Nat} {entries : List Entry} :
    Passes (closeUpload setting opened entries draft) fault ↔
      ∃ command prompt rest error, entries = .text command :: .text prompt :: rest ∧
        Oversized (String.ofList prompt) error ∧
        fault = .malformedPattern (String.ofList prompt) error := by
  by_cases hhead : ∃ command prompt rest, entries = .text command :: .text prompt :: rest
  · obtain ⟨command, prompt, rest, rfl⟩ := hhead
    rw [closeUpload_eq, passes_map, checkPattern_passes_iff]
    constructor
    · rintro ⟨error, hpattern, rfl⟩
      exact ⟨command, prompt, rest, error, rfl, hpattern, rfl⟩
    · rintro ⟨_, _, _, error, hsame, hpattern, rfl⟩
      cases hsame
      exact ⟨error, hpattern, rfl⟩
  · rw [closeUpload_of_no_head hhead]
    refine iff_of_false (not_passes_cause _) ?_
    rintro ⟨command, prompt, rest, -, hentries, -⟩
    exact hhead ⟨command, prompt, rest, hentries⟩

theorem entryOf_passes_iff :
    Passes (entryOf setting line) fault ↔ line.startsWith attachmentTag ∧
      '\x00' ∈ (setting.attachmentPath line.attachmentName).render.toList ∧
      fault = .nulInPath := by
  unfold entryOf
  split
  · rename_i htag
    rw [passes_map, and_iff_right htag]
    exact loadAttachment_passes_iff
  · rename_i htag
    exact iff_of_false (not_passes_ok _) fun h => htag h.1

/-- A line passes on a fault exactly if it is one of those. -/
theorem read_passes_iff :
    Passes (draft.read setting number line) fault ↔ Slips setting draft.stand line fault := by
  cases hstand : draft.stand with
  | outside => rw [read_outside hstand, readOutside_passes_iff]
  | unordered opened patterns =>
      by_cases hclosing : line.startsWith Directive.closingTag
      · rw [read_unordered_closing hstand _ hclosing]
        refine iff_of_false (not_passes_ok _) fun hslips => ?_
        cases hslips with
        | inBlock htag =>
            obtain ⟨rest, rfl⟩ := startsWith_iff.mp htag
            cases hclosing
      · rw [read_unordered hstand _ hclosing]
        split
        · rename_i htag
          rw [passes_map, checkPattern_passes_iff]
          constructor
          · rintro ⟨error, hpattern, rfl⟩
            exact .inBlock htag hpattern
          · intro hslips
            cases hslips with
            | inBlock _ hpattern => exact ⟨_, hpattern, rfl⟩
        · rename_i htag
          refine iff_of_false (not_passes_cause _) fun hslips => ?_
          cases hslips with
          | inBlock hresponse => exact htag hresponse
  | upload opened entries =>
      by_cases hclosing : line.startsWith Directive.closingTag
      · rw [read_upload_closing hstand _ hclosing, passes_map, closeUpload_passes_iff]
        constructor
        · rintro ⟨command, prompt, rest, error, rfl, hpattern, rfl⟩
          exact .head hclosing hpattern
        · intro hslips
          cases hslips with
          | head _ hpattern => exact ⟨_, _, _, _, rfl, hpattern, rfl⟩
          | path htag =>
              obtain ⟨rest, rfl⟩ := startsWith_iff.mp htag
              cases hclosing
      · rw [read_upload hstand _ hclosing, passes_map, entryOf_passes_iff]
        constructor
        · rintro ⟨htag, hpath, rfl⟩
          exact .path htag hpath
        · intro hslips
          cases hslips with
          | head htag => exact absurd htag hclosing
          | path htag hpath => exact ⟨htag, hpath, rfl⟩
  | skipping opened =>
      rw [read_skipping hstand]
      exact iff_of_false (not_passes_ok _) nofun

end Draft

/-! ## Whole scripts -/

/-- The lines of a script are read up to the first one that cannot be compiled. -/
theorem exists_objection_of_readAll {setting : Setting} {number : Nat} {lines : List Line}
    {draft : Draft} {fault : Fault} (h : (draft.readAll setting number lines).2 = some fault) :
    ∃ front line back after objection, lines = front ++ line :: back ∧
      draft.readAll setting number front = (after, none) ∧
      after.read setting (number + front.length) line = .error objection ∧
      fault = objection.place setting.script (number + front.length) := by
  induction lines generalizing number draft with
  | nil => cases h
  | cons line rest ih =>
      cases hread : draft.read setting number line with
      | error objection =>
          rw [Draft.readAll_cons_of_error hread] at h
          cases h
          exact ⟨[], line, rest, draft, objection, rfl, rfl, hread, rfl⟩
      | ok next =>
          rw [Draft.readAll_cons_of_ok hread] at h
          obtain ⟨front, stop, back, after, objection, rfl, hfront, hstop, rfl⟩ := ih h
          have hnumber : number + (line :: front).length = number + 1 + front.length := by
            rw [List.length_cons]
            omega
          refine ⟨line :: front, stop, back, after, objection, rfl, ?_, ?_, ?_⟩
          · rw [Draft.readAll_cons_of_ok hread, hfront]
          · rw [hnumber, hstop]
          · rw [hnumber]

/-- A line that slips through is reached: the lines in front of it can be compiled. -/
def Reaches (setting : Setting) (lines : List Line) (fault : Fault) : Prop :=
  ∃ front line back draft, lines = front ++ line :: back ∧
    draftOf setting front = (draft, none) ∧ Slips setting draft.stand line fault

/-- Compiling ends with a fault that is no failure exactly if a line that slips through is reached,
and then with the fault of that line. -/
theorem compile_foreign_iff {setting : Setting} {lines : List Line} {fault : Fault} :
    (compile setting (.ofLines lines)).result = .error fault ∧ fault.Foreign ↔
      Reaches setting lines fault := by
  rw [result_compile]
  constructor
  · rintro ⟨hresult, hforeign⟩
    split at hresult
    · rename_i other hother
      cases hresult
      rcases Option.or_eq_some_iff.mp hother with hline | ⟨-, hopen⟩
      · obtain ⟨front, line, back, draft, objection, rfl, hfront, hread, hplaced⟩ :=
          exists_objection_of_readAll hline
        refine ⟨front, line, back, draft, rfl, hfront, ?_⟩
        apply Draft.read_passes_iff.mp
        cases objection with
        | cause reason => exact absurd hplaced (hforeign _)
        | unreadable filename error => exact absurd hplaced (hforeign _)
        | fault other =>
            cases hplaced
            exact ⟨hread, hforeign⟩
      · obtain ⟨block, -, rfl⟩ := Option.map_eq_some_iff.mp hopen
        exact absurd rfl (hforeign _)
    · cases hresult
  · rintro ⟨front, line, back, draft, rfl, hfront, hslips⟩
    obtain ⟨hread, hforeign⟩ : Passes (draft.read setting (1 + front.length) line) fault :=
      Draft.read_passes_iff.mpr hslips
    have hlines : draftOf setting (front ++ line :: back) = (draft, some fault) := by
      rw [draftOf, Draft.readAll_append_of_ok hfront, Draft.readAll_cons_of_error hread]
      rfl
    rw [hlines]
    exact ⟨rfl, hforeign⟩

/-- A script that is given as a text compiles, or ends with a failure of the script or of an
attachment, exactly if no line is reached that slips through. Otherwise it ends with the fault of that
line. -/
theorem compile_text_ends_iff (setting : Setting) (encoding content : String) :
    let result := (compile setting ((Source.text content).transcript encoding)).result
    (((∃ elements, result = .ok elements) ∨ ∃ failure, result = .error (.failure failure) ∧
        (failure.kind = .compile ∨ failure.kind = .attachment ∨
          failure.kind = .attachmentTooLarge)) ↔
      ∀ fault, ¬ Reaches setting (Text.splitLines content.toList) fault) ∧
    ∀ fault, Reaches setting (Text.splitLines content.toList) fault → result = .error fault := by
  intro result
  have hforeign {fault : Fault} : result = .error fault ∧ fault.Foreign ↔
      Reaches setting (Text.splitLines content.toList) fault := compile_foreign_iff
  refine ⟨⟨?_, fun hnone => ?_⟩, fun fault hreaches => (hforeign.mpr hreaches).1⟩
  · rintro (⟨elements, hok⟩ | ⟨failure, hfailure, -⟩) fault hreaches
    · cases hok.symm.trans (hforeign.mpr hreaches).1
    · obtain ⟨hfault, hother⟩ := hforeign.mpr hreaches
      cases hfailure.symm.trans hfault
      exact hother failure rfl
  · cases hresult : result with
    | ok elements => exact .inl ⟨elements, rfl⟩
    | error fault =>
        have hnot : ¬ fault.Foreign := fun h => hnone fault (hforeign.mp ⟨hresult, h⟩)
        have hscript : fault.OfScript := ofScript_of_compile hresult
        right
        cases hscript with
        | objected cause script line => exact ⟨_, rfl, .inl rfl⟩
        | unreadable filename error script line => exact ⟨_, rfl, .inr (.inl rfl)⟩
        | undecodable | unknownEncoding => exact absurd nofun hnot
        | unplaced hunplaced =>
            cases hunplaced with
            | attachmentTooLarge filename size limit => exact ⟨_, rfl, .inr (.inr rfl)⟩
            | _ => exact absurd nofun hnot

/-- A capture without a colon, a number of repetitions that is too large and a path with NUL in it
are not reported as failures. -/
theorem compile_text_slips :
    let setting : Setting := ⟨"t.mpt", ⟨[], []⟩, none, 100⟩
    let result (content : String) :=
      (compile setting ((Source.text content).transcript "utf-8")).result
    result "S<u>" = .error .missingColon ∧
      result "S: a\x7b4294967295\x7d" =
        .error (.malformedPattern "a\x7b4294967295\x7d" .repetitionTooLarge) ∧
      result "ATTACHMENT \x7b\nFILE=\x00" = .error .nulInPath := by
  refine ⟨rfl, rfl, rfl⟩

end MailScript.Script
