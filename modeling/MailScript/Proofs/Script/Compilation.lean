import MailScript.Proofs.Results
import MailScript.Script.Compilation

/-! # Compilation of parts

A script is compiled line by line, so behind its first lines only their draft matters. A script
compiles when its lines can be read and no block is left open. -/

namespace MailScript.Script

/-! ## Reading lines -/

namespace Draft

/-- Lines are read one part after another, unless a line of the first part cannot be compiled. -/
theorem readAll_append (setting : Setting) (number : Nat) (front back : List Line)
    (draft : Draft) :
    draft.readAll setting number (front ++ back) =
      match draft.readAll setting number front with
      | (after, none) => after.readAll setting (number + front.length) back
      | (after, some fault) => (after, some fault) := by
  induction front generalizing number draft with
  | nil => rfl
  | cons line rest ih =>
      simp only [List.cons_append, readAll]
      cases draft.read setting number line with
      | error objection => rfl
      | ok after =>
          dsimp only
          rw [ih, List.length_cons, Nat.add_right_comm, Nat.add_assoc]

theorem readAll_append_of_ok {setting : Setting} {number : Nat} {front : List Line}
    {draft after : Draft} (h : draft.readAll setting number front = (after, none))
    (back : List Line) :
    draft.readAll setting number (front ++ back) =
      after.readAll setting (number + front.length) back := by
  rw [readAll_append, h]

theorem readAll_cons_of_ok {setting : Setting} {number : Nat} {line : Line} {draft after : Draft}
    (h : draft.read setting number line = .ok after) (rest : List Line) :
    draft.readAll setting number (line :: rest) = after.readAll setting (number + 1) rest := by
  rw [readAll, h]

theorem readAll_cons_of_error {setting : Setting} {number : Nat} {line : Line} {draft : Draft}
    {objection : Objection} (h : draft.read setting number line = .error objection)
    (rest : List Line) :
    draft.readAll setting number (line :: rest) =
      (draft, some (objection.place setting.script number)) := by
  rw [readAll, h]

end Draft

/-! ## Whole scripts -/

/-- The draft behind the lines of a script that can be compiled, with the fault at the next one. -/
def draftOf (setting : Setting) (lines : List Line) : Draft × Option Fault :=
  Draft.empty.readAll setting 1 lines

/-- The last request of some lines; it is empty if they have none. -/
def lastRequest (setting : Setting) (lines : List Line) : String :=
  (draftOf setting lines).1.lastRequest

/-- The fault of lines that end inside a block. -/
def openBlockFault? (setting : Setting) (count : Nat) (stand : Stand) : Option Fault :=
  stand.openBlock?.map fun block => .failure (.compile (.unterminated block) setting.script count)

theorem result_compile (setting : Setting) (lines : List Line) :
    (compile setting (.ofLines lines)).result =
      match (draftOf setting lines).2.or
          (openBlockFault? setting lines.length (draftOf setting lines).1.stand) with
      | some fault => .error fault
      | none => .ok (draftOf setting lines).1.elements := by
  have hend (draft : Draft) : endFault? setting (.ofLines lines) draft =
      openBlockFault? setting lines.length draft.stand := by
    unfold endFault? openBlockFault? Transcript.ofLines
    cases draft.stand.openBlock? <;> rfl
  unfold compile
  change (match (draftOf setting lines).2.or (endFault? setting (.ofLines lines)
    (draftOf setting lines).1) with | some _ => _ | none => _ : Compilation).result = _
  rw [hend]
  cases (draftOf setting lines).2.or
    (openBlockFault? setting lines.length (draftOf setting lines).1.stand) <;> rfl

/-- A script compiles when all its lines can be read and the last of them is not in a block. -/
theorem result_compile_eq_ok_iff {setting : Setting} {lines : List Line}
    {elements : List Element} :
    (compile setting (.ofLines lines)).result = .ok elements ↔
      ∃ draft, draftOf setting lines = (draft, none) ∧ draft.stand = .outside ∧
        draft.elements = elements := by
  rw [result_compile]
  rcases draftOf setting lines with ⟨draft, _ | fault⟩
  · cases hstand : draft.stand <;> simp [openBlockFault?, Stand.openBlock?, hstand]
  · simp

/-! ## Patterns -/

/-- A text is a pattern. -/
def IsPattern (text : String) : Prop :=
  ∃ pattern, Pattern.parse text = .ok pattern

theorem isPattern_of_isSome {text : String} (h : (Pattern.parse text).toOption.isSome) :
    IsPattern text := by
  obtain ⟨pattern, hparse⟩ := Option.isSome_iff_exists.mp h
  exact ⟨pattern, eq_ok_of_toOption hparse⟩

theorem checkPattern_of_parse {text : String} {pattern : Pattern} {capturing : Bool}
    (h : Pattern.parse text = .ok pattern) (hgroups : capturing → pattern.groups ≠ 0) :
    checkPattern text capturing = .ok () := by
  rw [checkPattern, h]
  exact if_neg fun hmissing => hgroups hmissing.1 hmissing.2

theorem checkPattern_eq_ok_iff {text : String} :
    checkPattern text false = .ok () ↔ IsPattern text := by
  constructor
  · intro h
    unfold checkPattern at h
    split at h
    · rename_i pattern hparse
      exact ⟨pattern, hparse⟩
    · cases h
    · cases h
  · rintro ⟨pattern, hparse⟩
    exact checkPattern_of_parse hparse (by simp)

/-! ## One line -/

/-- The entry that a line of a block of uploads stands for. -/
def entryOf (setting : Setting) (line : Line) : Except Objection Entry :=
  if line.startsWith attachmentTag then
    (loadAttachment setting
      (String.ofList (Text.trimChars (line.drop attachmentTag.length)))).map .attachment
  else .ok (.text line)

/-- What is reported of an entry: that its attachment was loaded. -/
def Entry.events : Entry → List Event
  | .text _ => []
  | .attachment file => [attachmentLoaded file]

namespace Draft

/-- A draft behind one more entry of the block of uploads that is open. -/
def withEntry (draft : Draft) (opened : Nat) (entries : List Entry) (entry : Entry) : Draft :=
  { draft with
    stand := .upload opened (entries ++ [entry])
    events := draft.events ++ entry.events }

variable {setting : Setting} {draft : Draft} {line : Line}

theorem read_outside (h : draft.stand = .outside) (number : Nat) :
    draft.read setting number line = draft.readOutside setting number line := by
  rw [read, h]

theorem read_unordered_closing {opened : Nat} {patterns : List String}
    (h : draft.stand = .unordered opened patterns) (number : Nat)
    (hline : line.startsWith Directive.closingTag) :
    draft.read setting number line =
      .ok ((draft.add (.unordered patterns (draft.origin setting opened))).go .outside) := by
  rw [read, h]
  exact if_pos hline

theorem read_unordered {opened : Nat} {patterns : List String}
    (h : draft.stand = .unordered opened patterns) (number : Nat)
    (hline : ¬ line.startsWith Directive.closingTag) :
    draft.read setting number line =
      if line.startsWith Directive.responseTag then
        (checkPattern line.body false).map fun _ =>
          draft.go (.unordered opened (patterns ++ [line.body]))
      else .error (.cause .foreignLineInBlock) := by
  rw [read, h]
  dsimp only
  rw [if_neg hline]
  split
  · cases checkPattern line.body false <;> rfl
  · rfl

theorem read_upload_closing {opened : Nat} {entries : List Entry}
    (h : draft.stand = .upload opened entries) (number : Nat)
    (hline : line.startsWith Directive.closingTag) :
    draft.read setting number line =
      (closeUpload setting opened entries draft).map fun closed => closed.go .outside := by
  rw [read, h]
  dsimp only
  rw [if_pos hline]
  cases closeUpload setting opened entries draft <;> rfl

theorem read_upload {opened : Nat} {entries : List Entry}
    (h : draft.stand = .upload opened entries) (number : Nat)
    (hline : ¬ line.startsWith Directive.closingTag) :
    draft.read setting number line =
      (entryOf setting line).map (draft.withEntry opened entries) := by
  rw [read, h]
  dsimp only
  rw [if_neg hline, entryOf]
  split
  · cases loadAttachment setting
      (String.ofList (Text.trimChars (line.drop attachmentTag.length))) <;> rfl
  · change Except.ok _ = Except.ok _
    simp [withEntry, go, Entry.events]

theorem read_skipping {opened : Nat} (h : draft.stand = .skipping opened) (number : Nat) :
    draft.read setting number line =
      .ok ((draft.add (.skipped line.body (draft.origin setting opened))).go .outside) := by
  rw [read, h]

end Draft

/-! ## Blocks of uploads -/

/-- The request that begins a block of uploads: its first line with the size that it announces. -/
def announcement (command : Line) (entries : List Entry) : String :=
  String.ofList command ++ " \x7b" ++ toString (announcedSize entries) ++ "\x7d"

/-- The elements of a block of uploads with two lines in front of the other entries. -/
def uploadElements (setting : Setting) (opened : Nat) (command prompt : Line)
    (rest : List Entry) : List Element :=
  let first := announcement command (.text command :: .text prompt :: rest)
  .request first :: .response (String.ofList prompt) ⟨setting.location opened, some first⟩ [] ::
    rest.map Entry.element

theorem closeUpload_eq (setting : Setting) (opened : Nat) (command prompt : Line)
    (rest : List Entry) (draft : Draft) :
    closeUpload setting opened (.text command :: .text prompt :: rest) draft =
      (checkPattern (String.ofList prompt) false).map fun _ =>
        { draft with
          elements := draft.elements ++ uploadElements setting opened command prompt rest
          lastRequest := announcement command (.text command :: .text prompt :: rest) } := by
  unfold closeUpload
  dsimp only
  cases checkPattern (String.ofList prompt) false with
  | error objection => rfl
  | ok _ =>
      refine congrArg Except.ok ?_
      simp only [Draft.request, Draft.add, List.append_assoc]
      rfl

theorem closeUpload_of_no_head {entries : List Entry}
    (h : ¬ ∃ command prompt rest, entries = .text command :: .text prompt :: rest)
    (setting : Setting) (opened : Nat) (draft : Draft) :
    closeUpload setting opened entries draft = .error (.cause .badAttachmentHead) := by
  unfold closeUpload
  split
  · exact absurd ⟨_, _, _, rfl⟩ h
  · rfl

end MailScript.Script
