import MailScript.Proofs.Script.Compilation

/-! # Patterns of compiled scripts

The patterns of a script are checked where they are written: in a line, in a block whose lines may
arrive in any order, and at the head of a block of uploads. A script compiles only if they can all be
read, and if every pattern that captures has a group to capture. -/

namespace MailScript

/-- The patterns of an element can be read, and a pattern that captures has a group. -/
def Element.Readable : Element → Prop
  | .response pattern _ captures =>
    ∃ parsed, Pattern.parse pattern = .ok parsed ∧ (captures ≠ [] → parsed.groups ≠ 0)
  | .unordered patterns _ => ∀ pattern ∈ patterns, Script.IsPattern pattern
  | _ => True

namespace Script

/-- A pattern that passes the check can be read, and has a group if it is to capture. -/
theorem parse_of_checkPattern {text : String} {capturing : Bool}
    (h : checkPattern text capturing = .ok ()) :
    ∃ parsed, Pattern.parse text = .ok parsed ∧ (capturing → parsed.groups ≠ 0) := by
  unfold checkPattern at h
  split at h
  · rename_i parsed hparse
    split at h
    · cases h
    · rename_i hgroups
      exact ⟨parsed, hparse, fun hcapturing hzero => hgroups ⟨hcapturing, hzero⟩⟩
  · cases h
  · cases h

/-- What is needed of the block that is open for its element to be readable. -/
def Stand.Readable : Stand → Prop
  | .unordered _ patterns => ∀ pattern ∈ patterns, IsPattern pattern
  | _ => True

namespace Draft

/-- The elements of a draft are readable, and so is the block that is open. -/
structure Readable (draft : Draft) : Prop where
  elements : ∀ element ∈ draft.elements, element.Readable
  stand : draft.stand.Readable

variable {setting : Setting} {draft after : Draft} {number : Nat} {line : Line}

theorem readable_empty : empty.Readable := ⟨nofun, trivial⟩

theorem Readable.add (h : draft.Readable) (element : Element) (helement : element.Readable) :
    (draft.add element).Readable :=
  ⟨List.forall_mem_append.mpr ⟨h.elements, List.forall_mem_singleton.mpr helement⟩, h.stand⟩

theorem Readable.go (h : draft.Readable) {stand : Stand} (hstand : stand.Readable) :
    (draft.go stand).Readable :=
  ⟨h.elements, hstand⟩

theorem Readable.readOutside (h : draft.Readable)
    (hread : draft.readOutside setting number line = .ok after) : after.Readable := by
  unfold Draft.readOutside at hread
  obtain ⟨directive, -, hread⟩ := ok_of_bind hread
  cases directive with
  | response pattern =>
      obtain ⟨_, hcheck, hnext⟩ := ok_of_bind hread
      cases hnext
      obtain ⟨parsed, hparse, -⟩ := parse_of_checkPattern hcheck
      exact h.add _ ⟨parsed, hparse, absurd rfl⟩
  | capture names pattern =>
      obtain ⟨_, hcheck, hnext⟩ := ok_of_bind hread
      cases hnext
      obtain ⟨parsed, hparse, hgroups⟩ := parse_of_checkPattern hcheck
      exact h.add _ ⟨parsed, hparse, fun hnames => hgroups (by simpa using hnames)⟩
  | openUnordered =>
      cases hread
      exact h.go nofun
  | openUpload | skip =>
      cases hread
      exact h.go trivial
  | ignored =>
      cases hread
      exact h
  | request message =>
      cases hread
      exact ⟨(h.add (.request message) trivial).elements, h.stand⟩
  | prompt =>
      cases hread
      exact h.add .prompt trivial
  | switch label =>
      cases hread
      exact h.add (.switch label) trivial
  | pause millis =>
      cases hread
      exact h.add (.pause millis) trivial

theorem Readable.closeUpload (h : draft.Readable) {opened : Nat} {entries : List Entry}
    (hclose : Script.closeUpload setting opened entries draft = .ok after) : after.Readable := by
  by_cases hhead : ∃ command prompt rest, entries = .text command :: .text prompt :: rest
  · obtain ⟨command, prompt, rest, rfl⟩ := hhead
    rw [closeUpload_eq] at hclose
    obtain ⟨_, hcheck, rfl⟩ := ok_of_map hclose
    obtain ⟨parsed, hparse, -⟩ := parse_of_checkPattern hcheck
    refine ⟨List.forall_mem_append.mpr ⟨h.elements, ?_⟩, h.stand⟩
    refine List.forall_mem_cons.mpr ⟨trivial, List.forall_mem_cons.mpr ⟨?_, ?_⟩⟩
    · exact ⟨parsed, hparse, absurd rfl⟩
    · rintro element helement
      obtain ⟨entry, -, rfl⟩ := List.mem_map.mp helement
      cases entry <;> trivial
  · rw [closeUpload_of_no_head hhead] at hclose
    cases hclose

/-- A line keeps a draft readable. -/
theorem Readable.read (h : draft.Readable) (hread : draft.read setting number line = .ok after) :
    after.Readable := by
  cases hstand : draft.stand with
  | outside =>
      rw [read_outside hstand] at hread
      exact h.readOutside hread
  | unordered opened patterns =>
      have hpatterns : ∀ pattern ∈ patterns, IsPattern pattern := by
        have hblock := h.stand
        rwa [hstand] at hblock
      by_cases hclosing : line.startsWith Directive.closingTag
      · rw [read_unordered_closing hstand number hclosing] at hread
        cases hread
        exact (h.add (.unordered patterns _) hpatterns).go trivial
      · rw [read_unordered hstand number hclosing] at hread
        split at hread
        · obtain ⟨_, hcheck, rfl⟩ := ok_of_map hread
          obtain ⟨parsed, hparse, -⟩ := parse_of_checkPattern hcheck
          refine h.go (List.forall_mem_append.mpr ⟨hpatterns, ?_⟩)
          exact List.forall_mem_singleton.mpr ⟨parsed, hparse⟩
        · cases hread
  | upload opened entries =>
      by_cases hclosing : line.startsWith Directive.closingTag
      · rw [read_upload_closing hstand number hclosing] at hread
        obtain ⟨closed, hclose, rfl⟩ := ok_of_map hread
        exact (h.closeUpload hclose).go trivial
      · rw [read_upload hstand number hclosing] at hread
        obtain ⟨entry, -, rfl⟩ := ok_of_map hread
        exact ⟨h.elements, trivial⟩
  | skipping opened =>
      rw [read_skipping hstand] at hread
      cases hread
      exact (h.add (.skipped _ _) trivial).go trivial

/-- Lines keep a draft readable, as far as they can be compiled. -/
theorem Readable.readAll (h : draft.Readable) (lines : List Line) :
    (draft.readAll setting number lines).1.Readable := by
  induction lines generalizing number draft with
  | nil => exact h
  | cons line rest ih =>
      cases hread : draft.read setting number line with
      | error objection =>
          rw [readAll_cons_of_error hread]
          exact h
      | ok after =>
          rw [readAll_cons_of_ok hread]
          exact ih (h.read hread)

end Draft

/-- The elements of a script that compiles are readable. -/
theorem readable_of_compile {setting : Setting} {transcript : Transcript} {elements : List Element}
    (h : (compile setting transcript).result = .ok elements) :
    ∀ element ∈ elements, element.Readable := by
  unfold compile at h
  dsimp only at h
  split at h
  · cases h
  · cases h
    exact (Draft.readable_empty.readAll transcript.lines).elements

/-- The elements of a script in a file are readable. -/
theorem readable_of_compileFile {setting : Setting} {encoding : String} {path : Path}
    {elements : List Element} (h : (compileFile setting encoding path).result = .ok elements) :
    ∀ element ∈ elements, element.Readable := by
  unfold compileFile at h
  split at h
  · exact readable_of_compile h
  · cases h
  · cases h

end Script

end MailScript
