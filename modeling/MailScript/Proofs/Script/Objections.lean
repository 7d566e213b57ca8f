import MailScript.Proofs.Script.Compilation

/-! # What keeps a script from compiling

What is wrong with a line is reported with the place of the line. Only a few faults are passed on as
they are; besides them a script fails to compile because it is not what its encoding says, or because
a block is left open. -/

namespace MailScript

/-- The faults that a line passes on as they are. -/
inductive Fault.Unplaced : Fault → Prop where
  | missingColon : Unplaced .missingColon
  | tooManyDigits (count : Nat) : Unplaced (.tooManyDigits count)
  | malformedPattern (pattern : String) (error : Pattern.Error) :
      Unplaced (.malformedPattern pattern error)
  | nulInPath : Unplaced .nulInPath
  | attachmentTooLarge (filename : String) (size : Nat) (limit : Int) :
      Unplaced (.failure (.attachmentTooLarge filename size limit))

/-- The faults that compiling a script ends with. -/
inductive Fault.OfScript : Fault → Prop where
  | unplaced {fault : Fault} (h : fault.Unplaced) : OfScript fault
  | undecodable (error : Text.DecodingError) : OfScript (.undecodable error)
  | unknownEncoding (name : String) : OfScript (.unknownEncoding name)
  | objected (cause : CompileCause) (script : String) (line : Nat) :
      OfScript (.failure (.compile cause script line))
  | unreadable (filename : String) (error : SystemError) (script : String) (line : Nat) :
      OfScript (.failure (.attachmentUnreadable filename error script line))

/-- A script that could be read is not said to be missing. -/
theorem Fault.OfScript.not_scriptLoad {failure : Failure}
    (h : Fault.OfScript (.failure failure)) : ¬ failure.kind.isA .scriptLoad := by
  cases h with
  | unplaced h =>
      cases h
      exact (by decide : ¬ FailureKind.attachmentTooLarge.isA .scriptLoad)
  | objected cause script line => exact (by decide : ¬ FailureKind.compile.isA .scriptLoad)
  | unreadable filename error script line =>
      exact (by decide : ¬ FailureKind.attachment.isA .scriptLoad)

namespace FileTree

/-- A path leads nowhere because the system says so, or because it is no path. -/
theorem fault_of_locate {tree : FileTree} {path : Path} {fault : Fault}
    (h : tree.locate path = .error fault) : fault = .nulInPath ∨ ∃ error, fault = .system error := by
  unfold locate at h
  dsimp only at h
  split at h
  · cases h
    exact .inl rfl
  · split at h
    · cases h
      exact .inr ⟨_, rfl⟩
    · split at h
      · cases h
      · cases h
        exact .inr ⟨_, rfl⟩

theorem fault_of_readAt {tree : FileTree} {path : Path} {place : Place} {fault : Fault}
    (h : tree.readAt path place = .error fault) : ∃ error, fault = .system error := by
  unfold readAt at h
  split at h
  · split at h
    · cases h
    · cases h
      exact ⟨_, rfl⟩
  · cases h
    exact ⟨_, rfl⟩

theorem fault_of_read {tree : FileTree} {path : Path} {fault : Fault}
    (h : tree.read path = .error fault) : fault = .nulInPath ∨ ∃ error, fault = .system error := by
  rcases error_of_bind h with hlocate | ⟨place, -, hread⟩
  · exact fault_of_locate hlocate
  · exact .inr (fault_of_readAt hread)

end FileTree

namespace Script

/-! ## Objections to a line -/

/-- A result that passes on only a few faults. -/
def PassesOn {α : Type} (result : Except Objection α) : Prop :=
  ∀ fault, result = .error (.fault fault) → fault.Unplaced

namespace PassesOn

variable {α β : Type}

theorem ok (x : α) : PassesOn (.ok x) := fun fault h => by cases h

theorem cause (reason : CompileCause) : PassesOn (.error (.cause reason) : Except Objection α) :=
  fun fault h => by cases h

theorem fault {fault : Fault} (h : fault.Unplaced) :
    PassesOn (.error (.fault fault) : Except Objection α) := by
  intro other hother
  cases hother
  exact h

theorem bind {act : Except Objection α} {next : α → Except Objection β} (hact : PassesOn act)
    (hnext : ∀ x, PassesOn (next x)) : PassesOn (act >>= next) := by
  cases act with
  | error objection =>
      intro fault h
      cases h
      exact hact fault rfl
  | ok x => exact hnext x

theorem map {act : Except Objection α} (h : PassesOn act) (f : α → β) : PassesOn (act.map f) := by
  cases act with
  | error objection =>
      intro fault hfault
      cases hfault
      exact h fault rfl
  | ok x => exact ok (f x)

theorem ite {condition : Prop} [Decidable condition] {yes no : Except Objection α}
    (hyes : PassesOn yes) (hno : PassesOn no) : PassesOn (if condition then yes else no) := by
  split
  · exact hyes
  · exact hno

theorem unplaced_bind {act : Except Fault α} {next : α → Except Fault β}
    (hact : PassesOn (Directive.unplaced act)) (hnext : ∀ x, PassesOn (Directive.unplaced (next x))) :
    PassesOn (Directive.unplaced (act >>= next)) := by
  cases act with
  | error fault =>
      intro other h
      cases h
      exact hact fault rfl
  | ok x => exact hnext x

theorem value (line : Line) : PassesOn (Directive.unplaced line.value) := by
  unfold Line.value
  split
  · exact ok _
  · exact fault .missingColon

theorem millis (line : Line) : PassesOn (Directive.unplaced line.millis) := by
  refine unplaced_bind (value line) fun text => ?_
  split
  · exact ok _
  · split
    · exact fault (.tooManyDigits _)
    · split <;> exact ok _

theorem ofLine (line : Line) : PassesOn (Directive.ofLine line) := by
  unfold Directive.ofLine
  refine ite (ok _) (ite (ok _) (ite (ok _) (ite ((value line).bind fun _ => ok _) (ite (ok _)
    (ite (ok _) (ite (ok _) (ite ?_ (ite ((millis line).bind fun _ => ok _) (ite (ok _)
      (cause _))))))))))
  exact (value line).bind fun _ => ite (cause _) (ok _)

theorem checkPattern (text : String) (capturing : Bool) :
    PassesOn (checkPattern text capturing) := by
  unfold Script.checkPattern
  split
  · exact ite (cause _) (ok _)
  · exact cause _
  · exact fault (.malformedPattern text _)

theorem loadAttachment (setting : Setting) (filename : String) :
    PassesOn (loadAttachment setting filename) := by
  unfold Script.loadAttachment
  extract_lets path path' loaded
  have hloaded (fault : Fault) (h : loaded = .error fault) :
      fault.Unplaced ∨ ∃ error, fault = .system error := by
    rcases error_of_bind h with hlocate | ⟨place, -, hsized⟩
    · rcases FileTree.fault_of_locate hlocate with rfl | hsystem
      · exact .inl .nulInPath
      · exact .inr hsystem
    · dsimp only at hsized
      split at hsized
      · cases hsized
        exact .inl (.attachmentTooLarge ..)
      · rcases error_of_bind hsized with hread | ⟨data, -, hdata⟩
        · exact .inr (FileTree.fault_of_readAt hread)
        · cases hdata
  cases hresult : loaded with
  | ok attachment => exact ok _
  | error other =>
      rcases hloaded other hresult with hunplaced | ⟨error, rfl⟩
      · cases hunplaced <;> exact fault (by constructor)
      · exact fun fault h => by cases h

theorem closeUpload (setting : Setting) (opened : Nat) (entries : List Entry) (draft : Draft) :
    PassesOn (closeUpload setting opened entries draft) := by
  by_cases hhead : ∃ command prompt rest, entries = .text command :: .text prompt :: rest
  · obtain ⟨command, prompt, rest, rfl⟩ := hhead
    rw [closeUpload_eq]
    exact (checkPattern _ _).map _
  · rw [closeUpload_of_no_head hhead]
    exact cause _

theorem readOutside (setting : Setting) (number : Nat) (line : Line) (draft : Draft) :
    PassesOn (draft.readOutside setting number line) := by
  refine (ofLine line).bind fun directive => ?_
  cases directive with
  | response pattern => exact (checkPattern _ _).bind fun _ => ok _
  | capture names pattern => exact (checkPattern _ _).bind fun _ => ok _
  | _ => exact ok _

/-- Compiling a line passes on only a few faults. -/
theorem read (setting : Setting) (number : Nat) (line : Line) (draft : Draft) :
    PassesOn (draft.read setting number line) := by
  cases h : draft.stand with
  | outside =>
      rw [Draft.read_outside h]
      exact readOutside _ _ _ _
  | unordered opened patterns =>
      by_cases hline : line.startsWith Directive.closingTag
      · rw [Draft.read_unordered_closing h _ hline]
        exact ok _
      · rw [Draft.read_unordered h _ hline]
        exact ite ((checkPattern _ _).map _) (cause _)
  | upload opened entries =>
      by_cases hline : line.startsWith Directive.closingTag
      · rw [Draft.read_upload_closing h _ hline]
        exact (closeUpload _ _ _ _).map _
      · rw [Draft.read_upload h _ hline]
        exact (ite ((loadAttachment _ _).map _) (ok _)).map _
  | skipping opened =>
      rw [Draft.read_skipping h]
      exact ok _

end PassesOn

/-! ## Whole scripts -/

theorem ofScript_place {objection : Objection}
    (h : ∀ fault, objection = .fault fault → fault.Unplaced) (script : String) (line : Nat) :
    (objection.place script line).OfScript := by
  cases objection with
  | cause reason => exact .objected reason script line
  | unreadable filename error => exact .unreadable filename error script line
  | fault other => exact .unplaced (h other rfl)

theorem ofScript_readAll {setting : Setting} {number : Nat} {lines : List Line} {draft : Draft}
    {fault : Fault} (h : (draft.readAll setting number lines).2 = some fault) : fault.OfScript := by
  induction lines generalizing number draft with
  | nil => cases h
  | cons line rest ih =>
      cases hread : draft.read setting number line with
      | ok after =>
          rw [Draft.readAll_cons_of_ok hread] at h
          exact ih h
      | error objection =>
          rw [Draft.readAll_cons_of_error hread] at h
          cases h
          refine ofScript_place (fun fault hfault => ?_) setting.script number
          exact PassesOn.read setting number line draft fault (hread.trans (congrArg _ hfault))

/-- Reading a source ends early only where it is not in the encoding, or if there is no such
encoding. -/
theorem fault_of_transcript {source : Source} {encoding : String} {fault : Fault}
    (h : (source.transcript encoding).fault = some fault) :
    (∃ error, fault = .undecodable error) ∨ ∃ name, fault = .unknownEncoding name := by
  cases source with
  | text content | characters content => cases h
  | bytes data =>
      unfold Source.transcript at h
      dsimp only at h
      split at h
      · unfold Transcript.ofBytes at h
        split at h
        · cases h
        · cases h
          exact .inl ⟨_, rfl⟩
      · cases h
        exact .inr ⟨encoding, rfl⟩
  | stream data =>
      unfold Source.transcript at h
      dsimp only at h
      split at h
      · obtain ⟨error, -, rfl⟩ := Option.map_eq_some_iff.mp h
        exact .inl ⟨error, rfl⟩
      · cases h
        exact .inr ⟨encoding, rfl⟩

theorem ofScript_transcript {source : Source} {encoding : String} {fault : Fault}
    (h : (source.transcript encoding).fault = some fault) : fault.OfScript := by
  rcases fault_of_transcript h with ⟨error, rfl⟩ | ⟨name, rfl⟩
  · exact .undecodable error
  · exact .unknownEncoding name

/-- A script fails at one of its lines or at its end. -/
theorem fault_of_compile {setting : Setting} {transcript : Transcript} {fault : Fault}
    (h : (compile setting transcript).result = .error fault) :
    (draftOf setting transcript.lines).2 = some fault ∨
      endFault? setting transcript (draftOf setting transcript.lines).1 = some fault := by
  unfold compile at h
  dsimp only at h
  split at h
  · rename_i other hother
    cases h
    exact (Option.or_eq_some_iff.mp hother).imp id And.right
  · cases h

/-- Whatever a source holds, compiling it ends with elements or with one of a few faults. -/
theorem ofScript_of_compile {setting : Setting} {source : Source} {encoding : String} {fault : Fault}
    (h : (compile setting (source.transcript encoding)).result = .error fault) :
    fault.OfScript := by
  rcases fault_of_compile h with hline | hend
  · exact ofScript_readAll hline
  · unfold endFault? at hend
    split at hend
    · rename_i hread
      cases hend
      exact ofScript_transcript hread
    · cases hend
      exact .objected ..
    · cases hend

/-- A script that cannot be read does not compile. -/
theorem error_of_unread {setting : Setting} {path : Path} {fault : Fault}
    (h : setting.files.read path = .error fault) (encoding : String) :
    ∃ other, (compileFile setting encoding path).result = .error other := by
  unfold compileFile
  split
  · rename_i hread
    cases h.symm.trans hread
  · exact ⟨_, rfl⟩
  · exact ⟨_, rfl⟩

/-- A script is said to be missing if it cannot be read, and not otherwise. -/
theorem scriptLoad_iff_of_compileFile {setting : Setting} {encoding : String} {path : Path}
    {failure : Failure}
    (h : (compileFile setting encoding path).result = .error (.failure failure)) :
    failure.kind.isA .scriptLoad ↔ ∃ fault, setting.files.read path = .error fault := by
  unfold compileFile at h
  split at h
  · rename_i bytes hread
    rw [hread]
    exact ⟨fun hload => absurd hload (ofScript_of_compile h).not_scriptLoad,
      fun ⟨_, hfault⟩ => nomatch hfault⟩
  · rename_i error hread
    cases h
    have hkind : FailureKind.scriptLoad.isA .scriptLoad := by decide
    exact ⟨fun _ => ⟨_, hread⟩, fun _ => hkind⟩
  · rename_i fault hsystem hread
    cases h
    rcases FileTree.fault_of_read hread with hnul | ⟨error, herror⟩
    · cases hnul
    · cases herror

end Script

end MailScript
