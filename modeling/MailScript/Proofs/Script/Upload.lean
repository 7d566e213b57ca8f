import MailScript.Proofs.Conversation.Sending
import MailScript.Proofs.Script.Compilation
import MailScript.Proofs.Template
import Mathlib.Algebra.BigOperators.Group.List.Basic
import Mathlib.Algebra.Order.Ring.Nat

/-! # Blocks of uploads

A block of uploads begins with a request and the prompt that answers it; the entries behind them are
the body. The request announces the size of the body as it is written in the script, and running the
body sends that many bytes if its lines hold no tokens. -/

namespace MailScript.Script

/-! ## Reading a block -/

/-- The lines of a block of uploads, with its entries. All its attachments can be loaded. -/
structure UploadBlock (setting : Setting) where
  opening : Line
  body : List Line
  closing : Line
  entries : List Entry
  opens : opening.startsWith Directive.uploadTag
  goesOn : ∀ line ∈ body, ¬ line.startsWith Directive.closingTag
  closes : closing.startsWith Directive.closingTag
  loads : body.mapM (entryOf setting) = .ok entries

namespace UploadBlock

variable {setting : Setting}

def lines (block : UploadBlock setting) : List Line :=
  block.opening :: (block.body ++ [block.closing])

/-- The entries of a block begin with a command and a prompt, which is a pattern. -/
def HasHead (block : UploadBlock setting) (command prompt : Line) (rest : List Entry) : Prop :=
  block.entries = .text command :: .text prompt :: rest ∧ IsPattern (String.ofList prompt)

end UploadBlock

theorem Directive.ofLine_upload {line : Line} (h : line.startsWith uploadTag) :
    ofLine line = .ok .openUpload := by
  obtain ⟨rest, rfl⟩ : uploadTag.toList <+: line := List.isPrefixOf_iff_prefix.mp h
  simp [ofLine, Line.startsWith, responseTag, unorderedTag, uploadTag, pure, Except.pure]

/-- The entries of some lines are those of the first line and of the others. -/
theorem exists_of_mapM_entryOf {setting : Setting} {line : Line} {lines : List Line}
    {entries : List Entry} (h : (line :: lines).mapM (entryOf setting) = .ok entries) :
    ∃ entry later, entryOf setting line = .ok entry ∧ lines.mapM (entryOf setting) = .ok later ∧
      entries = entry :: later := by
  rw [List.mapM_cons] at h
  cases hentry : entryOf setting line with
  | error objection =>
      rw [hentry] at h
      cases h
  | ok entry =>
      rw [hentry] at h
      cases hlater : lines.mapM (entryOf setting) with
      | error objection =>
          rw [hlater] at h
          cases h
      | ok later =>
          rw [hlater] at h
          exact ⟨entry, later, rfl, rfl, (Except.ok.inj h).symm⟩

namespace Draft

variable {setting : Setting}

/-- The lines of a block that is open become its entries. -/
theorem readAll_entries {body : List Line} {entries : List Entry}
    (hbody : ∀ line ∈ body, ¬ line.startsWith Directive.closingTag)
    (hentries : body.mapM (entryOf setting) = .ok entries) (draft : Draft) (opened : Nat)
    (seen : List Entry) (number : Nat) :
    (draft.go (.upload opened seen)).readAll setting number body =
      ({ draft with
        stand := .upload opened (seen ++ entries)
        events := draft.events ++ entries.flatMap Entry.events }, none) := by
  induction body generalizing entries draft seen number with
  | nil =>
      obtain rfl : [] = entries := Except.ok.inj hentries
      simp [readAll, go]
  | cons line rest ih =>
      rw [List.forall_mem_cons] at hbody
      obtain ⟨entry, later, hentry, hlater, rfl⟩ := exists_of_mapM_entryOf hentries
      have hread : (draft.go (.upload opened seen)).read setting number line =
          .ok (({ draft with events := draft.events ++ entry.events } : Draft).go
            (.upload opened (seen ++ [entry]))) := by
        rw [read_upload rfl _ hbody.1, hentry]
        rfl
      rw [readAll_cons_of_ok hread, ih hbody.2 hlater]
      simp

/-- The draft behind the lines of a block in front of the closing one. -/
def withEntries (draft : Draft) (opened : Nat) (entries : List Entry) : Draft :=
  { draft with
    stand := .upload opened entries
    events := draft.events ++ entries.flatMap Entry.events }

theorem readAll_opened {draft : Draft} (h : draft.stand = .outside) (block : UploadBlock setting)
    (number : Nat) :
    draft.readAll setting number (block.opening :: block.body) =
      (draft.withEntries number block.entries, none) := by
  have hopening : draft.read setting number block.opening =
      .ok (draft.go (.upload number [])) := by
    rw [read_outside h, readOutside, Directive.ofLine_upload block.opens]
    rfl
  rw [readAll_cons_of_ok hopening, readAll_entries block.goesOn block.loads]
  rfl

/-- A block is closed at its last line. -/
theorem readAll_closed {draft : Draft} (h : draft.stand = .outside) (block : UploadBlock setting)
    (number : Nat) :
    draft.readAll setting number block.lines =
      match closeUpload setting number block.entries (draft.withEntries number block.entries) with
      | .ok closed => (closed.go .outside, none)
      | .error objection =>
        (draft.withEntries number block.entries,
          some (objection.place setting.script (number + (block.body.length + 1)))) := by
  have hlines : block.lines = block.opening :: block.body ++ [block.closing] := rfl
  have hread : (draft.withEntries number block.entries).read setting
      (number + (block.body.length + 1)) block.closing =
        (closeUpload setting number block.entries (draft.withEntries number block.entries)).map
          fun closed => closed.go .outside :=
    read_upload_closing rfl _ block.closes
  rw [hlines, readAll_append_of_ok (readAll_opened h block number), List.length_cons]
  cases hclosed : closeUpload setting number block.entries
      (draft.withEntries number block.entries) with
  | ok closed =>
      rw [hclosed] at hread
      rw [readAll_cons_of_ok hread]
      rfl
  | error objection =>
      rw [hclosed] at hread
      rw [readAll_cons_of_error hread]

/-- A block with a proper head becomes its elements. -/
theorem readAll_block {draft : Draft} (h : draft.stand = .outside) {block : UploadBlock setting}
    {command prompt : Line} {rest : List Entry} (hhead : block.HasHead command prompt rest)
    (number : Nat) :
    draft.readAll setting number block.lines =
      ({ draft with
        elements := draft.elements ++ uploadElements setting number command prompt rest
        lastRequest := announcement command block.entries
        events := draft.events ++ block.entries.flatMap Entry.events }, none) := by
  rw [readAll_closed h, hhead.1, closeUpload_eq, checkPattern_eq_ok_iff.mpr hhead.2]
  simp [Except.map, withEntries, go, h]

/-- A block without a proper head stops compilation. -/
theorem readAll_headless {draft : Draft} (h : draft.stand = .outside) {block : UploadBlock setting}
    (hhead : ¬ ∃ command prompt rest, block.HasHead command prompt rest) (number : Nat) :
    ∃ fault, (draft.readAll setting number block.lines).2 = some fault := by
  rw [readAll_closed h]
  by_cases htexts : ∃ command prompt rest, block.entries = .text command :: .text prompt :: rest
  · obtain ⟨command, prompt, rest, hentries⟩ := htexts
    rw [hentries, closeUpload_eq]
    cases hprompt : checkPattern (String.ofList prompt) false with
    | error objection => exact ⟨_, rfl⟩
    | ok _ =>
        exact absurd ⟨command, prompt, rest, hentries, checkPattern_eq_ok_iff.mp hprompt⟩ hhead
  · rw [closeUpload_of_no_head htexts]
    exact ⟨_, rfl⟩

end Draft

/-! ## Sizes -/

theorem sizeFrom_of_one_lt {index : Nat} (h : 1 < index) (entries : List Entry) :
    sizeFrom index entries = (entries.map fun entry => entry.size + 2).sum := by
  induction entries generalizing index with
  | nil => rfl
  | cons entry rest ih =>
      have hshare : entry.share index = entry.size + 2 := by
        cases entry with
        | text line => exact if_pos h
        | attachment file => rfl
      rw [sizeFrom, hshare, ih (Nat.lt_succ_of_lt h), List.map_cons, List.sum_cons]

/-- The announced size is that of the body without the last line ending. -/
theorem announcedSize_add_two (command prompt : Line) (rest : List Entry) :
    announcedSize (.text command :: .text prompt :: rest) + 2 =
      ((rest.map fun entry => entry.size + 2).sum : Nat) := by
  have hhead : sizeFrom 0 (.text command :: .text prompt :: rest) = 0 + (0 + sizeFrom 2 rest) := rfl
  rw [announcedSize, hhead, sizeFrom_of_one_lt (by decide)]
  omega

/-- The size of an entry as it is sent with some variables. -/
def Entry.sentSize (store : Variables) (entry : Entry) : Nat :=
  (entry.element.payload store).length

theorem Entry.isClient_element (entry : Entry) : entry.element.isClient := by
  cases entry <;> rfl

/-- No token opens in an entry. -/
def Entry.Plain : Entry → Prop
  | .text line => ¬ Template.opening <:+: line
  | .attachment _ => True

instance : DecidablePred Entry.Plain
  | .text line => inferInstanceAs (Decidable (¬ Template.opening <:+: line))
  | .attachment _ => inferInstanceAs (Decidable True)

theorem Entry.sentSize_of_plain {entry : Entry} (h : entry.Plain) (store : Variables) :
    entry.sentSize store = entry.size := by
  cases entry with
  | text line =>
      have hline : ¬ Template.opening <:+: (String.ofList line).toList := by
        rwa [String.toList_ofList]
      rw [sentSize, element, Element.payload, Template.fill_of_not_opening hline,
        Text.length_encodeAscii, String.toList_ofList]
      rfl
  | attachment file => rfl

/-! ## Running a body -/

section

variable {steps : List Step} {rest : List Entry}

theorem isClient_of_map_element (h : steps.map Step.element = rest.map Entry.element) :
    ∀ step ∈ steps, step.element.isClient := by
  intro step hstep
  have hmem : step.element ∈ rest.map Entry.element := h ▸ List.mem_map_of_mem hstep
  obtain ⟨entry, -, hentry⟩ := List.mem_map.mp hmem
  rw [← hentry]
  exact entry.isClient_element

theorem length_wireBytes (h : steps.map Step.element = rest.map Entry.element)
    (store : Variables) :
    (Conversation.wireBytes store steps).length =
      (rest.map fun entry => entry.sentSize store + 2).sum := by
  have hsizes : steps.map (fun step => (step.element.payload store).length + 2) =
      rest.map fun entry => entry.sentSize store + 2 := by
    have hmapped := congrArg (List.map fun element => (element.payload store).length + 2) h
    rwa [List.map_map, List.map_map] at hmapped
  rw [← hsizes, Conversation.wireBytes, List.length_flatMap]
  simp [Network.Station.lineEnding]

theorem lineEnding_suffix_wireBytes (h : steps ≠ []) (store : Variables) :
    Network.Station.lineEnding <:+ Conversation.wireBytes store steps := by
  rw [← List.dropLast_concat_getLast h, Conversation.wireBytes, List.flatMap_append,
    List.flatMap_singleton]
  exact (List.suffix_append _ _).trans (List.suffix_append _ _)

end

/-! ## Blocks in a script -/

section

variable {setting : Setting} {front : List Line} {elements : List Element}
  {block : UploadBlock setting} {command prompt : Line} {rest : List Entry}

/-- A block with a proper head can be put behind lines that compile. -/
theorem draftOf_block (hfront : (compile setting (.ofLines front)).result = .ok elements)
    (hhead : block.HasHead command prompt rest) :
    ∃ draft, draftOf setting (front ++ block.lines) = (draft, none) ∧ draft.stand = .outside ∧
      draft.elements =
        elements ++ uploadElements setting (front.length + 1) command prompt rest ∧
      draft.lastRequest = announcement command block.entries := by
  obtain ⟨before, hbefore, hstand, rfl⟩ := result_compile_eq_ok_iff.mp hfront
  have hscript := Draft.readAll_append_of_ok hbefore block.lines
  rw [Nat.add_comm, Draft.readAll_block hstand hhead] at hscript
  exact ⟨_, hscript, hstand, rfl, rfl⟩

theorem result_compile_block (hfront : (compile setting (.ofLines front)).result = .ok elements)
    (hhead : block.HasHead command prompt rest) :
    (compile setting (.ofLines (front ++ block.lines))).result =
      .ok (elements ++ uploadElements setting (front.length + 1) command prompt rest) := by
  obtain ⟨draft, hdraft, hstand, helements, -⟩ := draftOf_block hfront hhead
  exact result_compile_eq_ok_iff.mpr ⟨draft, hdraft, hstand, helements⟩

/-- A block that is compiled has a proper head. -/
theorem exists_hasHead {later : List Element}
    (hfront : (compile setting (.ofLines front)).result = .ok elements)
    (hlater : (compile setting (.ofLines (front ++ block.lines))).result = .ok later) :
    ∃ command prompt rest, block.HasHead command prompt rest := by
  obtain ⟨before, hbefore, hstand, rfl⟩ := result_compile_eq_ok_iff.mp hfront
  obtain ⟨draft, hdraft, -⟩ := result_compile_eq_ok_iff.mp hlater
  by_cases hhead : ∃ command prompt rest, block.HasHead command prompt rest
  · exact hhead
  · obtain ⟨fault, hfault⟩ := Draft.readAll_headless hstand hhead (1 + front.length)
    rw [draftOf, Draft.readAll_append_of_ok hbefore] at hdraft
    rw [hdraft] at hfault
    cases hfault

end

/-! ## Announced and sent sizes -/

section

variable {conversation : Conversation Network.World}
  {state after : Conversation.State Network.World}
  {label : String} {socket : Network.Socket} {steps : List Step} {rest : List Entry}

/-- A body that has been run was sent, line endings included. -/
theorem sent_of_body (h : conversation.Online state label socket)
    (hsteps : steps.map Step.element = rest.map Entry.element)
    (hruns : (steps.forM conversation.run).exec state = (.ok (), after)) :
    ∃ socket' bytes, after.world.connection? label = some socket' ∧
      socket'.sent = socket.sent ++ bytes ∧
      bytes.length = (rest.map fun entry => entry.sentSize state.store + 2).sum ∧
      (rest ≠ [] → Network.Station.lineEnding <:+ bytes) := by
  obtain ⟨⟨socket', honline, hsent⟩, -, -⟩ := h.sent_of_runs (isClient_of_map_element hsteps) hruns
  refine ⟨socket', _, honline.connection, hsent.sent_eq, length_wireBytes hsteps state.store,
    fun hrest => lineEnding_suffix_wireBytes ?_ state.store⟩
  rintro rfl
  exact hrest (List.map_eq_nil_iff.mp hsteps.symm)

theorem sum_sentSize_of_plain (h : ∀ entry ∈ rest, entry.Plain) (store : Variables) :
    (rest.map fun entry => entry.sentSize store + 2).sum =
      (rest.map fun entry => entry.size + 2).sum := by
  refine congrArg List.sum (List.map_congr_left fun entry hmem => ?_)
  rw [Entry.sentSize_of_plain (h entry hmem)]

end

/-- A block of uploads behind lines that compile is compiled exactly when it has a proper head. Its
elements then join those in front, and what follows answers its first request. If it has a body then
the announced size is that of the body without the last line ending; and if no token opens in the
body, running the body over a connection without errors puts as many bytes on it, the line ending
included, if the clock takes the pauses of the link. -/
theorem compile_upload {setting : Setting} {front : List Line} {elements : List Element}
    (hfront : (compile setting (.ofLines front)).result = .ok elements)
    (block : UploadBlock setting) :
    let script := front ++ block.lines
    ((∃ later, (compile setting (.ofLines script)).result = .ok later) ↔
      ∃ command prompt rest, block.HasHead command prompt rest) ∧
    ∀ command prompt rest, block.HasHead command prompt rest →
      (compile setting (.ofLines script)).result =
          .ok (elements ++ uploadElements setting (front.length + 1) command prompt rest) ∧
        lastRequest setting script = announcement command block.entries ∧
        (rest ≠ [] →
          0 ≤ announcedSize block.entries ∧
          announcedSize block.entries + 2 = ((rest.map fun entry => entry.size + 2).sum : Nat) ∧
          ((∀ entry ∈ rest, entry.Plain) →
            ∀ (conversation : Conversation Network.World)
              (state : Conversation.State Network.World) (label : String) (socket : Network.Socket),
            conversation.Online state label socket → socket.Steady →
            state.world.TakesPauses label →
            ∀ steps : List Step, steps.map Step.element = rest.map Entry.element →
            ∃ after socket' bytes, (steps.forM conversation.run).exec state = (.ok (), after) ∧
              after.world.connection? label = some socket' ∧ socket'.sent = socket.sent ++ bytes ∧
              (bytes.length : Int) = announcedSize block.entries + 2 ∧
              Network.Station.lineEnding <:+ bytes)) := by
  intro script
  refine ⟨⟨?_, ?_⟩, ?_⟩
  · rintro ⟨later, hlater⟩
    exact exists_hasHead hfront hlater
  · rintro ⟨command, prompt, rest, hhead⟩
    exact ⟨_, result_compile_block hfront hhead⟩
  · intro command prompt rest hhead
    refine ⟨result_compile_block hfront hhead, ?_, fun hrest => ?_⟩
    · obtain ⟨draft, hdraft, -, -, hlast⟩ := draftOf_block hfront hhead
      rw [lastRequest, hdraft, hlast]
    · have hsize := announcedSize_add_two command prompt rest
      rw [← hhead.1] at hsize
      refine ⟨?_, hsize, ?_⟩
      · obtain ⟨entry, others, rfl⟩ := List.exists_cons_of_ne_nil hrest
        rw [List.map_cons, List.sum_cons] at hsize
        omega
      · intro hplain conversation state label socket honline hsteady hpauses steps hsteps
        obtain ⟨after, hruns⟩ := honline.runs_steady hsteady hpauses (isClient_of_map_element hsteps)
        obtain ⟨socket', bytes, hsocket', hsent, hlength, hending⟩ :=
          sent_of_body honline hsteps hruns
        rw [sum_sentSize_of_plain hplain] at hlength
        refine ⟨after, socket', bytes, hruns, hsocket', hsent, ?_, hending hrest⟩
        rw [hlength, hsize]

/-- A message with a line and an attachment, over a connection that takes it in parts. -/
theorem compile_upload_of_attachment :
    let files := FileTree.ofEntries [] [(.ofString "note.txt", [104, 105])]
    let setting : Setting := ⟨"t.mpt", files, none, 100⟩
    let front : List Line := ["C: a0 NOOP".toList]
    let lines : List Line := ["ATTACHMENT \x7b".toList, "a1 APPEND INBOX".toList,
      "\\+ go".toList, "Subject: x".toList, "FILE=note.txt".toList, "\x7d".toList]
    let config := Network.Config.ofSettings {} ⟨"mail", "localhost", 143⟩ none none none none none
    let socket := Network.Socket.fresh "localhost:143" ⟨[], [], [.upTo 3, .retry, .upTo 0], none⟩
    let world := Network.World.ofLink config socket
    let conversation : Conversation Network.World := ⟨Network.sessions world, [], false⟩
    let steps : List Step := [⟨3, .request "Subject: x"⟩, ⟨4, .upload ⟨[104, 105], "note.txt"⟩⟩]
    (compile setting (.ofLines (front ++ lines))).result =
        .ok [.request "a0 NOOP", .request "a1 APPEND INBOX \x7b14\x7d",
          .response "\\+ go" ⟨"t.mpt:2", some "a1 APPEND INBOX \x7b14\x7d"⟩ [],
          .request "Subject: x", .upload ⟨[104, 105], "note.txt"⟩] ∧
      lastRequest setting (front ++ lines) = "a1 APPEND INBOX \x7b14\x7d" ∧
      ∃ after socket' bytes, (steps.forM conversation.run).exec (.initial .empty world) =
          (.ok (), after) ∧
        after.world.connection? "mail" = some socket' ∧ socket'.sent = bytes ∧
        bytes.length = 16 ∧ Network.Station.lineEnding <:+ bytes := by
  intro files setting front lines config socket world conversation steps
  let rest : List Entry := [.text "Subject: x".toList, .attachment ⟨[104, 105], "note.txt"⟩]
  let block : UploadBlock setting :=
    { opening := "ATTACHMENT \x7b".toList
      body := ["a1 APPEND INBOX".toList, "\\+ go".toList, "Subject: x".toList,
        "FILE=note.txt".toList]
      closing := "\x7d".toList
      entries := .text "a1 APPEND INBOX".toList :: .text "\\+ go".toList :: rest
      opens := by decide
      goesOn := by decide
      closes := by decide
      loads := eq_ok_of_toOption (by decide +kernel) }
  have hfront : (compile setting (.ofLines front)).result = .ok [.request "a0 NOOP"] := rfl
  have hhead : block.HasHead "a1 APPEND INBOX".toList "\\+ go".toList rest :=
    ⟨rfl, isPattern_of_isSome (by decide +kernel)⟩
  have hplain : ∀ entry ∈ rest, entry.Plain := by decide +kernel +zetaReduce
  have honline : conversation.Online (.initial .empty world) "mail" socket :=
    Conversation.online_ofLink config socket [] false .empty
  have hpauses : world.TakesPauses "mail" := by
    rintro _ _ ⟨⟩
    decide +kernel
  obtain ⟨hresult, hlast, hbody⟩ := (compile_upload hfront block).2 _ _ _ hhead
  obtain ⟨-, -, hruns⟩ := hbody (by decide)
  obtain ⟨after, socket', bytes, hrun, hsocket', hsent, hlength, hending⟩ :=
    hruns hplain conversation _ _ socket honline (by decide) hpauses steps rfl
  refine ⟨hresult.trans ?_, hlast.trans ?_, after, socket', bytes, hrun, hsocket', hsent, ?_,
    hending⟩
  · exact congrArg Except.ok (by decide +kernel)
  · decide +kernel
  · have hsize : announcedSize block.entries = 14 := by decide +kernel
    omega

/-! ## Announced sizes that are sent -/

theorem sum_map_add_two (size : Entry → Nat) (entries : List Entry) :
    (entries.map fun entry => size entry + 2).sum =
      (entries.map size).sum + 2 * entries.length := by
  rw [List.sum_map_add, List.map_const', List.sum_replicate_nat, Nat.mul_comm]

/-- In a script that compiles, the size that a block of uploads announces is what a run of its body
sends, apart from the last line ending, exactly when there is a body and filling it in leaves its
size as it is. -/
theorem announced_eq_sent_iff {setting : Setting} {front : List Line}
    {elements later : List Element}
    (hfront : (compile setting (.ofLines front)).result = .ok elements)
    (block : UploadBlock setting)
    (hlater : (compile setting (.ofLines (front ++ block.lines))).result = .ok later) :
    ∃ command prompt rest, block.entries = .text command :: .text prompt :: rest ∧
      later = elements ++ uploadElements setting (front.length + 1) command prompt rest ∧
      ∀ (conversation : Conversation Network.World)
        (state after : Conversation.State Network.World) (label : String) (socket : Network.Socket),
      conversation.Online state label socket →
      ∀ steps : List Step, steps.map Step.element = rest.map Entry.element →
      (steps.forM conversation.run).exec state = (.ok (), after) →
      ∃ socket' bytes, after.world.connection? label = some socket' ∧
        socket'.sent = socket.sent ++ bytes ∧
        (0 ≤ announcedSize block.entries ∧
            announcedSize block.entries =
              ((bytes.length - Network.Station.lineEnding.length : Nat) : Int) ↔
          rest ≠ [] ∧
            (rest.map (Entry.sentSize state.store)).sum = (rest.map Entry.size).sum) := by
  obtain ⟨command, prompt, rest, hhead⟩ := exists_hasHead hfront hlater
  have hresult := hlater.symm.trans (result_compile_block hfront hhead)
  refine ⟨command, prompt, rest, hhead.1, Except.ok.inj hresult, ?_⟩
  intro conversation state after label socket honline steps hsteps hruns
  obtain ⟨socket', bytes, hsocket', hsent, hlength, -⟩ := sent_of_body honline hsteps hruns
  refine ⟨socket', bytes, hsocket', hsent, ?_⟩
  have hsize := announcedSize_add_two command prompt rest
  rw [← hhead.1, sum_map_add_two] at hsize
  rw [sum_map_add_two] at hlength
  have hending : Network.Station.lineEnding.length = 2 := rfl
  rw [hending, hlength]
  cases rest with
  | nil =>
      -- Two is taken off the size of nothing.
      have hnegative : announcedSize block.entries = -2 := by
        rw [List.map_nil, List.sum_nil, List.length_nil] at hsize
        omega
      simp [hnegative]
  | cons entry others =>
      rw [List.length_cons] at hsize ⊢
      constructor
      · rintro ⟨-, heq⟩
        exact ⟨List.cons_ne_nil _ _, by omega⟩
      · rintro ⟨-, heq⟩
        omega

/-- A token whose value has as many characters as the token itself. -/
theorem announced_eq_sent_iff_of_token :
    let setting : Setting := ⟨"t.mpt", ⟨[], []⟩, none, 100⟩
    let lines : List Line := ["ATTACHMENT \x7b".toList, "a".toList, "b".toList,
      "$\x7bu\x7d".toList, "\x7d".toList]
    let config := Network.Config.ofSettings {} ⟨"mail", "localhost", 143⟩ none none none none none
    let socket := Network.Socket.fresh "localhost:143" ⟨[], [], [.upTo 1, .retry], none⟩
    let world := Network.World.ofLink config socket
    let conversation : Conversation Network.World := ⟨Network.sessions world, [], false⟩
    let state : Conversation.State Network.World :=
      .initial (Variables.empty.set "u" (some "user")) world
    let steps : List Step := [⟨2, .request "$\x7bu\x7d"⟩]
    (compile setting (.ofLines lines)).result =
        .ok [.request "a \x7b4\x7d", .response "b" ⟨"t.mpt:1", some "a \x7b4\x7d"⟩ [],
          .request "$\x7bu\x7d"] ∧
      ∃ after socket' bytes, (steps.forM conversation.run).exec state = (.ok (), after) ∧
        after.world.connection? "mail" = some socket' ∧ socket'.sent = bytes ∧
        (4 : Int) = (bytes.length - 2 : Nat) := by
  intro setting lines config socket world conversation state steps
  let block : UploadBlock setting :=
    { opening := "ATTACHMENT \x7b".toList
      body := ["a".toList, "b".toList, "$\x7bu\x7d".toList]
      closing := "\x7d".toList
      entries := [.text "a".toList, .text "b".toList, .text "$\x7bu\x7d".toList]
      opens := by decide
      goesOn := by decide
      closes := by decide
      loads := eq_ok_of_toOption (by decide +kernel) }
  have hempty : (compile setting (.ofLines [])).result = .ok [] := rfl
  have hlater : (compile setting (.ofLines lines)).result =
      .ok [.request "a \x7b4\x7d", .response "b" ⟨"t.mpt:1", some "a \x7b4\x7d"⟩ [],
        .request "$\x7bu\x7d"] :=
    eq_ok_of_toOption (by decide +kernel)
  have honline : conversation.Online state "mail" socket :=
    Conversation.online_ofLink config socket [] false _
  have hpauses : world.TakesPauses "mail" := by
    rintro _ _ ⟨⟩
    decide +kernel
  have hclients : ∀ step ∈ steps, step.element.isClient := by decide
  obtain ⟨after, hrun⟩ := honline.runs_steady (by decide) hpauses hclients
  obtain ⟨command, prompt, rest, hentries, -, hsent⟩ := announced_eq_sent_iff hempty block hlater
  cases hentries
  obtain ⟨socket', bytes, hsocket', hbytes, hiff⟩ :=
    hsent conversation state after "mail" socket honline steps rfl hrun
  refine ⟨hlater, after, socket', bytes, hrun, hsocket', hbytes, ?_⟩
  have hsize : announcedSize block.entries = 4 := by decide +kernel
  exact hsize.symm.trans (hiff.mpr ⟨List.cons_ne_nil _ _, by decide +kernel⟩).2

/-- A block without a body announces a negative size, and a line with a token is announced as it
stands in the script and sent as it is filled in. -/
theorem announced_ne_sent_of_empty_and_token :
    let setting : Setting := ⟨"t.mpt", ⟨[], []⟩, none, 100⟩
    let empty : List Line := ["ATTACHMENT \x7b".toList, "a".toList, "b".toList, "\x7d".toList]
    let token : List Line := ["ATTACHMENT \x7b".toList, "a".toList, "b".toList,
      "$\x7bu\x7d".toList, "\x7d".toList]
    let config := Network.Config.ofSettings {} ⟨"mail", "localhost", 143⟩ none none none none none
    let world := Network.World.ofLink config (.fresh "localhost:143" ⟨[], [], [], none⟩)
    let conversation : Conversation Network.World := ⟨Network.sessions world, [], false⟩
    let state : Conversation.State Network.World :=
      .initial (Variables.empty.set "u" (some "alice")) world
    let run := ([⟨2, .request "$\x7bu\x7d"⟩] : List Step).forM conversation.run
    (compile setting (.ofLines empty)).result =
        .ok [.request "a \x7b-2\x7d", .response "b" ⟨"t.mpt:1", some "a \x7b-2\x7d"⟩ []] ∧
      (compile setting (.ofLines token)).result =
        .ok [.request "a \x7b4\x7d", .response "b" ⟨"t.mpt:1", some "a \x7b4\x7d"⟩ [],
          .request "$\x7bu\x7d"] ∧
      ((run.exec state).2.world.connection? "mail").map Network.Socket.sent =
        some (Text.encodeAscii "alice" ++ Network.Station.lineEnding) := by
  refine ⟨eq_ok_of_toOption (by decide +kernel), eq_ok_of_toOption (by decide +kernel), ?_⟩
  decide +kernel

end MailScript.Script
