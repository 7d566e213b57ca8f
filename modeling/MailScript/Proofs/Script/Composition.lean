import MailScript.Proofs.Script.Objections
import MailScript.Proofs.Text

/-! # Scripts behind other lines

A script that is put behind other lines compiles as it does alone: its places move down by the
number of these lines, and what it expects before its first request answers their last one. A fault
moves down with the line that it names. -/

namespace MailScript

/-! ## Places further down -/

namespace Script

/-- The place of a line that stands so many lines further down. -/
def moveDown (distance : Nat) (location : String) : String :=
  match Text.cutAtLast ':' location.toList with
  | some (script, digits) =>
    String.ofList script ++ ":" ++ toString ((Text.decimalNumber? digits).getD 0 + distance)
  | none => location

theorem moveDown_location (setting : Setting) (distance line : Nat) :
    moveDown distance (setting.location line) = setting.location (line + distance) := by
  have hdigits : ':' ∉ (toString line).toList := fun hmem =>
    absurd (Text.isAsciiDigit_of_mem_toString hmem) (by decide)
  have hlocation : (setting.location line).toList =
      setting.script.toList ++ ':' :: (toString line).toList := by
    simp [Setting.location]
  rw [moveDown, hlocation, Text.cutAtLast_append _ hdigits]
  simp only [String.ofList_toList, Text.decimalNumber?_toString, Option.getD_some]
  rfl

end Script

namespace Element

/-- The origin of an element that reads and keeps one. -/
def origin? : Element → Option Origin
  | .response _ origin _ | .unordered _ origin | .skipped _ origin => some origin
  | _ => none

/-- The element with another origin. -/
def mapOrigin (f : Origin → Origin) : Element → Element
  | .response pattern origin captures => .response pattern (f origin) captures
  | .unordered patterns origin => .unordered patterns (f origin)
  | .skipped description origin => .skipped description (f origin)
  | element => element

@[simp] theorem isClient_mapOrigin (f : Origin → Origin) (element : Element) :
    (element.mapOrigin f).isClient = element.isClient := by
  cases element <;> rfl

theorem origin?_mapOrigin (f : Origin → Origin) (element : Element) :
    (element.mapOrigin f).origin? = element.origin?.map f := by
  cases element <;> rfl

theorem mapOrigin_of_isClient (f : Origin → Origin) {element : Element} (h : element.isClient) :
    element.mapOrigin f = element := by
  cases element <;> first | rfl | cases h

end Element

/-- A fault that names a line of a script, with the line so many lines further down; other faults
stay as they are. -/
def Fault.moveDown (distance : Nat) : Fault → Fault
  | .failure (.compile cause script line) => .failure (.compile cause script (line + distance))
  | .failure (.attachmentUnreadable filename error script line) =>
    .failure (.attachmentUnreadable filename error script (line + distance))
  | fault => fault

theorem Fault.typeName_moveDown (distance : Nat) (fault : Fault) :
    (fault.moveDown distance).typeName = fault.typeName := by
  unfold Fault.moveDown
  split <;> rfl

namespace Script

/-! ## Elements further down -/

/-- An element that stands so many lines further down. -/
def moved (distance : Nat) (element : Element) : Element :=
  element.mapOrigin fun origin => ⟨moveDown distance origin.location, origin.lastRequest⟩

/-- An element that stands so many lines further down and answers another request. -/
def movedBehind (distance : Nat) (request : String) (element : Element) : Element :=
  element.mapOrigin fun origin => ⟨moveDown distance origin.location, some request⟩

/-- The elements in front of the first request. -/
def beforeRequests (elements : List Element) : List Element :=
  elements.takeWhile fun element => !element.isClient

/-- The elements of a script that stands behind so many lines with the given last request. -/
def continued (distance : Nat) (request : String) (elements : List Element) : List Element :=
  (beforeRequests elements).map (movedBehind distance request) ++
    (elements.dropWhile fun element => !element.isClient).map (moved distance)

theorem continued_append (distance : Nat) (request : String) (front back : List Element) :
    continued distance request (front ++ back) = continued distance request front ++
      if front.any Element.isClient then back.map (moved distance)
      else continued distance request back := by
  induction front with
  | nil => rfl
  | cons element rest ih =>
      cases hclient : element.isClient with
      | true => simp [continued, beforeRequests, hclient]
      | false => simpa [continued, beforeRequests, hclient] using ih

theorem continued_append_of_reads (distance : Nat) (request : String) (front : List Element)
    (element : Element) (h : element.isClient = false) :
    continued distance request (front ++ [element]) = continued distance request front ++
      [if front.any Element.isClient then moved distance element
        else movedBehind distance request element] := by
  rw [continued_append]
  split <;> simp [continued, beforeRequests, h]

theorem continued_append_of_isClient (distance : Nat) (request : String) (front : List Element)
    (element : Element) (h : element.isClient) (back : List Element) :
    continued distance request (front ++ element :: back) = continued distance request front ++
      element :: back.map (moved distance) := by
  rw [continued_append]
  have hmoved : moved distance element = element := Element.mapOrigin_of_isClient _ h
  split <;> simp [continued, beforeRequests, h, hmoved]

/-! ## Drafts further down -/

/-- A place in a script that stands so many lines further down. -/
def Stand.moveDown (distance : Nat) : Stand → Stand
  | .outside => .outside
  | .unordered opened patterns => .unordered (opened + distance) patterns
  | .upload opened entries => .upload (opened + distance) entries
  | .skipping opened => .skipping (opened + distance)

namespace Draft

/-- A draft whose lines stand behind so many lines with a draft of their own. -/
def behind (front : Draft) (distance : Nat) (draft : Draft) : Draft where
  elements := front.elements ++ continued distance front.lastRequest draft.elements
  lastRequest :=
    if draft.elements.any Element.isClient then draft.lastRequest else front.lastRequest
  stand := draft.stand.moveDown distance
  events := front.events ++ draft.events

variable (front : Draft) (distance : Nat) (draft : Draft)

theorem behind_go (stand : Stand) :
    front.behind distance (draft.go stand) =
      (front.behind distance draft).go (stand.moveDown distance) := rfl

theorem behind_request (message : String) :
    front.behind distance (draft.request message) =
      (front.behind distance draft).request message := by
  have hadd := continued_append_of_isClient distance front.lastRequest draft.elements
    (.request message) rfl []
  simp [behind, request, add, hadd, Element.isClient]

/-- An element without an origin is the same further down. -/
theorem behind_add (element : Element) (h : element.isClient = false)
    (horigin : ∀ f, element.mapOrigin f = element) :
    front.behind distance (draft.add element) = (front.behind distance draft).add element := by
  have hadd := continued_append_of_reads distance front.lastRequest draft.elements element h
  simp only [moved, movedBehind, horigin, ite_self] at hadd
  simp [behind, add, hadd, h]

/-- An element whose origin is that of a line read now answers the last request further down,
too. -/
theorem behind_add_origin (setting : Setting) (line : Nat) (element : Origin → Element)
    (h : ∀ origin, (element origin).isClient = false)
    (hmap : ∀ f origin, (element origin).mapOrigin f = element (f origin)) :
    front.behind distance (draft.add (element (draft.origin setting line))) =
      (front.behind distance draft).add
        (element ((front.behind distance draft).origin setting (line + distance))) := by
  have hadd := continued_append_of_reads distance front.lastRequest draft.elements
    _ (h (draft.origin setting line))
  simp only [moved, movedBehind, hmap, origin, moveDown_location] at hadd
  by_cases hany : draft.elements.any Element.isClient = true
  · rw [if_pos hany] at hadd
    simp [behind, add, origin, hadd, h, hany]
  · rw [if_neg hany] at hadd
    simp [behind, add, origin, hadd, h, hany]

end Draft

/-! ## One line further down -/

section

variable (setting : Setting) (front : Draft) (distance : Nat) (draft : Draft)

theorem moved_uploadElements (opened : Nat) (command prompt : Line) (rest : List Entry) :
    (uploadElements setting opened command prompt rest).map (moved distance) =
      uploadElements setting (opened + distance) command prompt rest := by
  have hrest : (rest.map Entry.element).map (moved distance) = rest.map Entry.element := by
    rw [List.map_map]
    refine List.map_congr_left fun entry _ => ?_
    cases entry <;> rfl
  simp [uploadElements, hrest, moved, Element.mapOrigin, moveDown_location]

theorem closeUpload_behind (opened : Nat) (entries : List Entry) :
    closeUpload setting (opened + distance) entries (front.behind distance draft) =
      (closeUpload setting opened entries draft).map (front.behind distance) := by
  by_cases hhead : ∃ command prompt rest, entries = .text command :: .text prompt :: rest
  · obtain ⟨command, prompt, rest, rfl⟩ := hhead
    rw [closeUpload_eq, closeUpload_eq]
    cases checkPattern (String.ofList prompt) false with
    | error objection => rfl
    | ok _ =>
        refine congrArg Except.ok ?_
        have hmoved := moved_uploadElements setting distance opened command prompt rest
        have hadd := continued_append_of_isClient distance front.lastRequest draft.elements
          (.request (announcement command (.text command :: .text prompt :: rest))) rfl
          (uploadElements setting opened command prompt rest).tail
        simp only [uploadElements, List.map_cons, List.cons.injEq, List.tail_cons] at hmoved hadd
        simp [Draft.behind, uploadElements, hadd, hmoved, Element.isClient]
  · rw [closeUpload_of_no_head hhead, closeUpload_of_no_head hhead]
    rfl

theorem readOutside_behind (number : Nat) (line : Line) :
    (front.behind distance draft).readOutside setting (number + distance) line =
      (draft.readOutside setting number line).map (front.behind distance) := by
  unfold Draft.readOutside
  cases Directive.ofLine line with
  | error objection => rfl
  | ok directive =>
      cases directive with
      | prompt => exact congrArg Except.ok (front.behind_add distance draft _ rfl fun _ => rfl).symm
      | request message =>
          exact congrArg Except.ok (front.behind_request distance draft message).symm
      | response pattern =>
          change (checkPattern pattern false >>= fun _ => _) =
            (checkPattern pattern false >>= fun _ => _).map _
          cases checkPattern pattern false with
          | error objection => rfl
          | ok _ =>
              exact congrArg Except.ok (front.behind_add_origin distance draft setting number
                (.response pattern · []) (fun _ => rfl) fun _ _ => rfl).symm
      | capture names pattern =>
          change (checkPattern pattern (names ≠ []) >>= fun _ => _) =
            (checkPattern pattern (names ≠ []) >>= fun _ => _).map _
          cases checkPattern pattern (names ≠ []) with
          | error objection => rfl
          | ok _ =>
              exact congrArg Except.ok (front.behind_add_origin distance draft setting number
                (.response pattern · names) (fun _ => rfl) fun _ _ => rfl).symm
      | openUnordered => rfl
      | openUpload => rfl
      | ignored => rfl
      | switch label =>
          exact congrArg Except.ok (front.behind_add distance draft _ rfl fun _ => rfl).symm
      | pause millis =>
          exact congrArg Except.ok (front.behind_add distance draft _ rfl fun _ => rfl).symm
      | skip => rfl

theorem withEntry_behind (opened : Nat) (entries : List Entry) (entry : Entry) :
    front.behind distance (draft.withEntry opened entries entry) =
      (front.behind distance draft).withEntry (opened + distance) entries entry := by
  simp [Draft.behind, Draft.withEntry, Stand.moveDown]

theorem read_behind (number : Nat) (line : Line) :
    (front.behind distance draft).read setting (number + distance) line =
      (draft.read setting number line).map (front.behind distance) := by
  have hstand : (front.behind distance draft).stand = draft.stand.moveDown distance := rfl
  cases h : draft.stand with
  | outside =>
      rw [h] at hstand
      rw [Draft.read_outside hstand, Draft.read_outside h, readOutside_behind]
  | unordered opened patterns =>
      rw [h] at hstand
      by_cases hline : line.startsWith Directive.closingTag
      · rw [Draft.read_unordered_closing hstand _ hline, Draft.read_unordered_closing h _ hline]
        refine congrArg Except.ok ?_
        rw [Draft.behind_go, Draft.behind_add_origin front distance draft setting opened
          (.unordered patterns ·) (fun _ => rfl) fun _ _ => rfl]
        rfl
      · rw [Draft.read_unordered hstand _ hline, Draft.read_unordered h _ hline]
        split
        · cases checkPattern line.body false <;> rfl
        · rfl
  | upload opened entries =>
      rw [h] at hstand
      by_cases hline : line.startsWith Directive.closingTag
      · rw [Draft.read_upload_closing hstand _ hline, Draft.read_upload_closing h _ hline,
          closeUpload_behind]
        cases closeUpload setting opened entries draft <;> rfl
      · rw [Draft.read_upload hstand _ hline, Draft.read_upload h _ hline]
        cases entryOf setting line with
        | error objection => rfl
        | ok entry => exact congrArg Except.ok (withEntry_behind ..).symm
  | skipping opened =>
      rw [h] at hstand
      rw [Draft.read_skipping hstand, Draft.read_skipping h]
      refine congrArg Except.ok ?_
      rw [Draft.behind_go, Draft.behind_add_origin front distance draft setting opened
        (.skipped line.body ·) (fun _ => rfl) fun _ _ => rfl]
      rfl

end

/-! ## Faults further down -/

/-- A result that passes on no fault which names a line already. -/
def Lineless {α : Type} (result : Except Objection α) : Prop :=
  ∀ fault, result = .error (.fault fault) → ∀ distance, fault.moveDown distance = fault

/-- What a line passes on as it is names no line. -/
theorem Lineless.read (setting : Setting) (number : Nat) (line : Line) (draft : Draft) :
    Lineless (draft.read setting number line) := by
  intro fault h distance
  cases PassesOn.read setting number line draft fault h <;> rfl

theorem place_moveDown {objection : Objection}
    (h : ∀ fault, objection = .fault fault → ∀ distance, fault.moveDown distance = fault)
    (script : String) (number distance : Nat) :
    objection.place script (number + distance) =
      (objection.place script number).moveDown distance := by
  cases objection with
  | cause reason => rfl
  | unreadable filename error => rfl
  | fault other => exact (h other rfl distance).symm

/-! ## Whole scripts further down -/

/-- Lines are compiled behind other lines as they are alone. -/
theorem readAll_behind (setting : Setting) (front : Draft) (distance number : Nat)
    (lines : List Line) (draft : Draft) :
    (front.behind distance draft).readAll setting (number + distance) lines =
      let alone := draft.readAll setting number lines
      (front.behind distance alone.1, alone.2.map (Fault.moveDown distance)) := by
  induction lines generalizing number draft with
  | nil => rfl
  | cons line rest ih =>
      have hread := read_behind setting front distance draft number line
      cases h : draft.read setting number line with
      | ok after =>
          rw [h] at hread
          rw [Draft.readAll_cons_of_ok hread, Draft.readAll_cons_of_ok h, Nat.add_right_comm, ih]
      | error objection =>
          have hlineless := Lineless.read setting number line draft
          rw [h] at hread
          rw [Draft.readAll_cons_of_error hread, Draft.readAll_cons_of_error h,
            place_moveDown fun fault hfault => hlineless fault (h.trans (congrArg _ hfault))]
          rfl

theorem beforeRequests_continued (distance : Nat) (request : String) (elements : List Element) :
    beforeRequests (continued distance request elements) =
      (beforeRequests elements).map (movedBehind distance request) := by
  induction elements with
  | nil => rfl
  | cons element rest ih =>
      cases h : element.isClient with
      | true => simp [continued, beforeRequests, moved, h]
      | false =>
          have hcontinued : continued distance request (element :: rest) =
              movedBehind distance request element :: continued distance request rest := by
            simp [continued, beforeRequests, h]
          have hreads : (movedBehind distance request element).isClient = false := by
            simpa [movedBehind] using h
          rw [hcontinued]
          simpa [beforeRequests, h, hreads] using ih

/-- What a script of its own expects before its first request answers the empty text. -/
theorem lastRequest_of_mem_beforeRequests (setting : Setting) (lines : List Line)
    {element : Element} (h : element ∈ beforeRequests (draftOf setting lines).1.elements)
    {origin : Origin} (horigin : element.origin? = some origin) :
    origin.lastRequest = some "" := by
  -- A script behind no lines is the script itself.
  have hbehind := readAll_behind setting Draft.empty 0 1 lines Draft.empty
  have helements : continued 0 "" (draftOf setting lines).1.elements =
      (draftOf setting lines).1.elements :=
    (congrArg (fun result => result.1.elements) hbehind).symm
  rw [← helements, beforeRequests_continued] at h
  obtain ⟨other, -, rfl⟩ := List.mem_map.mp h
  rw [movedBehind, Element.origin?_mapOrigin] at horigin
  obtain ⟨_, -, rfl⟩ := Option.map_eq_some_iff.mp horigin
  rfl

theorem behind_empty {front : Draft} (h : front.stand = .outside) (distance : Nat) :
    front.behind distance Draft.empty = front := by
  obtain ⟨elements, request, stand, events⟩ := front
  cases h
  simp [Draft.behind, Draft.empty, continued, beforeRequests, Stand.moveDown]

theorem draftOf_append {setting : Setting} {front : List Line} {before : Draft}
    (h : draftOf setting front = (before, none)) (hstand : before.stand = .outside)
    (back : List Line) :
    draftOf setting (front ++ back) =
      (before.behind front.length (draftOf setting back).1,
        (draftOf setting back).2.map (Fault.moveDown front.length)) := by
  have hback := readAll_behind setting before front.length 1 back Draft.empty
  rw [behind_empty hstand] at hback
  exact (Draft.readAll_append_of_ok h back).trans hback

theorem openBlockFault?_moveDown (setting : Setting) (count distance : Nat) (stand : Stand) :
    openBlockFault? setting (count + distance) (stand.moveDown distance) =
      (openBlockFault? setting count stand).map (Fault.moveDown distance) := by
  cases stand <;> rfl

/-- A script behind lines that compile yields their elements and then its own, which have moved down
by the number of the lines and answer the last request of the lines until they make one themselves.
A fault of it moves down, too, if it names a line, and is passed on as it is otherwise. -/
theorem compile_append {setting : Setting} {front : List Line} {elements : List Element}
    (h : (compile setting (.ofLines front)).result = .ok elements) (back : List Line) :
    (∀ later, (compile setting (.ofLines back)).result = .ok later →
      (compile setting (.ofLines (front ++ back))).result =
          .ok (elements ++ continued front.length (lastRequest setting front) later) ∧
        ∀ element ∈ beforeRequests later, ∀ origin, element.origin? = some origin →
          origin.lastRequest = some "") ∧
    ∀ fault, (compile setting (.ofLines back)).result = .error fault →
      (compile setting (.ofLines (front ++ back))).result =
          .error (fault.moveDown front.length) ∧
        (fault.moveDown front.length).typeName = fault.typeName := by
  obtain ⟨before, hfront, hstand, rfl⟩ := result_compile_eq_ok_iff.mp h
  have hlast : lastRequest setting front = before.lastRequest :=
    congrArg (fun result => result.1.lastRequest) hfront
  have hresult := result_compile setting (front ++ back)
  rw [draftOf_append hfront hstand, List.length_append, Nat.add_comm] at hresult
  dsimp only [Draft.behind] at hresult
  rw [openBlockFault?_moveDown, ← Option.map_or] at hresult
  have hback := result_compile setting back
  cases hfault : (draftOf setting back).2.or
      (openBlockFault? setting back.length (draftOf setting back).1.stand) with
  | none =>
      rw [hfault] at hresult hback
      rw [hback, hresult, hlast]
      refine ⟨fun later hlater => ?_, fun fault hother => nomatch hother⟩
      cases hlater
      exact ⟨rfl, fun element hmem origin horigin =>
        lastRequest_of_mem_beforeRequests setting back hmem horigin⟩
  | some fault =>
      rw [hfault] at hresult hback
      rw [hback, hresult]
      refine ⟨fun later hlater => (nomatch hlater), fun other hother => ?_⟩
      cases hother
      exact ⟨rfl, fault.typeName_moveDown _⟩

/-- A response behind a request of the lines in front, a block further down, and a fault. -/
theorem compile_append_of_request :
    let setting : Setting := ⟨"t.mpt", ⟨[], []⟩, none, 100⟩
    let front : List Line := ["C: a1 NOOP".toList]
    let back : List Line := ["S: a1 OK".toList, "C: a2 LOGOUT".toList, "SUB \x7b".toList,
      "S: .*".toList, "\x7d".toList]
    let broken : List Line := ["# end".toList, "QUIT".toList]
    (compile setting (.ofLines front)).result = .ok [.request "a1 NOOP"] ∧
      (compile setting (.ofLines back)).result =
        .ok [.response "a1 OK" ⟨"t.mpt:1", some ""⟩ [], .request "a2 LOGOUT",
          .unordered [".*"] ⟨"t.mpt:3", some "a2 LOGOUT"⟩] ∧
      (compile setting (.ofLines (front ++ back))).result =
        .ok [.request "a1 NOOP", .response "a1 OK" ⟨"t.mpt:2", some "a1 NOOP"⟩ [],
          .request "a2 LOGOUT", .unordered [".*"] ⟨"t.mpt:4", some "a2 LOGOUT"⟩] ∧
      (compile setting (.ofLines (front ++ broken))).result =
        .error (.failure (.compile (.unknownDirective "QUI") "t.mpt" 3)) := by
  intro setting front back broken
  have hfront : (compile setting (.ofLines front)).result = .ok [.request "a1 NOOP"] := rfl
  have hback : (compile setting (.ofLines back)).result =
      .ok [.response "a1 OK" ⟨"t.mpt:1", some ""⟩ [], .request "a2 LOGOUT",
        .unordered [".*"] ⟨"t.mpt:3", some "a2 LOGOUT"⟩] :=
    eq_ok_of_toOption (by decide +kernel)
  have hbroken : (compile setting (.ofLines broken)).result =
      .error (.failure (.compile (.unknownDirective "QUI") "t.mpt" 2)) := rfl
  refine ⟨hfront, hback, ?_, ?_⟩
  · rw [((compile_append hfront back).1 _ hback).1]
    refine congrArg Except.ok ?_
    decide +kernel
  · exact ((compile_append hfront broken).2 _ hbroken).1

end Script

end MailScript
