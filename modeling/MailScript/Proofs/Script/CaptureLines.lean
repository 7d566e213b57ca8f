import MailScript.Memory
import MailScript.Proofs.Conversation.Captures
import MailScript.Proofs.Script.Composition
import MailScript.Proofs.Script.Statement

/-! # What a capture line captures

A capture line declares names in front of its colon. The names are looked for in the whole line,
though, so a name in angle brackets in the message is captured as well, and it is assigned when the
line is run. -/

namespace MailScript.Script

open Conversation

variable {setting : Setting}

/-- A capture line that can be read adds a response, whose names are those declared and those that
stand in the message. -/
theorem Draft.read_captureLine {draft after : Draft} {number : Nat} {names : List String}
    {message : Line} (h : names ≠ []) (hnames : ∀ name ∈ names, IsName name)
    (hstand : draft.stand = .outside)
    (hread : draft.read setting number (Line.captureLine names message) = .ok after) :
    after = draft.add (.response (String.ofList (Text.trimChars message))
      (draft.origin setting number) (names ++ message.names)) := by
  rw [Draft.read_outside hstand, Draft.readOutside, Directive.ofLine_captureLine h hnames] at hread
  obtain ⟨directive, hdirective, hchecked⟩ := ok_of_bind hread
  cases hdirective
  obtain ⟨-, -, hadd⟩ := ok_of_bind hchecked
  cases hadd
  rfl

/-- Lines of a script that compiles can be read one by one. -/
theorem exists_read_of_compile {front back : List Line} {line : Line} {draft : Draft}
    {elements : List Element} (hfront : draftOf setting front = (draft, none))
    (hcompile : (compile setting (.ofLines (front ++ line :: back))).result = .ok elements) :
    ∃ after, draft.read setting (1 + front.length) line = .ok after := by
  obtain ⟨last, hlines, -, -⟩ := result_compile_eq_ok_iff.mp hcompile
  cases hread : draft.read setting (1 + front.length) line with
  | ok after => exact ⟨after, rfl⟩
  | error objection =>
      rw [draftOf, Draft.readAll_append_of_ok hfront, Draft.readAll_cons_of_error hread] at hlines
      cases hlines

/-- A capture line becomes a response with the message, without blanks around it, as its pattern. It
captures into the names that the line declares and into those that stand in the message, so into the
declared ones alone exactly if the message has none. Running it leaves all other variables as they
are. -/
theorem compile_captureLine {front back : List Line} {names : List String} {message : String}
    {before elements : List Element} (h : names ≠ []) (hnames : ∀ name ∈ names, IsName name)
    (hfront : (compile setting (.ofLines front)).result = .ok before)
    (hcompile : (compile setting
      (.ofLines (front ++ Line.captureLine names message.toList :: back))).result = .ok elements) :
    let captures := names ++ Line.names message.toList
    let element := Element.response (String.ofList (Text.trimChars message.toList))
      ⟨setting.location (front.length + 1), some (lastRequest setting front)⟩ captures
    (∃ behind, elements = before ++ element :: behind) ∧
      (captures = names ↔ Nameless message) ∧
      ∀ {World : Type} (conversation : Conversation World) (index : Nat) (state : State World),
        ∀ name ∉ captures, ((conversation.run ⟨index, element⟩).exec state).2.store.value? name =
          state.store.value? name := by
  intro captures element
  refine ⟨?_, List.append_right_eq_self.trans Line.names_eq_nil_iff, ?_⟩
  · obtain ⟨draft, hdraft, hstand, rfl⟩ := result_compile_eq_ok_iff.mp hfront
    obtain ⟨after, hread⟩ := exists_read_of_compile hdraft hcompile
    obtain rfl := Draft.read_captureLine h hnames hstand hread
    have helement : Element.response (String.ofList (Text.trimChars message.toList))
        (draft.origin setting (1 + front.length)) captures = element := by
      rw [Draft.origin, Nat.add_comm, ← congrArg (fun result => result.1.lastRequest) hdraft]
      rfl
    rw [helement] at hread
    have hline : draftOf setting (front ++ [Line.captureLine names message.toList]) =
        (draft.add element, none) := by
      rw [draftOf, Draft.readAll_append_of_ok hdraft, Draft.readAll_single hread]
    obtain ⟨last, hlines, -, rfl⟩ := result_compile_eq_ok_iff.mp hcompile
    rw [List.append_cons, draftOf_append hline hstand] at hlines
    obtain ⟨rfl, -⟩ := Prod.ext_iff.mp hlines
    exact ⟨_, List.append_assoc ..⟩
  · intro World conversation index state name hname
    have hcaptures : (conversation.run ⟨index, element⟩).Within (Captures captures) :=
      Captures.run fun hprompt => by cases hprompt
    exact (hcaptures state).value? hname

/-- Two declared names in front of a message with a colon and an opening bracket in it. -/
theorem compile_captureLine_of_nameless :
    let setting : Setting := ⟨"t.mpt", ⟨[], []⟩, none, 100⟩
    let front : List Line := ["C: a1 NOOP".toList]
    let line := Line.captureLine ["tag", "n"] "(a+): <b ".toList
    let element := Element.response "(a+): <b" ⟨"t.mpt:2", some "a1 NOOP"⟩ ["tag", "n"]
    line = "S<tag><n>: (a+): <b ".toList ∧
      (compile setting (.ofLines (front ++ line :: ["S: OK".toList]))).result =
        .ok ([.request "a1 NOOP"] ++ element ::
          [.response "OK" ⟨"t.mpt:3", some "a1 NOOP"⟩ []]) ∧
      Nameless "(a+): <b " ∧
      ∀ (conversation : Conversation Memory.World) (state : State Memory.World),
        ∀ name ∉ ["tag", "n"], ((conversation.run ⟨1, element⟩).exec state).2.store.value? name =
          state.store.value? name := by
  intro setting front line element
  have hfront : (compile setting (.ofLines front)).result = .ok [.request "a1 NOOP"] := rfl
  have hcompile : (compile setting (.ofLines (front ++ line :: ["S: OK".toList]))).result =
      .ok ([.request "a1 NOOP"] ++ element ::
        [.response "OK" ⟨"t.mpt:3", some "a1 NOOP"⟩ []]) :=
    eq_ok_of_toOption (by decide +kernel)
  have helement : Element.response (String.ofList (Text.trimChars "(a+): <b ".toList))
      ⟨setting.location (front.length + 1), some (lastRequest setting front)⟩
      (["tag", "n"] ++ Line.names "(a+): <b ".toList) = element := by decide +kernel
  have hcaptures : ["tag", "n"] ++ Line.names "(a+): <b ".toList = ["tag", "n"] := by decide +kernel
  have hmain := compile_captureLine (by decide) (by decide) hfront hcompile
  dsimp only at hmain
  rw [helement, hcaptures] at hmain
  obtain ⟨-, hiff, hrun⟩ := hmain
  exact ⟨rfl, hcompile, hiff.mp rfl, fun conversation state => hrun conversation 1 state⟩

/-- The name of a group is captured as well as the declared name, and so a variable of that name is
overwritten. -/
theorem captureLine_overwrites_other :
    let setting : Setting := ⟨"t.mpt", ⟨[], []⟩, none, 100⟩
    let element := Element.response "(?P<b>\\w*)" ⟨"t.mpt:1", some ""⟩ ["u", "b"]
    let served : Memory.World := .ofSessions [⟨"imap", ["bob"], .never, none, none⟩]
    let conversation : Conversation Memory.World := ⟨Memory.sessions served, [element], false⟩
    let state : State Memory.World := .initial (Variables.empty.set "b" (some "ann")) served
    let after := (conversation.run ⟨0, element⟩).exec state
    (compile setting ((Source.text "S<u>: (?P<b>\\w*)").transcript "utf-8")).result.toOption =
        some [element] ∧
      after.1.toOption = some () ∧ state.store.get "b" = some "ann" ∧
      after.2.store.get "b" = some "" := by
  decide +kernel +zetaReduce

end MailScript.Script
