import MailScript.Proofs.Conversation.Actions
import MailScript.Proofs.Matching

/-! # Relations that elements respect

Two conversations, possibly over different worlds, may run the same element. A relation between
actions that composition keeps and that the basic actions of both satisfy also relates the two runs
of the element. -/

namespace MailScript

/-- The element that an entry of a journal says was started. -/
def JournalEntry.startedIndex? : JournalEntry → Option Nat
  | .started index => some index
  | _ => none

namespace Conversation

variable {World World' : Type}

/-- Waiting, as the sessions of a conversation do it. -/
def wait (conversation : Conversation World) (seconds : Binary64) : Act World Unit :=
  perform (conversation.sessions.pause seconds)

/-- A relation between the actions of two conversations that composition keeps and that the basic
actions satisfy. -/
structure Congruence (conversation : Conversation World) (other : Conversation World')
    (R : ∀ {α : Type}, Act World α → Act World' α → Prop) : Prop where
  pure : ∀ {α : Type} (x : α), R (pure x : Act World α) (pure x)
  throw : ∀ {α : Type} {fault : Fault}, fault.Foreign → R (throw fault : Act World α) (throw fault)
  bind : ∀ {α β : Type} {act : Act World α} {act' : Act World' α} {next : α → Act World β}
    {next' : α → Act World' β}, R act act' → (∀ x, R (next x) (next' x)) →
      R (act >>= next) (act' >>= next')
  enter : ∀ {entry : JournalEntry}, entry.startedIndex? = none →
    R (enter entry : Act World Unit) (enter entry)
  log : ∀ event, R (conversation.log event) (other.log event)
  wait : ∀ seconds, R (conversation.wait seconds) (other.wait seconds)
  assign : ∀ binding, R (conversation.assign binding) (other.assign binding)
  report : ∀ failure, R (conversation.report failure) (other.report failure)
  currentLabel : R conversation.currentLabel other.currentLabel
  switchTo : ∀ label, R (conversation.switchTo label) (other.switchTo label)
  readLine : ∀ index, R (conversation.readLine index) (other.readLine index)

namespace Congruence

variable {conversation : Conversation World} {other : Conversation World'}
  {R : ∀ {α : Type}, Act World α → Act World' α → Prop}

theorem forM_assign (h : Congruence conversation other @R) (bindings : List Binding) :
    R (bindings.forM conversation.assign) (bindings.forM other.assign) := by
  induction bindings with
  | nil => exact h.pure ()
  | cons binding rest ih => exact h.bind (h.assign binding) fun _ => ih

theorem checkResponse (h : Congruence conversation other @R) (index : Nat) (pattern : String)
    (origin : Origin) (captures : List String) (line : String) :
    R (conversation.checkResponse index pattern origin captures line)
      (other.checkResponse index pattern origin captures line) := by
  unfold Conversation.checkResponse
  cases hmatch : matchLine pattern line captures with
  | error fault => exact h.throw (foreign_of_matchLine hmatch)
  | ok found =>
      refine h.bind (h.enter rfl) fun _ => h.bind (h.forM_assign found.captured) fun _ => ?_
      cases found.accepted with
      | true => exact h.pure ()
      | false => exact h.report _

theorem receiveUnordered (h : Congruence conversation other @R) (index : Nat)
    (location : String) (patterns : List String) (count : Nat) (remaining : List String) :
    R (MailScript.receiveUnordered accepts (conversation.readLine index) conversation.report
        location patterns count remaining)
      (MailScript.receiveUnordered accepts (other.readLine index) other.report
        location patterns count remaining) := by
  induction count generalizing remaining with
  | zero => exact h.pure []
  | succ count ih =>
      unfold MailScript.receiveUnordered
      refine h.bind (h.readLine index) fun line => ?_
      have hrest := fun fewer => h.bind (ih fewer) fun lines => h.pure (line :: lines)
      cases htake : takeAccepting accepts line remaining with
      | error fault => exact h.bind (h.throw (foreign_of_takeAccepting htake)) hrest
      | ok found =>
          cases found with
          | some fewer => exact hrest fewer
          | none => exact h.bind (h.report _) fun _ => hrest remaining

theorem pause (h : Congruence conversation other @R) (index : Nat) (millis : Int) :
    R (conversation.pause index millis) (other.pause index millis) := by
  unfold Conversation.pause
  refine h.bind (h.log _) fun _ => ?_
  cases Binary64.seconds millis with
  | none => exact h.throw fun failure hf => by cases hf
  | some seconds => exact h.bind (h.enter rfl) fun _ => h.wait seconds

/-- What an element does that neither sends nor waits for the prompt. -/
theorem attend (h : Congruence conversation other @R) (step : Step) :
    R (conversation.attend step) (other.attend step) := by
  unfold Conversation.attend
  cases step.element with
  | response pattern origin captures => exact h.bind (h.readLine _) fun _ => h.checkResponse ..
  | unordered patterns origin =>
      refine h.bind (h.bind h.currentLabel fun _ => h.pure ()) fun _ => ?_
      exact h.bind (h.receiveUnordered ..) fun _ => h.log _
  | skipped description origin => exact h.bind (h.readLine _) fun _ => h.log _
  | pause millis => exact h.pause step.index millis
  | switch label => exact h.switchTo label
  | prompt => exact h.pure ()
  | request template => exact h.pure ()
  | upload attachment => exact h.pure ()

end Congruence

end Conversation

end MailScript
