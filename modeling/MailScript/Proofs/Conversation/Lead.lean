import MailScript.Proofs.Conversation.Growth
import MailScript.Proofs.Memory

/-! # One state ahead of another

A conversation with sessions in memory may have sent more in one state than in another one and agree
with it otherwise. Elements that are run in both keep the distance. -/

namespace MailScript

/-- The wait that an entry of a journal stands for. -/
def JournalEntry.wait? : JournalEntry → Option (Nat × Int)
  | .waiting index millis => some (index, millis)
  | _ => none

/-- A script to be run against sessions in memory. -/
structure Memory.Script where
  world : World
  exhaustion : Exhaustion
  elements : List Element
  keepGoing : Bool

/-- The conversation that a script has with its sessions. -/
def Memory.Script.conversation (script : Script) : Conversation World :=
  ⟨sessions script.world script.exhaustion, script.elements, script.keepGoing⟩

namespace Conversation

/-- The waits so far, each with the element that waited. -/
def State.waits (state : State Memory.World) : List (Nat × Int) :=
  state.journal.filterMap JournalEntry.wait?

/-! ## One state ahead of another -/

/-- One state is ahead of another one by what was sent in it, and agrees with it otherwise. The
places in the script may differ. -/
structure Leads (extra : List Memory.Action) (ahead behind : State Memory.World) : Prop where
  current : ahead.current = behind.current
  failures : ahead.failures = behind.failures
  store : ahead.store = behind.store
  waits : ahead.waits = behind.waits
  world : ahead.world.Leads extra behind.world

theorem waits_enter (state : State Memory.World) (entry : JournalEntry) :
    (state.enter entry).waits = state.waits ++ entry.wait?.toList := by
  cases entry <;> simp [State.waits, State.enter, JournalEntry.wait?]

namespace Leads

variable {extra : List Memory.Action} {ahead behind : State Memory.World}

theorem inWorlds {world world' : Memory.World} (h : Leads extra ahead behind)
    (hworld : world.Leads extra world') :
    Leads extra { ahead with world := world } { behind with world := world' } :=
  { h with world := hworld }

theorem enter (h : Leads extra ahead behind) (entry entry' : JournalEntry)
    (hwait : entry.wait? = entry'.wait?) :
    Leads extra (ahead.enter entry) (behind.enter entry') :=
  { h with waits := by rw [waits_enter, waits_enter, h.waits, hwait] }

end Leads

/-- An action in a state ahead and one in a state behind end with the same fault, or with related
results. -/
inductive Alike {α β : Type} (P : α → β → State Memory.World → State Memory.World → Prop) :
    Except Fault α × State Memory.World → Except Fault β × State Memory.World → Prop where
  | broken {fault : Fault} {extra : List Memory.Action} {ahead behind : State Memory.World}
      (h : Leads extra ahead behind) : Alike P (.error fault, ahead) (.error fault, behind)
  | done {x : α} {y : β} {ahead behind : State Memory.World} (h : P x y ahead behind) :
      Alike P (.ok x, ahead) (.ok y, behind)

theorem Alike.bind {α β γ δ : Type} {P : α → β → State Memory.World → State Memory.World → Prop}
    {Q : γ → δ → State Memory.World → State Memory.World → Prop} {act : Act Memory.World α}
    {act' : Act Memory.World β} {next : α → Act Memory.World γ} {next' : β → Act Memory.World δ}
    {ahead behind : State Memory.World} (hact : Alike P (act.exec ahead) (act'.exec behind))
    (hnext : ∀ x y ahead behind, P x y ahead behind →
      Alike Q ((next x).exec ahead) ((next' y).exec behind)) :
    Alike Q ((act >>= next).exec ahead) ((act' >>= next').exec behind) := by
  rw [exec_bind, exec_bind]
  generalize act.exec ahead = result, act'.exec behind = result' at hact
  cases hact with
  | broken h => exact .broken h
  | done h => exact hnext _ _ _ _ h

theorem Alike.mono {α β : Type} {P Q : α → β → State Memory.World → State Memory.World → Prop}
    {result : Except Fault α × State Memory.World} {result' : Except Fault β × State Memory.World}
    (h : Alike P result result') (hPQ : ∀ x y ahead behind, P x y ahead behind → Q x y ahead behind) :
    Alike Q result result' := by
  cases h with
  | broken h => exact .broken h
  | done h => exact .done (hPQ _ _ _ _ h)

/-- In both states the same session is in use, or there is none. -/
theorem currentLabel_alike (script : Memory.Script) {extra : List Memory.Action}
    {ahead behind : State Memory.World} (h : Leads extra ahead behind) :
    Alike (fun label label' ahead' behind' => label = label' ∧
        ahead' = { ahead with current := some label } ∧
        behind' = { behind with current := some label })
      (script.conversation.currentLabel.exec ahead)
      (script.conversation.currentLabel.exec behind) := by
  rw [exec_currentLabel, exec_currentLabel, h.current]
  rcases hcurrent : behind.current with _ | label
  · cases script.conversation.sessions.labels with
    | nil => exact .broken h
    | cons label rest => exact .done ⟨rfl, rfl, rfl⟩
  · refine .done ⟨rfl, ?_, ?_⟩
    · rw [← hcurrent, ← h.current]
    · rw [← hcurrent]

/-! ## While the prompt is not expected -/

/-- An action ends alike in two states at some distance and keeps the distance and both places. In
the state ahead no session asks to resume. -/
def Together (extra : List Memory.Action) {α : Type} (act act' : Act Memory.World α) : Prop :=
  ∀ ahead behind, Leads extra ahead behind → ahead.phase ≠ .paused →
    Alike (fun x y ahead' behind' => x = y ∧ Leads extra ahead' behind' ∧
        ahead'.cursor = ahead.cursor ∧ behind'.cursor = behind.cursor)
      (act.exec ahead) (act'.exec behind)

namespace Together

variable {extra : List Memory.Action} {α β : Type} {script : Memory.Script}

theorem pure (x : α) : Together extra (Pure.pure x : Act Memory.World α) (Pure.pure x) :=
  fun _ _ h _ => .done ⟨rfl, h, rfl, rfl⟩

theorem bind {act act' : Act Memory.World α} {next next' : α → Act Memory.World β}
    (hact : Together extra act act') (hnext : ∀ x, Together extra (next x) (next' x)) :
    Together extra (act >>= next) (act' >>= next') := by
  intro ahead behind h hphase
  refine (hact ahead behind h hphase).bind ?_
  rintro x _ ahead' behind' ⟨rfl, hleads, hahead, hbehind⟩
  have hphase' : ahead'.phase ≠ .paused := by
    rwa [show ahead'.phase = ahead.phase from congrArg Cursor.phase hahead]
  have hend := hnext x ahead' behind' hleads hphase'
  rwa [hahead, hbehind] at hend

theorem get_bind {next next' : State Memory.World → Act Memory.World β}
    (h : ∀ ahead behind, Leads extra ahead behind → ahead.phase ≠ .paused →
      Together extra (next ahead) (next' behind)) :
    Together extra (get >>= next) (get >>= next') :=
  fun ahead behind hleads hphase => h ahead behind hleads hphase ahead behind hleads hphase

theorem enter {entry entry' : JournalEntry} (hwait : entry.wait? = entry'.wait?)
    (h : entry.startedIndex? = none) (h' : entry'.startedIndex? = none) :
    Together extra (Conversation.enter entry : Act Memory.World Unit)
      (Conversation.enter entry') :=
  fun ahead behind hleads _ => .done ⟨rfl, hleads.enter entry entry' hwait, (Beside.enter h ahead).cursor,
    (Beside.enter h' behind).cursor⟩

theorem log (event event' : Event) :
    Together extra (script.conversation.log event) (script.conversation.log event') :=
  fun _ _ h _ => .done ⟨rfl, h.inWorlds (h.world.logs _ _), rfl, rfl⟩

theorem assign (binding : Binding) :
    Together extra (script.conversation.assign binding) (script.conversation.assign binding) := by
  intro ahead behind h _
  refine .done ⟨rfl, ?_, rfl, rfl⟩
  exact { h.inWorlds (h.world.logs _ _) with
    store := congrArg (fun store => store.set binding.1 binding.2) h.store }

theorem report (failure : Failure) :
    Together extra (script.conversation.report failure) (script.conversation.report failure) := by
  intro ahead behind h _
  by_cases hkeep : script.conversation.keepGoing
  · rw [exec_report_tolerant hkeep, exec_report_tolerant hkeep]
    refine .done ⟨rfl, ?_, rfl, rfl⟩
    exact { h.inWorlds (h.world.logs _ _) with
      failures := congrArg (· ++ [failure]) h.failures }
  · rw [exec_report_strict hkeep, exec_report_strict hkeep]
    exact .broken h

theorem currentLabel :
    Together extra script.conversation.currentLabel script.conversation.currentLabel := by
  intro ahead behind h _
  have hlabel := currentLabel_alike script h
  generalize script.conversation.currentLabel.exec ahead = result,
    script.conversation.currentLabel.exec behind = result' at hlabel
  cases hlabel with
  | broken h => exact .broken h
  | done h' =>
      obtain ⟨rfl, rfl, rfl⟩ := h'
      exact .done ⟨rfl, { h with current := rfl }, rfl, rfl⟩

theorem switchTo (label : String) :
    Together extra (script.conversation.switchTo label) (script.conversation.switchTo label) := by
  intro ahead behind h _
  rw [exec_switchTo, exec_switchTo]
  split
  · exact .done ⟨rfl, { h.inWorlds (h.world.logs _ _) with current := rfl }, rfl, rfl⟩
  · exact .broken h

theorem wait (seconds : Binary64) :
    Together extra (script.conversation.wait seconds) (script.conversation.wait seconds) := by
  intro ahead behind h _
  obtain ⟨houtcome, hworld⟩ := h.world.wait seconds
  have hpause (world : Memory.World) : script.conversation.sessions.pause seconds world =
      ((Memory.wait seconds world).1.mapError .pauseRefused, (Memory.wait seconds world).2) := rfl
  unfold Conversation.wait
  rw [exec_perform, exec_perform, hpause, hpause, houtcome]
  cases (Memory.wait seconds behind.world).1 with
  | error error => exact .broken (h.inWorlds hworld)
  | ok _ => exact .done ⟨rfl, h.inWorlds hworld, rfl, rfl⟩

theorem deliver {world world' : Memory.World} (hworld : world.Leads extra world')
    (label : String) :
    Together extra
      (script.conversation.follow (Memory.deliver script.exhaustion label world))
      (script.conversation.follow (Memory.deliver script.exhaustion label world')) := by
  intro ahead behind h _
  rcases hworld.deliver script.exhaustion label with
    ⟨line, after, after', hahead, hbehind, hafter⟩ | ⟨fault, after, after', hahead, hbehind, hafter⟩
  · rw [hahead, hbehind]
    exact .done ⟨rfl, h.inWorlds hafter, rfl, rfl⟩
  · rw [hahead, hbehind]
    exact .broken (h.inWorlds hafter)

theorem readLine (index : Nat) :
    Together extra (script.conversation.readLine index) (script.conversation.readLine index) := by
  unfold Conversation.readLine
  refine currentLabel.bind fun label => get_bind fun ahead behind h hphase => ?_
  refine bind (enter rfl rfl rfl) fun _ => ?_
  have hfollow : Together extra
      (script.conversation.follow (Memory.readLine script.exhaustion label ahead.view ahead.world))
      (script.conversation.follow
        (Memory.readLine script.exhaustion label behind.view behind.world)) := by
    rw [h.world.eager.readLine_eq _ _ _ (.inr ⟨rfl, hphase⟩),
      h.world.quiet.readLine_eq _ _ _ (.inl rfl)]
    exact deliver h.world label
  refine hfollow.bind fun line => ?_
  refine bind (enter rfl rfl rfl) fun _ => ?_
  exact pure line

theorem congruence (extra : List Memory.Action) (script : Memory.Script) :
    Congruence script.conversation script.conversation (Together extra) where
  pure := pure
  throw _ := fun _ _ h _ => .broken h
  bind := bind
  enter h := enter rfl h h
  log event := log event event
  wait := wait
  assign := assign
  report := report
  currentLabel := currentLabel
  switchTo := switchTo
  readLine := readLine

end Together

end Conversation

end MailScript
