import MailScript.Proofs.Variables.Contents
import MailScript.Proofs.Variables.Storage

/-! # Families of stores

The stores of a family are assigned to and copied in any order. What is found in each of them is told
by its history: the assignments to it, behind those that its original had seen when it was copied. -/

namespace MailScript

namespace Variables

/-- What is found in a store that has seen some assignments, one after another. -/
structure Remembers (history : List Binding) (store : Variables) : Prop where
  names : store.names = (history.map Prod.fst).eraseDups
  last : ∀ front name value back, history = front ++ (name, value) :: back →
    name ∉ back.map Prod.fst → ∀ default, store.get name default = value
  unset : ∀ name ∉ history.map Prod.fst, ∀ default, store.get name default = default
  size : store.size = store.names.length
  has : ∀ name, store.has name = true ↔ name ∈ store.names
  contains : ∀ name, name ∈ store ↔ name ∈ store.names
  iteration : ∀ {m : Type → Type} [Monad m] [LawfulMonad m] {β : Type} (init : β)
    (body : String → β → m (ForInStep β)), forIn store init body = forIn store.names init body

theorem remembers_ofList (history : List Binding) : Remembers history (ofList history) where
  names := names_ofList history
  last front name value back h hback default := by
    rw [get, ofList, (assigns_setAll empty history).last front (name, value) back h hback]
    rfl
  unset name hname default := by
    rw [get, ofList, (assigns_setAll empty history).others name hname]
    rfl
  size := size_eq _
  has := has_iff _
  contains := has_iff _
  iteration := forIn_eq _

end Variables

namespace StoreCommand

variable {stores start : List Variables} {commands : List StoreCommand} {place : Nat}

/-! ## One command -/

/-- What a command assigns to the store at a place. -/
def assigned (place : Nat) : StoreCommand → List Binding
  | .set index name value => if index = place then [(name, value)] else []
  | .update index bindings => if index = place then bindings else []
  | .copy _ => []

/-- The store that a command assigns to; copying assigns to none. -/
def target : StoreCommand → Option Nat
  | .set index _ _ => some index
  | .update index _ => some index
  | .copy _ => none

theorem assigned_of_target {command : StoreCommand} (h : command.target ≠ some place) :
    command.assigned place = [] := by
  cases command with
  | set index name value => exact if_neg fun hsame => h (congrArg some hsame)
  | update index bindings => exact if_neg fun hsame => h (congrArg some hsame)
  | copy index => rfl

/-- A store that is there goes on with what a command assigns to it. -/
theorem getElem?_apply {store : Variables} (h : stores[place]? = some store)
    (command : StoreCommand) :
    (command.apply stores)[place]? = some (store.setAll (command.assigned place)) := by
  cases command with
  | set index name value =>
      rw [apply, List.getElem?_modify, h, assigned]
      split <;> rfl
  | update index bindings =>
      rw [apply, List.getElem?_modify, h, assigned]
      by_cases hindex : index = place
      · simp [hindex, Variables.update_eq_setAll]
      · simp [hindex]
  | copy index =>
      have hplace : place < stores.length := (List.getElem?_eq_some_iff.mp h).1
      rw [apply]
      split
      · rw [List.getElem?_append_left hplace, h]
        rfl
      · exact h

/-- A copy comes last in the family and starts as its original is. -/
theorem getElem?_apply_copy {index : Nat} {store : Variables} (h : stores[index]? = some store) :
    (apply stores (.copy index))[stores.length]? = some store := by
  simp [apply, h]

/-- A store that joins the family is a copy, and it comes last. -/
theorem eq_copy_of_apply {command : StoreCommand} (hold : ¬ place < stores.length)
    (hnew : place < (command.apply stores).length) :
    place = stores.length ∧ ∃ index < stores.length, command = .copy index := by
  cases command with
  | set index name value => exact absurd (by simpa [apply] using hnew) hold
  | update index bindings => exact absurd (by simpa [apply] using hnew) hold
  | copy index =>
      rw [apply] at hnew
      split at hnew
      · rename_i store hstore
        rw [List.length_append, List.length_singleton] at hnew
        exact ⟨by omega, index, (List.getElem?_eq_some_iff.mp hstore).1, rfl⟩
      · exact absurd hnew hold

/-! ## Histories -/

theorem applyAll_concat (start : List Variables) (commands : List StoreCommand)
    (command : StoreCommand) :
    applyAll start (commands ++ [command]) = command.apply (applyAll start commands) := by
  simp [applyAll]

/-- The assignments that a store of a growing family has seen. A store of the beginning has seen those
of what it holds, and a copy those that its original had seen before it was copied. -/
inductive History (start : List Variables) : List StoreCommand → Nat → List Binding → Prop where
  | held {place : Nat} {store : Variables} (h : start[place]? = some store) :
      History start [] place store.toList
  | later {commands : List StoreCommand} {place : Nat} {history : List Binding}
      (h : History start commands place history) (command : StoreCommand) :
      History start (commands ++ [command]) place (history ++ command.assigned place)
  | copied {commands : List StoreCommand} {index : Nat} {history : List Binding}
      (h : History start commands index history) :
      History start (commands ++ [.copy index]) (applyAll start commands).length history

/-- A store is what its history gives. -/
theorem History.getElem? {history : List Binding} (h : History start commands place history) :
    (applyAll start commands)[place]? = some (.ofList history) := by
  induction h with
  | held h => rwa [Variables.ofList_toList]
  | later h command ih =>
      rw [applyAll_concat, getElem?_apply ih, Variables.ofList, Variables.ofList,
        Variables.setAll_append]
  | copied h ih => rw [applyAll_concat, getElem?_apply_copy ih]

theorem exists_history (h : place < (applyAll start commands).length) :
    ∃ history, History start commands place history := by
  induction commands using List.reverseRecOn generalizing place with
  | nil => exact ⟨_, .held (List.getElem?_eq_getElem h)⟩
  | append_singleton commands command ih =>
      by_cases hplace : place < (applyAll start commands).length
      · obtain ⟨history, hhistory⟩ := ih hplace
        exact ⟨_, hhistory.later command⟩
      · rw [applyAll_concat] at h
        obtain ⟨rfl, index, hindex, rfl⟩ := eq_copy_of_apply hplace h
        obtain ⟨history, hhistory⟩ := ih hindex
        exact ⟨history, hhistory.copied⟩

/-- A store stays as it is as long as other stores are assigned to, or copied, or it is copied. -/
theorem getElem?_applyAll_of_target (hplace : place < stores.length)
    (h : ∀ command ∈ commands, command.target ≠ some place) :
    (applyAll stores commands)[place]? = stores[place]? := by
  induction commands generalizing stores with
  | nil => rfl
  | cons command rest ih =>
      rw [List.forall_mem_cons] at h
      have hstore := List.getElem?_eq_getElem hplace
      have hkept : (command.apply stores)[place]? = some stores[place] := by
        rw [getElem?_apply hstore, assigned_of_target h.1, Variables.setAll_nil]
      have hlength := (List.getElem?_eq_some_iff.mp hkept).1
      exact (ih hlength h.2).trans (hkept.trans hstore.symm)

/-- In a family that grows by copies each store has a history, and it is what this history gives: its
names are those that have been assigned, in the order of their first assignments, a name has the value
that it was given last, known or not, and all questions about names are answered alike. Two stores
agree if they have the same names with the same values. A store changes by the commands that assign to
it alone, and so it is in memory too, where no two stores ever share a table. -/
theorem applyAll_remembers (start : List Variables) (commands : List StoreCommand) :
    let family := applyAll start commands
    (∀ place, place < family.length ↔ ∃ history, History start commands place history) ∧
    (∀ place history, History start commands place history →
      ∃ store, family[place]? = some store ∧ store.Remembers history) ∧
    (∀ a ∈ family, ∀ b ∈ family, a.agree b = true ↔
      (∀ name, name ∈ a.names ↔ name ∈ b.names) ∧
        ∀ name ∈ a.names, ∀ default, a.get name default = b.get name default) ∧
    (∀ later place, place < family.length →
      (∀ command ∈ later, command.target ≠ some place) →
      (applyAll family later)[place]? = family[place]?) ∧
    ((Storage.ofStores start).performAll commands).Holds family := by
  intro family
  refine ⟨fun place => ⟨exists_history, ?_⟩, ?_, fun a _ b _ => a.agree_iff b,
    fun later place => getElem?_applyAll_of_target,
    (Storage.holds_ofStores start).performAll commands⟩
  · rintro ⟨history, hhistory⟩
    exact (List.getElem?_eq_some_iff.mp hhistory.getElem?).1
  · intro place history hhistory
    exact ⟨_, hhistory.getElem?, Variables.remembers_ofList history⟩

/-- A store with an unknown value, a copy of it that goes its own way, and a store that agrees with
the copy in another order. -/
example :
    let family := applyAll [.empty, .empty]
      [.set 0 "u" none, .copy 0, .update 2 [("w", some "1"), ("u", some "2"), ("w", some "3")],
        .set 1 "w" (some "3"), .set 1 "u" (some "2")]
    family.map Variables.toList =
        [[("u", none)], [("w", some "3"), ("u", some "2")], [("u", some "2"), ("w", some "3")]] ∧
      family.map (fun store => store.get "u" (some "d")) = [none, some "2", some "2"] ∧
      family.map (fun a => family.map a.agree) =
        [[true, false, false], [false, true, true], [false, true, true]] := by
  decide +kernel

end StoreCommand

end MailScript
