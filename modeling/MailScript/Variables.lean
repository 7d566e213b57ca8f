/-! # Variables

A store of variables keeps its names in the order of first assignment; assigning a name again keeps
its place. A value may be unknown, and a name with an unknown value counts as set. -/

namespace MailScript

/-- A name with its value, which may be unknown. -/
abbrev Binding := String × Option String

namespace Binding

/-- Give a name a value among some bindings: in its place if it is there, at the end if not. -/
def assign (name : String) (value : Option String) : List Binding → List Binding
  | [] => [(name, value)]
  | binding :: rest =>
    if binding.1 = name then (name, value) :: rest else binding :: assign name value rest

/-- The value of a name among some bindings. -/
def lookup (name : String) : List Binding → Option (Option String)
  | [] => none
  | binding :: rest => if binding.1 = name then some binding.2 else lookup name rest

theorem mem_names_assign (name other : String) (value : Option String) (bindings : List Binding) :
    other ∈ (assign name value bindings).map Prod.fst ↔
      other = name ∨ other ∈ bindings.map Prod.fst := by
  induction bindings with
  | nil => simp [assign]
  | cons binding rest ih =>
      by_cases h : binding.1 = name
      · simp [assign, h]
      · simp only [assign, h, if_false, List.map_cons, List.mem_cons, ih]
        constructor
        · rintro (h | h | h) <;> simp [h]
        · rintro (h | h | h) <;> simp [h]

theorem nodup_assign (name : String) (value : Option String) {bindings : List Binding}
    (h : (bindings.map Prod.fst).Nodup) : ((assign name value bindings).map Prod.fst).Nodup := by
  induction bindings with
  | nil => simp [assign]
  | cons binding rest ih =>
      simp only [List.map_cons, List.nodup_cons] at h
      by_cases hb : binding.1 = name
      · simpa [assign, hb] using ⟨by simpa [hb] using h.1, h.2⟩
      · simp only [assign, hb, if_false, List.map_cons, List.nodup_cons, mem_names_assign]
        exact ⟨fun found => found.elim False.elim h.1, ih h.2⟩

end Binding

/-- Variables in the order of first assignment, each name once. -/
structure Variables where
  bindings : List Binding
  distinct : (bindings.map Prod.fst).Nodup
deriving DecidableEq

namespace Variables

/-- No variables. -/
def empty : Variables := ⟨[], List.nodup_nil⟩

instance : Inhabited Variables := ⟨empty⟩

/-- The variables with their values, in order. -/
def toList (store : Variables) : List Binding := store.bindings

/-- Give a name a value. -/
def set (store : Variables) (name : String) (value : Option String) : Variables :=
  ⟨Binding.assign name value store.bindings, Binding.nodup_assign name value store.distinct⟩

/-- The value of a name that is set. -/
def value? (store : Variables) (name : String) : Option (Option String) :=
  Binding.lookup name store.bindings

/-- The value of a name, or a default if the name is not set. -/
def get (store : Variables) (name : String) (default : Option String := none) :
    Option String :=
  (store.value? name).getD default

/-- A name is set, be its value known or not. -/
def has (store : Variables) (name : String) : Bool :=
  (store.value? name).isSome

/-- A store contains the names that are set. -/
instance : Membership String Variables := ⟨fun store name => store.has name = true⟩

instance (store : Variables) (name : String) : Decidable (name ∈ store) :=
  inferInstanceAs (Decidable (store.has name = true))

/-- The names in order of first assignment. -/
def names (store : Variables) : List String :=
  store.bindings.map Prod.fst

/-- Iterating over a store visits its names, binding by binding. -/
instance {m : Type → Type} [Monad m] : ForIn m Variables String :=
  ⟨fun store init body => forIn store.bindings init fun binding => body binding.1⟩

/-- The number of names. -/
def size (store : Variables) : Nat :=
  store.bindings.length

/-- Assign several names one after another. -/
def setAll (store : Variables) (bindings : List Binding) : Variables :=
  bindings.foldl (fun store binding => store.set binding.1 binding.2) store

/-- The variables that a list of bindings gives, the last value of a name in its first place. -/
def ofList (bindings : List Binding) : Variables :=
  empty.setAll bindings

/-- Take over a mapping written as a list: a name that occurs twice in it has its last value. -/
def update (store : Variables) (bindings : List Binding) : Variables :=
  store.setAll (ofList bindings).bindings

/-- Two stores hold the same names with the same values, in whatever order. -/
def agree (a b : Variables) : Bool :=
  a.size == b.size && a.bindings.all fun binding => b.value? binding.1 == some binding.2

@[simp] theorem toList_set (store : Variables) (name : String) (value : Option String) :
    (store.set name value).toList = Binding.assign name value store.toList := rfl

end Variables

/-! ## Families of stores -/

/-- A change to one store of a family, or a copy that joins the family. -/
inductive StoreCommand where
  | set (index : Nat) (name : String) (value : Option String)
  | update (index : Nat) (bindings : List Binding)
  | copy (index : Nat)
deriving DecidableEq, Repr

/-- Carry out a command on a family of stores; a store that does not exist is left alone. -/
def StoreCommand.apply (stores : List Variables) : StoreCommand → List Variables
  | .set index name value => stores.modify index fun store => store.set name value
  | .update index bindings => stores.modify index fun store => store.update bindings
  | .copy index =>
    match stores[index]? with
    | some store => stores ++ [store]
    | none => stores

/-- Carry out commands one after another. -/
def StoreCommand.applyAll (stores : List Variables) (commands : List StoreCommand) :
    List Variables :=
  commands.foldl apply stores

end MailScript
