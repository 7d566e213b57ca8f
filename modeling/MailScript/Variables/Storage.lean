import MailScript.Variables

/-! # Stores in memory

A store of a family refers to a table in memory, and assigning a name in the store writes to that
table. A copy refers to a new table, which starts with what the table of its original holds. -/

namespace MailScript

/-- Tables, and for each store of a family the place of the table that it refers to. -/
structure Storage where
  tables : List Variables
  places : List Nat
deriving DecidableEq

namespace Storage

/-- Stores that have been made one after another, each with its table. -/
def ofStores (stores : List Variables) : Storage :=
  ⟨stores, List.range stores.length⟩

/-- What the table of a store holds. -/
def read (storage : Storage) (index : Nat) : Option Variables :=
  storage.places[index]?.bind fun place => storage.tables[place]?

/-- Write a binding to the table of a store. -/
def set (index : Nat) (storage : Storage) (binding : Binding) : Storage :=
  match storage.places[index]? with
  | some place =>
    { storage with tables := storage.tables.modify place fun table => table.set binding.1 binding.2 }
  | none => storage

/-- Make a new store, with a table of its own, out of what the table of a store holds. -/
def copy (storage : Storage) (index : Nat) : Storage :=
  match storage.read index with
  | some table => ⟨storage.tables ++ [table], storage.places ++ [storage.tables.length]⟩
  | none => storage

/-- Carry out a command in memory, where an update writes one binding of its mapping at a time. -/
def perform (storage : Storage) : StoreCommand → Storage
  | .set index name value => storage.set index (name, value)
  | .update index bindings => (Variables.ofList bindings).toList.foldl (set index) storage
  | .copy index => storage.copy index

/-- Carry out commands in memory one after another. -/
def performAll (storage : Storage) (commands : List StoreCommand) : Storage :=
  commands.foldl perform storage

end Storage

end MailScript
