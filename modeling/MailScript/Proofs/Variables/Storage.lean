import MailScript.Variables.Storage

/-! # Tables that are not shared

No command makes two stores refer to one table, so what is written to one store is seen in no other,
and the tables hold what the stores of a family are when each is a value of its own. -/

namespace MailScript.Storage

/-- The tables hold the stores of a family, and no two stores refer to one table. -/
structure Holds (storage : Storage) (family : List Variables) : Prop where
  unshared : storage.places.Nodup
  tables : storage.places.map (fun place => storage.tables[place]?) = family.map some

namespace Holds

variable {storage : Storage} {family : List Variables}

theorem length_places (h : storage.Holds family) : storage.places.length = family.length := by
  simpa using congrArg List.length h.tables

/-- The table of a store holds the store. -/
theorem getElem?_tables (h : storage.Holds family) {index place : Nat}
    (hplace : storage.places[index]? = some place) :
    storage.tables[place]? = family[index]? := by
  have hindex := congrArg (·[index]?) h.tables
  simp only [List.getElem?_map, hplace, Option.map_some] at hindex
  cases hstore : family[index]? with
  | none => simp [hstore] at hindex
  | some store => simpa [hstore] using hindex

theorem read (h : storage.Holds family) (index : Nat) : storage.read index = family[index]? := by
  rw [Storage.read]
  cases hplace : storage.places[index]? with
  | none =>
      rw [List.getElem?_eq_none_iff, h.length_places] at hplace
      exact (List.getElem?_eq_none hplace).symm
  | some place => exact h.getElem?_tables hplace

theorem lt_length (h : storage.Holds family) {place : Nat} (hplace : place ∈ storage.places) :
    place < storage.tables.length := by
  have htable : storage.tables[place]? ∈ family.map some := h.tables ▸ List.mem_map_of_mem hplace
  obtain ⟨store, -, hstore⟩ := List.mem_map.mp htable
  exact (List.getElem?_eq_some_iff.mp hstore.symm).1

theorem of_getElem? (hunshared : storage.places.Nodup)
    (hlength : storage.places.length = family.length)
    (htables : ∀ index place : Nat, storage.places[index]? = some place →
      storage.tables[place]? = family[index]?) : storage.Holds family where
  unshared := hunshared
  tables := by
    apply List.ext_getElem?
    intro index
    rw [List.getElem?_map, List.getElem?_map]
    cases hplace : storage.places[index]? with
    | none =>
        rw [List.getElem?_eq_none_iff, hlength] at hplace
        rw [List.getElem?_eq_none hplace]
        rfl
    | some place =>
        have hindex : index < family.length := hlength ▸ (List.getElem?_eq_some_iff.mp hplace).1
        rw [Option.map_some, htables index place hplace, List.getElem?_eq_getElem hindex]
        rfl

/-! ## One command -/

/-- Writing to the table of a store changes this store and no other. -/
theorem set (h : storage.Holds family) (index : Nat) (binding : Binding) :
    (storage.set index binding).Holds
      (family.modify index fun store => store.set binding.1 binding.2) := by
  rw [Storage.set]
  cases hplace : storage.places[index]? with
  | none =>
      rw [List.getElem?_eq_none_iff, h.length_places] at hplace
      rwa [List.modify_eq_self hplace]
  | some place =>
      have hindex : index < storage.places.length := (List.getElem?_eq_some_iff.mp hplace).1
      have hlength : storage.places.length =
          (family.modify index fun store => store.set binding.1 binding.2).length :=
        h.length_places.trans (List.length_modify _ _ _).symm
      refine of_getElem? h.unshared hlength fun other otherPlace hother => ?_
      change storage.places[other]? = some otherPlace at hother
      have hshared : place = otherPlace ↔ index = other := by
        rw [← List.getElem?_inj hindex h.unshared, hplace, hother, Option.some_inj]
      simp only [List.getElem?_modify, h.getElem?_tables hother, hshared]

theorem setAll (h : storage.Holds family) (index : Nat) (bindings : List Binding) :
    (bindings.foldl (Storage.set index) storage).Holds
      (family.modify index fun store => store.setAll bindings) := by
  induction bindings generalizing storage family with
  | nil =>
      have hsame : (family.modify index fun store => store.setAll []) = family :=
        List.modify_id index family
      rwa [hsame]
  | cons binding rest ih =>
      have hrest := ih (h.set index binding)
      rwa [List.modify_modify_eq] at hrest

/-- The table of a copy is one that no store referred to before. -/
theorem copy (h : storage.Holds family) (index : Nat) :
    (storage.copy index).Holds (StoreCommand.apply family (.copy index)) := by
  rw [Storage.copy, h.read, StoreCommand.apply]
  cases hstore : family[index]? with
  | none => exact h
  | some store =>
      have hfresh : ∀ place ∈ storage.places, place ≠ storage.tables.length :=
        fun place hplace => Nat.ne_of_lt (h.lt_length hplace)
      have hkept : storage.places.map (fun place => (storage.tables ++ [store])[place]?) =
          family.map some := by
        rw [← h.tables]
        exact List.map_congr_left fun place hplace => List.getElem?_append_left (h.lt_length hplace)
      refine ⟨?_, by simp [hkept]⟩
      simpa [List.nodup_append] using ⟨h.unshared, hfresh⟩

theorem perform (h : storage.Holds family) (command : StoreCommand) :
    (storage.perform command).Holds (command.apply family) := by
  cases command with
  | set index name value => exact h.set index (name, value)
  | update index bindings => exact h.setAll index (Variables.ofList bindings).toList
  | copy index => exact h.copy index

/-! ## Runs -/

theorem performAll (h : storage.Holds family) (commands : List StoreCommand) :
    (storage.performAll commands).Holds (StoreCommand.applyAll family commands) := by
  induction commands generalizing storage family with
  | nil => exact h
  | cons command rest ih => exact ih (h.perform command)

end Holds

theorem holds_ofStores (stores : List Variables) : (ofStores stores).Holds stores :=
  .of_getElem? List.nodup_range List.length_range fun index place hplace => by
    have hindex : index < stores.length := by
      simpa [ofStores] using (List.getElem?_eq_some_iff.mp hplace).1
    rw [ofStores, List.getElem?_range hindex] at hplace
    rw [Option.some.inj hplace]
    rfl

end MailScript.Storage
