import MailScript.Variables

/-! # What assignments leave

A name that is assigned has the value that it was given last. It has its place from its first
assignment, so the names that a store holds stay in front of those that are new. -/

namespace MailScript

namespace Binding

theorem lookup_assign (name other : String) (value : Option String) (bindings : List Binding) :
    lookup other (assign name value bindings) =
      if name = other then some value else lookup other bindings := by
  induction bindings with
  | nil => rfl
  | cons binding rest ih =>
      by_cases hname : binding.1 = name
      · simp only [assign, hname, if_true, lookup]
        split <;> rfl
      · simp only [assign, hname, if_false, lookup, ih]
        by_cases hother : binding.1 = other
        · rw [if_pos hother, if_pos hother, if_neg fun hsame => hname (hother.trans hsame.symm)]
        · rw [if_neg hother, if_neg hother]

theorem names_assign (name : String) (value : Option String) (bindings : List Binding) :
    (assign name value bindings).map Prod.fst =
      if name ∈ bindings.map Prod.fst then bindings.map Prod.fst
      else bindings.map Prod.fst ++ [name] := by
  induction bindings with
  | nil => simp [assign]
  | cons binding rest ih =>
      by_cases hname : binding.1 = name
      · simp [assign, hname]
      · simp only [assign, hname, if_false, List.map_cons, ih, List.mem_cons, Ne.symm hname,
          false_or]
        split <;> simp

theorem mem_of_lookup {name : String} {value : Option String} {bindings : List Binding}
    (h : lookup name bindings = some value) : (name, value) ∈ bindings := by
  induction bindings with
  | nil => cases h
  | cons binding rest ih =>
      rw [lookup] at h
      split at h
      · rename_i hname
        simp [← hname, ← Option.some.inj h]
      · exact List.mem_cons_of_mem binding (ih h)

end Binding

namespace Variables

theorem mem_of_get {store : Variables} {name value : String} (h : store.get name = some value) :
    (name, some value) ∈ store.toList := by
  apply Binding.mem_of_lookup
  rw [get, value?] at h
  cases hvalue : Binding.lookup name store.bindings with
  | none => simp [hvalue] at h
  | some found => simpa [toList, hvalue] using h

theorem value?_set (store : Variables) (name other : String) (value : Option String) :
    (store.set name value).value? other =
      if name = other then some value else store.value? other :=
  Binding.lookup_assign name other value store.bindings

theorem names_set (store : Variables) (name : String) (value : Option String) :
    (store.set name value).names =
      if name ∈ store.names then store.names else store.names ++ [name] :=
  Binding.names_assign name value store.bindings

@[simp] theorem setAll_nil (store : Variables) : store.setAll [] = store := rfl

theorem setAll_cons (store : Variables) (binding : Binding) (rest : List Binding) :
    store.setAll (binding :: rest) = (store.set binding.1 binding.2).setAll rest := rfl

theorem setAll_append (store : Variables) (front back : List Binding) :
    store.setAll (front ++ back) = (store.setAll front).setAll back :=
  List.foldl_append

/-- A name that is not assigned keeps its value. -/
theorem value?_setAll_of_not_mem {name : String} {bindings : List Binding}
    (h : name ∉ bindings.map Prod.fst) (store : Variables) :
    (store.setAll bindings).value? name = store.value? name := by
  induction bindings generalizing store with
  | nil => rfl
  | cons binding rest ih =>
      rw [List.map_cons, List.mem_cons, not_or] at h
      rw [setAll_cons, ih h.2, value?_set, if_neg (Ne.symm h.1)]

/-- Names keep their places, and new ones follow in the order of their first assignment. -/
theorem names_setAll (store : Variables) (bindings : List Binding) :
    (store.setAll bindings).names =
      store.names ++ ((bindings.map Prod.fst).filter (· ∉ store.names)).eraseDups := by
  induction bindings generalizing store with
  | nil => simp
  | cons binding rest ih =>
      rw [setAll_cons, ih, names_set]
      by_cases hname : binding.1 ∈ store.names
      · simp [hname]
      · -- What is new behind the first name is new in front of it and another name.
        simp [hname, List.eraseDups_cons, List.filter_filter, Bool.and_comm,
          Bool.beq_eq_decide_eq]

/-- What assigning names one after another does to a store. -/
structure Assigns (bindings : List Binding) (before after : Variables) : Prop where
  names : after.names =
    before.names ++ ((bindings.map Prod.fst).filter (· ∉ before.names)).eraseDups
  last : ∀ front binding back, bindings = front ++ binding :: back →
    binding.1 ∉ back.map Prod.fst → after.value? binding.1 = some binding.2
  others : ∀ name ∉ bindings.map Prod.fst, after.value? name = before.value? name

theorem assigns_setAll (store : Variables) (bindings : List Binding) :
    Assigns bindings store (store.setAll bindings) where
  names := names_setAll store bindings
  last := by
    rintro front binding back rfl hback
    rw [setAll_append, setAll_cons, value?_setAll_of_not_mem hback, value?_set, if_pos rfl]
  others _ hname := value?_setAll_of_not_mem hname store

end Variables

end MailScript
