import Mathlib.Data.List.Induction
import Mathlib.Data.List.Perm.Subperm
import MailScript.Proofs.Variables

/-! # What a store holds

A store is known by its names in order and their values. So it does not matter whether a mapping is
taken over as it was written, or with each of its names once. Two stores agree if they hold the same
names with the same values, in whatever order. -/

namespace MailScript

/-! ## Lists without repetitions -/

section

variable {α : Type} [BEq α] [LawfulBEq α]

theorem eraseDups_of_nodup {xs : List α} (h : xs.Nodup) : xs.eraseDups = xs := by
  induction xs with
  | nil => rfl
  | cons x rest ih =>
      rw [List.nodup_cons] at h
      have hothers : rest.filter (fun other => !other == x) = rest := by
        refine List.filter_eq_self.mpr fun other hother => ?_
        have hne : other ≠ x := fun hsame => h.1 (hsame ▸ hother)
        simpa using hne
      rw [List.eraseDups_cons, hothers, ih h.2]

theorem filter_eraseDups (p : α → Bool) (xs : List α) :
    xs.eraseDups.filter p = (xs.filter p).eraseDups := by
  match xs with
  | [] => rfl
  | x :: rest =>
      have hshorter : (rest.filter fun other => !other == x).length < rest.length + 1 :=
        Nat.lt_succ_of_le (List.length_filter_le _ rest)
      rw [List.eraseDups_cons, List.filter_cons, List.filter_cons, filter_eraseDups p,
        List.filter_filter]
      by_cases hx : p x = true
      · rw [if_pos hx, if_pos hx, List.eraseDups_cons, List.filter_filter]
        simp only [Bool.and_comm]
      · -- What passes is different from the first element anyway.
        rw [if_neg hx, if_neg hx]
        refine congrArg List.eraseDups (List.filter_congr fun other _ => ?_)
        by_cases hsame : other = x
        · simp [hsame, hx]
        · simp [hsame]
termination_by xs.length

end

/-! ## Bindings -/

namespace Binding

theorem lookup_of_mem {name : String} {value : Option String} {bindings : List Binding}
    (hdistinct : (bindings.map Prod.fst).Nodup) (h : (name, value) ∈ bindings) :
    lookup name bindings = some value := by
  induction bindings with
  | nil => cases h
  | cons binding rest ih =>
      rw [List.map_cons, List.nodup_cons] at hdistinct
      rcases List.mem_cons.mp h with rfl | h
      · exact if_pos rfl
      · have hname : binding.1 ≠ name :=
          fun hsame => hdistinct.1 (hsame ▸ List.mem_map_of_mem h)
        rw [lookup, if_neg hname, ih hdistinct.2 h]

theorem isSome_lookup (name : String) (bindings : List Binding) :
    (lookup name bindings).isSome ↔ name ∈ bindings.map Prod.fst := by
  induction bindings with
  | nil => simp [lookup]
  | cons binding rest ih =>
      rw [List.map_cons, List.mem_cons, ← ih, lookup]
      by_cases hname : binding.1 = name
      · simp [hname]
      · simp [hname, Ne.symm hname]

theorem assign_of_not_mem {name : String} {bindings : List Binding}
    (h : name ∉ bindings.map Prod.fst) (value : Option String) :
    assign name value bindings = bindings ++ [(name, value)] := by
  induction bindings with
  | nil => rfl
  | cons binding rest ih =>
      rw [List.map_cons, List.mem_cons, not_or] at h
      rw [assign, if_neg (Ne.symm h.1), ih h.2, List.cons_append]

end Binding

namespace Variables

/-! ## Names and values -/

theorem nodup_names (store : Variables) : store.names.Nodup := store.distinct

theorem size_eq (store : Variables) : store.size = store.names.length :=
  (List.length_map Prod.fst).symm

theorem has_iff (store : Variables) (name : String) :
    store.has name = true ↔ name ∈ store.names :=
  Binding.isSome_lookup name store.bindings

theorem forIn_eq {m : Type → Type} [Monad m] [LawfulMonad m] {β : Type} (store : Variables)
    (init : β) (body : String → β → m (ForInStep β)) :
    forIn store init body = forIn store.names init body :=
  List.forIn_map.symm

theorem value?_of_mem {store : Variables} {binding : Binding} (h : binding ∈ store.toList) :
    store.value? binding.1 = some binding.2 :=
  Binding.lookup_of_mem store.distinct h

theorem eq_of_toList {a b : Variables} (h : a.toList = b.toList) : a = b := by
  cases a
  cases b
  cases h
  rfl

theorem toList_eq_map (store : Variables) :
    store.toList = store.names.map fun name => (name, (store.value? name).getD none) := by
  rw [names, List.map_map]
  refine (List.map_id store.toList).symm.trans (List.map_congr_left fun binding h => ?_)
  simp [value?_of_mem h]

/-- A store is known by its names, in order, and their values. -/
theorem eq_of_value? {a b : Variables} (hnames : a.names = b.names)
    (hvalues : ∀ name, a.value? name = b.value? name) : a = b := by
  apply eq_of_toList
  rw [toList_eq_map, toList_eq_map, hnames]
  simp only [hvalues]

/-! ## Taking over bindings -/

/-- New names, each given once, are put behind what is there. -/
theorem toList_setAll {bindings : List Binding} {store : Variables}
    (h : (store.names ++ bindings.map Prod.fst).Nodup) :
    (store.setAll bindings).toList = store.toList ++ bindings := by
  induction bindings generalizing store with
  | nil => simp
  | cons binding rest ih =>
      have hnew : binding.1 ∉ store.names :=
        fun hmem => (List.nodup_append.mp h).2.2 _ hmem _ (by simp) rfl
      have hset : (store.set binding.1 binding.2).toList = store.toList ++ [binding] :=
        Binding.assign_of_not_mem hnew binding.2
      have hrest : ((store.set binding.1 binding.2).names ++ rest.map Prod.fst).Nodup := by
        rw [names_set, if_neg hnew]
        simpa using h
      rw [setAll_cons, ih hrest, hset]
      simp

@[simp] theorem ofList_toList (store : Variables) : ofList store.toList = store :=
  eq_of_toList (toList_setAll store.distinct)

theorem names_ofList (bindings : List Binding) :
    (ofList bindings).names = (bindings.map Prod.fst).eraseDups := by
  have hnew : (bindings.map Prod.fst).filter (· ∉ empty.names) = bindings.map Prod.fst :=
    List.filter_eq_self.mpr (by simp [names, empty])
  rw [ofList, names_setAll, hnew]
  rfl

/-- A name has its value from the assignments, or else from the store. -/
theorem value?_setAll (store : Variables) (bindings : List Binding) (name : String) :
    (store.setAll bindings).value? name =
      ((ofList bindings).value? name).or (store.value? name) := by
  induction bindings using List.reverseRecOn with
  | nil => rfl
  | append_singleton bindings binding ih =>
      rw [ofList, setAll_append, setAll_append, setAll_cons, setAll_cons, setAll_nil, setAll_nil,
        value?_set, value?_set, ih]
      by_cases hname : binding.1 = name
      · rw [if_pos hname, if_pos hname, Option.some_or]
      · rw [if_neg hname, if_neg hname, ofList]

/-- Taking over a mapping assigns its names in the order in which they are written. -/
theorem update_eq_setAll (store : Variables) (bindings : List Binding) :
    store.update bindings = store.setAll bindings := by
  let mapping := ofList bindings
  let isNew := fun name => decide (name ∉ store.names)
  apply eq_of_value?
  · have hnew : (mapping.names.filter isNew).eraseDups =
        ((bindings.map Prod.fst).filter isNew).eraseDups := by
      rw [eraseDups_of_nodup (mapping.nodup_names.filter isNew), ← filter_eraseDups,
        ← names_ofList]
    calc (store.update bindings).names
        = store.names ++ (mapping.names.filter isNew).eraseDups := names_setAll store _
      _ = store.names ++ ((bindings.map Prod.fst).filter isNew).eraseDups := by rw [hnew]
      _ = (store.setAll bindings).names := (names_setAll store bindings).symm
  · intro name
    calc (store.update bindings).value? name
        = ((ofList mapping.toList).value? name).or (store.value? name) := value?_setAll store _ name
      _ = (mapping.value? name).or (store.value? name) := by rw [ofList_toList]
      _ = (store.setAll bindings).value? name := (value?_setAll store bindings name).symm

/-! ## Agreement -/

/-- Stores agree if they hold the same names with the same values, in whatever order. -/
theorem agree_iff (a b : Variables) :
    a.agree b = true ↔ (∀ name, name ∈ a.names ↔ name ∈ b.names) ∧
      ∀ name ∈ a.names, ∀ default, a.get name default = b.get name default := by
  rw [agree, Bool.and_eq_true, beq_iff_eq, List.all_eq_true]
  simp only [beq_iff_eq]
  constructor
  · rintro ⟨hsize, hbindings⟩
    have hvalue : ∀ name ∈ a.names, a.value? name = b.value? name := by
      intro name hname
      obtain ⟨binding, hbinding, rfl⟩ := List.mem_map.mp hname
      rw [hbindings binding hbinding, value?_of_mem hbinding]
    have hnames : a.names ⊆ b.names := by
      intro name hname
      have ha := (a.has_iff name).mpr hname
      rw [← b.has_iff name, has, ← hvalue name hname]
      exact ha
    -- Each name of the first store is one of the second, and there are no more of these.
    have hperm : a.names.Perm b.names := by
      refine (a.nodup_names.subperm hnames).perm_of_length_le (Nat.le_of_eq ?_)
      rw [← size_eq, ← size_eq, hsize]
    refine ⟨fun name => hperm.mem_iff, fun name hname default => ?_⟩
    rw [get, get, hvalue name hname]
  · rintro ⟨hnames, hvalues⟩
    have hperm : a.names.Perm b.names :=
      (List.perm_ext_iff_of_nodup a.nodup_names b.nodup_names).mpr hnames
    refine ⟨by rw [size_eq, size_eq, hperm.length_eq], fun binding hbinding => ?_⟩
    have hname : binding.1 ∈ a.names := List.mem_map_of_mem hbinding
    obtain ⟨value, hvalue⟩ := Option.isSome_iff_exists.mp
      ((b.has_iff binding.1).mpr ((hnames _).mp hname))
    have hget := hvalues binding.1 hname none
    rw [get, get, value?_of_mem hbinding, hvalue] at hget
    rw [hvalue]
    exact congrArg some hget.symm

end Variables

end MailScript
