import MailScript.Failure

/-! # Results and what they are made of

A result that is put together from others ends as its parts do. A result that can be computed is told
by its value, or by what can be read off its fault. -/

namespace MailScript

section

variable {ε α β : Type} {result : Except ε α}

/-- A result with a value is known by the value. -/
theorem eq_ok_of_toOption {x : α} (h : result.toOption = some x) : result = .ok x := by
  cases result with
  | error e => cases h
  | ok y => exact congrArg Except.ok (Option.some.inj h)

/-- A result that has been composed has a value only if both of its parts have. -/
theorem ok_of_bind {next : α → Except ε β} {y : β} (h : (result >>= next) = .ok y) :
    ∃ x, result = .ok x ∧ next x = .ok y := by
  cases result with
  | error e => cases h
  | ok x => exact ⟨x, rfl, h⟩

/-- A result that has been composed ends with an error of one of its parts. -/
theorem error_of_bind {next : α → Except ε β} {e : ε} (h : (result >>= next) = .error e) :
    result = .error e ∨ ∃ x, result = .ok x ∧ next x = .error e := by
  cases result with
  | error other => exact .inl (congrArg Except.error (Except.error.inj h))
  | ok x => exact .inr ⟨x, rfl, h⟩

/-- A result that has been mapped has a value only if it had one before. -/
theorem ok_of_map {f : α → β} {y : β} (h : result.map f = .ok y) :
    ∃ x, result = .ok x ∧ f x = y := by
  cases result with
  | error e => cases h
  | ok x => exact ⟨x, rfl, Except.ok.inj h⟩

/-- A result that has been mapped keeps its error. -/
theorem error_of_map {f : α → β} {e : ε} (h : result.map f = .error e) : result = .error e := by
  cases result with
  | error other => exact congrArg Except.error (Except.error.inj h)
  | ok x => cases h

/-- A result whose errors have been mapped has an error only if it had one before. -/
theorem error_of_mapError {ε' : Type} {f : ε → ε'} {e : ε'} (h : result.mapError f = .error e) :
    ∃ other, result = .error other ∧ f other = e := by
  cases result with
  | error other => exact ⟨other, rfl, Except.error.inj h⟩
  | ok x => cases h

/-- Results taken one after another are all values, or one of them is the first error. -/
theorem mapM_cases (f : α → Except ε β) (xs : List α) :
    (∃ ys, xs.mapM f = .ok ys ∧ xs.map f = ys.map .ok) ∨
      ∃ x ∈ xs, ∃ e, f x = .error e ∧ xs.mapM f = .error e := by
  induction xs with
  | nil => exact .inl ⟨[], rfl, rfl⟩
  | cons x rest ih =>
      rw [List.mapM_cons]
      cases hx : f x with
      | error e => exact .inr ⟨x, List.mem_cons_self, e, hx, rfl⟩
      | ok y =>
          rcases ih with ⟨ys, hys, hmap⟩ | ⟨later, hlater, e, he, hrest⟩
          · rw [hys]
            exact .inl ⟨y :: ys, rfl, by rw [List.map_cons, List.map_cons, hx, hmap]⟩
          · rw [hrest]
            exact .inr ⟨later, List.mem_cons_of_mem x hlater, e, he, rfl⟩

end

/-- The fault that a result is, if it is one. -/
def faultOf? {α : Type} : Except Fault α → Option Fault
  | .ok _ => none
  | .error fault => some fault

theorem eq_error_of_faultOf? {α β : Type} {result : Except Fault α} {f : Fault → β} {x : β}
    (h : (faultOf? result).map f = some x) : ∃ fault, result = .error fault ∧ f fault = x := by
  cases result with
  | ok _ => cases h
  | error fault => exact ⟨fault, rfl, Option.some.inj h⟩

end MailScript
