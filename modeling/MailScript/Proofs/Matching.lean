import MailScript.Matching
import MailScript.Proofs.Results

/-! # Faults of matching

Matching a line may fail because of the pattern, but never with a failure of the harness. -/

namespace MailScript

/-- A fault that is no failure of the harness. -/
def Fault.Foreign (fault : Fault) : Prop :=
  ∀ failure, fault ≠ .failure failure

theorem Fault.failure_or_foreign (fault : Fault) :
    (∃ failure, fault = .failure failure) ∨ fault.Foreign := by
  cases fault with
  | failure cause => exact .inl ⟨cause, rfl⟩
  | _ => exact .inr nofun

theorem foreign_of_readPattern {source : String} {fault : Fault}
    (h : readPattern source = .error fault) : fault.Foreign := by
  intro failure hf
  subst hf
  unfold readPattern at h
  split at h <;> simp at h

theorem foreign_of_captures {pattern : Pattern} {line : String} {names : List String}
    {fault : Fault} (h : pattern.captures line names = .error fault) : fault.Foreign := by
  intro failure hf
  subst hf
  simp only [Pattern.captures] at h
  split at h <;> simp at h

theorem foreign_of_matchLine {source line : String} {names : List String} {fault : Fault}
    (h : matchLine source line names = .error fault) : fault.Foreign := by
  rcases error_of_bind h with hread | ⟨pattern, -, hrest⟩
  · exact foreign_of_readPattern hread
  · rcases error_of_bind hrest with hcaptures | ⟨bindings, -, hfound⟩
    · exact foreign_of_captures hcaptures
    · cases hfound

theorem foreign_of_accepts {source line : String} {fault : Fault}
    (h : accepts source line = .error fault) : fault.Foreign := by
  rcases error_of_bind h with hread | ⟨pattern, -, hmatches⟩
  · exact foreign_of_readPattern hread
  · cases hmatches

theorem foreign_of_takeAccepting {line : String} {patterns : List String} {fault : Fault}
    (h : takeAccepting accepts line patterns = .error fault) : fault.Foreign := by
  induction patterns with
  | nil => cases h
  | cons pattern rest ih =>
      unfold takeAccepting at h
      rcases error_of_bind h with haccepts | ⟨accepted, -, hrest⟩
      · exact foreign_of_accepts haccepts
      · cases accepted with
        | true => cases hrest
        | false =>
            rcases error_of_bind hrest with hlater | ⟨found, -, hfound⟩
            · exact ih hlater
            · cases hfound

end MailScript
