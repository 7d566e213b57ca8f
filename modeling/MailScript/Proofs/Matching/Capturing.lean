import MailScript.Proofs.Conversation.Captures

/-! # What a pattern captures from a line

The names in front of a pattern and its occurrences in a line are gone through side by side, until
either runs out. What is assigned on the way stays assigned, whether the whole line matches or not. -/

namespace MailScript

/-! ## Names and occurrences side by side -/

/-- What names are bound to: each to the first group of the occurrence beside it. -/
def Pattern.bindings (pattern : Pattern) (line : String) (names : List String) : List Binding :=
  names.zip ((pattern.occurrences line).map fun occurrence => occurrence.group? line 1)

namespace Pattern

variable (pattern : Pattern) (line : String) (names : List String)

theorem length_bindings :
    (pattern.bindings line names).length = min (pattern.occurrences line).length names.length := by
  simp [bindings, Nat.min_comm]

theorem bindings_eq_map_zip :
    pattern.bindings line names =
      ((pattern.occurrences line).zip names).map fun pair => (pair.2, pair.1.group? line 1) := by
  rw [bindings, List.zip_eq_zipWith, List.zipWith_map_right, List.zipWith_comm,
    List.map_zip_eq_zipWith]
  rfl

variable {pattern line names}

theorem captures_eq_ok
    (h : pattern.groups ≠ 0 ∨ names = [] ∨ pattern.occurrences line = []) :
    pattern.captures line names = .ok (pattern.bindings line names) := by
  rw [captures, bindings_eq_map_zip]
  refine if_neg ?_
  rintro ⟨hgroups, hpairs⟩
  rcases h with h | rfl | h
  · exact h hgroups
  · exact hpairs List.zip_nil_right
  · exact hpairs (by rw [h, List.zip_nil_left])

theorem captures_eq_error (hgroups : pattern.groups = 0) (hnames : names ≠ [])
    (hoccurs : pattern.occurrences line ≠ []) :
    pattern.captures line names = .error .noGroup := by
  rw [captures]
  exact if_pos ⟨hgroups, by simp [List.zip_eq_nil_iff, hnames, hoccurs]⟩

end Pattern

section

variable {source : String} {pattern : Pattern}

theorem capture_eq (h : Pattern.parse source = .ok pattern) (line : String)
    (names : List String) : capture source line names = pattern.captures line names := by
  rw [capture, readPattern_of_parse h]
  rfl

theorem matchLine_eq (h : Pattern.parse source = .ok pattern) (line : String)
    (names : List String) :
    matchLine source line names =
      (pattern.captures line names).map fun bindings => ⟨bindings, pattern.fullMatches line⟩ := by
  rw [matchLine, readPattern_of_parse h]
  change (pattern.captures line names >>= fun bindings => _) = _
  cases pattern.captures line names <;> rfl

theorem accepts_eq (h : Pattern.parse source = .ok pattern) (line : String) :
    accepts source line = .ok (pattern.fullMatches line) := by
  rw [accepts, readPattern_of_parse h]
  rfl

end

/-! ## Lines of a conversation -/

namespace Conversation

variable {World : Type} {source line : String} {names : List String}

theorem exec_checkResponse_of_error {fault : Fault} (h : matchLine source line names = .error fault)
    (conversation : Conversation World) (index : Nat) (origin : Origin) (state : State World) :
    (conversation.checkResponse index source origin names line).exec state =
      (.error fault, state) := by
  rw [checkResponse, h]
  rfl

/-- A line that is held against a pattern assigns what it captures, also if it is a mismatch that
ends the conversation. -/
theorem store_checkResponse {found : LineMatch} (h : matchLine source line names = .ok found)
    (conversation : Conversation World) (index : Nat) (origin : Origin) (state : State World) :
    ((conversation.checkResponse index source origin names line).exec state).2.store =
      state.store.setAll found.captured := by
  obtain ⟨world, hassign⟩ := exec_forM_assign conversation found.captured
    (state.enter (.captured index found.captured))
  rw [checkResponse, h]
  dsimp only
  rw [exec_bind_ok (exec_enter ..), exec_bind_ok hassign]
  by_cases haccepted : found.accepted
  · rw [if_pos haccepted]
    rfl
  · rw [if_neg haccepted]
    by_cases hkeep : conversation.keepGoing
    · rw [exec_report_tolerant hkeep]
      rfl
    · rw [exec_report_strict hkeep]
      rfl

end Conversation

/-! ## Capturing -/

/-- A pattern binds the names in front of it, in order, to the first groups of its occurrences in a
line, as many as there are of both. Assigning them changes no other variable, and each of them has the
value that it was bound to last. The answer to whether the whole line matches is the same for all
names, and whatever it is, the line assigns what it captures. Only a pattern without groups that is to
capture and occurs ends with a fault, and then it assigns nothing. -/
theorem matchLine_captures {source : String} {pattern : Pattern}
    (h : Pattern.parse source = .ok pattern) (line : String) (names : List String) :
    let occurrences := pattern.occurrences line
    let bindings := pattern.bindings line names
    bindings.length = min occurrences.length names.length ∧
      (∀ store : Variables, store.Assigns bindings (store.setAll bindings)) ∧
      accepts source line = .ok (pattern.fullMatches line) ∧
      (pattern.groups ≠ 0 ∨ names = [] ∨ occurrences = [] →
        capture source line names = .ok bindings ∧
        matchLine source line names = .ok ⟨bindings, pattern.fullMatches line⟩ ∧
        ∀ {World : Type} (conversation : Conversation World) (index : Nat) (origin : Origin)
          (state : Conversation.State World),
          ((conversation.checkResponse index source origin names line).exec state).2.store =
            state.store.setAll bindings) ∧
      (pattern.groups = 0 → names ≠ [] → occurrences ≠ [] →
        capture source line names = .error .noGroup ∧
        matchLine source line names = .error .noGroup ∧
        ∀ {World : Type} (conversation : Conversation World) (index : Nat) (origin : Origin)
          (state : Conversation.State World),
          (conversation.checkResponse index source origin names line).exec state =
            (.error .noGroup, state)) := by
  intro occurrences bindings
  have hmatch := matchLine_eq h line names
  refine ⟨pattern.length_bindings line names, fun store => store.assigns_setAll bindings,
    accepts_eq h line, fun hgroups => ?_, fun hgroups hnames hoccurs => ?_⟩
  · have hcaptures : pattern.captures line names = .ok bindings := Pattern.captures_eq_ok hgroups
    rw [hcaptures] at hmatch
    refine ⟨(capture_eq h line names).trans hcaptures, hmatch, ?_⟩
    intro World conversation index origin state
    exact Conversation.store_checkResponse hmatch conversation index origin state
  · have hcaptures := Pattern.captures_eq_error hgroups hnames hoccurs
    rw [hcaptures] at hmatch
    refine ⟨(capture_eq h line names).trans hcaptures, hmatch, ?_⟩
    intro World conversation index origin state
    exact Conversation.exec_checkResponse_of_error hmatch conversation index origin state

/-- Of four occurrences three are captured, one of them without the group, and one name comes twice;
the line does not match. A pattern without a group occurs in a line. -/
theorem matchLine_captures_of_mismatch :
    let store := Variables.ofList [("u", some "old"), ("x", some "kept")]
    let bindings : List Binding := [("u", some "a"), ("w", none), ("u", some "c")]
    (∃ pattern, Pattern.parse "(a|c)|b" = .ok pattern ∧ pattern.groups ≠ 0 ∧
      (pattern.occurrences "abca").length = 4 ∧
      capture "(a|c)|b" "abca" ["u", "w", "u"] = .ok bindings ∧
      matchLine "(a|c)|b" "abca" ["u", "w", "u"] = .ok ⟨bindings, false⟩ ∧
      store.Assigns bindings (store.setAll bindings) ∧
      (store.setAll bindings).toList = [("u", some "c"), ("x", some "kept"), ("w", none)]) ∧
    ∃ pattern, Pattern.parse "a" = .ok pattern ∧ pattern.groups = 0 ∧
      pattern.occurrences "ba" ≠ [] ∧ matchLine "a" "ba" ["u"] = .error .noGroup := by
  intro store bindings
  obtain ⟨grouped, hgrouped, hnone, hlength, hbindings, hmatches⟩ :
      ∃ pattern, Pattern.parse "(a|c)|b" = .ok pattern ∧ pattern.groups ≠ 0 ∧
        (pattern.occurrences "abca").length = 4 ∧
        pattern.bindings "abca" ["u", "w", "u"] = bindings ∧
        pattern.fullMatches "abca" = false :=
    ⟨_, rfl, by decide +kernel, by decide +kernel, by decide +kernel, by decide +kernel⟩
  obtain ⟨plain, hplain, hgroups, hoccurs⟩ : ∃ pattern, Pattern.parse "a" = .ok pattern ∧
      pattern.groups = 0 ∧ pattern.occurrences "ba" ≠ [] :=
    ⟨_, rfl, by decide +kernel, by decide +kernel⟩
  have hfirst := matchLine_captures hgrouped "abca" ["u", "w", "u"]
  have hsecond := matchLine_captures hplain "ba" ["u"]
  simp only [hbindings, hmatches] at hfirst
  obtain ⟨-, hassigns, -, hcaptured, -⟩ := hfirst
  obtain ⟨hcapture, hmatch, -⟩ := hcaptured (.inl hnone)
  obtain ⟨-, -, -, -, hfault⟩ := hsecond
  obtain ⟨-, hnoGroup, -⟩ := hfault hgroups (by simp) hoccurs
  exact ⟨⟨grouped, hgrouped, hnone, hlength, hcapture, hmatch, hassigns store, by decide⟩,
    plain, hplain, hgroups, hoccurs, hnoGroup⟩

end MailScript
