import MailScript.Template

/-! # Templates and their tokens

A text in which no token opens is sent as it is, whatever values are known. Otherwise what is sent
depends on the values of the names in the tokens only. -/

namespace MailScript.Template

theorem splitOpening_eq_none_iff {text : List Char} :
    splitOpening text = none ↔ ¬ opening <:+: text := by
  fun_induction splitOpening text with
  | case1 => simp [opening]
  | case2 rest => simpa [opening] using ⟨[], rest, rfl⟩
  | case3 c rest hopening ih =>
      have hstart : ¬ opening <+: c :: rest := by
        rintro ⟨behind, heq⟩
        cases heq
        exact hopening _ rfl rfl
      rw [Option.map_eq_none_iff, ih, List.infix_cons_iff, not_or]
      exact ⟨fun h => ⟨hstart, h⟩, And.right⟩

theorem fill_of_not_opening {template : String} (h : ¬ opening <:+: template.toList)
    (store : Variables) : fill template store = template := by
  have hopening : findOpening (template.toList.drop 0) = none := by
    rw [List.drop_zero, findOpening, splitOpening_eq_none_iff.mpr h, Option.map_none]
  unfold fill
  split
  · rfl
  · dsimp only
    rw [spliceFrom, hopening, String.ofList_toList]

/-! ## Names in tokens -/

/-- A token with a name stands in a template. -/
def Mentions (template name : String) : Prop :=
  opening ++ name.toList ++ ['\x7d'] <:+: template.toList

theorem eq_append_of_splitOpening {text before behind : List Char}
    (h : splitOpening text = some (before, behind)) : text = before ++ opening ++ behind := by
  induction text using splitOpening.induct generalizing before behind with
  | case1 => cases h
  | case2 rest =>
      rw [splitOpening] at h
      cases h
      rfl
  | case3 c rest hopening ih =>
      rw [splitOpening.eq_3 _ _ hopening, Option.map_eq_some_iff] at h
      obtain ⟨⟨before', behind'⟩, hrest, heq⟩ := h
      cases heq
      rw [ih hrest]
      rfl

theorem eq_append_of_splitClosing {text name behind : List Char}
    (h : splitClosing text = some (name, behind)) : text = name ++ '\x7d' :: behind := by
  induction text generalizing name with
  | nil => cases h
  | cons c rest ih =>
      rw [splitClosing] at h
      split at h
      · rename_i hclosing
        cases h
        rw [hclosing]
        rfl
      · obtain ⟨⟨name', behind'⟩, hrest, heq⟩ := Option.map_eq_some_iff.mp h
        cases heq
        rw [ih hrest]
        rfl

theorem drop_of_findOpening {text : List Char} {offset : Nat} (h : findOpening text = some offset) :
    opening <+: text.drop offset := by
  obtain ⟨⟨before, behind⟩, hsplit, rfl⟩ := Option.map_eq_some_iff.mp h
  rw [eq_append_of_splitOpening hsplit, List.append_assoc, List.drop_left]
  exact List.prefix_append _ _

/-- What is found between an opening and the next closing brace is a token. -/
theorem token_of_findClosing {text : List Char} {length : Nat} (hopening : opening <+: text)
    (hclosing : findClosing text = some length) :
    opening ++ (text.drop 2).take (length - 2) ++ ['\x7d'] <+: text := by
  obtain ⟨rest, rfl⟩ := hopening
  obtain ⟨⟨name, behind⟩, hsplit, rfl⟩ := Option.map_eq_some_iff.mp hclosing
  have hskip : splitClosing (opening ++ rest) =
      (splitClosing rest).map fun parts => (opening ++ parts.1, parts.2) := by
    simp [opening, splitClosing, Function.comp_def]
  rw [hskip, Option.map_eq_some_iff] at hsplit
  obtain ⟨⟨token, behind'⟩, hrest, heq⟩ := hsplit
  cases heq
  rw [eq_append_of_splitClosing hrest]
  simp [opening]

/-- Tokens are filled in alike if the values of their names are the same. -/
theorem spliceFrom_congr {lookup lookup' : String → Option String} (fuel : Nat) (text : List Char)
    (position : Nat)
    (h : ∀ name : String, opening ++ name.toList ++ ['\x7d'] <:+: text.drop position →
      lookup name = lookup' name) :
    spliceFrom lookup fuel text position = spliceFrom lookup' fuel text position := by
  induction fuel generalizing text position with
  | zero => rfl
  | succ fuel ih =>
      unfold spliceFrom
      cases hopening : findOpening (text.drop position) with
      | none => rfl
      | some offset =>
          dsimp only
          cases hclosing : findClosing (text.drop (position + offset)) with
          | none => rfl
          | some length =>
              dsimp only
              have hstart := drop_of_findOpening hopening
              rw [List.drop_drop] at hstart
              have htoken := token_of_findClosing hstart hclosing
              have hbehind (more : Nat) :
                  text.drop (position + offset + more) <:+: text.drop position := by
                rw [Nat.add_assoc, ← List.drop_drop]
                exact (List.drop_suffix _ _).isInfix
              generalize hfound : String.ofList ((text.drop (position + offset + 2)).take
                (position + offset + length - (position + offset + 2))) = found
              have hlookup : lookup found = lookup' found := by
                apply h
                rw [← hfound, String.toList_ofList, ← List.drop_drop, Nat.add_sub_add_left]
                exact htoken.isInfix.trans (hbehind 0)
              rw [hlookup]
              cases lookup' found with
              | none => exact ih _ _ fun name hname => h name (hname.trans (hbehind length))
              | some value =>
                  -- The text behind the value is that behind the token.
                  have hle : position + offset ≤ text.length := by
                    have hlength := hstart.length_le
                    rw [List.length_drop, opening] at hlength
                    simp only [List.length_cons] at hlength
                    omega
                  have hvalue : (text.take (position + offset) ++ value.toList).length =
                      position + offset + value.toList.length := by
                    rw [List.length_append, List.length_take_of_le hle]
                  refine ih _ _ fun name hname => h name ?_
                  rw [List.drop_left' hvalue] at hname
                  exact hname.trans (hbehind (length + 1))

theorem spliceFrom_none (fuel : Nat) (text : List Char) (position : Nat) :
    spliceFrom (fun _ => none) fuel text position = text := by
  induction fuel generalizing position with
  | zero => rfl
  | succ fuel ih =>
      unfold spliceFrom
      split
      · rfl
      · dsimp only
        split
        · rfl
        · exact ih _

theorem fill_eq (template : String) (store : Variables) :
    fill template store = String.ofList (spliceFrom (fun name => store.get name)
      (template.toList.length + 1) template.toList 0) := by
  unfold fill
  split
  · rename_i hempty
    have hnone : (fun name => store.get name) = fun _ => none := by
      funext name
      rw [Variables.get, Variables.value?, List.eq_nil_of_length_eq_zero hempty]
      rfl
    rw [hnone, spliceFrom_none, String.ofList_toList]
  · rfl

/-- A template is filled in alike from stores that agree on the names that it mentions. -/
theorem fill_congr {template : String} {store store' : Variables}
    (h : ∀ name, Mentions template name → store.value? name = store'.value? name) :
    fill template store = fill template store' := by
  rw [fill_eq, fill_eq, spliceFrom_congr _ _ _ fun name hname => ?_]
  rw [List.drop_zero] at hname
  exact congrArg (Option.getD · none) (h name hname)

end MailScript.Template
