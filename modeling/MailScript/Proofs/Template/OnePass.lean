import MailScript.Proofs.Template

/-! # Templates in one pass

Filling in splices values into the very text that it scans. What comes out is what one pass over
the template alone puts together: whatever a value holds, it is never scanned, and nothing in front
of it or behind it joins it to a token. -/

namespace MailScript.Template

/-! ## One pass -/

/-- What one pass over a text puts together. The first opening and the first closing brace behind it
are looked for. A token whose name has a value gives way to the value; the name of another token is
kept, and the pass goes on at its closing brace. -/
inductive Expansion (lookup : String → Option String) : List Char → List Char → Prop where
  | plain {text : List Char} (h : ¬ opening <:+: text) : Expansion lookup text text
  | unclosed {before rest : List Char} (hbefore : ¬ opening <:+: before) (hrest : '\x7d' ∉ rest) :
      Expansion lookup (before ++ opening ++ rest) (before ++ opening ++ rest)
  | known {before name behind result : List Char} {value : String}
      (hbefore : ¬ opening <:+: before) (hname : '\x7d' ∉ name)
      (hvalue : lookup (String.ofList name) = some value)
      (hresult : Expansion lookup behind result) :
      Expansion lookup (before ++ opening ++ (name ++ '\x7d' :: behind))
        (before ++ value.toList ++ result)
  | unknown {before name behind result : List Char}
      (hbefore : ¬ opening <:+: before) (hname : '\x7d' ∉ name)
      (hvalue : lookup (String.ofList name) = none)
      (hresult : Expansion lookup ('\x7d' :: behind) result) :
      Expansion lookup (before ++ opening ++ (name ++ '\x7d' :: behind))
        (before ++ opening ++ name ++ result)

theorem splitOpening_append {before : List Char} (h : ¬ opening <:+: before) (rest : List Char) :
    splitOpening (before ++ opening ++ rest) = some (before, rest) := by
  induction before with
  | nil => rfl
  | cons c before ih =>
      rw [List.infix_cons_iff, not_or] at h
      have hstart : ∀ others, c = '$' → before ++ opening ++ rest ≠ '\x7b' :: others := by
        rintro others rfl heq
        cases before with
        | nil => cases heq
        | cons d before =>
            cases heq
            exact h.1 ⟨before, rfl⟩
      rw [List.cons_append, List.cons_append, splitOpening.eq_3 _ _ hstart, ih h.2]
      rfl

theorem not_opening_of_splitOpening {text before behind : List Char}
    (h : splitOpening text = some (before, behind)) : ¬ opening <:+: before := by
  induction text using splitOpening.induct generalizing before behind with
  | case1 => cases h
  | case2 rest =>
      rw [splitOpening] at h
      cases h
      decide
  | case3 c rest hopening ih =>
      rw [splitOpening.eq_3 _ _ hopening, Option.map_eq_some_iff] at h
      obtain ⟨⟨before', behind'⟩, hrest, heq⟩ := h
      cases heq
      rw [List.infix_cons_iff, not_or]
      refine ⟨?_, ih hrest⟩
      rintro ⟨others, heq⟩
      cases heq
      rw [eq_append_of_splitOpening hrest] at hopening
      exact hopening _ rfl rfl

theorem splitClosing_append {name : List Char} (h : '\x7d' ∉ name) (behind : List Char) :
    splitClosing (name ++ '\x7d' :: behind) = some (name, behind) := by
  induction name with
  | nil => rfl
  | cons c name ih =>
      rw [List.mem_cons, not_or] at h
      rw [List.cons_append, splitClosing, if_neg (Ne.symm h.1), ih h.2]
      rfl

theorem splitClosing_eq_none_iff {text : List Char} : splitClosing text = none ↔ '\x7d' ∉ text := by
  induction text with
  | nil => simp [splitClosing]
  | cons c rest ih =>
      rw [splitClosing, List.mem_cons, not_or]
      split
      · rename_i hc
        simp [hc]
      · rename_i hc
        rw [Option.map_eq_none_iff, ih]
        exact ⟨fun h => ⟨Ne.symm hc, h⟩, And.right⟩

theorem not_mem_of_splitClosing {text name behind : List Char}
    (h : splitClosing text = some (name, behind)) : '\x7d' ∉ name := by
  induction text generalizing name with
  | nil => cases h
  | cons c rest ih =>
      rw [splitClosing] at h
      split at h
      · cases h
        exact List.not_mem_nil
      · rename_i hc
        obtain ⟨⟨name', behind'⟩, hrest, heq⟩ := Option.map_eq_some_iff.mp h
        cases heq
        rw [List.mem_cons, not_or]
        exact ⟨Ne.symm hc, ih hrest⟩

/-- One pass over a text always puts something together. -/
theorem exists_expansion (lookup : String → Option String) (text : List Char) :
    ∃ result, Expansion lookup text result := by
  induction hlength : text.length using Nat.strongRecOn generalizing text with
  | ind length ih =>
      cases hopening : splitOpening text with
      | none => exact ⟨text, .plain (splitOpening_eq_none_iff.mp hopening)⟩
      | some parts =>
          obtain ⟨before, rest⟩ := parts
          have hbefore := not_opening_of_splitOpening hopening
          rw [eq_append_of_splitOpening hopening] at hlength ⊢
          cases hclosing : splitClosing rest with
          | none => exact ⟨_, .unclosed hbefore (splitClosing_eq_none_iff.mp hclosing)⟩
          | some parts =>
              obtain ⟨name, behind⟩ := parts
              have hname := not_mem_of_splitClosing hclosing
              rw [eq_append_of_splitClosing hclosing] at hlength ⊢
              simp only [opening, List.length_append, List.length_cons] at hlength
              cases hvalue : lookup (String.ofList name) with
              | none =>
                  obtain ⟨result, hresult⟩ := ih _ (by simp; omega) ('\x7d' :: behind) rfl
                  exact ⟨_, .unknown hbefore hname hvalue hresult⟩
              | some value =>
                  obtain ⟨result, hresult⟩ := ih _ (by omega) behind rfl
                  exact ⟨_, .known hbefore hname hvalue hresult⟩

/-! ## The loop -/

/-- One round of filling in a text from a position on: the text and the position of the next round,
unless it is the last one. -/
def spliceOnce (lookup : String → Option String) (text : List Char) (position : Nat) :
    Option (List Char × Nat) :=
  match findOpening (text.drop position) with
  | none => none
  | some offset =>
    let start := position + offset
    match findClosing (text.drop start) with
    | none => none
    | some length =>
      let stop := start + length
      let name := (text.drop (start + 2)).take (stop - (start + 2))
      match lookup (String.ofList name) with
      | none => some (text, stop)
      | some value =>
        some (text.take start ++ value.toList ++ text.drop (stop + 1), start + value.toList.length)

theorem spliceFrom_succ (lookup : String → Option String) (fuel : Nat) (text : List Char)
    (position : Nat) :
    spliceFrom lookup (fuel + 1) text position =
      match spliceOnce lookup text position with
      | none => text
      | some (text, position) => spliceFrom lookup fuel text position := by
  rw [spliceFrom, spliceOnce]
  cases findOpening (text.drop position) with
  | none => rfl
  | some offset =>
      dsimp only
      cases findClosing (text.drop (position + offset)) with
      | none => rfl
      | some length =>
          dsimp only
          generalize lookup (String.ofList ((text.drop (position + offset + 2)).take
            (position + offset + length - (position + offset + 2)))) = found
          cases found with
          | none => rfl
          | some value => rfl

/-- A number of rounds from a position of a text on, behind which there is no further one, and the
text that they leave. -/
inductive Splices (lookup : String → Option String) :
    Nat → List Char → Nat → List Char → Prop where
  | ended {text : List Char} {position : Nat} (h : spliceOnce lookup text position = none) :
      Splices lookup 0 text position text
  | round {rounds : Nat} {text next result : List Char} {position position' : Nat}
      (h : spliceOnce lookup text position = some (next, position'))
      (hrest : Splices lookup rounds next position' result) :
      Splices lookup (rounds + 1) text position result

namespace Splices

variable {lookup : String → Option String} {rounds : Nat} {text result : List Char} {position : Nat}

/-- Each round settles the next one, and whether there is one. -/
theorem unique (h : Splices lookup rounds text position result) {rounds' : Nat}
    {result' : List Char} (h' : Splices lookup rounds' text position result') :
    rounds' = rounds ∧ result' = result := by
  induction h generalizing rounds' with
  | ended hended =>
      cases h' with
      | ended => exact ⟨rfl, rfl⟩
      | round hround => cases hended.symm.trans hround
  | round hround hrest ih =>
      cases h' with
      | ended hended => cases hround.symm.trans hended
      | round hround' hrest' =>
          cases hround.symm.trans hround'
          obtain ⟨rfl, rfl⟩ := ih hrest'
          exact ⟨rfl, rfl⟩

theorem spliceFrom_eq (h : Splices lookup rounds text position result) {fuel : Nat}
    (hfuel : rounds < fuel) : spliceFrom lookup fuel text position = result := by
  induction h generalizing fuel with
  | ended hended =>
      rw [← Nat.sub_add_cancel hfuel, spliceFrom_succ, hended]
  | round hround hrest ih =>
      rw [← Nat.sub_add_cancel (Nat.zero_lt_of_lt hfuel), spliceFrom_succ, hround]
      exact ih (by omega)

end Splices

section Rounds

variable {lookup : String → Option String} (front : List Char)

theorem spliceOnce_plain {rest : List Char} (h : ¬ opening <:+: rest) :
    spliceOnce lookup (front ++ rest) front.length = none := by
  rw [spliceOnce, List.drop_left, findOpening, splitOpening_eq_none_iff.mpr h]
  rfl

/-- Where the first opening behind a front is found. -/
theorem findOpening_drop {before : List Char} (h : ¬ opening <:+: before) (rest : List Char) :
    findOpening ((front ++ (before ++ opening ++ rest)).drop front.length) =
      some before.length := by
  rw [List.drop_left, findOpening, splitOpening_append h]
  rfl

theorem drop_opening (before rest : List Char) :
    (front ++ (before ++ opening ++ rest)).drop (front.length + before.length) =
      opening ++ rest := by
  rw [← List.length_append, ← List.append_assoc, ← List.append_assoc,
    List.append_assoc (front ++ before), List.drop_left]

theorem splitClosing_opening (rest : List Char) :
    splitClosing (opening ++ rest) =
      (splitClosing rest).map fun parts => (opening ++ parts.1, parts.2) := by
  simp [opening, splitClosing, Function.comp_def]

theorem spliceOnce_unclosed {before rest : List Char} (hbefore : ¬ opening <:+: before)
    (hrest : '\x7d' ∉ rest) :
    spliceOnce lookup (front ++ (before ++ opening ++ rest)) front.length = none := by
  rw [spliceOnce, findOpening_drop front hbefore]
  dsimp only
  rw [drop_opening, findClosing, splitClosing_opening, splitClosing_eq_none_iff.mpr hrest]
  rfl

variable (lookup) in
/-- A round at a token either steps over it or puts the value of its name in its place. -/
theorem spliceOnce_token {before name : List Char} (hbefore : ¬ opening <:+: before)
    (hname : '\x7d' ∉ name) (behind : List Char) :
    spliceOnce lookup (front ++ (before ++ opening ++ (name ++ '\x7d' :: behind))) front.length =
      some (match lookup (String.ofList name) with
        | none => (front ++ (before ++ opening ++ (name ++ '\x7d' :: behind)),
          (front ++ (before ++ opening ++ name)).length)
        | some value => (front ++ (before ++ value.toList) ++ behind,
          (front ++ (before ++ value.toList)).length)) := by
  have hclosing : findClosing (opening ++ (name ++ '\x7d' :: behind)) = some (name.length + 2) := by
    rw [findClosing, splitClosing_opening, splitClosing_append hname]
    simp [opening]
  rw [spliceOnce, findOpening_drop front hbefore]
  dsimp only
  rw [drop_opening, hclosing]
  dsimp only
  have hlength : front.length + before.length + (name.length + 2) -
      (front.length + before.length + 2) = name.length := by omega
  have htoken : (opening ++ (name ++ '\x7d' :: behind)).drop 2 = name ++ '\x7d' :: behind := rfl
  rw [← List.drop_drop (i := 2), drop_opening, htoken, hlength, List.take_left]
  cases lookup (String.ofList name) with
  | none => simp [opening, Nat.add_assoc]
  | some value =>
      have htake : (front ++ (before ++ opening ++ (name ++ '\x7d' :: behind))).take
          (front.length + before.length) = front ++ before := by
        rw [← List.length_append, List.append_assoc before, ← List.append_assoc, List.take_left]
      have hdrop : (front ++ (before ++ opening ++ (name ++ '\x7d' :: behind))).drop
          (front.length + before.length + (name.length + 2) + 1) = behind := by
        rw [Nat.add_assoc _ _ 1, ← List.drop_drop, drop_opening]
        simp [opening]
      rw [htake, hdrop]
      simp [Nat.add_assoc]

/-- Behind a front that is done with, the rounds put together what one pass puts together. Each of
them steps over an opening at least, so there are no more rounds than characters. -/
theorem Expansion.splices {rest result : List Char} (h : Expansion lookup rest result) :
    ∃ rounds ≤ rest.length,
      Splices lookup rounds (front ++ rest) front.length (front ++ result) := by
  induction h generalizing front with
  | plain h => exact ⟨0, Nat.zero_le _, .ended (spliceOnce_plain front h)⟩
  | unclosed hbefore hrest =>
      exact ⟨0, Nat.zero_le _, .ended (spliceOnce_unclosed front hbefore hrest)⟩
  | @known before name behind result value hbefore hname hvalue hresult ih =>
      obtain ⟨rounds, hrounds, hrest⟩ := ih (front ++ (before ++ value.toList))
      have hround := spliceOnce_token lookup front hbefore hname behind
      rw [hvalue] at hround
      rw [List.append_assoc front _ result] at hrest
      refine ⟨rounds + 1, ?_, .round hround hrest⟩
      simp only [List.length_append, List.length_cons]
      omega
  | @unknown before name behind result hbefore hname hvalue hresult ih =>
      obtain ⟨rounds, hrounds, hrest⟩ := ih (front ++ (before ++ opening ++ name))
      have hround := spliceOnce_token lookup front hbefore hname behind
      rw [hvalue] at hround
      rw [List.append_assoc front _ result, List.append_assoc front,
        List.append_assoc _ name] at hrest
      refine ⟨rounds + 1, ?_, .round hround hrest⟩
      simp only [List.length_append, List.length_cons, opening] at hrounds ⊢
      omega

end Rounds

/-- Whatever the store holds, the loop that splices values into a template ends, after no more
rounds than the template has characters. What it leaves is what one pass over the template alone
puts together, and that is what the template is filled in to. -/
theorem fill_eq_expansion (template : String) (store : Variables) :
    let lookup (name : String) : Option String := store.get name
    let text := template.toList
    let filled := (fill template store).toList
    (∀ result, Expansion lookup text result ↔ result = filled) ∧
      ∃ count ≤ text.length, ∀ rounds result,
        Splices lookup rounds text 0 result ↔ rounds = count ∧ result = filled := by
  intro lookup text filled
  have hrun {result : List Char} (h : Expansion lookup text result) :
      ∃ count ≤ text.length, Splices lookup count text 0 result ∧ result = filled := by
    obtain ⟨count, hcount, hsplices⟩ := h.splices []
    refine ⟨count, hcount, hsplices, ?_⟩
    have hfilled : filled = spliceFrom lookup (text.length + 1) text 0 := by
      simp only [filled, fill_eq, String.toList_ofList]
      rfl
    rw [hfilled]
    exact (hsplices.spliceFrom_eq (Nat.lt_succ_of_le hcount)).symm
  obtain ⟨expanded, hexpanded⟩ := exists_expansion lookup text
  obtain ⟨count, hcount, hsplices, rfl⟩ := hrun hexpanded
  refine ⟨fun result => ⟨fun h => ?_, fun h => h ▸ hexpanded⟩, count, hcount,
    fun rounds result => ?_⟩
  · obtain ⟨-, -, -, heq⟩ := hrun h
    exact heq
  · refine ⟨hsplices.unique, ?_⟩
    rintro ⟨rfl, rfl⟩
    exact hsplices

/-- A value that ends in a dollar opens no token with the brace behind it, and a value that holds a
token is kept as it is. -/
example : fill "$\x7bu\x7d\x7bv\x7d $\x7bv\x7d"
    (.ofList [("u", some "$"), ("v", some "$\x7bu\x7d")]) = "$\x7bv\x7d $\x7bu\x7d" := by
  decide +kernel

end MailScript.Template
