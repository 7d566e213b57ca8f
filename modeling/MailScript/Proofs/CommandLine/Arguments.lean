import MailScript.CommandLine.Arguments
import MailScript.Proofs.Results

/-! # Arguments that are accepted

Arguments that are accepted name at least one script and one host. The option to keep going, put in
front of them, changes nothing but what it stands for. -/

namespace MailScript.CommandLine

/-! ## Reading tokens -/

namespace Progress

/-- Values are taken when the row of them ends. -/
def flush (progress : Progress) (row : List Token) : Progress :=
  if row.isEmpty then progress else progress.takeValues row

/-- A token that nothing takes. -/
def leaveOver (progress : Progress) (text : String) : Progress :=
  { progress with extras := progress.extras ++ [text] }

/-- The value of an option, which may be joined to it or follow it, and the tokens left. -/
def valueOf (switch : Switch) (joined : Option String) (rest : List Token) :
    Except Leave (String × List Token) :=
  if switch.takesValue then
    match joined, rest with
    | some value, rest => .ok (value, rest)
    | none, .value value :: rest => .ok (value, rest)
    | none, _ => .error (.usage (.missingValue switch))
  else
    match joined with
    | some value => .error (.usage (.unexpectedValue switch value))
    | none => .ok ("", rest)

/-- An option takes at most a value behind it. -/
theorem left_of_valueOf {switch : Switch} {joined : Option String} {rest left : List Token}
    {value : String} (h : valueOf switch joined rest = .ok (value, left)) :
    ∃ taken, rest = taken ++ left ∧ .separator ∉ taken := by
  unfold valueOf at h
  split at h
  · split at h
    · cases h
      exact ⟨[], rfl, List.not_mem_nil⟩
    · cases h
      exact ⟨[.value _], rfl, by simp⟩
    · cases h
  · split at h
    · cases h
    · cases h
      exact ⟨[], rfl, List.not_mem_nil⟩

theorem read_unknown (progress : Progress) (row : List Token) (text : String) (rest : List Token) :
    progress.read row (.unknown text :: rest) = ((progress.flush row).leaveOver text).read [] rest := by
  rw [read]
  rfl

theorem read_option (progress : Progress) (row : List Token) (switch : Switch)
    (joined : Option String) (rest : List Token) :
    progress.read row (.option switch joined :: rest) =
      valueOf switch joined rest >>= fun found =>
        (progress.flush row).take switch found.1 >>= fun later => later.read [] found.2 := by
  unfold valueOf
  cases joined with
  | some value =>
      rw [read]
      split <;> rfl
  | none =>
      by_cases hrest : ∃ value more, rest = .value value :: more
      · obtain ⟨value, more, rfl⟩ := hrest
        rw [read]
        split <;> rfl
      · rw [read.eq_8 _ _ _ _ fun value more heq => hrest ⟨value, more, heq⟩]
        split
        · split
          · rename_i heq
            cases heq
          · exact absurd ⟨_, _, rfl⟩ hrest
          · rfl
        · rfl

/-- What holds at the end of the tokens, and in front of a token if it holds behind it, holds wherever
tokens are read. -/
theorem read_induction {motive : Progress → List Token → List Token → Prop}
    (done : ∀ progress row, motive progress row [])
    (value : ∀ progress row text rest, motive progress (row ++ [.value text]) rest →
      motive progress row (.value text :: rest))
    (separator : ∀ progress row rest, motive progress (row ++ [.separator]) rest →
      motive progress row (.separator :: rest))
    (unknown : ∀ progress row text rest, motive ((progress.flush row).leaveOver text) [] rest →
      motive progress row (.unknown text :: rest))
    (cluster : ∀ progress row letters rest, motive progress row (.cluster letters :: rest))
    (option : ∀ progress row switch joined rest,
      (∀ value left, valueOf switch joined rest = .ok (value, left) →
        ∀ later, motive later [] left) →
      motive progress row (.option switch joined :: rest))
    (progress : Progress) (row tokens : List Token) : motive progress row tokens := by
  induction hlength : tokens.length using Nat.strongRecOn generalizing progress row tokens with
  | ind length ih =>
      subst hlength
      cases tokens with
      | nil => exact done progress row
      | cons token rest =>
          have hrest (progress : Progress) (row : List Token) {left : List Token}
              (h : left.length ≤ rest.length) : motive progress row left :=
            ih _ (Nat.lt_succ_of_le h) _ _ _ rfl
          cases token with
          | value text => exact value _ _ _ _ (hrest _ _ (Nat.le_refl _))
          | separator => exact separator _ _ _ (hrest _ _ (Nat.le_refl _))
          | unknown text => exact unknown _ _ _ _ (hrest _ _ (Nat.le_refl _))
          | cluster letters => exact cluster _ _ _ _
          | option switch joined =>
              refine option _ _ _ _ _ fun value left hvalue later => hrest later [] ?_
              obtain ⟨taken, rfl, -⟩ := left_of_valueOf hvalue
              simp

end Progress

/-! ## Keeping going -/

namespace Progress

/-- What has been read, behind the option to keep going. -/
def keptGoing (progress : Progress) : Progress :=
  { progress with
    options := { progress.options with keepGoing := true }
    seen := progress.seen ++ [.keepGoing] }

theorem contains_keptGoing (progress : Progress) (switch : Switch) (h : switch ≠ .keepGoing) :
    progress.keptGoing.seen.contains switch = progress.seen.contains switch := by
  simp [keptGoing, h]

theorem take_keptGoing (progress : Progress) (switch : Switch) (value : String) :
    progress.keptGoing.take switch value = (progress.take switch value).map keptGoing := by
  have hshebang := progress.contains_keptGoing .shebang nofun
  have himapShebang := progress.contains_keptGoing .imapShebang nofun
  cases switch with
  | shebang =>
      simp only [take, Switch.rival?, Option.filter_some, himapShebang]
      cases progress.seen.contains .imapShebang <;> rfl
  | imapShebang =>
      simp only [take, Switch.rival?, Option.filter_some, hshebang]
      cases progress.seen.contains .shebang <;> rfl
  | _ => rfl

theorem takeValues_keptGoing (progress : Progress) (row : List Token) :
    progress.keptGoing.takeValues row = (progress.takeValues row).keptGoing := by
  change (if !progress.scriptsSeen && row.any fun token => token ≠ .separator then _ else _) = _
  unfold takeValues
  dsimp only
  split <;> rfl

theorem flush_keptGoing (progress : Progress) (row : List Token) :
    progress.keptGoing.flush row = (progress.flush row).keptGoing := by
  rw [flush, flush, takeValues_keptGoing]
  split <;> rfl

/-- Tokens are read behind the option to keep going as they are read without it. -/
theorem read_keptGoing (progress : Progress) (row tokens : List Token) :
    progress.keptGoing.read row tokens = (progress.read row tokens).map keptGoing := by
  induction progress, row, tokens using read_induction with
  | done progress row => exact congrArg Except.ok (flush_keptGoing progress row)
  | value progress row text rest ih => rw [read, read, ih]
  | separator progress row rest ih => rw [read, read, ih]
  | unknown progress row text rest ih =>
      rw [read_unknown, read_unknown, ← ih, flush_keptGoing]
      rfl
  | cluster progress row letters rest => rfl
  | option progress row switch joined rest ih =>
      rw [read_option, read_option, flush_keptGoing]
      rcases hvalue : valueOf switch joined rest with leave | ⟨value, left⟩
      · rfl
      · change ((progress.flush row).keptGoing.take switch value >>= _) = _
        rw [take_keptGoing]
        rcases htake : (progress.flush row).take switch value with leave | later
        · simp [htake, bind, Except.bind, Except.map]
        · simpa [htake, bind, Except.bind, Except.map] using ih value left hvalue later

end Progress

/-- The option to keep going may be put in front of arguments that are accepted. -/
theorem parseArguments_keepGoing (arguments : List String) :
    parseArguments ("--keep-going" :: arguments) =
      (parseArguments arguments).map fun options => { options with keepGoing := true } := by
  have hfirst : tokens ("--keep-going" :: arguments) =
      (tokens arguments).map fun rest => .option .keepGoing none :: rest := by
    rw [tokens, if_neg (by decide), show Token.ofArgument "--keep-going" =
      .ok (.option .keepGoing none) from rfl]
    cases tokens arguments <;> rfl
  unfold parseArguments
  rw [hfirst]
  cases htokens : tokens arguments with
  | error e => rfl
  | ok rest =>
      dsimp only [Except.map]
      rw [Progress.read_option]
      change (Progress.keptGoing ⟨{}, [], false, []⟩).read [] rest >>= _ = _
      rw [Progress.read_keptGoing]
      cases Progress.read ⟨{}, [], false, []⟩ [] rest with
      | error leave => rfl
      | ok progress =>
          have hmissing : progress.keptGoing.missing = progress.missing := by
            unfold Progress.missing
            rw [progress.contains_keptGoing .host (by decide)]
            rfl
          change (if progress.keptGoing.missing ≠ [] then
              .error (.usage (.missing progress.keptGoing.missing))
            else if progress.extras ≠ [] then _ else _ : Except Leave Options) =
              Except.map _ (if progress.missing ≠ [] then _ else _)
          rw [hmissing]
          split
          · rfl
          · split <;> rfl

/-! ## Values behind the separator -/

/-- Behind the separator there are values only, and two hyphens are a value behind it only. -/
structure Separated (tokens : List Token) : Prop where
  values : ∀ front back, tokens = front ++ .separator :: back →
    ∀ token ∈ back, ∃ text, token = .value text
  hyphens : ∀ front back, tokens = front ++ .value "--" :: back → .separator ∈ front

namespace Separated

theorem cons {token : Token} {rest : List Token} (h : Separated rest) (hseparator : token ≠ .separator)
    (hvalue : token ≠ .value "--") : Separated (token :: rest) where
  values := by
    rintro (_ | ⟨first, front⟩) back heq
    · exact absurd (List.cons.inj heq).1 hseparator
    · exact h.values front back (List.cons.inj heq).2
  hyphens := by
    rintro (_ | ⟨first, front⟩) back heq
    · exact absurd (List.cons.inj heq).1 hvalue
    · exact List.mem_cons_of_mem _ (h.hyphens front back (List.cons.inj heq).2)

theorem of_values (texts : List String) : Separated (.separator :: texts.map .value) where
  values := by
    rintro front back heq token htoken
    have hmem : token ∈ texts.map Token.value := by
      rcases front with _ | ⟨first, front⟩
      · exact (List.cons.inj heq).2 ▸ htoken
      · rw [(List.cons.inj heq).2]
        exact List.mem_append_right _ (List.mem_cons_of_mem _ htoken)
    obtain ⟨text, -, rfl⟩ := List.mem_map.mp hmem
    exact ⟨text, rfl⟩
  hyphens := by
    rintro (_ | ⟨first, front⟩) back heq
    · cases (List.cons.inj heq).1
    · exact (List.cons.inj heq).1 ▸ List.mem_cons_self

theorem drop {front rest : List Token} (h : Separated (front ++ rest)) (hfront : .separator ∉ front) :
    Separated rest where
  values before back heq := h.values (front ++ before) back (by rw [heq, List.append_assoc])
  hyphens before back heq := by
    have hmem := h.hyphens (front ++ before) back (by rw [heq, List.append_assoc])
    exact (List.mem_append.mp hmem).resolve_left hfront

theorem take {front rest : List Token} (h : Separated (front ++ rest)) : Separated front where
  values before back heq token htoken :=
    h.values before (back ++ rest) (by rw [heq, List.append_assoc]; rfl) token
      (List.mem_append_left _ htoken)
  hyphens before back heq :=
    h.hyphens before (back ++ rest) (by rw [heq, List.append_assoc]; rfl)

/-- In front of a token that is no value there is no separator. -/
theorem not_mem {row rest : List Token} {token : Token} (h : Separated (row ++ token :: rest))
    (htoken : ∀ text, token ≠ .value text) : .separator ∉ row := by
  intro hmem
  obtain ⟨front, back, rfl⟩ := List.append_of_mem hmem
  obtain ⟨text, htext⟩ := h.values front (back ++ token :: rest) (by simp) token (by simp)
  exact htoken text htext

/-- Behind a token that is neither a value nor a separator the tokens are separated, too. -/
theorem behind {row rest : List Token} {token : Token} (h : Separated (row ++ token :: rest))
    (htoken : ∀ text, token ≠ .value text) (hseparator : token ≠ .separator) : Separated rest := by
  have hfront : .separator ∉ row ++ [token] := by
    simpa using ⟨h.not_mem htoken, hseparator.symm⟩
  rw [List.append_cons] at h
  exact h.drop hfront

end Separated

theorem token_of_candidates {argument : String} {entry : String × Token}
    (h : entry ∈ candidates argument) : entry.2 ≠ .separator ∧ ∀ text, entry.2 ≠ .value text := by
  unfold candidates at h
  split at h
  · unfold abbreviated at h
    obtain ⟨row, -, hrow⟩ := List.mem_filterMap.mp h
    cases (Option.ite_none_right_eq_some.mp hrow).2
    exact ⟨nofun, nofun⟩
  · cases List.mem_singleton.mp h
    exact ⟨nofun, nofun⟩
  · cases h

theorem token_of_exactOption? {argument : String} {token : Token}
    (h : exactOption? argument = some token) : token ≠ .separator ∧ ∀ text, token ≠ .value text := by
  unfold exactOption? at h
  split at h
  · cases h
    exact ⟨nofun, nofun⟩
  · obtain ⟨⟨name, value⟩, -, hrest⟩ := Option.bind_eq_some_iff.mp h
    obtain ⟨switch, -, htoken⟩ := Option.bind_eq_some_iff.mp hrest
    cases htoken
    exact ⟨nofun, nofun⟩

/-- An argument is never a separator, and the only value that it can be is itself. -/
theorem token_of_argument {argument : String} {token : Token}
    (h : Token.ofArgument argument = .ok token) :
    token ≠ .separator ∧ ∀ text, token = .value text → text = argument := by
  have hoption (hnone : token ≠ .separator ∧ ∀ text, token ≠ .value text) :
      token ≠ .separator ∧ ∀ text, token = .value text → text = argument :=
    ⟨hnone.1, fun text htext => absurd htext (hnone.2 text)⟩
  have hself : Token.value argument ≠ .separator ∧
      ∀ text, Token.value argument = .value text → text = argument :=
    ⟨nofun, fun text htext => (Token.value.inj htext).symm⟩
  unfold Token.ofArgument at h
  split at h
  · split at h
    · rename_i hexact
      cases h
      exact hoption (token_of_exactOption? hexact)
    · split at h
      · rename_i hcandidates
        cases h
        exact hoption (token_of_candidates (hcandidates ▸ List.mem_singleton_self _))
      · split at h
        · cases h
          exact hself
        · cases h
          exact ⟨nofun, nofun⟩
      · cases h
  · cases h
    exact hself

theorem separated_of_tokens {arguments : List String} {read : List Token}
    (h : tokens arguments = .ok read) : Separated read := by
  induction arguments generalizing read with
  | nil =>
      cases h
      exact ⟨by simp, by simp⟩
  | cons argument rest ih =>
      unfold tokens at h
      split at h
      · cases h
        exact .of_values rest
      · rename_i hhyphens
        obtain ⟨token, htoken, hrest⟩ := ok_of_bind h
        obtain ⟨later, hlater, hread⟩ := ok_of_bind hrest
        cases hread
        obtain ⟨hseparator, hvalue⟩ := token_of_argument htoken
        exact (ih hlater).cons hseparator fun heq => hhyphens (hvalue "--" heq).symm

/-! ## What has to be named -/

namespace Progress

/-- Scripts and hosts that were seen are there. -/
structure Sound (progress : Progress) : Prop where
  scripts : progress.scriptsSeen → progress.options.scripts ≠ []
  hosts : progress.seen.contains .host → progress.options.hosts ≠ []

/-- A row of values in which two hyphens are a value behind the separator only. -/
structure Row (row : List Token) : Prop where
  separated : Separated row
  texts : ∀ token ∈ row, token = .separator ∨ ∃ text, token = .value text

theorem Row.nil : Row [] := ⟨⟨by simp, by simp⟩, nofun⟩

theorem Row.snoc {row rest : List Token} {token : Token} (h : Row row)
    (hseparated : Separated (row ++ [token] ++ rest))
    (htoken : token = .separator ∨ ∃ text, token = .value text) : Row (row ++ [token]) where
  separated := hseparated.take
  texts other hother := by
    rcases List.mem_append.mp hother with hrow | hlast
    · exact h.texts other hrow
    · exact List.mem_singleton.mp hlast ▸ htoken

theorem scripts_of_row {row : List Token} (h : Row row)
    (hany : row.any fun token => token ≠ .separator) :
    (row.filterMap Token.text?).erase "--" ≠ [] := by
  obtain ⟨token, htoken, hne⟩ := List.any_eq_true.mp hany
  obtain ⟨text, rfl⟩ := (h.texts token htoken).resolve_left (by simpa using hne)
  have hmem : text ∈ row.filterMap Token.text? := List.mem_filterMap.mpr ⟨_, htoken, rfl⟩
  by_cases htext : text = "--"
  · -- Two hyphens stand behind a separator, which is erased in their place.
    subst htext
    obtain ⟨front, back, rfl⟩ := List.append_of_mem htoken
    have hseparator : "--" ∈ front.filterMap Token.text? :=
      List.mem_filterMap.mpr ⟨_, h.separated.hyphens front back rfl, rfl⟩
    rw [List.filterMap_append, List.erase_append_left _ hseparator]
    simp [Token.text?]
  · exact List.ne_nil_of_mem ((List.mem_erase_of_ne htext).mpr hmem)

namespace Sound

variable {progress : Progress}

theorem takeValues (h : progress.Sound) {row : List Token} (hrow : Row row) :
    (progress.takeValues row).Sound := by
  unfold Progress.takeValues
  dsimp only
  split
  · rename_i hany
    rw [Bool.and_eq_true] at hany
    exact ⟨fun _ => scripts_of_row hrow hany.2, h.hosts⟩
  · exact ⟨h.scripts, h.hosts⟩

theorem flush (h : progress.Sound) {row : List Token} (hrow : Row row) :
    (progress.flush row).Sound := by
  unfold Progress.flush
  split
  · exact h
  · exact h.takeValues hrow

theorem take (h : progress.Sound) {switch : Switch} {value : String} {later : Progress}
    (htake : progress.take switch value = .ok later) : later.Sound := by
  unfold Progress.take at htake
  split at htake
  · cases htake
  · obtain ⟨options, hoptions, rfl⟩ := ok_of_map htake
    cases switch with
    | help => cases hoptions
    | host =>
        cases hoptions
        exact ⟨h.scripts, fun _ => by simp⟩
    | _ =>
        cases hoptions
        exact ⟨h.scripts, fun hseen => h.hosts (by simpa using hseen)⟩

theorem leaveOver (h : progress.Sound) (text : String) : (progress.leaveOver text).Sound :=
  ⟨h.scripts, h.hosts⟩

/-- Whatever is read, what was seen is there. -/
theorem read (h : progress.Sound) {row tokens : List Token} (hrow : Row row)
    (hseparated : Separated (row ++ tokens)) {last : Progress}
    (hread : progress.read row tokens = .ok last) : last.Sound := by
  induction progress, row, tokens using read_induction with
  | done progress row =>
      cases hread
      exact h.flush hrow
  | value progress row text rest ih =>
      rw [List.append_cons] at hseparated
      exact ih h (hrow.snoc hseparated (.inr ⟨text, rfl⟩)) hseparated hread
  | separator progress row rest ih =>
      rw [List.append_cons] at hseparated
      exact ih h (hrow.snoc hseparated (.inl rfl)) hseparated hread
  | unknown progress row text rest ih =>
      have hrest := hseparated.behind nofun nofun
      rw [read_unknown] at hread
      exact ih ((h.flush hrow).leaveOver text) .nil hrest hread
  | cluster progress row letters rest => cases hread
  | option progress row switch joined rest ih =>
      have hrest := hseparated.behind nofun nofun
      rw [read_option] at hread
      obtain ⟨⟨value, left⟩, hvalue, htaken⟩ := ok_of_bind hread
      obtain ⟨later, htake, hlater⟩ := ok_of_bind htaken
      obtain ⟨taken, rfl, hseparator⟩ := left_of_valueOf hvalue
      exact ih value left hvalue later ((h.flush hrow).take htake) .nil (hrest.drop hseparator) hlater

end Sound

end Progress

/-- Arguments that are accepted name a script and a host. -/
theorem named_of_parseArguments {arguments : List String} {options : Options}
    (h : parseArguments arguments = .ok options) : options.scripts ≠ [] ∧ options.hosts ≠ [] := by
  unfold parseArguments at h
  split at h
  · cases h
  · rename_i tokens htokens
    obtain ⟨progress, hread, hoptions⟩ := ok_of_bind h
    split at hoptions
    · cases hoptions
    · rename_i hmissing
      split at hoptions
      · cases hoptions
      · cases hoptions
        have hsound : progress.Sound :=
          Progress.Sound.read ⟨by simp, by simp⟩ .nil (separated_of_tokens htokens) hread
        have hnone : progress.missing = [] := Decidable.not_not.mp hmissing
        obtain ⟨hscripts, hhosts⟩ := List.append_eq_nil_iff.mp hnone
        exact ⟨hsound.scripts (by simpa using hscripts), hsound.hosts (by simpa using hhosts)⟩

end MailScript.CommandLine
