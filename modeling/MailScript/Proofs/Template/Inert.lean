import MailScript.Proofs.Template.OnePass
import MailScript.Proofs.Variables

/-! # Filling in twice

A value in which no token can open, and which is not empty, keeps what is in front of it apart from
what is behind it. If all values are such, filling in a template leaves just those of its tokens that
have no value, so filling in once more changes nothing. -/

namespace MailScript.Template

/-! ## Scanning -/

/-- The names of the tokens that scanning a text comes upon. The first opening and the first closing
brace behind it are looked for, and scanning goes on at that brace. -/
inductive Scan : List Char → List String → Prop where
  | plain {text : List Char} (h : ¬ opening <:+: text) : Scan text []
  | unclosed {before rest : List Char} (hbefore : ¬ opening <:+: before) (hrest : '\x7d' ∉ rest) :
      Scan (before ++ opening ++ rest) []
  | token {before name behind : List Char} {names : List String}
      (hbefore : ¬ opening <:+: before) (hname : '\x7d' ∉ name)
      (hrest : Scan ('\x7d' :: behind) names) :
      Scan (before ++ opening ++ (name ++ '\x7d' :: behind)) (String.ofList name :: names)

/-- Where two texts meet, a token opens only if a dollar meets a brace. -/
theorem opening_infix_append {front rest : List Char} :
    opening <:+: front ++ rest ↔ opening <:+: front ∨ opening <:+: rest ∨
      front.getLast? = some '$' ∧ rest.head? = some '\x7b' := by
  induction front with
  | nil => simp [opening]
  | cons c front ih =>
      rw [List.cons_append, List.infix_cons_iff, ih, List.infix_cons_iff]
      cases front with
      | nil =>
          cases rest with
          | nil => simp [opening]
          | cons d rest =>
              simp [opening]
              grind
      | cons d front =>
          simp [opening]
          grind

/-- Characters in which no token opens, and which do not end in a dollar, are passed over. -/
theorem Scan.append {front rest : List Char} {names : List String} (h : Scan rest names)
    (hfront : ¬ opening <:+: front) (hlast : front.getLast? ≠ some '$') :
    Scan (front ++ rest) names := by
  have hjoin {before : List Char} (hbefore : ¬ opening <:+: before) :
      ¬ opening <:+: front ++ before := by
    simp [opening_infix_append, hfront, hbefore, hlast]
  cases h with
  | plain h => exact .plain (hjoin h)
  | unclosed hbefore hrest =>
      simpa [List.append_assoc] using Scan.unclosed (hjoin hbefore) hrest
  | token hbefore hname hrest =>
      simpa [List.append_assoc] using Scan.token (hjoin hbefore) hname hrest

/-- A text whose tokens have no values is what one pass puts together. -/
theorem Scan.expansion {lookup : String → Option String} {text : List Char} {names : List String}
    (h : Scan text names) (hnames : ∀ name ∈ names, lookup name = none) :
    Expansion lookup text text := by
  induction h with
  | plain h => exact .plain h
  | unclosed hbefore hrest => exact .unclosed hbefore hrest
  | token hbefore hname hrest ih =>
      rw [List.forall_mem_cons] at hnames
      have hkept := Expansion.unknown hbefore hname hnames.1 (ih hnames.2)
      rwa [List.append_assoc _ _ ('\x7d' :: _)] at hkept

/-! ## Inert values -/

/-- A value that neither opens a token nor lets one open across it. -/
def Inert (value : String) : Prop :=
  value ≠ "" ∧ '$' ∉ value.toList ∧ '\x7b' ∉ value.toList

instance (value : String) : Decidable (Inert value) :=
  inferInstanceAs (Decidable (_ ∧ _ ∧ _))

theorem Inert.not_opening_append {value : String} (h : Inert value) {before : List Char}
    (hbefore : ¬ opening <:+: before) : ¬ opening <:+: before ++ value.toList := by
  obtain ⟨-, hdollar, hbrace⟩ := h
  have hvalue : ¬ opening <:+: value.toList :=
    fun hopening => hdollar (hopening.subset (by simp [opening]))
  have hhead : value.toList.head? ≠ some '\x7b' :=
    fun hhead => hbrace (List.mem_of_mem_head? hhead)
  simp [opening_infix_append, hbefore, hvalue, hhead]

theorem Inert.getLast?_append {value : String} (h : Inert value) (before : List Char) :
    (before ++ value.toList).getLast? ≠ some '$' := by
  obtain ⟨hne, hdollar, -⟩ := h
  have hsome : value.toList ≠ [] := by simpa using hne
  rw [List.getLast?_append, List.getLast?_eq_some_getLast hsome, Option.some_or]
  intro hlast
  exact hdollar (Option.some.inj hlast ▸ List.getLast_mem hsome)

/-! ## One pass and the next -/

namespace Expansion

variable {lookup : String → Option String} {text result : List Char}

/-- A pass keeps a character in front of a text, unless it can open a token. -/
theorem head {c : Char} {rest : List Char} (h : Expansion lookup text result)
    (htext : text = c :: rest) (hc : c ≠ '$') : ∃ others, result = c :: others := by
  have hopening {before behind : List Char} (hbefore : before ++ opening ++ behind = c :: rest) :
      ∃ others, before = c :: others := by
    cases before with
    | nil => exact absurd (List.cons.inj hbefore).1.symm hc
    | cons d before => exact ⟨before, by rw [(List.cons.inj hbefore).1]⟩
  cases h with
  | plain => exact ⟨rest, htext⟩
  | unclosed => exact ⟨rest, htext⟩
  | known =>
      obtain ⟨others, rfl⟩ := hopening htext
      exact ⟨_, rfl⟩
  | unknown =>
      obtain ⟨others, rfl⟩ := hopening htext
      exact ⟨_, rfl⟩

/-- What one pass puts together from inert values holds the tokens without a value, and no other. -/
theorem scan (h : Expansion lookup text result)
    (hinert : ∀ name value, lookup name = some value → Inert value) :
    ∃ names, Scan text names ∧ Scan result (names.filter fun name => (lookup name).isNone) := by
  induction h with
  | plain h => exact ⟨[], .plain h, .plain h⟩
  | unclosed hbefore hrest => exact ⟨[], .unclosed hbefore hrest, .unclosed hbefore hrest⟩
  | @known before name behind result value hbefore hname hvalue hresult ih =>
      obtain ⟨names, htext, hscan⟩ := ih
      have hvalueInert := hinert _ _ hvalue
      have hbrace : ¬ opening <:+: ['\x7d'] ∧ ['\x7d'].getLast? ≠ some '$' := by decide
      have hclosing : Scan ('\x7d' :: behind) names := htext.append hbrace.1 hbrace.2
      refine ⟨String.ofList name :: names, .token hbefore hname hclosing, ?_⟩
      simpa [hvalue] using hscan.append (hvalueInert.not_opening_append hbefore)
        (hvalueInert.getLast?_append before)
  | @unknown before name behind result hbefore hname hvalue hresult ih =>
      obtain ⟨names, htext, hscan⟩ := ih
      refine ⟨String.ofList name :: names, .token hbefore hname htext, ?_⟩
      -- The pass has kept the closing brace, so the token is there again.
      obtain ⟨others, rfl⟩ := hresult.head rfl (by decide)
      simpa [hvalue] using Scan.token hbefore hname hscan

theorem fill_eq {template : String} {store : Variables}
    (h : Expansion (fun name => store.get name) template.toList result) :
    fill template store = String.ofList result := by
  obtain ⟨rounds, hrounds, hsplices⟩ := h.splices []
  have hresult := hsplices.spliceFrom_eq (Nat.lt_succ_of_le hrounds)
  rw [Template.fill_eq]
  exact congrArg String.ofList hresult

end Expansion

/-- With inert values a template that has been filled in holds just those of its tokens whose names
have no value: what stands between them, a value beside other text or an opening that is never
closed, makes no new token. So filling it in again leaves it as it is. -/
theorem fill_fill_of_inert {store : Variables}
    (h : ∀ binding ∈ store.toList, ∀ value ∈ binding.2, Inert value) (template : String) :
    let filled := fill template store
    (∃ names, Scan template.toList names ∧
      Scan filled.toList (names.filter fun name => (store.get name).isNone)) ∧
    fill filled store = filled := by
  intro filled
  obtain ⟨result, hresult⟩ := exists_expansion (fun name => store.get name) template.toList
  have hfilled : filled.toList = result := by simp [filled, hresult.fill_eq]
  obtain ⟨names, htext, hscan⟩ :=
    hresult.scan fun name value hvalue => h _ (Variables.mem_of_get hvalue) value rfl
  rw [← hfilled] at hscan
  refine ⟨⟨names, htext, hscan⟩, ?_⟩
  have hagain : Expansion (fun name => store.get name) filled.toList filled.toList :=
    hscan.expansion fun name hname => by simpa using (List.mem_filter.mp hname).2
  rw [hagain.fill_eq, String.ofList_toList]

/-- A value with a closing brace between a dollar and a brace, two tokens without a value, one of
them around another opening, and an opening that is never closed. -/
theorem fill_fill_of_seams :
    let store := Variables.ofList [("u", some "a\x7d"), ("w", none)]
    let template := "$$\x7bu\x7d\x7bu\x7d $\x7bw\x7d$\x7bx$\x7bu\x7d $\x7bz"
    let filled := fill template store
    (∀ binding ∈ store.toList, ∀ value ∈ binding.2, Inert value) ∧
      filled = "$a\x7d\x7bu\x7d $\x7bw\x7d$\x7bx$\x7bu\x7d $\x7bz" ∧
      fill filled store = filled := by
  intro store template filled
  have hinert : ∀ binding ∈ store.toList, ∀ value ∈ binding.2, Inert value := by
    decide +kernel +zetaReduce
  exact ⟨hinert, by decide +kernel +zetaReduce, (fill_fill_of_inert hinert template).2⟩

/-- An empty value lets a token open across it. -/
example :
    let store := Variables.ofList [("e", some ""), ("u", some "a")]
    fill "$$\x7be\x7d\x7bu\x7d" store = "$\x7bu\x7d" ∧ fill "$\x7bu\x7d" store = "a" := by
  decide +kernel

end MailScript.Template
