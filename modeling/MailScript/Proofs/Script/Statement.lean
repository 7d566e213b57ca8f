import MailScript.Proofs.Script.Compilation
import MailScript.Proofs.Text

/-! # Scripts written out

A script is a list of statements, each written on one line or on several. Compiling what was written
gives the statements back: one element for each that is no remark, at the line where it begins. -/

namespace MailScript.Script

/-! ## Statements -/

/-- A directive as it is written in a script. -/
inductive Statement where
  /-- A comment or a blank line. -/
  | remark (text : String)
  | request (message : String)
  | response (pattern : String)
  | capture (names : List String) (pattern : String)
  /-- The line that asks for more. The plus sign in it may be escaped. -/
  | prompt (escaped : Bool)
  | unordered (patterns : List String)
  | switch (label : String)
  /-- A pause of some seconds, whose number is given by its digits. -/
  | pause (digits : String)
  | skip (description : String)
deriving DecidableEq, Repr

namespace Statement

/-- The lines of a statement. -/
def lines : Statement → List String
  | remark text => [text]
  | request message => ["C: " ++ message]
  | response pattern => ["S: " ++ pattern]
  | capture names pattern =>
    ["S" ++ String.join (names.map fun name => "<" ++ name ++ ">") ++ ": " ++ pattern]
  | prompt escaped => [if escaped then "S: \\+" else "S: +"]
  | unordered patterns => "SUB \x7b" :: patterns.map ("S: " ++ ·) ++ ["\x7d"]
  | switch label => ["SESSION: " ++ label]
  | pause digits => ["SLEEP: " ++ digits]
  | skip description => ["<BINARY_RESPONSE>", "S: " ++ description]

/-- The message of a request. -/
def message? : Statement → Option String
  | request message => some message
  | _ => none

/-- The element that a statement stands for, given where it stands and what was requested last. -/
def element? (origin : Origin) : Statement → Option Element
  | remark _ => none
  | request message => some (.request message)
  | response pattern => some (.response pattern origin [])
  | capture names pattern => some (.response pattern origin names)
  | prompt _ => some .prompt
  | unordered patterns => some (.unordered patterns origin)
  | switch label => some (.switch label)
  | pause digits => some (.pause (1000 * Nat.ofDigitChars 10 digits.toList 0 : Nat))
  | skip description => some (.skipped description origin)

end Statement

/-! ## Well-formed statements -/

/-- A text without line breaks. -/
def OneLine (text : String) : Prop :=
  ∀ c ∈ text.toList, Text.isLineBreak c = false

/-- A text without blanks at its ends. -/
def Trimmed (text : String) : Prop :=
  Text.trimChars text.toList = text.toList

instance : DecidablePred OneLine := fun text =>
  List.decidableBAll (fun c => Text.isLineBreak c = false) text.toList

instance : DecidablePred Trimmed := fun text =>
  inferInstanceAs (Decidable (Text.trimChars text.toList = text.toList))

/-- A non-empty row of word characters. -/
def IsName (text : String) : Prop :=
  text ≠ "" ∧ ∀ c ∈ text.toList, Text.isWord c.toNat

instance : DecidablePred IsName := fun text =>
  @instDecidableAnd _ _ inferInstance
    (List.decidableBAll (fun c => Text.isWord c.toNat) text.toList)

/-- A text in which no name stands in angle brackets. -/
def Nameless (text : String) : Prop :=
  ∀ name, IsName name → ¬ ("<" ++ name ++ ">").toList <:+: text.toList

/-- A statement whose texts suit the way in which it is written. -/
def Statement.WellFormed : Statement → Prop
  | remark text =>
    OneLine text ∧ ("#".toList <+: text.toList ∨ ∀ c ∈ text.toList, Text.isBlank c.toNat)
  | request message => OneLine message
  | response pattern =>
    OneLine pattern ∧ IsPattern pattern ∧ pattern ≠ "+" ∧ pattern ≠ "\\+"
  | capture names pattern =>
    names ≠ [] ∧ (∀ name ∈ names, IsName name) ∧ OneLine pattern ∧ Trimmed pattern ∧
      Nameless pattern ∧ ∃ parsed, Pattern.parse pattern = .ok parsed ∧ parsed.groups ≠ 0
  | prompt _ => True
  | unordered patterns => ∀ pattern ∈ patterns, OneLine pattern ∧ IsPattern pattern
  | switch label => OneLine label ∧ Trimmed label ∧ label ≠ ""
  | pause digits =>
    digits ≠ "" ∧ (∀ c ∈ digits.toList, Text.isAsciiDigit c.toNat) ∧
      digits.length ≤ Text.digitLimit
  | skip description => OneLine description

/-! ## Whole scripts -/

/-- The lines of some statements. -/
def linesOf (statements : List Statement) : List String :=
  statements.flatMap Statement.lines

/-- Statements written out as a text. -/
def written (statements : List Statement) : String :=
  String.ofList (Text.endedLines ((linesOf statements).map String.toList))

/-- The message of the last request among some statements; it is empty if there is none. -/
def lastMessage (statements : List Statement) : String :=
  (statements.filterMap Statement.message?).getLast?.getD ""

/-- Where a statement stands that comes behind others, and what they requested last. -/
def originBehind (script : String) (before : List Statement) : Origin :=
  ⟨script ++ ":" ++ toString ((linesOf before).length + 1), some (lastMessage before)⟩

/-- The elements of statements that come behind others. -/
def elementsBehind (script : String) (before : List Statement) :
    List Statement → List Element
  | [] => []
  | statement :: rest =>
    (statement.element? (originBehind script before)).toList ++
      elementsBehind script (before ++ [statement]) rest

/-! ## Lines read back -/

namespace Line

theorem body_response (text : String) : Line.body ("S: " ++ text).toList = text := by
  simp [body, tagLength]

/-- The value behind a tag without a colon is the text that was written there. -/
theorem value_append {tag : Line} (h : ':' ∉ tag) {text : String} (htrimmed : Trimmed text) :
    (tag ++ ':' :: ' ' :: text.toList : Line).value = .ok text.toList := by
  rw [value, Text.cutAtFirst_append _ h]
  refine congrArg Except.ok ?_
  rw [Text.trimChars_cons (by decide), htrimmed]

/-- A name that has begun goes on to its closing bracket. -/
theorem namesBehind_some {word : Line} (h : ∀ c ∈ word, Text.isWord c.toNat) (rest name : Line)
    (hname : name ++ word ≠ []) :
    namesBehind (some name) (word ++ '>' :: rest) =
      String.ofList (name ++ word) :: namesBehind none rest := by
  induction word generalizing name with
  | nil =>
      rw [List.append_nil] at hname ⊢
      rw [List.nil_append, namesBehind, if_neg (by decide), if_pos ⟨rfl, hname⟩]
  | cons c word ih =>
      rw [List.forall_mem_cons] at h
      rw [List.cons_append, namesBehind, if_pos h.1, ih h.2 _ (by simp), List.append_assoc]
      rfl

/-- The rest of a line together with the name that has begun in front of it. -/
def withBegun : Option Line → Line → Line
  | none, rest => rest
  | some name, rest => '<' :: name ++ rest

theorem suffix_withBegun (begun : Option Line) (rest : Line) : rest <:+ withBegun begun rest := by
  cases begun with
  | none => exact List.suffix_rfl
  | some name => exact List.suffix_append _ _

/-- Where no name stands in angle brackets none is found. -/
theorem namesBehind_eq_nil {begun : Option Line} {rest : Line}
    (hbegun : ∀ name ∈ begun, ∀ c ∈ name, Text.isWord c.toNat)
    (h : ∀ word : Line, word ≠ [] → (∀ c ∈ word, Text.isWord c.toNat) →
      ¬ '<' :: word ++ ['>'] <:+: withBegun begun rest) :
    namesBehind begun rest = [] := by
  induction rest generalizing begun with
  | nil => cases begun <;> rfl
  | cons c rest ih =>
      -- A character that goes on with no name may still begin one.
      have hfresh : namesBehind (if c = '<' then some [] else none) rest = [] := by
        refine ih (by split <;> simp) fun word hne hword hinside => h word hne hword ?_
        have hsuffix : withBegun (if c = '<' then some [] else none) rest <:+ c :: rest := by
          split
          · rename_i hc
            rw [hc]
            exact List.suffix_rfl
          · exact List.suffix_cons c rest
        exact hinside.trans (hsuffix.trans (suffix_withBegun begun _)).isInfix
      cases begun with
      | none => exact hfresh
      | some name =>
          have hname := hbegun name rfl
          rw [namesBehind]
          split
          · rename_i hc
            refine ih ?_ fun word hne hword => ?_
            · rintro _ ⟨⟩ d hd
              rcases List.mem_append.mp hd with hd | hd
              · exact hname d hd
              · rw [List.mem_singleton.mp hd]
                exact hc
            · simpa [withBegun] using h word hne hword
          · split
            · rename_i hc
              obtain ⟨rfl, hne⟩ := hc
              exact absurd ⟨[], rest, by simp [withBegun]⟩ (h name hne hname)
            · exact hfresh

/-- A name in angle brackets is found, whatever is in front of it. -/
theorem namesBehind_ne_nil {word : Line} (hne : word ≠ []) (h : ∀ c ∈ word, Text.isWord c.toNat)
    (begun : Option Line) (front rest : Line) :
    namesBehind begun (front ++ '<' :: word ++ '>' :: rest) ≠ [] := by
  induction front generalizing begun with
  | nil =>
      have hfound : namesBehind (some []) (word ++ '>' :: rest) ≠ [] := by
        rw [namesBehind_some h rest [] (by simpa using hne)]
        exact List.cons_ne_nil _ _
      cases begun with
      | none => exact hfound
      | some name =>
          rw [List.nil_append, List.cons_append, namesBehind, if_neg (by decide),
            if_neg fun hclosing => absurd hclosing.1 (by decide)]
          exact hfound
  | cons c front ih =>
      cases begun with
      | none => exact ih _
      | some name =>
          rw [List.cons_append, List.cons_append, namesBehind]
          split
          · exact ih _
          · split
            · exact List.cons_ne_nil _ _
            · exact ih _

theorem names_eq_nil_iff {text : String} : Line.names text.toList = [] ↔ Nameless text := by
  constructor
  · rintro h name ⟨hne, hword⟩ ⟨front, rest, htext⟩
    refine namesBehind_ne_nil (by simpa using hne) hword none front rest ?_
    rw [← h, names, ← htext]
    simp
  · intro h
    refine namesBehind_eq_nil (by simp) fun word hne hword => ?_
    simpa [withBegun] using h (String.ofList word) ⟨by simpa using hne, by simpa using hword⟩

/-- Names in angle brackets. -/
def bracketed (names : List String) : Line :=
  names.flatMap fun name => '<' :: name.toList ++ ['>']

theorem namesBehind_bracketed {names : List String} (h : ∀ name ∈ names, IsName name)
    (rest : Line) :
    namesBehind none (bracketed names ++ rest) = names ++ namesBehind none rest := by
  induction names with
  | nil => rfl
  | cons name names ih =>
      rw [List.forall_mem_cons] at h
      have hname := namesBehind_some h.1.2 (bracketed names ++ rest) [] (by simpa using h.1.1)
      rw [ih h.2, List.nil_append, String.ofList_toList] at hname
      simpa [bracketed, namesBehind] using hname

/-- A line that declares names and then says what it expects. -/
def captureLine (names : List String) (message : Line) : Line :=
  'S' :: bracketed names ++ ':' :: ' ' :: message

theorem names_captureLine {names : List String} (h : ∀ name ∈ names, IsName name)
    (message : Line) : (captureLine names message).names = names ++ message.names := by
  have hfound := namesBehind_bracketed h (':' :: ' ' :: message)
  simpa [captureLine, Line.names, namesBehind] using hfound

theorem value_captureLine {names : List String} (h : ∀ name ∈ names, IsName name)
    (message : Line) : (captureLine names message).value = .ok (Text.trimChars message) := by
  have hcolon : ':' ∉ 'S' :: bracketed names := by
    simp only [bracketed, List.mem_cons, List.mem_flatMap, not_or, not_exists, not_and]
    refine ⟨by decide, fun name hname hmem => ?_⟩
    have hmem : ':' ∈ name.toList := by simpa using hmem
    exact absurd ((h name hname).2 ':' hmem) (by decide)
  rw [captureLine, value, Text.cutAtFirst_append _ hcolon]
  exact congrArg Except.ok (Text.trimChars_cons (by decide) message)

theorem signedDigits_of_digits {digits : Line} (h : digits ≠ [])
    (hdigits : ∀ c ∈ digits, Text.isAsciiDigit c.toNat) :
    signedDigits digits = some (false, digits) := by
  unfold signedDigits
  split
  · exact absurd (hdigits '-' (by simp)) (by decide)
  · exact absurd (hdigits '+' (by simp)) (by decide)
  · rw [signedDigits.checked, if_pos ⟨h, by simpa using hdigits⟩]

theorem millis_of_value {line : Line} {digits : String} (hvalue : line.value = .ok digits.toList)
    (h : digits ≠ "") (hdigits : ∀ c ∈ digits.toList, Text.isAsciiDigit c.toNat)
    (hlength : digits.length ≤ Text.digitLimit) :
    line.millis = .ok (1000 * Nat.ofDigitChars 10 digits.toList 0) := by
  have hlimit : ¬ Text.digitLimit < digits.toList.length := by
    rw [String.length_toList]
    exact Nat.not_lt.mpr hlength
  rw [millis, hvalue]
  simp only [bind, Except.bind, pure, Except.pure,
    signedDigits_of_digits (by simpa using h) hdigits, if_neg hlimit, Bool.false_eq_true, if_false,
    Text.decimalNumber?_of_digits hdigits, Option.getD_some, Nat.mul_comm]

end Line

/-! ## Directives read back -/

namespace Directive

theorem ofLine_prompt (escaped : Bool) :
    ofLine (if escaped then "S: \\+" else "S: +").toList = .ok .prompt := by
  cases escaped <;> rfl

theorem ofLine_request (message : String) :
    ofLine ("C: " ++ message).toList = .ok (.request message) := by
  simp [ofLine, Line.startsWith, Line.body, Line.tagLength, pure, Except.pure]

theorem ofLine_response {pattern : String} (h : pattern ≠ "+") (hescaped : pattern ≠ "\\+") :
    ofLine ("S: " ++ pattern).toList = .ok (.response pattern) := by
  rw [Ne, ← String.toList_inj] at h hescaped
  simp only [String.reduceToList] at h hescaped
  simp [ofLine, Line.startsWith, Line.body, Line.tagLength, responseTag, pure, Except.pure, h,
    hescaped]

theorem ofLine_remark {text : String}
    (h : "#".toList <+: text.toList ∨ ∀ c ∈ text.toList, Text.isBlank c.toNat) :
    ofLine text.toList = .ok .ignored := by
  rcases h with ⟨rest, hrest⟩ | h
  · rw [← hrest]
    rfl
  · cases htext : text.toList with
    | nil => rfl
    | cons c rest =>
        rw [htext, List.forall_mem_cons] at h
        -- No tag in front of the one of comments begins with a blank.
        have hS : 'S' ≠ c := by
          rintro rfl
          exact absurd h.1 (by decide)
        have hC : 'C' ≠ c := by
          rintro rfl
          exact absurd h.1 (by decide)
        have hA : 'A' ≠ c := by
          rintro rfl
          exact absurd h.1 (by decide)
        simp +contextual [ofLine, Line.startsWith, responseTag, unorderedTag, uploadTag, hS,
          hS.symm, hC, hA, h, pure, Except.pure]

theorem ofLine_switch {label : String} (h : label ≠ "") (htrimmed : Trimmed label) :
    ofLine ("SESSION: " ++ label).toList = .ok (.switch label) := by
  have hvalue : Line.value ("SESSION: " ++ label).toList = .ok label.toList := by
    simpa using Line.value_append (by decide : ':' ∉ "SESSION".toList) htrimmed
  have hlabel : label.toList ≠ [] := by simpa using h
  rw [ofLine, hvalue]
  simp [Line.startsWith, responseTag, unorderedTag, uploadTag, Text.isBlank, Text.inRanges,
    Text.blankRanges, unplaced, hlabel, bind, Except.bind, pure, Except.pure]

theorem ofLine_pause {digits : String} (h : digits ≠ "")
    (hdigits : ∀ c ∈ digits.toList, Text.isAsciiDigit c.toNat)
    (hlength : digits.length ≤ Text.digitLimit) :
    ofLine ("SLEEP: " ++ digits).toList =
      .ok (.pause (1000 * Nat.ofDigitChars 10 digits.toList 0)) := by
  have htrimmed : Trimmed digits :=
    Text.trimChars_of_forall_not_isBlank fun c hc => Text.isBlank_of_isAsciiDigit (hdigits c hc)
  have hvalue : Line.value ("SLEEP: " ++ digits).toList = .ok digits.toList := by
    simpa using Line.value_append (by decide : ':' ∉ "SLEEP".toList) htrimmed
  rw [ofLine, Line.millis_of_value hvalue h hdigits hlength]
  simp [Line.startsWith, responseTag, unorderedTag, uploadTag, Text.isBlank, Text.inRanges,
    Text.blankRanges, unplaced, bind, Except.bind, pure, Except.pure]

theorem ofLine_captureLine {names : List String} (h : names ≠ [])
    (hnames : ∀ name ∈ names, IsName name) (message : Line) :
    ofLine (Line.captureLine names message) =
      .ok (.capture (names ++ message.names) (String.ofList (Text.trimChars message))) := by
  rw [ofLine, Line.value_captureLine hnames, Line.names_captureLine hnames]
  obtain ⟨name, others, rfl⟩ := List.exists_cons_of_ne_nil h
  simp [Line.captureLine, Line.bracketed, Line.startsWith, responseTag, unplaced, bind, Except.bind,
    pure, Except.pure]

theorem ofLine_capture {names : List String} {pattern : String} (h : names ≠ [])
    (hnames : ∀ name ∈ names, IsName name) (htrimmed : Trimmed pattern)
    (hnameless : Nameless pattern) :
    ofLine ("S" ++ String.join (names.map fun name => "<" ++ name ++ ">") ++ ": " ++
      pattern).toList = .ok (.capture names pattern) := by
  have hline : ("S" ++ String.join (names.map fun name => "<" ++ name ++ ">") ++ ": " ++
      pattern).toList = Line.captureLine names pattern.toList := by
    simp [Line.captureLine, Line.bracketed, String.toList_join, List.flatMap_map]
  rw [hline, ofLine_captureLine h hnames, Line.names_eq_nil_iff.mpr hnameless, List.append_nil,
    htrimmed, String.ofList_toList]

end Directive

/-! ## Statements read back -/

namespace Draft

/-- A draft behind the lines of one more statement, the first of which has the given number. -/
def withStatement (setting : Setting) (number : Nat) (statement : Statement) (draft : Draft) :
    Draft :=
  { draft with
    elements := draft.elements ++ (statement.element? (draft.origin setting number)).toList
    lastRequest := statement.message?.getD draft.lastRequest }

variable {setting : Setting} {draft : Draft}

theorem readAll_single {number : Nat} {line : Line} {after : Draft}
    (h : draft.read setting number line = .ok after) :
    draft.readAll setting number [line] = (after, none) := by
  rw [readAll_cons_of_ok h, readAll]

/-- The patterns of an unordered block join those that were read before. -/
theorem readAll_patterns (opened : Nat) (seen : List String) {patterns : List String}
    (h : ∀ pattern ∈ patterns, IsPattern pattern) (number : Nat) :
    (draft.go (.unordered opened seen)).readAll setting number
        (patterns.map fun pattern => ("S: " ++ pattern).toList) =
      (draft.go (.unordered opened (seen ++ patterns)), none) := by
  induction patterns generalizing seen number with
  | nil => rw [List.append_nil, List.map_nil, readAll]
  | cons pattern rest ih =>
      rw [List.forall_mem_cons] at h
      have hread : (draft.go (.unordered opened seen)).read setting number
          ("S: " ++ pattern).toList = .ok (draft.go (.unordered opened (seen ++ [pattern]))) := by
        rw [read_unordered rfl _ (by simp [Line.startsWith, Directive.closingTag]),
          if_pos (by simp [Line.startsWith, Directive.responseTag]), Line.body_response,
          checkPattern_eq_ok_iff.mpr h.1]
        rfl
      rw [List.map_cons, readAll_cons_of_ok hread, ih _ h.2, List.append_assoc]
      rfl

theorem readAll_unordered {patterns : List String} (hstand : draft.stand = .outside)
    (h : ∀ pattern ∈ patterns, IsPattern pattern) (number : Nat) :
    draft.readAll setting number ((Statement.unordered patterns).lines.map String.toList) =
      (draft.withStatement setting number (.unordered patterns), none) := by
  have hopening : draft.read setting number "SUB \x7b".toList =
      .ok (draft.go (.unordered number [])) := by
    rw [read_outside hstand]
    rfl
  have hpatterns : (draft.go (.unordered number [])).readAll setting (number + 1)
      (patterns.map fun pattern => ("S: " ++ pattern).toList) =
        (draft.go (.unordered number patterns), none) :=
    readAll_patterns number [] h (number + 1)
  have hclosing : (draft.go (.unordered number patterns)).read setting
      (number + 1 + patterns.length) "\x7d".toList =
        .ok (draft.withStatement setting number (.unordered patterns)) := by
    rw [read_unordered_closing rfl _ rfl]
    simp [withStatement, Statement.element?, Statement.message?, go, add, origin, hstand]
  have hlines : (Statement.unordered patterns).lines.map String.toList = "SUB \x7b".toList ::
      ((patterns.map fun pattern => ("S: " ++ pattern).toList) ++ ["\x7d".toList]) := by
    simp [Statement.lines]
  rw [hlines, readAll_cons_of_ok hopening, readAll_append_of_ok hpatterns, List.length_map,
    readAll_single hclosing]

theorem readAll_skip (hstand : draft.stand = .outside) (description : String) (number : Nat) :
    draft.readAll setting number ((Statement.skip description).lines.map String.toList) =
      (draft.withStatement setting number (.skip description), none) := by
  have hopening : draft.read setting number "<BINARY_RESPONSE>".toList =
      .ok (draft.go (.skipping number)) := by
    rw [read_outside hstand]
    rfl
  have hnext : (draft.go (.skipping number)).read setting (number + 1)
      ("S: " ++ description).toList =
        .ok (draft.withStatement setting number (.skip description)) := by
    rw [read_skipping rfl, Line.body_response]
    simp [withStatement, Statement.element?, Statement.message?, go, add, origin, hstand]
  rw [Statement.lines, List.map_cons, readAll_cons_of_ok hopening]
  exact readAll_single hnext

/-- The lines of a well-formed statement add its element. -/
theorem readAll_lines {statement : Statement} (h : statement.WellFormed)
    (hstand : draft.stand = .outside) (number : Nat) :
    draft.readAll setting number (statement.lines.map String.toList) =
      (draft.withStatement setting number statement, none) := by
  cases statement with
  | unordered patterns =>
      exact readAll_unordered hstand (fun pattern hmem => (h pattern hmem).2) number
  | skip description => exact readAll_skip hstand description number
  | remark text =>
      refine readAll_single ?_
      rw [read_outside hstand, readOutside, Directive.ofLine_remark h.2]
      exact congrArg Except.ok (by simp [withStatement, Statement.element?, Statement.message?])
  | request message =>
      refine readAll_single ?_
      rw [read_outside hstand, readOutside, Directive.ofLine_request]
      rfl
  | response pattern =>
      refine readAll_single ?_
      obtain ⟨-, hpattern, hplain, hescaped⟩ := h
      rw [read_outside hstand, readOutside, Directive.ofLine_response hplain hescaped]
      change (checkPattern pattern false >>= fun _ => _) = _
      rw [checkPattern_eq_ok_iff.mpr hpattern]
      rfl
  | capture names pattern =>
      refine readAll_single ?_
      obtain ⟨hne, hnames, -, htrimmed, hnameless, parsed, hparse, hgroups⟩ := h
      rw [read_outside hstand, readOutside, Directive.ofLine_capture hne hnames htrimmed hnameless]
      change (checkPattern pattern (names ≠ []) >>= fun _ => _) = _
      rw [checkPattern_of_parse hparse fun _ => hgroups]
      rfl
  | prompt escaped =>
      refine readAll_single ?_
      rw [read_outside hstand, readOutside, Directive.ofLine_prompt]
      rfl
  | switch label =>
      refine readAll_single ?_
      rw [read_outside hstand, readOutside, Directive.ofLine_switch h.2.2 h.2.1]
      rfl
  | pause digits =>
      refine readAll_single ?_
      rw [read_outside hstand, readOutside, Directive.ofLine_pause h.1 h.2.1 h.2.2]
      rfl

end Draft

/-! ## Scripts read back -/

theorem linesOf_append_length (before : List Statement) (statement : Statement) :
    (linesOf (before ++ [statement])).length =
      (linesOf before).length + statement.lines.length := by
  simp [linesOf]

theorem lastMessage_append (before : List Statement) (statement : Statement) :
    lastMessage (before ++ [statement]) = statement.message?.getD (lastMessage before) := by
  unfold lastMessage
  cases h : statement.message? <;> simp [h]

/-- The lines of statements that come behind others add the elements of the statements. -/
theorem readAll_linesOf (setting : Setting) {statements : List Statement}
    (h : ∀ statement ∈ statements, statement.WellFormed) {before : List Statement} {draft : Draft}
    (hstand : draft.stand = .outside) (hlast : draft.lastRequest = lastMessage before) :
    ∃ after, draft.readAll setting ((linesOf before).length + 1)
        ((linesOf statements).map String.toList) = (after, none) ∧
      after.stand = .outside ∧
      after.elements = draft.elements ++ elementsBehind setting.script before statements := by
  induction statements generalizing before draft with
  | nil => exact ⟨draft, rfl, hstand, (List.append_nil _).symm⟩
  | cons statement rest ih =>
      rw [List.forall_mem_cons] at h
      let next := draft.withStatement setting ((linesOf before).length + 1) statement
      have hfirst : draft.readAll setting ((linesOf before).length + 1)
          (statement.lines.map String.toList) = (next, none) :=
        Draft.readAll_lines h.1 hstand _
      have hnext : next.lastRequest = lastMessage (before ++ [statement]) := by
        rw [lastMessage_append, ← hlast]
        rfl
      have hcount : (linesOf before).length + 1 + (statement.lines.map String.toList).length =
          (linesOf (before ++ [statement])).length + 1 := by
        rw [linesOf_append_length, List.length_map]
        omega
      have horigin : draft.origin setting ((linesOf before).length + 1) =
          originBehind setting.script before := by
        rw [Draft.origin, hlast]
        rfl
      have houtside : next.stand = .outside := hstand
      obtain ⟨after, hrest, hafter, helements⟩ := ih h.2 houtside hnext
      refine ⟨after, ?_, hafter, ?_⟩
      · have hlines : linesOf (statement :: rest) = statement.lines ++ linesOf rest :=
          List.flatMap_cons
        rw [hlines, List.map_append, Draft.readAll_append_of_ok hfirst, hcount, hrest]
      · rw [helements, elementsBehind, ← horigin, ← List.append_assoc]
        rfl

/-! ## Texts of scripts -/

theorem oneLine_append {front back : String} :
    OneLine (front ++ back) ↔ OneLine front ∧ OneLine back := by
  simp [OneLine, or_imp, forall_and]

theorem oneLine_of_forall {kind : Nat → Bool} (hkind : kind 13 = false ∧ kind 10 = false)
    {text : String} (h : ∀ c ∈ text.toList, kind c.toNat) : OneLine text := by
  intro c hc
  rw [Text.isLineBreak, Bool.or_eq_false_iff, decide_eq_false_iff_not, decide_eq_false_iff_not]
  constructor <;> rintro rfl
  · exact absurd (h '\r' hc) (by simp [hkind.1])
  · exact absurd (h '\n' hc) (by simp [hkind.2])

theorem oneLine_bracketed {names : List String} (h : ∀ name ∈ names, IsName name) :
    OneLine (String.join (names.map fun name => "<" ++ name ++ ">")) := by
  intro c hc
  rw [String.toList_join, List.mem_flatMap] at hc
  obtain ⟨text, htext, hc⟩ := hc
  obtain ⟨name, hname, rfl⟩ := List.mem_map.mp htext
  have hbracketed : OneLine ("<" ++ name ++ ">") :=
    oneLine_append.mpr ⟨oneLine_append.mpr
      ⟨by decide, oneLine_of_forall (by decide) (h name hname).2⟩, by decide⟩
  exact hbracketed c hc

/-- No line of a well-formed statement has a line break in it. -/
theorem Statement.WellFormed.oneLine {statement : Statement} (h : statement.WellFormed) :
    ∀ line ∈ statement.lines, OneLine line := by
  cases statement with
  | remark text => exact List.forall_mem_singleton.mpr h.1
  | request message => exact List.forall_mem_singleton.mpr (oneLine_append.mpr ⟨by decide, h⟩)
  | response pattern => exact List.forall_mem_singleton.mpr (oneLine_append.mpr ⟨by decide, h.1⟩)
  | capture names pattern =>
      obtain ⟨-, hnames, hpattern, -⟩ := h
      refine List.forall_mem_singleton.mpr (oneLine_append.mpr ⟨?_, hpattern⟩)
      exact oneLine_append.mpr
        ⟨oneLine_append.mpr ⟨by decide, oneLine_bracketed hnames⟩, by decide⟩
  | prompt escaped => cases escaped <;> decide
  | unordered patterns =>
      intro line hline
      rw [Statement.lines, List.mem_append, List.mem_cons, List.mem_map] at hline
      rcases hline with (rfl | ⟨pattern, hmem, rfl⟩) | hline
      · decide
      · exact oneLine_append.mpr ⟨by decide, (h pattern hmem).1⟩
      · rw [List.mem_singleton.mp hline]
        decide
  | switch label => exact List.forall_mem_singleton.mpr (oneLine_append.mpr ⟨by decide, h.1⟩)
  | pause digits =>
      exact List.forall_mem_singleton.mpr
        (oneLine_append.mpr ⟨by decide, oneLine_of_forall (by decide) h.2.1⟩)
  | skip description =>
      rw [Statement.lines, List.forall_mem_cons, List.forall_mem_singleton]
      exact ⟨by decide, oneLine_append.mpr ⟨by decide, h⟩⟩

/-- The elements of a script that is written out are those of its statements. -/
theorem compile_written (setting : Setting) (encoding : String) {statements : List Statement}
    (h : ∀ statement ∈ statements, statement.WellFormed) :
    (compile setting ((Source.text (written statements)).transcript encoding)).result =
      .ok (elementsBehind setting.script [] statements) := by
  have hlines : Text.splitLines (written statements).toList =
      (linesOf statements).map String.toList := by
    rw [written, String.toList_ofList]
    refine Text.splitLines_endedLines fun line hline => ?_
    obtain ⟨text, htext, rfl⟩ := List.mem_map.mp hline
    obtain ⟨statement, hmem, htext⟩ := List.mem_flatMap.mp htext
    exact (h statement hmem).oneLine text htext
  have hempty : Draft.empty.lastRequest = lastMessage [] := rfl
  obtain ⟨draft, hread, hstand, helements⟩ := readAll_linesOf setting h rfl hempty
  rw [Source.transcript, hlines]
  exact result_compile_eq_ok_iff.mpr ⟨draft, hread, hstand, helements⟩

/-- A script of all kinds of statements, some of whose texts look like other statements. -/
theorem compile_written_of_each_kind :
    let setting : Setting := ⟨"t.mpt", ⟨[], []⟩, none, 100⟩
    let statements : List Statement :=
      [.remark "#C: a0", .request "C: a1 x", .capture ["tag", "n"] "(a+): <b", .prompt true,
        .unordered ["S: .*", "\x7d"], .switch "two: SLEEP", .pause "0012", .skip "\x7d",
        .response "\\+ "]
    (∀ statement ∈ statements, statement.WellFormed) ∧
      written statements =
        "#C: a0\nC: C: a1 x\nS<tag><n>: (a+): <b\nS: \\+\nSUB \x7b\nS: S: .*\nS: \x7d\n\x7d\n" ++
          "SESSION: two: SLEEP\nSLEEP: 0012\n<BINARY_RESPONSE>\nS: \x7d\nS: \\+ \n" ∧
      (compile setting ((Source.text (written statements)).transcript "utf-8")).result =
        .ok [.request "C: a1 x", .response "(a+): <b" ⟨"t.mpt:3", some "C: a1 x"⟩ ["tag", "n"],
          .prompt, .unordered ["S: .*", "\x7d"] ⟨"t.mpt:5", some "C: a1 x"⟩, .switch "two: SLEEP",
          .pause 12000, .skipped "\x7d" ⟨"t.mpt:11", some "C: a1 x"⟩,
          .response "\\+ " ⟨"t.mpt:13", some "C: a1 x"⟩ []] := by
  intro setting statements
  have hcapture : (Statement.capture ["tag", "n"] "(a+): <b").WellFormed := by
    refine ⟨by decide, by decide, by decide, by decide, ?_, _, eq_ok_of_toOption rfl, by decide⟩
    intro name _ hinside
    have hclosing : '>' ∈ ("<" ++ name ++ ">").toList := by simp
    exact absurd (hinside.subset hclosing) (by decide)
  have hall : ∀ statement ∈ statements, statement.WellFormed := by
    simp only [statements, List.forall_mem_cons]
    refine ⟨⟨by decide, .inl ⟨_, rfl⟩⟩, (by decide : OneLine _), hcapture, trivial, ?_,
      ⟨by decide, by decide, by decide⟩,
      ⟨by decide, by simp [Text.isAsciiDigit], by decide⟩, (by decide : OneLine _),
      ⟨by decide, isPattern_of_isSome (by decide +kernel), by decide, by decide⟩, by simp⟩
    simp only [Statement.WellFormed, List.forall_mem_cons]
    exact ⟨⟨by decide, isPattern_of_isSome (by decide +kernel)⟩,
      ⟨by decide, isPattern_of_isSome (by decide +kernel)⟩, by simp⟩
  refine ⟨hall, by decide +kernel, ?_⟩
  rw [compile_written setting "utf-8" hall]
  exact congrArg Except.ok (by decide +kernel)

end MailScript.Script
