import MailScript.Text.Blank
import MailScript.Text.Cut
import MailScript.Text.Digit
import MailScript.Text.Lines

/-! # Texts read back

A text that is put together from parts is taken apart into the same parts: numbers from their
digits, the two sides of a mark, a text from the blanks around it, and lines from their endings. -/

namespace MailScript.Text

/-! ## Numbers -/

theorem decimalValue?_of_isAsciiDigit {code : Nat} (h : isAsciiDigit code) :
    decimalValue? code = some (code - 48) := by
  have hle : code ≤ 57 := by
    simp only [isAsciiDigit, Bool.and_eq_true, decide_eq_true_eq] at h
    exact h.2
  rw [decimalValue?, if_pos (by omega), if_pos h]

/-- Digits of ASCII denote the number that they have in the decimal system. -/
theorem decimalNumber?_of_digits {digits : List Char}
    (h : ∀ c ∈ digits, isAsciiDigit c.toNat) :
    decimalNumber? digits = some (Nat.ofDigitChars 10 digits 0) := by
  unfold decimalNumber?
  generalize 0 = value
  induction digits generalizing value with
  | nil => rfl
  | cons c rest ih =>
      rw [List.forall_mem_cons] at h
      rw [List.foldl_cons, Nat.ofDigitChars_cons, ← ih h.2]
      simp [decimalValue?_of_isAsciiDigit h.1]

theorem isAsciiDigit_of_isDigit {c : Char} (h : c.isDigit) : isAsciiDigit c.toNat := by
  simpa [Char.isDigit, isAsciiDigit, UInt32.le_iff_toNat_le] using h

theorem isAsciiDigit_of_mem_toString {number : Nat} {c : Char}
    (h : c ∈ (toString number).toList) : isAsciiDigit c.toNat := by
  rw [Nat.toString_eq_ofList_toDigits, String.toList_ofList] at h
  exact isAsciiDigit_of_isDigit (Nat.isDigit_of_mem_toDigits (by decide) (by decide) h)

/-- A number is read back from its decimal digits. -/
theorem decimalNumber?_toString (number : Nat) :
    decimalNumber? (toString number).toList = some number := by
  rw [decimalNumber?_of_digits fun c hc => isAsciiDigit_of_mem_toString hc,
    Nat.toString_eq_ofList_toDigits, String.toList_ofList, Nat.ofDigitChars_ten_toDigits]

/-- A number has few digits if it is small. -/
theorem length_toString_le {number count : Nat} (hcount : 0 < count) (h : number < Nat.pow 10 count) :
    (toString number).toList.length ≤ count := by
  rw [Nat.toString_eq_ofList_toDigits, String.toList_ofList]
  exact (Nat.length_toDigits_le_iff (by decide) hcount).mpr h

theorem isDecimal_of_decimalValue? {code value : Nat} (h : decimalValue? code = some value) :
    isDecimal code := by
  unfold decimalValue? at h
  unfold isDecimal
  split at h
  · rename_i hascii
    rw [if_pos hascii]
    split at h
    · assumption
    · cases h
  · rename_i hascii
    rw [if_neg hascii, inRanges_iff]
    obtain ⟨range, hfound, -⟩ := Option.map_eq_some_iff.mp h
    exact ⟨range, List.mem_of_find?_eq_some hfound, by simpa using List.find?_some hfound⟩

theorem decimalNumber?_append (front : List Char) (c : Char) :
    decimalNumber? (front ++ [c]) =
      (decimalNumber? front).bind fun value =>
        (decimalValue? c.toNat).map fun digit => 10 * value + digit := by
  rw [decimalNumber?, List.foldl_append, ← decimalNumber?]
  cases decimalNumber? front with
  | none => rfl
  | some value => cases hdigit : decimalValue? c.toNat <;> simp [hdigit]

/-- Only decimal digits denote a number. -/
theorem isDecimal_of_decimalNumber? {digits : List Char} {number : Nat}
    (h : decimalNumber? digits = some number) : ∀ c ∈ digits, isDecimal c.toNat := by
  -- The last digit is added to the number of those in front of it.
  rw [← List.reverse_reverse digits] at h ⊢
  generalize digits.reverse = back at h ⊢
  induction back generalizing number with
  | nil => simp
  | cons c front ih =>
      rw [List.reverse_cons, decimalNumber?_append, Option.bind_eq_some_iff] at h
      obtain ⟨value, hfront, hlast⟩ := h
      obtain ⟨digit, hdigit, -⟩ := Option.map_eq_some_iff.mp hlast
      have hprevious := ih hfront
      simp only [List.mem_reverse, List.forall_mem_cons] at hprevious ⊢
      exact ⟨isDecimal_of_decimalValue? hdigit, hprevious⟩

/-! ## Cuts -/

theorem cutAtFirst_append {mark : Char} {before : List Char} (behind : List Char)
    (h : mark ∉ before) : cutAtFirst mark (before ++ mark :: behind) = some (before, behind) := by
  induction before with
  | nil => simp [cutAtFirst]
  | cons c rest ih =>
      rw [List.mem_cons, not_or] at h
      rw [List.cons_append, cutAtFirst, if_neg (Ne.symm h.1), ih h.2]
      rfl

theorem cutAtFirst_eq_none_iff {mark : Char} {text : List Char} :
    cutAtFirst mark text = none ↔ mark ∉ text := by
  induction text with
  | nil => simp [cutAtFirst]
  | cons c rest ih =>
      by_cases hc : c = mark
      · simp [cutAtFirst, hc]
      · simp [cutAtFirst, hc, ih, Ne.symm hc]

theorem cutAtLast_append {mark : Char} (before : List Char) {behind : List Char}
    (h : mark ∉ behind) : cutAtLast mark (before ++ mark :: behind) = some (before, behind) := by
  have hreverse : (before ++ mark :: behind).reverse =
      behind.reverse ++ mark :: before.reverse := by
    simp
  rw [cutAtLast, hreverse, cutAtFirst_append _ (by simpa using h)]
  simp

theorem cutAtLast_eq_some {mark : Char} {text before behind : List Char}
    (h : cutAtLast mark text = some (before, behind)) :
    text = before ++ mark :: behind ∧ mark ∉ behind := by
  obtain ⟨⟨last, first⟩, hcut, hparts⟩ := Option.map_eq_some_iff.mp h
  obtain ⟨htext, hmark⟩ := cutAtFirst_eq_some hcut
  cases hparts
  refine ⟨?_, by simpa using hmark⟩
  rw [← List.reverse_reverse text, htext]
  simp

/-! ## Blanks -/

theorem trimChars_cons {c : Char} (h : isBlank c.toNat) (text : List Char) :
    trimChars (c :: text) = trimChars text := by
  have hleft : trimLeft (c :: text) = trimLeft text := List.dropWhile_cons_of_pos h
  rw [trimChars, hleft, ← trimChars]

theorem trimLeft_of_forall_not_isBlank {text : List Char}
    (h : ∀ c ∈ text, isBlank c.toNat = false) : trimLeft text = text := by
  cases text with
  | nil => rfl
  | cons c rest => exact List.dropWhile_cons_of_neg (by simp [h c])

theorem trimChars_of_forall_not_isBlank {text : List Char}
    (h : ∀ c ∈ text, isBlank c.toNat = false) : trimChars text = text := by
  rw [trimChars, trimLeft_of_forall_not_isBlank h,
    trimLeft_of_forall_not_isBlank (by simpa using h), List.reverse_reverse]

theorem isBlank_of_isAsciiDigit {code : Nat} (h : isAsciiDigit code) : isBlank code = false := by
  simp only [isAsciiDigit, Bool.and_eq_true, decide_eq_true_eq] at h
  simp [isBlank, inRanges, blankRanges]
  omega

/-! ## Lines -/

/-- A carriage return in front of a text ends a line unless the text starts with a line feed. -/
theorem splitLines_return {rest : List Char} (h : rest.head? ≠ some '\n') :
    splitLines ('\r' :: rest) = [] :: splitLines rest := by
  rw [splitLines]
  · rfl
  · rintro later - rfl
    exact h rfl

theorem splitLines_feed (rest : List Char) : splitLines ('\n' :: rest) = [] :: splitLines rest := by
  rw [splitLines]
  · rfl
  · simp

theorem splitLines_cons {c : Char} (h : isLineBreak c = false) (rest : List Char) :
    splitLines (c :: rest) = pushFront c (splitLines rest) := by
  have hc : c ≠ '\r' ∧ c ≠ '\n' := by simpa [isLineBreak] using h
  rw [splitLines, if_neg (by simp [hc])]
  simp [hc]

/-- Lines with a line feed behind each. -/
def endedLines (lines : List (List Char)) : List Char :=
  lines.flatMap fun line => line ++ ['\n']

theorem splitLines_append {line : List Char} (h : ∀ c ∈ line, isLineBreak c = false)
    (rest : List Char) : splitLines (line ++ '\n' :: rest) = line :: splitLines rest := by
  induction line with
  | nil => exact splitLines_feed rest
  | cons c line ih =>
      rw [List.forall_mem_cons] at h
      rw [List.cons_append, splitLines_cons h.1, ih h.2, pushFront]

/-- Lines without line breaks are read back from the text in which each has a line feed behind
it. -/
theorem splitLines_endedLines {lines : List (List Char)}
    (h : ∀ line ∈ lines, ∀ c ∈ line, isLineBreak c = false) :
    splitLines (endedLines lines) = lines := by
  induction lines with
  | nil => rfl
  | cons line rest ih =>
      rw [List.forall_mem_cons] at h
      have hcons : endedLines (line :: rest) = line ++ '\n' :: endedLines rest := by
        simp [endedLines]
      rw [hcons, splitLines_append h.1, ih h.2]

end MailScript.Text
