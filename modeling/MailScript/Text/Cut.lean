/-! # Cutting a text at a mark -/

namespace MailScript.Text

/-- Cut a text at the first occurrence of a character. -/
def cutAtFirst (mark : Char) : List Char → Option (List Char × List Char)
  | [] => none
  | c :: rest =>
    if c = mark then some ([], rest)
    else (cutAtFirst mark rest).map fun parts => (c :: parts.1, parts.2)

/-- Cut a text at the last occurrence of a character. -/
def cutAtLast (mark : Char) (text : List Char) : Option (List Char × List Char) :=
  (cutAtFirst mark text.reverse).map fun parts => (parts.2.reverse, parts.1.reverse)

/-- The parts of a text between the occurrences of a character. -/
def splitAt (mark : Char) : List Char → List (List Char)
  | [] => [[]]
  | c :: rest =>
    if c = mark then [] :: splitAt mark rest
    else match splitAt mark rest with
      | [] => [[c]]
      | part :: parts => (c :: part) :: parts

/-- A cut loses nothing but the mark, which does not occur before the cut. -/
theorem cutAtFirst_eq_some {mark : Char} {text before behind : List Char}
    (h : cutAtFirst mark text = some (before, behind)) :
    text = before ++ mark :: behind ∧ mark ∉ before := by
  induction text generalizing before with
  | nil => simp [cutAtFirst] at h
  | cons c rest ih =>
      by_cases hc : c = mark
      · simp only [cutAtFirst, hc, if_true, Option.some.injEq, Prod.mk.injEq] at h
        obtain ⟨rfl, rfl⟩ := h
        simp [hc]
      · simp only [cutAtFirst, hc, if_false, Option.map_eq_some_iff] at h
        obtain ⟨parts, hparts, heq⟩ := h
        simp only [Prod.mk.injEq] at heq
        obtain ⟨rfl, rfl⟩ := heq
        obtain ⟨hrest, hmark⟩ := ih hparts
        refine ⟨by rw [hrest, List.cons_append, ← hrest], ?_⟩
        simp only [List.mem_cons, not_or]
        exact ⟨fun found => hc found.symm, hmark⟩

end MailScript.Text
