import MailScript.Text.Ranges

/-! # Blank characters and trimming -/

namespace MailScript.Text

/-- The blank characters: white space and the separators of records, lines and paragraphs. -/
def blankRanges : List (Nat × Nat) :=
  [(9, 13), (28, 32), (133, 133), (160, 160), (5760, 5760), (8192, 8202), (8232, 8233),
   (8239, 8239), (8287, 8287), (12288, 12288)]

def isBlank (code : Nat) : Bool :=
  inRanges blankRanges code

/-- A blank character of ASCII, the separators of records left out. -/
def isAsciiBlank (code : Nat) : Bool :=
  code == 32 || (9 ≤ code && code ≤ 13)

/-- Remove blanks from the front. -/
def trimLeft (text : List Char) : List Char :=
  text.dropWhile fun c => isBlank c.toNat

/-- Remove blanks from both ends. -/
def trimChars (text : List Char) : List Char :=
  (trimLeft (trimLeft text).reverse).reverse

end MailScript.Text
