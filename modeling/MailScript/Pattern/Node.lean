import MailScript.Text.Blank
import MailScript.Text.Case
import MailScript.Text.Letter

/-! # The syntax of patterns

A pattern is a tree. What its flags decide is resolved when the tree is built, so a leaf says by
itself which characters it accepts. -/

namespace MailScript.Pattern

/-- How the case of letters is treated. -/
inductive Folding where
  | exact
  | ascii
  | unicode
deriving DecidableEq, Repr, Inhabited

/-- A class of characters. -/
inductive Category where
  | digit
  | space
  | word
deriving DecidableEq, Repr

/-- A character belongs to a class, all alphabets or ASCII alone. -/
def Category.contains (category : Category) (ascii : Bool) (code : Nat) : Bool :=
  match category, ascii with
  | .digit, true => Text.isAsciiDigit code
  | .digit, false => Text.isDecimal code
  | .space, true => Text.isAsciiBlank code
  | .space, false => Text.isBlank code
  | .word, true => Text.isAsciiWord code
  | .word, false => Text.isWord code

/-- A member of a character set. -/
inductive SetItem where
  | char (code : Nat)
  | range (low high : Nat)
  | category (category : Category) (negated : Bool)
deriving DecidableEq, Repr

/-- A place in a text. -/
inductive Anchor where
  | textStart
  | lineStart
  /-- The end of the text, a final line feed left out. -/
  | textEnd
  | lineEnd
  /-- The very end of the text. -/
  | finalEnd
  /-- A place between a word character and another one. -/
  | boundary (ascii : Bool)
  /-- A place in a nonempty text that is no boundary. -/
  | inside (ascii : Bool)
deriving DecidableEq, Repr

/-- How a repetition gives back what it took. -/
inductive Greed where
  /-- As many as possible first. -/
  | greedy
  /-- As few as possible first. -/
  | lazy
  /-- As many as possible, nothing is given back. -/
  | possessive
deriving DecidableEq, Repr

def Greed.name : Greed → String
  | .greedy => "MAX_REPEAT"
  | .lazy => "MIN_REPEAT"
  | .possessive => "POSSESSIVE_REPEAT"

/-- The syntax tree of a pattern. -/
inductive Node where
  | empty
  | char (code : Nat) (folding : Folding)
  | otherChar (code : Nat) (folding : Folding)
  | any (lineFeeds : Bool)
  | set (negated : Bool) (items : List SetItem) (folding : Folding) (ascii : Bool)
  | anchor (place : Anchor)
  | cat (first second : Node)
  | alt (first second : Node)
  | capture (group : Nat) (body : Node)
  | loop (greed : Greed) (least : Nat) (most : Option Nat) (body : Node)
  | atomic (body : Node)
  /-- The body matches from here on, or does not. -/
  | ahead (positive : Bool) (body : Node)
  /-- The body matches the `width` characters before this place, or does not. -/
  | behind (positive : Bool) (width : Nat) (body : Node)
  | reference (group : Nat) (folding : Folding)
  | conditional (group : Nat) (present absent : Node)
deriving DecidableEq, Repr, Inhabited

/-- The form of a character under which letters of different case agree. -/
def Folding.fold : Folding → Nat → Nat
  | .exact, code => code
  | .ascii, code => Text.asciiLowerCase code
  | .unicode, code => Text.lowerCase code

/-- A character equals a given one up to case. -/
def Folding.same (folding : Folding) (wanted code : Nat) : Bool :=
  match folding with
  | .exact => code == wanted
  | .ascii =>
    if wanted < 128 && Text.isAsciiLetter wanted then
      Text.asciiLowerCase code == Text.asciiLowerCase wanted
    else code == wanted
  | .unicode =>
    if Text.isCased wanted then
      let low := Text.lowerCase wanted
      let given := Text.lowerCase code
      given == low || (Text.caseFamily low).contains given
    else code == wanted

/-- The characters that agree with a lower-case letter up to case. -/
def caseClass (code : Nat) : List Nat :=
  (code :: Text.caseFamily code).flatMap Text.caseVariants

/-- A set item has a letter with two cases, so that the set is compared up to case. -/
def SetItem.isCased (folding : Folding) : SetItem → Bool
  | .char code =>
    match folding with
    | .exact => false
    | .ascii => Text.isAsciiLetter code
    | .unicode => Text.isCased code || 65536 ≤ code
  | .range low high =>
    match folding with
    | .exact => false
    | .ascii => (low ≤ 90 && 65 ≤ high) || (low ≤ 122 && 97 ≤ high) || 65536 ≤ high
    | .unicode =>
      (low ≤ 90 && 65 ≤ high) || (low ≤ 122 && 97 ≤ high) || 65536 ≤ high
        || Text.casedRanges.any fun range => low ≤ range.2 && range.1 ≤ high
  | .category _ _ => false

/-- A character is accepted by a set item; `code` is the folded form if the set is compared up to
case. -/
def SetItem.accepts (folding : Folding) (ascii : Bool) (code : Nat) : SetItem → Bool
  | .char wanted =>
    match folding with
    | .exact => code == wanted
    | .ascii => code == Text.asciiLowerCase wanted
    | .unicode =>
      if 65536 ≤ Text.lowerCase wanted then code == wanted
      else
        let low := Text.lowerCase wanted
        code == low || (Text.caseFamily low).contains code
  | .range low high =>
    match folding with
    | .exact => low ≤ code && code ≤ high
    | .ascii =>
      (low ≤ code && code ≤ high) ||
        (97 ≤ code && code ≤ 122 && low ≤ code - 32 && code - 32 ≤ high)
    | .unicode => (caseClass code).any fun candidate => low ≤ candidate && candidate ≤ high
  | .category kind negated => (kind.contains ascii code) != negated

def setAccepts (negated : Bool) (items : List SetItem) (folding : Folding) (ascii : Bool)
    (code : Nat) : Bool :=
  let folding := if items.any (SetItem.isCased folding) then folding else .exact
  (items.any (SetItem.accepts folding ascii (folding.fold code))) != negated

/-- The character that a leaf of one character accepts; `none` for any other node. -/
def Node.acceptsChar? : Node → Option (Nat → Bool)
  | .char code folding => some fun c => folding.same code c
  | .otherChar code folding => some fun c => !folding.same code c
  | .any lineFeeds => some fun c => lineFeeds || c != 10
  | .set negated items folding ascii => some (setAccepts negated items folding ascii)
  | _ => none

end MailScript.Pattern
