import MailScript.Text.Blank
import MailScript.Text.Cut
import MailScript.Text.Lines

/-! # Files of assignments

A file of assignments gives values to names, one assignment a line. A value may stand in quotes, and
may then go on over several lines; behind a bare value a comment may follow. A value may refer to
another name. A line that is no assignment is skipped. -/

namespace MailScript.Settings

/-- An assignment of a value to a name. -/
abbrev Assignment := String × String

def isBreak (c : Char) : Bool := c = '\n' || c = '\r'

/-- A blank character within a line. -/
def isInnerBlank (c : Char) : Bool := Text.isBlank c.toNat && !isBreak c

/-- Skip blanks within a line. -/
def skipBlanks (text : List Char) : List Char := text.dropWhile isInnerBlank

/-- What a character behind a backslash stands for in double quotes. -/
def escaped? : Char → Option Char
  | '\\' => some '\\'
  | '\'' => some '\''
  | '"' => some '"'
  | 'a' => some '\x07'
  | 'b' => some '\x08'
  | 'f' => some '\x0c'
  | 'n' => some '\n'
  | 'r' => some '\r'
  | 't' => some '\t'
  | 'v' => some '\x0b'
  | _ => none

/-- Replace a backslash and the character behind it where the two stand for one of some characters.
-/
def unescape (allowed : Char → Bool) : List Char → List Char
  | '\\' :: c :: rest =>
    match (escaped? c).filter fun _ => allowed c with
    | some d => d :: unescape allowed rest
    | none => '\\' :: unescape allowed (c :: rest)
  | c :: rest => c :: unescape allowed rest
  | [] => []

/-- Cut a text at the first quote that has no backslash in front of it. -/
def cutAtQuote (quote : Char) : List Char → Option (List Char × List Char)
  | [] => none
  | '\\' :: c :: rest =>
    if c = quote then (cutAtQuote quote rest).map fun parts => ('\\' :: c :: parts.1, parts.2)
    else (cutAtQuote quote (c :: rest)).map fun parts => ('\\' :: parts.1, parts.2)
  | c :: rest =>
    if c = quote then some ([], rest)
    else (cutAtQuote quote rest).map fun parts => (c :: parts.1, parts.2)

/-- A value in quotes, from behind the opening quote, and the text behind the closing one. If all
other quotes have a backslash in front of them, the last one closes the value nevertheless. -/
def quotedValue (quote : Char) (allowed : Char → Bool) (text : List Char) :
    Option (List Char × List Char) :=
  ((cutAtQuote quote text).or (Text.cutAtLast quote text)).map fun parts =>
    (unescape allowed parts.1, parts.2)

/-- A bare value without the comment behind it. -/
def bareValue : List Char → List Char
  | [] => []
  | c :: rest =>
    if Text.isBlank c.toNat && (skipBlanks rest).head? == some '#' then []
    else c :: bareValue rest

/-- The value behind an equals sign and the text behind the value. -/
def valueOf (text : List Char) : Option (List Char × List Char) :=
  match text with
  | '\'' :: rest => quotedValue '\'' (fun c => c = '\\' || c = '\'') rest
  | '"' :: rest => quotedValue '"' (fun _ => true) rest
  | _ =>
    let line := text.takeWhile fun c => !isBreak c
    let value := bareValue line
    let trimmed := (value.reverse.dropWhile fun c => Text.isBlank c.toNat).reverse
    some (trimmed, text.drop line.length)

/-- The text behind the rest of a line that holds nothing but a comment. -/
def lineEnd? (text : List Char) : Option (List Char) :=
  match skipBlanks text with
  | [] => some []
  | c :: rest =>
    if isBreak c then some rest
    else if c = '#' then some ((c :: rest).dropWhile fun c => !isBreak c)
    else none

/-- The name in front of an assignment and the text behind the name. -/
def nameOf (text : List Char) : Option (List Char × List Char) :=
  match text with
  | '\'' :: rest => (Text.cutAtFirst '\'' rest).filter fun parts => parts.1 ≠ []
  | _ =>
    let name := text.takeWhile fun c => c ≠ '=' && c ≠ '#' && !Text.isBlank c.toNat
    if name = [] then none else some (name, text.drop name.length)

def dropExport (text : List Char) : List Char :=
  let word := "export".toList
  if word.isPrefixOf text then
    let behind := text.drop word.length
    if behind.head?.any isInnerBlank then skipBlanks behind else text
  else text

/-- Read one assignment; a name may stand without a value. The text behind it is returned as well,
or the text at which reading fails. -/
def readAssignment (text : List Char) :
    Except (List Char) ((List Char × Option (List Char)) × List Char) := do
  let text := dropExport text
  let (name, behind) ← orElse (nameOf text) text
  match skipBlanks behind with
  | '=' :: behind => do
    let behind := skipBlanks behind
    let (value, behind) ← orElse (valueOf behind) behind
    return ((name, some value), ← orElse (lineEnd? behind) behind)
  | behind => return ((name, none), ← orElse (lineEnd? behind) behind)
where
  /-- A result, or the text at which there is none. -/
  orElse {α : Type} (result : Option α) (text : List Char) : Except (List Char) α :=
    match result with
    | some result => .ok result
    | none => .error text

/-- The text behind the line with which a text begins. -/
def nextLine (text : List Char) : List Char :=
  (text.dropWhile fun c => !isBreak c).drop 1

/-- Read assignments. The fuel bounds the number of lines. -/
def rawAssignments : Nat → List Char → List (List Char × Option (List Char))
  | 0, _ => []
  | fuel + 1, text =>
    match text.dropWhile fun c => Text.isBlank c.toNat with
    | [] => []
    | '#' :: rest => rawAssignments fuel (nextLine rest)
    | text =>
      match readAssignment text with
      | .ok (found, rest) => found :: rawAssignments fuel rest
      | .error rest => rawAssignments fuel (nextLine rest)

/-- Replace references to names: dollar, opening brace, name, perhaps a colon, a hyphen and a value
to be taken instead, closing brace. The fuel bounds the number of references. -/
def resolve (lookup : String → Option String) : Nat → List Char → List Char
  | 0, text => text
  | _ + 1, [] => []
  | fuel + 1, '$' :: '\x7b' :: rest =>
    match Text.cutAtFirst '\x7d' rest with
    | none => '$' :: '\x7b' :: resolve lookup fuel rest
    | some (inner, behind) =>
      match Text.cutAtFirst ':' inner with
      | none => ((lookup (String.ofList inner)).getD "").toList ++ resolve lookup fuel behind
      | some (name, '-' :: instead) =>
        ((lookup (String.ofList name)).getD (String.ofList instead)).toList
          ++ resolve lookup fuel behind
      | some _ => '$' :: '\x7b' :: resolve lookup fuel rest
  | fuel + 1, c :: rest => c :: resolve lookup fuel rest

/-- The value of a name among assignments; the last one counts. -/
def lastValue? (name : String) (assignments : List Assignment) : Option String :=
  (assignments.reverse.find? fun assignment => assignment.1 == name).map (·.2)

/-- Take over an assignment. References in it are to earlier assignments or to the environment, and
a name without a value is forgotten. -/
def assign (environment known : List Assignment) (name : String) :
    Option (List Char) → List Assignment
  | none => known.filter fun assignment => assignment.1 ≠ name
  | some value =>
    let lookup (name : String) := (lastValue? name known).or (lastValue? name environment)
    known ++ [(name, String.ofList (resolve lookup (value.length + 1) value))]

def readAssignments (environment : List Assignment) (text : List Char) : List Assignment :=
  let text := Text.unifyLineBreaks text
  (rawAssignments (text.length + 1) text).foldl
    (fun known entry => assign environment known (String.ofList entry.1) entry.2) []

end MailScript.Settings
