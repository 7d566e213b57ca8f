import MailScript.Pattern.CharacterName
import MailScript.Pattern.Cursor
import MailScript.Pattern.Node

/-! # The notation of patterns

Reading a pattern goes from left to right in one pass. What is known about the groups seen so far is
carried along, because a reference is only good for a group that is already closed. -/

namespace MailScript.Pattern

/-! ## Flags -/

/-- The flags of a pattern or of a part of it. -/
structure Flags where
  fold : Bool := false
  multiline : Bool := false
  dotAll : Bool := false
  verbose : Bool := false
  ascii : Bool := false
  unicode : Bool := false
  template : Bool := false
deriving DecidableEq, Repr, Inhabited

namespace Flags

/-- Flags set in either of two sets. -/
def union (a b : Flags) : Flags :=
  ⟨a.fold || b.fold, a.multiline || b.multiline, a.dotAll || b.dotAll, a.verbose || b.verbose,
    a.ascii || b.ascii, a.unicode || b.unicode, a.template || b.template⟩

/-- Flags set in both of two sets. -/
def inter (a b : Flags) : Flags :=
  ⟨a.fold && b.fold, a.multiline && b.multiline, a.dotAll && b.dotAll, a.verbose && b.verbose,
    a.ascii && b.ascii, a.unicode && b.unicode, a.template && b.template⟩

/-- Flags for ASCII or for all alphabets. -/
def choosesAlphabet (flags : Flags) : Bool := flags.ascii || flags.unicode

/-- The flags inside a part of a pattern that adds some and removes others; a choice of alphabet
replaces an earlier one. -/
def within (flags added removed : Flags) : Flags :=
  let base :=
    if added.choosesAlphabet then { flags with ascii := false, unicode := false } else flags
  let all := base.union added
  { all with
    fold := all.fold && !removed.fold
    multiline := all.multiline && !removed.multiline
    dotAll := all.dotAll && !removed.dotAll
    verbose := all.verbose && !removed.verbose }

/-- How letters are compared under the flags. -/
def folding (flags : Flags) : Folding :=
  if !flags.fold then .exact else if flags.ascii then .ascii else .unicode

/-- The flag that a letter stands for. -/
def ofLetter? (letter : Char) : Option Flags :=
  match letter with
  | 'i' => some { fold := true }
  | 'm' => some { multiline := true }
  | 's' => some { dotAll := true }
  | 'x' => some { verbose := true }
  | 'a' => some { ascii := true }
  | 'u' => some { unicode := true }
  | 't' => some { template := true }
  | _ => none

end Flags

/-- A token is the letter of a flag, the flag for locales included. -/
def isFlagToken : Token → Bool
  | .char c => (Flags.ofLetter? c).isSome || c = 'L'
  | .escape _ => false

/-- A token is a letter of any alphabet. -/
def isLetterToken : Token → Bool
  | .char c => Text.isLetter c.toNat
  | .escape _ => false

/-! ## What is known about groups -/

/-- The largest number of repetitions, which stands for no bound. -/
def repetitionLimit : Nat := 4294967295

/-- The largest width that is told apart from larger ones. -/
def widthLimit : Nat := 18446744073709551616

/-- The least and the greatest number of characters that a part of a pattern takes. -/
abbrev Width := Nat × Nat

/-- The groups seen so far: the width of each closed one, the names, the number of groups when the
outermost lookbehind began, the first test of each group number, and the flags of the pattern. -/
structure Groups where
  widths : List (Option Width) := [none]
  names : List (String × Nat) := []
  lookbehind : Option Nat := none
  tests : List (Nat × Nat) := []
  flags : Flags := {}
deriving Repr, Inhabited

namespace Groups

/-- The number of groups, the whole match included. -/
def count (groups : Groups) : Nat := groups.widths.length

/-- The width of a closed group. -/
def width? (groups : Groups) (group : Nat) : Option Width :=
  (groups.widths[group]?).join

def named? (groups : Groups) (name : String) : Option Nat :=
  (groups.names.find? fun entry => entry.1 == name).map (·.2)

def close (groups : Groups) (group : Nat) (width : Width) : Groups :=
  { groups with widths := groups.widths.set group (some width) }

end Groups

/-- The width of a part of a pattern, given the widths of closed groups. -/
def Node.width (widths : List (Option Width)) : Node → Width
  | .empty | .anchor _ | .ahead _ _ | .behind _ _ _ => (0, 0)
  | .char _ _ | .otherChar _ _ | .any _ | .set _ _ _ _ => (1, 1)
  | .cat first second =>
    let a := first.width widths
    let b := second.width widths
    (min (a.1 + b.1) widthLimit, min (a.2 + b.2) widthLimit)
  | .alt first second =>
    let a := first.width widths
    let b := second.width widths
    (min a.1 b.1, max a.2 b.2)
  | .capture _ body | .atomic body => body.width widths
  | .loop _ least most body =>
    let w := body.width widths
    let high := match most with
      | none => if w.2 = 0 then 0 else widthLimit
      | some most => w.2 * most
    (min (w.1 * least) widthLimit, min high widthLimit)
  | .reference group _ => ((widths[group]?).join).getD (0, 0)
  | .conditional _ present absent =>
    let a := present.width widths
    let b := absent.width widths
    (min a.1 b.1, max a.2 b.2)

/-! ## Escapes -/

/-- The control character or backslash that an escaped letter stands for. -/
def controlEscape? (c : Char) : Option Nat :=
  match c with
  | 'a' => some 7
  | 'b' => some 8
  | 'f' => some 12
  | 'n' => some 10
  | 'r' => some 13
  | 't' => some 9
  | 'v' => some 11
  | '\\' => some 92
  | _ => none

/-- The class that an escaped letter stands for. -/
def categoryEscape? (c : Char) : Option SetItem :=
  match c with
  | 'd' => some (.category .digit false)
  | 'D' => some (.category .digit true)
  | 's' => some (.category .space false)
  | 'S' => some (.category .space true)
  | 'w' => some (.category .word false)
  | 'W' => some (.category .word true)
  | _ => none

/-- The place that an escaped letter stands for. -/
def anchorEscape? (flags : Flags) (c : Char) : Option Anchor :=
  match c with
  | 'A' => some .textStart
  | 'Z' => some .finalEnd
  | 'b' => some (.boundary flags.ascii)
  | 'B' => some (.inside flags.ascii)
  | _ => none

/-- A digit of ASCII. -/
def isDigitChar (c : Char) : Bool := Text.isAsciiDigit c.toNat

/-- A digit below eight. -/
def isOctalChar (c : Char) : Bool := 48 ≤ c.toNat && c.toNat ≤ 55

def isHexChar (c : Char) : Bool := (Text.hexValue? c).isSome

/-- The number that digits of some base denote. -/
def digitsValue (base : Nat) (digits : List Char) : Nat :=
  digits.foldl (fun value c => base * value + (Text.hexValue? c).getD 0) 0

/-- An escape with a fixed number of hexadecimal digits: the digits and the code point. -/
def hexEscape (letter : Char) (count : Nat) (cursor : Cursor) : Attempt (Nat × Cursor) := do
  let (digits, cursor) ← cursor.takeWhile isHexChar count
  if digits.length = count then return (digitsValue 16 digits, cursor)
  else
    let text := '\\' :: letter :: digits
    malformed (.incompleteEscape (String.ofList text)) (cursor.position - text.length)

/-- An escape with eight hexadecimal digits, which must be the number of a character. -/
def longEscape (cursor : Cursor) : Attempt (Nat × Cursor) := do
  let start := cursor.position - 2
  let source := cursor.rest.take 8
  let (code, cursor) ← hexEscape 'U' 8 cursor
  if 2147483647 < code then .error .codeTooLarge
  else if 1114111 < code then
    malformed (.badEscape (String.ofList ('\\' :: 'U' :: source))) start
  else return (code, cursor)

/-- An escape with the name of a character in braces. -/
def namedEscape (cursor : Cursor) : Attempt (Nat × Cursor) := do
  let (opened, cursor) ← cursor.accept '\x7b'
  if !opened then malformed .missingBrace cursor.position
  else
    let (name, cursor) ← cursor.nameUntil '\x7d' "character name"
    match characterNamed? (String.ofList name) with
    | some code => return (code, cursor)
    | none =>
      malformed (.unknownCharacterName (String.ofList name)) (cursor.position - (name.length + 4))

/-- The code point of an octal escape of three digits. -/
def octalCode (digits : List Char) (cursor : Cursor) : Attempt (Nat × Cursor) :=
  let code := digitsValue 8 digits
  if 255 < code then
    malformed (.octalTooLarge (String.ofList ('\\' :: digits)))
      (cursor.position - (digits.length + 1))
  else .ok (code, cursor)

/-- An escape that stands for the escaped character, which must not be a letter of ASCII. -/
def plainEscape (c : Char) (cursor : Cursor) : Attempt (Nat × Cursor) :=
  if Text.isAsciiLetter c.toNat then
    malformed (.badEscape (String.ofList ['\\', c])) (cursor.position - 2)
  else .ok (c.toNat, cursor)

/-- A reference to a group must name one that is closed, and inside a lookbehind one that was closed
before it. -/
def checkLookbehind (groups : Groups) (group position : Nat) : Attempt Unit :=
  match groups.lookbehind with
  | none => .ok ()
  | some limit =>
    if (groups.width? group).isNone then malformed .openGroup position
    else if limit ≤ group then malformed .lookbehindGroup position
    else .ok ()

/-- An escape inside a character set; the cursor stands behind the escaped character. -/
def setEscape (c : Char) (cursor : Cursor) : Attempt (SetItem × Cursor) :=
  match controlEscape? c, categoryEscape? c with
  | some code, _ => .ok (.char code, cursor)
  | none, some item => .ok (item, cursor)
  | none, none => do
    let (code, cursor) ←
      match c with
      | 'x' => hexEscape 'x' 2 cursor
      | 'u' => hexEscape 'u' 4 cursor
      | 'U' => longEscape cursor
      | 'N' => namedEscape cursor
      | _ =>
        if isOctalChar c then do
          let (digits, cursor) ← cursor.takeWhile isOctalChar 2
          octalCode (c :: digits) cursor
        else if isDigitChar c then
          malformed (.badEscape (String.ofList ['\\', c])) (cursor.position - 2)
        else plainEscape c cursor
    return (.char code, cursor)

/-- A reference by number, or an octal escape if three octal digits follow the backslash. -/
def numberEscape (flags : Flags) (groups : Groups) (c : Char) (cursor : Cursor) :
    Attempt (Node × Cursor) := do
  let (second, cursor) ← cursor.takeWhile isDigitChar 1
  let digits := c :: second
  let third := match cursor.token? with
    | some (.char d) => isOctalChar d
    | _ => false
  if digits.length = 2 && digits.all isOctalChar && third then
    let (last, cursor) ← cursor.takeWhile isOctalChar 1
    let (code, cursor) ← octalCode (digits ++ last) cursor
    return (.char code flags.folding, cursor)
  else
    let group := digitsValue 10 digits
    if group < groups.count then
      if (groups.width? group).isNone then
        malformed .openGroup (cursor.position - (digits.length + 1))
      else
        checkLookbehind groups group cursor.position
        return (.reference group flags.folding, cursor)
    else malformed (.invalidReference group) (cursor.position - digits.length)

/-- An escape outside of character sets; the cursor stands behind the escaped character. -/
def escape (flags : Flags) (groups : Groups) (c : Char) (cursor : Cursor) :
    Attempt (Node × Cursor) :=
  match anchorEscape? flags c, categoryEscape? c, controlEscape? c with
  | some place, _, _ => .ok (.anchor place, cursor)
  | none, some item, _ => .ok (.set false [item] flags.folding flags.ascii, cursor)
  | none, none, some code => .ok (.char code flags.folding, cursor)
  | none, none, none => do
    if isDigitChar c && c ≠ '0' then numberEscape flags groups c cursor
    else
      let (code, cursor) ←
        match c with
        | 'x' => hexEscape 'x' 2 cursor
        | 'u' => hexEscape 'u' 4 cursor
        | 'U' => longEscape cursor
        | 'N' => namedEscape cursor
        | '0' => do
          let (digits, cursor) ← cursor.takeWhile isOctalChar 2
          pure (digitsValue 8 digits, cursor)
        | _ => plainEscape c cursor
      return (.char code flags.folding, cursor)

/-! ## Character sets -/

/-- One end of a range or a single member of a set: the item, read from the token before the
cursor. -/
def setMember (token : Token) (cursor : Cursor) : Attempt (SetItem × Cursor) :=
  match token with
  | .char c => .ok (.char c.toNat, cursor)
  | .escape c => setEscape c cursor

/-- The members of a set up to the closing bracket, which is stepped over. `start` is the position
of the opening bracket; the fuel bounds the number of members. -/
def setMembers (start : Nat) : Nat → List SetItem → Cursor → Attempt (List SetItem × Cursor)
  | 0, _, _ => malformed .unterminatedSet start
  | fuel + 1, items, cursor => do
    let (token, cursor) ← cursor.next
    match token with
    | none => malformed .unterminatedSet start
    | some token =>
      if token = .char ']' && !items.isEmpty then return (items, cursor)
      else
        let (item, cursor) ← setMember token cursor
        let (ranged, cursor) ← cursor.accept '-'
        if !ranged then setMembers start fuel (items ++ [item]) cursor
        else
          let (other, cursor) ← cursor.next
          match other with
          | none => malformed .unterminatedSet start
          | some other =>
            if other = .char ']' then return (items ++ [item, .char 45], cursor)
            else
              let (last, cursor) ← setMember other cursor
              let broken : Attempt (List SetItem × Cursor) :=
                malformed (.badRange (String.ofList token.text) (String.ofList other.text))
                  (cursor.position - (token.text.length + 1 + other.text.length))
              match item, last with
              | .char low, .char high =>
                if high < low then broken
                else setMembers start fuel (items ++ [.range low high]) cursor
              | _, _ => broken

/-- A character set; the cursor stands behind the opening bracket. -/
def charSet (flags : Flags) (cursor : Cursor) : Attempt (Node × Cursor) := do
  let start := cursor.position - 1
  let (negated, cursor) ← cursor.accept '^'
  let (items, cursor) ← setMembers start (cursor.rest.length + 1) [] cursor
  match items.eraseDups with
  | [.char code] =>
    return (if negated then .otherChar code flags.folding else .char code flags.folding, cursor)
  | items => return (.set negated items flags.folding flags.ascii, cursor)

/-! ## Repetitions -/

/-- The bounds of a repetition; no upper bound is `none`. -/
structure Bounds where
  least : Nat
  most : Option Nat
deriving Repr

/-- A bound in braces. -/
def bound (digits : List Char) : Attempt Nat :=
  if Text.digitLimit < digits.length then .error (.tooManyDigits digits.length)
  else
    let value := digitsValue 10 digits
    if repetitionLimit ≤ value then .error .repetitionTooLarge else .ok value

/-- Bounds in braces; `none` if the brace is an ordinary character. The cursor stands behind the
opening brace. -/
def bracedBounds (cursor : Cursor) : Attempt (Option (Bounds × Cursor)) := do
  let start := cursor.position
  let limit := cursor.rest.length
  if cursor.token? = some (.char '\x7d') then return none
  let (low, cursor) ← cursor.takeWhile isDigitChar limit
  let (comma, cursor) ← cursor.accept ','
  let (high, cursor) ←
    if comma then cursor.takeWhile isDigitChar limit else pure (low, cursor)
  let (closed, cursor) ← cursor.accept '\x7d'
  if !closed then return none
  let least ← if low.isEmpty then pure 0 else bound low
  if high.isEmpty then return some (⟨least, none⟩, cursor)
  let most ← bound high
  if most < least then malformed .boundsReversed start
  else return some (⟨least, some most⟩, cursor)

/-! ## Flags in a pattern -/

/-- Flags up to the character that ends them, which is returned. The first letter is given; the fuel
bounds the number of letters. -/
def addedFlags : Nat → Token → Flags → Cursor → Attempt (Flags × Char × Cursor)
  | 0, _, _, cursor => malformed .missingFlagsEnd cursor.position
  | fuel + 1, letter, flags, cursor => do
    let flag ← match letter with
      | .char c =>
        match Flags.ofLetter? c with
        | some flag => pure flag
        | none => malformed .localeFlag cursor.position
      | .escape _ => malformed .localeFlag cursor.position
    let flags := flags.union flag
    if flag.choosesAlphabet && flags.ascii && flags.unicode then
      malformed .incompatibleFlags cursor.position
    else
      let (token, cursor) ← cursor.next
      match token with
      | none => malformed .missingFlagsEnd cursor.position
      | some (.char ')') => return (flags, ')', cursor)
      | some (.char '-') => return (flags, '-', cursor)
      | some (.char ':') => return (flags, ':', cursor)
      | some token =>
        if isFlagToken token then addedFlags fuel token flags cursor
        else
          malformed (if isLetterToken token then .unknownFlag else .missingFlagsEnd)
            (cursor.position - token.text.length)

/-- Flags that are turned off, up to a colon, which is stepped over. -/
def removedFlags : Nat → Token → Flags → Cursor → Attempt (Flags × Cursor)
  | 0, _, _, cursor => malformed .missingColon cursor.position
  | fuel + 1, letter, flags, cursor => do
    let flag ← match letter with
      | .char c =>
        match Flags.ofLetter? c with
        | some flag =>
          if flag.choosesAlphabet then malformed .alphabetFlagOff cursor.position else pure flag
        | none => malformed .alphabetFlagOff cursor.position
      | .escape _ => malformed .alphabetFlagOff cursor.position
    let flags := flags.union flag
    let (token, cursor) ← cursor.next
    match token with
    | none => malformed .missingColon cursor.position
    | some (.char ':') => return (flags, cursor)
    | some token =>
      if isFlagToken token then removedFlags fuel token flags cursor
      else
        malformed (if isLetterToken token then .unknownFlag else .missingColon)
          (cursor.position - token.text.length)

/-- What the flags in parentheses apply to. -/
inductive FlagScope where
  /-- The whole pattern. -/
  | whole (added : Flags)
  /-- The rest of the parentheses. -/
  | part (added removed : Flags)

/-- Flags in parentheses, from the first letter or the hyphen on. -/
def flagScope (letter : Token) (cursor : Cursor) : Attempt (FlagScope × Cursor) := do
  let fuel := cursor.rest.length + 1
  let (added, ending, cursor) ←
    if letter = .char '-' then pure (({} : Flags), '-', cursor)
    else addedFlags fuel letter {} cursor
  if ending = ')' then return (.whole added, cursor)
  if added.template then malformed .globalFlagOn (cursor.position - 1)
  let (removed, cursor) ←
    if ending = '-' then do
      let (token, cursor) ← cursor.next
      match token with
      | none => malformed .missingFlag cursor.position
      | some token =>
        if isFlagToken token then removedFlags fuel token {} cursor
        else
          malformed (if isLetterToken token then .unknownFlag else .missingFlag)
            (cursor.position - token.text.length)
    else pure (({} : Flags), cursor)
  if removed.template then malformed .globalFlagOff (cursor.position - 1)
  if added.inter removed ≠ {} then malformed .flagOnAndOff (cursor.position - 1)
  return (.part added removed, cursor)

/-! ## Groups -/

/-- A group name is an identifier; the cursor stands behind the character that ends it. -/
def checkName (name : List Char) (cursor : Cursor) : Attempt Unit :=
  if Text.isIdentifier name then .ok ()
  else malformed (.badGroupName (String.ofList name)) (cursor.position - (name.length + 1))

/-- Open a new group, with or without a name; the cursor stands behind the name and its end. -/
def openGroup (groups : Groups) (name : Option (List Char)) (cursor : Cursor) :
    Attempt (Nat × Groups) :=
  let group := groups.count
  let groups := { groups with widths := groups.widths ++ [none] }
  match name with
  | none => .ok (group, groups)
  | some chars =>
    let name := String.ofList chars
    match groups.named? name with
    | some earlier =>
      malformed (.redefinedGroup name group earlier) (cursor.position - (chars.length + 1))
    | none => .ok (group, { groups with names := groups.names ++ [(name, group)] })

/-- The integer that a text denotes: blanks around it, a sign and underscores between digits are
allowed. -/
def integer? (text : List Char) : Option Int :=
  let plain := Text.trimChars text
  let (negative, digits) := match plain with
    | '-' :: digits => (true, digits)
    | '+' :: digits => (false, digits)
    | digits => (false, digits)
  let separated := (digits.head? = some '_') || (digits.getLast? = some '_')
    || (digits.zip (digits.drop 1)).any fun pair => pair.1 = '_' && pair.2 = '_'
  let pure := digits.filter fun c => c ≠ '_'
  if pure.isEmpty || separated || Text.digitLimit < pure.length then none
  else (Text.decimalNumber? pure).map fun value => if negative then -(value : Int) else value

/-- The group that a condition tests, by name or by number; the cursor stands behind the closing
parenthesis of the test. -/
def testedGroup (groups : Groups) (text : List Char) (cursor : Cursor) :
    Attempt (Nat × Groups) := do
  let start := cursor.position - (text.length + 1)
  if Text.isIdentifier text then
    match groups.named? (String.ofList text) with
    | some group => return (group, groups)
    | none => malformed (.unknownGroup (String.ofList text)) start
  else match integer? text with
    | none => malformed (.badGroupName (String.ofList text)) start
    | some number =>
      if number < 0 then malformed (.badGroupName (String.ofList text)) start
      else if number = 0 then malformed .badGroupNumber start
      else
        let group := number.toNat
        if 2147483647 ≤ group then malformed (.invalidReference group) start
        else if groups.tests.any fun entry => entry.1 == group then return (group, groups)
        else return (group, { groups with tests := groups.tests ++ [(group, start)] })

/-- A reference by name; the cursor stands behind the equals sign. -/
def namedReference (flags : Flags) (groups : Groups) (cursor : Cursor) :
    Attempt (Node × Cursor) := do
  let (chars, cursor) ← cursor.nameUntil ')' "group name"
  checkName chars cursor
  let start := cursor.position - (chars.length + 1)
  match groups.named? (String.ofList chars) with
  | none => malformed (.unknownGroup (String.ofList chars)) start
  | some group =>
    if (groups.width? group).isNone then malformed .openGroup start
    else
      checkLookbehind groups group cursor.position
      return (.reference group flags.folding, cursor)

/-! ## Sequences and alternatives -/

/-- An item of a sequence, with what a repetition behind it has to know. -/
inductive Item where
  | anchor (place : Anchor)
  | repetition (node : Node)
  | other (node : Node)

def Item.node : Item → Node
  | .anchor place => .anchor place
  | .repetition node => node
  | .other node => node

/-- A sequence of items, the last one first. -/
def sequenceNode (items : List Item) : Node :=
  items.foldl (fun rest item => .cat item.node rest) .empty

/-- An escape outside of sets as an item. -/
def Item.ofNode : Node → Item
  | .anchor place => .anchor place
  | node => .other node

/-- Repeat the last item of a sequence; the cursor stands behind the bounds, `start` is where they
begin. -/
def repeatLast (items : List Item) (bounds : Bounds) (start : Nat) (cursor : Cursor) :
    Attempt (List Item × Cursor) :=
  match items with
  | [] => malformed .nothingToRepeat start
  | .anchor _ :: _ => malformed .nothingToRepeat start
  | .repetition _ :: _ => malformed .multipleRepeat start
  | .other node :: rest => do
    let (lazy, cursor) ← cursor.accept '?'
    if lazy then return (.repetition (.loop .lazy bounds.least bounds.most node) :: rest, cursor)
    let (possessive, cursor) ← cursor.accept '+'
    let greed := if possessive then Greed.possessive else .greedy
    return (.repetition (.loop greed bounds.least bounds.most node) :: rest, cursor)

/-- The state of reading: the cursor and the groups. -/
structure Progress where
  cursor : Cursor
  groups : Groups

/-- What opens a parenthesis. -/
inductive Opening where
  /-- A comment, a reference or flags for the whole pattern: nothing is left to read. -/
  | done (item : Option Item)
  /-- A group with its number if it captures. -/
  | group (number : Option Nat) (flags : Flags)
  | atomic
  | ahead (positive : Bool)
  | behind (positive : Bool)
  | conditional (group : Nat)

/-- Skip a comment in a pattern whose blanks do not count; the fuel bounds its length. -/
def skipRemark : Nat → Cursor → Attempt Cursor
  | 0, cursor => .ok cursor
  | fuel + 1, cursor => do
    let (token, cursor) ← cursor.next
    match token with
    | none => return cursor
    | some (.char '\n') => return cursor
    | some _ => skipRemark fuel cursor

/-- Skip a comment in parentheses; `start` is the position of the opening one. -/
def skipComment (start : Nat) : Nat → Cursor → Attempt Cursor
  | 0, _ => malformed .unterminatedComment start
  | fuel + 1, cursor => do
    let (token, cursor) ← cursor.next
    match token with
    | none => malformed .unterminatedComment start
    | some (.char ')') => return cursor
    | some _ => skipComment start fuel cursor

/-- What follows an opening parenthesis and decides about its contents. `start` is its position,
`atFront` says that flags for the whole pattern may stand here. -/
def opening (flags : Flags) (atFront : Bool) (start : Nat) (state : Progress) :
    Attempt (Opening × Progress) := do
  let groups := state.groups
  let (marked, cursor) ← state.cursor.accept '?'
  if !marked then
    let (group, groups) ← openGroup groups none cursor
    return (.group (some group) flags, ⟨cursor, groups⟩)
  let (token, cursor) ← cursor.next
  match token with
  | none => malformed .unexpectedEnd cursor.position
  | some (.char 'P') => do
    let (named, cursor) ← cursor.accept '<'
    if named then
      let (name, cursor) ← cursor.nameUntil '>' "group name"
      checkName name cursor
      let (group, groups) ← openGroup groups (some name) cursor
      return (.group (some group) flags, ⟨cursor, groups⟩)
    let (referring, cursor) ← cursor.accept '='
    if referring then
      let (node, cursor) ← namedReference flags groups cursor
      return (.done (some (.other node)), ⟨cursor, groups⟩)
    let (other, cursor) ← cursor.next
    match other with
    | none => malformed .unexpectedEnd cursor.position
    | some other =>
      malformed (.unknownExtension (String.ofList ('P' :: other.text)))
        (cursor.position - (other.text.length + 2))
  | some (.char ':') => return (.group none flags, ⟨cursor, groups⟩)
  | some (.char '#') => do
    let cursor ← skipComment start (cursor.rest.length + 1) cursor
    return (.done none, ⟨cursor, groups⟩)
  | some (.char '=') => return (.ahead true, ⟨cursor, groups⟩)
  | some (.char '!') => return (.ahead false, ⟨cursor, groups⟩)
  | some (.char '<') => do
    let (other, cursor) ← cursor.next
    match other with
    | none => malformed .unexpectedEnd cursor.position
    | some (.char '=') => return (.behind true, ⟨cursor, groups⟩)
    | some (.char '!') => return (.behind false, ⟨cursor, groups⟩)
    | some other =>
      malformed (.unknownExtension (String.ofList ('<' :: other.text)))
        (cursor.position - (other.text.length + 2))
  | some (.char '(') => do
    let (text, cursor) ← cursor.nameUntil ')' "group name"
    let (group, groups) ← testedGroup groups text cursor
    checkLookbehind groups group cursor.position
    return (.conditional group, ⟨cursor, groups⟩)
  | some (.char '>') => return (.atomic, ⟨cursor, groups⟩)
  | some token =>
    if isFlagToken token || token = .char '-' then do
      let (scope, cursor) ← flagScope token cursor
      match scope with
      | .whole added =>
        let groups := { groups with flags := groups.flags.union added }
        if atFront then return (.done none, ⟨cursor, groups⟩)
        else malformed .flagsNotFirst start
      | .part added removed => return (.group none (flags.within added removed), ⟨cursor, groups⟩)
    else
      malformed (.unknownExtension (String.ofList token.text))
        (cursor.position - (token.text.length + 1))

/-- Step over the closing parenthesis of the one at `start`. -/
def closing (start : Nat) (cursor : Cursor) : Attempt Cursor := do
  let (closed, cursor) ← cursor.accept ')'
  if closed then return cursor else malformed .unterminatedGroup start

/-- A blank that does not count in a verbose pattern. -/
def isIgnoredBlank (c : Char) : Bool := Text.isAsciiBlank c.toNat

mutual

/-- Alternatives. At the top of a pattern the flags found at its front apply to all of them. The
fuel bounds the number of tokens and alternatives. -/
def alternatives (flags : Flags) (top first : Bool) :
    Nat → Progress → Attempt (Node × Progress)
  | 0, state => malformed .unexpectedEnd state.cursor.position
  | fuel + 1, state => do
    let (node, state) ← sequence flags (top && first) top [] fuel state
    let (more, cursor) ← state.cursor.accept '|'
    let state := { state with cursor }
    if !more then return (node, state)
    let flags := if top then state.groups.flags else flags
    let (others, state) ← alternatives flags top false fuel state
    return (.alt node others, state)

/-- A sequence up to an alternative, a closing parenthesis or the end. -/
def sequence (flags : Flags) (front top : Bool) (items : List Item) :
    Nat → Progress → Attempt (Node × Progress)
  | 0, state => malformed .unexpectedEnd state.cursor.position
  | fuel + 1, state =>
    match state.cursor.token? with
    | none | some (.char '|') | some (.char ')') => .ok (sequenceNode items, state)
    | some token => do
      let start := state.cursor.position
      let (_, cursor) ← state.cursor.next
      let groups := state.groups
      match token with
      | .escape c => do
        let (node, cursor) ← escape flags groups c cursor
        sequence flags front top (.ofNode node :: items) fuel ⟨cursor, groups⟩
      | .char c =>
        if flags.verbose && isIgnoredBlank c then
          sequence flags front top items fuel ⟨cursor, groups⟩
        else if flags.verbose && c = '#' then do
          let cursor ← skipRemark (cursor.rest.length + 1) cursor
          sequence flags front top items fuel ⟨cursor, groups⟩
        else match c with
        | '[' => do
          let (node, cursor) ← charSet flags cursor
          sequence flags front top (.other node :: items) fuel ⟨cursor, groups⟩
        | '.' =>
          sequence flags front top (.other (.any flags.dotAll) :: items) fuel ⟨cursor, groups⟩
        | '^' =>
          let place := if flags.multiline then Anchor.lineStart else .textStart
          sequence flags front top (.anchor place :: items) fuel ⟨cursor, groups⟩
        | '$' =>
          let place := if flags.multiline then Anchor.lineEnd else .textEnd
          sequence flags front top (.anchor place :: items) fuel ⟨cursor, groups⟩
        | '?' => do
          let (items, cursor) ← repeatLast items ⟨0, some 1⟩ start cursor
          sequence flags front top items fuel ⟨cursor, groups⟩
        | '*' => do
          let (items, cursor) ← repeatLast items ⟨0, none⟩ start cursor
          sequence flags front top items fuel ⟨cursor, groups⟩
        | '+' => do
          let (items, cursor) ← repeatLast items ⟨1, none⟩ start cursor
          sequence flags front top items fuel ⟨cursor, groups⟩
        | '\x7b' => do
          match ← bracedBounds cursor with
          | none =>
            sequence flags front top (.other (.char 123 flags.folding) :: items) fuel
              ⟨cursor, groups⟩
          | some (bounds, cursor) => do
            let (items, cursor) ← repeatLast items bounds start cursor
            sequence flags front top items fuel ⟨cursor, groups⟩
        | '(' => do
          let (kind, state) ← opening flags (front && items.isEmpty) start ⟨cursor, groups⟩
          match kind with
          | .done none =>
            let flags := if top && front then state.groups.flags else flags
            sequence flags front top items fuel state
          | .done (some item) => sequence flags front top (item :: items) fuel state
          | .group number inner => do
            let (node, state) ← alternatives inner false false fuel state
            let cursor ← closing start state.cursor
            match number with
            | none => sequence flags front top (.other node :: items) fuel { state with cursor }
            | some group =>
              let groups := state.groups.close group (node.width state.groups.widths)
              sequence flags front top (.other (.capture group node) :: items) fuel ⟨cursor, groups⟩
          | .atomic => do
            let (node, state) ← alternatives flags false false fuel state
            let cursor ← closing start state.cursor
            sequence flags front top (.other (.atomic node) :: items) fuel { state with cursor }
          | .ahead positive => do
            let (node, state) ← alternatives flags false false fuel state
            let cursor ← closing start state.cursor
            sequence flags front top (.other (.ahead positive node) :: items) fuel
              { state with cursor }
          | .behind positive => do
            let outer := state.groups.lookbehind
            let limit := outer.getD state.groups.count
            let groups := { state.groups with lookbehind := some limit }
            let (node, state) ← alternatives flags false false fuel { state with groups }
            let cursor ← closing start state.cursor
            let groups := { state.groups with lookbehind := outer }
            let width := (node.width groups.widths).1
            sequence flags front top (.other (.behind positive width node) :: items) fuel
              ⟨cursor, groups⟩
          | .conditional group => do
            let (present, state) ← sequence flags false false [] fuel state
            let (more, cursor) ← state.cursor.accept '|'
            let (absent, state) ←
              if more then do
                let (absent, state) ← sequence flags false false [] fuel { state with cursor }
                if state.cursor.token? = some (.char '|') then
                  malformed .tooManyBranches state.cursor.position
                else pure (absent, state)
              else pure (Node.empty, { state with cursor })
            let cursor ← closing start state.cursor
            sequence flags front top (.other (.conditional group present absent) :: items) fuel
              { state with cursor }
        | _ =>
          sequence flags front top (.other (.char c.toNat flags.folding) :: items) fuel
            ⟨cursor, groups⟩

end

/-- What must hold of a whole pattern and needs all groups: a lookbehind has a fixed width, and no
part is repeated in a template. -/
def Node.check (template : Bool) (widths : List (Option Width)) : Node → Attempt Unit
  | .cat first second | .alt first second | .conditional _ first second => do
    first.check template widths
    second.check template widths
  | .capture _ body | .atomic body | .ahead _ body => body.check template widths
  | .loop greed _ _ body =>
    if template then .error (.malformed (.templateOperator greed.name) none)
    else body.check template widths
  | .behind _ _ body =>
    let width := body.width widths
    if repetitionLimit < width.1 then .error (.malformed .lookbehindTooFar none)
    else if width.1 ≠ width.2 then .error (.malformed .lookbehindWidth none)
    else body.check template widths
  | _ => .ok ()

/-- A pattern as it is read: its tree and what is known about its groups. -/
structure Outline where
  node : Node
  groups : Groups

/-- Read a whole pattern. -/
def readOutline (text : List Char) : Attempt Outline := do
  let cursor ← Cursor.checked ⟨0, text⟩
  let (node, state) ← alternatives {} true true (3 * text.length + 3) ⟨cursor, {}⟩
  let groups := state.groups
  if groups.flags.ascii && groups.flags.unicode then .error .alphabetsBothSet
  if state.cursor.token?.isSome then malformed .unbalancedParenthesis state.cursor.position
  match groups.tests.find? fun entry => groups.count ≤ entry.1 with
  | some (group, position) => malformed (.invalidReference group) position
  | none =>
    node.check groups.flags.template groups.widths
    return ⟨node, groups⟩

end MailScript.Pattern
