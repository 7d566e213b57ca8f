import MailScript.Text.Cut

/-! # Wildcards

In a name pattern a star stands for any characters, a question mark for any one character, and
square brackets for one of the characters that they list, or, behind an exclamation mark, for any
other. A hyphen between two listed characters lists the characters from one to the other. -/

namespace MailScript.Wildcard

/-- The characters that brackets list: single ones and ranges. -/
structure Listing where
  negated : Bool
  singles : List Char
  ranges : List (Char × Char)
deriving DecidableEq, Repr

/-- What a part of a name pattern stands for. -/
inductive Item where
  | run
  | any
  | listed (listing : Listing)
  | exactly (c : Char)
deriving DecidableEq, Repr

namespace Listing

/-- A listing has a character. -/
def accepts (listing : Listing) (c : Char) : Bool :=
  (listing.singles.contains c || listing.ranges.any fun range => range.1 ≤ c && c ≤ range.2)
    != listing.negated

/-- Split what brackets hold at the hyphens that may stand for ranges. At least `skip` characters
stay in front of a hyphen, and a hyphen at the end is a character. The fuel bounds the number of
chunks. -/
def chunks : Nat → Nat → List Char → List (List Char)
  | 0, _, text => [text]
  | fuel + 1, skip, text =>
    match Text.cutAtFirst '-' (text.drop skip) with
    | none => [text]
    | some (before, []) => [text.take skip ++ before ++ ['-']]
    | some (before, behind) => (text.take skip ++ before) :: chunks fuel 2 behind

/-- Leave out ranges that end before they start, with both their ends. -/
def dropReversed : List (List Char) → List (List Char)
  | [] => []
  | chunk :: rest =>
    match dropReversed rest with
    | [] => [chunk]
    | next :: later =>
      match chunk.getLast?, next with
      | some low, high :: others =>
        if high < low then (chunk.dropLast ++ others) :: later else chunk :: next :: later
      | _, _ => chunk :: next :: later

/-- The ranges between the chunks. -/
def rangesOf : List (List Char) → List (Char × Char)
  | chunk :: next :: later =>
    let others := rangesOf (next :: later)
    match chunk.getLast?, next.head? with
    | some low, some high => (low, high) :: others
    | _, _ => others
  | _ => []

/-- A hyphen that stands in front of everything else is a character. -/
def leadingHyphen : List (List Char) → List Char
  | [] :: _ :: _ => ['-']
  | _ => []

/-- Read what brackets hold. -/
def ofText (text : List Char) : Listing :=
  let skip := if text.head? = some '!' then 2 else 1
  let (negated, parts) := match dropReversed (chunks text.length skip text) with
    | ('!' :: chunk) :: later => (true, chunk :: later)
    | parts => (false, parts)
  ⟨negated, leadingHyphen parts ++ parts.flatten, rangesOf parts⟩

/-- Cut what brackets hold off the text behind an opening bracket. A closing bracket in front is a
character. -/
def cut? (text : List Char) : Option (List Char × List Char) :=
  let (head, rest) := match text with
    | '!' :: ']' :: rest => (['!', ']'], rest)
    | '!' :: rest => (['!'], rest)
    | ']' :: rest => ([']'], rest)
    | rest => ([], rest)
  (Text.cutAtFirst ']' rest).map fun parts => (head ++ parts.1, parts.2)

end Listing

/-- Read a name pattern. The fuel bounds the number of items. -/
def itemsFrom : Nat → List Char → List Item
  | 0, _ => []
  | _ + 1, [] => []
  | fuel + 1, c :: rest =>
    if c = '*' then .run :: itemsFrom fuel rest
    else if c = '?' then .any :: itemsFrom fuel rest
    else if c = '[' then
      match Listing.cut? rest with
      | some (inner, behind) => .listed (.ofText inner) :: itemsFrom fuel behind
      | none => .exactly c :: itemsFrom fuel rest
    else .exactly c :: itemsFrom fuel rest

/-- Read a name pattern. -/
def items (pattern : String) : List Item :=
  itemsFrom pattern.length pattern.toList

/-- Some items match a whole name. -/
def matchesAll : List Item → List Char → Bool
  | [], name => name.isEmpty
  | .run :: rest, [] => matchesAll rest []
  | .run :: rest, c :: name => matchesAll rest (c :: name) || matchesAll (.run :: rest) name
  | _ :: _, [] => false
  | .any :: rest, _ :: name => matchesAll rest name
  | .listed listing :: rest, c :: name => listing.accepts c && matchesAll rest name
  | .exactly d :: rest, c :: name => c == d && matchesAll rest name
termination_by items name => items.length + name.length

def accepts (pattern name : String) : Bool :=
  matchesAll (items pattern) name.toList

/-- A text is a name pattern and not just a name. -/
def isPattern (text : String) : Bool :=
  text.toList.any fun c => ['*', '?', '['].contains c

end MailScript.Wildcard
