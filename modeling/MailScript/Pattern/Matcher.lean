import MailScript.Pattern.Node
import MailScript.Pattern.Results

/-! # Matching

A node of a pattern takes a spot in a text, a position and the marks of the groups passed so far, to
the spots behind what it accepts, in order of preference. A repetition makes a further optional
round only from a position other than the one where its last optional round began, so every match
ends. -/

namespace MailScript.Pattern

/-- The characters of a text by position. -/
abbrev Subject := Array Nat

def Subject.ofString (text : String) : Subject :=
  (text.toList.map Char.toNat).toArray

/-- Where each group last began and last ended. -/
structure Marks where
  starts : List (Option Nat)
  stops : List (Option Nat)
deriving DecidableEq, Repr, Inhabited

namespace Marks

/-- No group of a pattern has been passed. -/
def none (groups : Nat) : Marks :=
  ⟨List.replicate (groups + 1) .none, List.replicate (groups + 1) .none⟩

def start (marks : Marks) (group position : Nat) : Marks :=
  { marks with starts := marks.starts.set group (some position) }

def stop (marks : Marks) (group position : Nat) : Marks :=
  { marks with stops := marks.stops.set group (some position) }

/-- The span of a group that has been passed. -/
def span? (marks : Marks) (group : Nat) : Option (Nat × Nat) := do
  let start ← (marks.starts[group]?).join
  let stop ← (marks.stops[group]?).join
  if start ≤ stop then some (start, stop) else .none

end Marks

/-- A position in a text with the marks of groups. -/
structure Spot where
  position : Nat
  marks : Marks
deriving DecidableEq, Repr, Inhabited

namespace Spot

def advance (spot : Spot) (count : Nat) : Spot :=
  { spot with position := spot.position + count }

end Spot

/-! ## Places -/

/-- The character at a position has a property; there is none before the text and behind it. -/
def characterIs (subject : Subject) (position : Nat) (accepts : Nat → Bool) : Bool :=
  match subject[position]? with
  | some code => accepts code
  | none => false

/-- The character before a position has a property. -/
def previousIs (subject : Subject) (position : Nat) (accepts : Nat → Bool) : Bool :=
  match position with
  | 0 => false
  | before + 1 => characterIs subject before accepts

/-- Exactly one neighbour of a position is a word character. -/
def isBoundary (subject : Subject) (ascii : Bool) (position : Nat) : Bool :=
  let word := Category.word.contains ascii
  previousIs subject position word != characterIs subject position word

/-- A position is the place an anchor names. -/
def Anchor.holds (subject : Subject) (position : Nat) : Anchor → Bool
  | .textStart => position == 0
  | .lineStart => position == 0 || previousIs subject position (· == 10)
  | .textEnd =>
    position == subject.size
      || (position + 1 == subject.size && characterIs subject position (· == 10))
  | .lineEnd => position == subject.size || characterIs subject position (· == 10)
  | .finalEnd => position == subject.size
  | .boundary ascii => subject.size != 0 && isBoundary subject ascii position
  | .inside ascii => subject.size != 0 && !isBoundary subject ascii position

/-! ## Repetitions -/

/-- A further round is allowed after a number of rounds. -/
def below (most : Option Nat) (count : Nat) : Bool :=
  match most with
  | none => true
  | some most => count < most

/-- The number of consecutive characters with a property from a position on, up to a bound. The fuel
is the number of characters left. -/
def runLength (subject : Subject) (accepts : Nat → Bool) (most : Option Nat) :
    Nat → Nat → Nat → Nat
  | 0, _, count => count
  | fuel + 1, position, count =>
    if below most count && characterIs subject position accepts then
      runLength subject accepts most fuel (position + 1) (count + 1)
    else count

/-- The spots after `extra` down to no characters more than the least number. -/
def countingDown (spot : Spot) (least : Nat) : Nat → Results Spot
  | 0 => .single (spot.advance least)
  | extra + 1 =>
    .next (spot.advance (least + extra + 1)) fun _ => countingDown spot least extra

/-- The spots after a number of characters and up to `extra` more. -/
def countingUp (spot : Spot) (count : Nat) : Nat → Results Spot
  | 0 => .single (spot.advance count)
  | extra + 1 => .next (spot.advance count) fun _ => countingUp spot (count + 1) extra

/-- Repeat one character. -/
def repeatChar (subject : Subject) (accepts : Nat → Bool) (greed : Greed) (least : Nat)
    (most : Option Nat) (spot : Spot) : Results Spot :=
  let count := runLength subject accepts most (subject.size - spot.position) spot.position 0
  if count < least then .empty
  else match greed with
    | .greedy => countingDown spot least (count - least)
    | .lazy => countingUp spot least (count - least)
    | .possessive => .single (spot.advance count)

/-- Repeat a body, as often as possible first. The fuel bounds the number of rounds. -/
def repeatGreedy (body : Spot → Results Spot) (least : Nat) (most : Option Nat) :
    Nat → Nat → Option Nat → Spot → Results Spot
  | 0, _, _, _ => .empty
  | fuel + 1, count, last, spot =>
    if count < least then
      (body spot).bind (repeatGreedy body least most fuel (count + 1) last)
    else if below most count && last != some spot.position then
      ((body spot).bind
        (repeatGreedy body least most fuel (count + 1) (some spot.position))).append
          fun _ => .single spot
    else .single spot

/-- Repeat a body, as seldom as possible first. The fuel bounds the number of rounds. -/
def repeatLazy (body : Spot → Results Spot) (least : Nat) (most : Option Nat) :
    Nat → Nat → Option Nat → Spot → Results Spot
  | 0, _, _, _ => .empty
  | fuel + 1, count, last, spot =>
    if count < least then
      (body spot).bind (repeatLazy body least most fuel (count + 1) last)
    else
      .next spot fun _ =>
        if below most count && last != some spot.position then
          (body spot).bind (repeatLazy body least most fuel (count + 1) (some spot.position))
        else .empty

/-- Repeat a body as often as possible, each round in the preferred way. The fuel bounds the number
of rounds. -/
def repeatPossessive (body : Spot → Results Spot) (least : Nat) (most : Option Nat) :
    Nat → Nat → Option Nat → Spot → Option Spot
  | 0, _, _, _ => none
  | fuel + 1, count, last, spot =>
    if count < least then
      match (body spot).head? with
      | none => none
      | some next => repeatPossessive body least most fuel (count + 1) last next
    else if below most count && last != some spot.position then
      match (body spot).head? with
      | none => some spot
      | some next => repeatPossessive body least most fuel (count + 1) (some spot.position) next
    else some spot

/-! ## Nodes -/

/-- A stretch of the text occurs again at a position, up to case. -/
def repeatsAt (subject : Subject) (folding : Folding) (start position : Nat) : Nat → Bool
  | 0 => true
  | length + 1 =>
    match subject[start]?, subject[position]? with
    | some a, some b =>
      folding.fold a == folding.fold b
        && repeatsAt subject folding (start + 1) (position + 1) length
    | _, _ => false

/-- One character with a property. -/
def takeChar (subject : Subject) (accepts : Nat → Bool) (spot : Spot) : Results Spot :=
  if characterIs subject spot.position accepts then .single (spot.advance 1) else .empty

/-- The spots behind what a node accepts, in order of preference. -/
def Node.run (subject : Subject) : Node → Spot → Results Spot
  | .empty, spot => .single spot
  | .char code folding, spot => takeChar subject (folding.same code) spot
  | .otherChar code folding, spot => takeChar subject (fun c => !folding.same code c) spot
  | .any lineFeeds, spot => takeChar subject (fun c => lineFeeds || c != 10) spot
  | .set negated items folding ascii, spot =>
    takeChar subject (setAccepts negated items folding ascii) spot
  | .anchor place, spot => if place.holds subject spot.position then .single spot else .empty
  | .cat first second, spot => (first.run subject spot).bind (second.run subject)
  | .alt first second, spot =>
    (first.run subject spot).append fun _ => second.run subject spot
  | .capture group body, spot =>
    let opened := { spot with marks := spot.marks.start group spot.position }
    (body.run subject opened).bind fun after =>
      .single { after with marks := after.marks.stop group after.position }
  | .loop greed least most body, spot =>
    match body.acceptsChar? with
    | some accepts => repeatChar subject accepts greed least most spot
    | none =>
      let fuel := least + (subject.size - spot.position) + 3
      match greed with
      | .greedy => repeatGreedy (body.run subject) least most fuel 0 none spot
      | .lazy => repeatLazy (body.run subject) least most fuel 0 none spot
      | .possessive =>
        .ofOption (repeatPossessive (body.run subject) least most fuel 0 none spot)
  | .atomic body, spot => .ofOption (body.run subject spot).head?
  | .ahead positive body, spot =>
    match (body.run subject spot).head?, positive with
    | some after, true => .single { spot with marks := after.marks }
    | none, false => .single spot
    | _, _ => .empty
  | .behind positive width body, spot =>
    let found :=
      if spot.position < width then none
      else (body.run subject { spot with position := spot.position - width }).head?
    match found, positive with
    | some after, true => .single { spot with marks := after.marks }
    | none, false => .single spot
    | _, _ => .empty
  | .reference group folding, spot =>
    match spot.marks.span? group with
    | none => .empty
    | some (start, stop) =>
      if repeatsAt subject folding start spot.position (stop - start) then
        .single (spot.advance (stop - start))
      else .empty
  | .conditional group present absent, spot =>
    if (spot.marks.span? group).isSome then present.run subject spot
    else absent.run subject spot

end MailScript.Pattern
