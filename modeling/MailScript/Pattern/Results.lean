/-! # Results in order of preference

The ways in which a pattern matches are tried in a fixed order. They are kept as a list whose tail
is computed only when it is asked for, so that looking at the first result does not enumerate the
others. -/

namespace MailScript.Pattern

/-- Results in order of preference. -/
inductive Results (α : Type) where
  | empty
  | next (head : α) (tail : Unit → Results α)

namespace Results

variable {α β : Type}

def single (result : α) : Results α :=
  .next result fun _ => .empty

def ofOption : Option α → Results α
  | none => .empty
  | some result => single result

/-- Results followed by others. -/
def append : Results α → (Unit → Results α) → Results α
  | .empty, others => others ()
  | .next head tail, others => .next head fun _ => (tail ()).append others

/-- Continue every result in turn. -/
def bind : Results α → (α → Results β) → Results β
  | .empty, _ => .empty
  | .next head tail, step => (step head).append fun _ => (tail ()).bind step

/-- The preferred result. -/
def head? : Results α → Option α
  | .empty => none
  | .next head _ => some head

/-- The preferred result with a property. -/
def find? (accepts : α → Bool) : Results α → Option α
  | .empty => none
  | .next head tail => if accepts head then some head else (tail ()).find? accepts

end Results

end MailScript.Pattern
