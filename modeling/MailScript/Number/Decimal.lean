/-! # Decimal fractions -/

namespace MailScript

/-- The decimal fraction `coefficient / 10 ^ places`. -/
structure Decimal where
  coefficient : Int
  places : Nat
deriving DecidableEq, Repr, Inhabited

namespace Decimal

def ofInt (value : Int) : Decimal := ⟨value, 0⟩

/-- The denominator of a decimal fraction as it is written. -/
def denominator (d : Decimal) : Nat := Nat.pow 10 d.places

theorem denominator_pos (d : Decimal) : 0 < d.denominator :=
  Nat.pow_pos (by decide)

/-- A whole number of thousandths is greater than a decimal fraction. -/
def ltMillis (d : Decimal) (millis : Int) : Bool :=
  d.coefficient * 1000 < millis * d.denominator

end Decimal

end MailScript
