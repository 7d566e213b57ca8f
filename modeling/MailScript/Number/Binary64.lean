import MailScript.Number.Decimal

/-! # Binary fractions of 53 bits

Seconds are held as binary fractions with 53 significant bits. All operations compute exactly and
round once, to the nearest such fraction, a tie to the even one. Values that would need an exponent
beyond the largest have no such fraction. -/

namespace MailScript

/-- The finite value `mantissa * 2 ^ exponent`. -/
structure Binary64 where
  mantissa : Int
  exponent : Int
deriving DecidableEq, Repr, Inhabited

namespace Binary64

/-- The quotient of two natural numbers rounded to the nearest one, a tie to the even one. -/
def roundDiv (num den : Nat) : Nat :=
  let q := num / den
  let twice := 2 * (num % den)
  if den < twice || (twice == den && q % 2 == 1) then q + 1 else q

/-- The quotient `num / (den * 2 ^ exponent)` rounded to a natural number. -/
def scaledDiv (num den : Nat) (exponent : Int) : Nat :=
  if 0 ≤ exponent then roundDiv num (den * Nat.pow 2 exponent.toNat)
  else roundDiv (num * Nat.pow 2 (-exponent).toNat) den

/-- The exponent of the leading bit of a positive quotient. -/
def leadingExponent (num den : Nat) : Int :=
  let guess : Int := (Nat.log2 num : Int) - (Nat.log2 den : Int)
  let reached :=
    if 0 ≤ guess then den * Nat.pow 2 guess.toNat ≤ num
    else den ≤ num * Nat.pow 2 (-guess).toNat
  if reached then guess else guess - 1

/-- The binary fraction nearest to a quotient; `none` if the quotient is too large. -/
def ofRatio (num : Int) (den : Nat) : Option Binary64 :=
  if num = 0 then some ⟨0, 0⟩
  else
    let size := num.natAbs
    let exponent := max (leadingExponent size den - 52) (-1074)
    let mantissa := scaledDiv size den exponent
    let limit : Int := if mantissa = Nat.pow 2 53 then 970 else 971
    if limit < exponent then none
    else some ⟨if num < 0 then -(mantissa : Int) else mantissa, exponent⟩

def ofInt (value : Int) : Option Binary64 := ofRatio value 1

def ofDecimal (d : Decimal) : Option Binary64 := ofRatio d.coefficient d.denominator

/-- The numerator of a value over `2 ^ scale`. -/
def scaled (b : Binary64) (scale : Nat) : Int :=
  b.mantissa * Nat.pow 2 (b.exponent + scale).toNat

/-- The number of fractional bits of two values. -/
def commonScale (a b : Binary64) : Nat :=
  max (-a.exponent).toNat (-b.exponent).toNat

/-- The rounded difference of two values. -/
def sub (a b : Binary64) : Option Binary64 :=
  let scale := commonScale a b
  ofRatio (a.scaled scale - b.scaled scale) (Nat.pow 2 scale)

/-- The order of the values. -/
def lt (a b : Binary64) : Bool :=
  let scale := commonScale a b
  a.scaled scale < b.scaled scale

/-- The rounded product with a natural number. -/
def mulNat (b : Binary64) (factor : Nat) : Option Binary64 :=
  let scale := (-b.exponent).toNat
  ofRatio (b.scaled scale * factor) (Nat.pow 2 scale)

/-- The rounded quotient by a positive natural number. -/
def divNat (b : Binary64) (divisor : Nat) : Option Binary64 :=
  let scale := (-b.exponent).toNat
  ofRatio (b.scaled scale) (Nat.pow 2 scale * divisor)

/-- The nearest whole number, a tie to the even one. -/
def round (b : Binary64) : Int :=
  let scale := (-b.exponent).toNat
  let numerator := b.scaled scale
  let size := roundDiv numerator.natAbs (Nat.pow 2 scale)
  if numerator < 0 then -(size : Int) else size

/-- A number of milliseconds in seconds. -/
def seconds (millis : Int) : Option Binary64 := do
  (← ofInt millis).divNat 1000

example : (ofRatio 1 10) = some ⟨7205759403792794, -56⟩ := by decide +kernel
example : ((seconds 1500).bind fun s => s.mulNat 1000).map round = some 1500 := by decide +kernel

end Binary64

end MailScript
