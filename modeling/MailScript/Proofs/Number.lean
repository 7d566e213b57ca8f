import MailScript.Number.Binary64
import Mathlib.Algebra.Order.Field.Power
import Mathlib.Algebra.Order.Round
import Mathlib.Data.Rat.Floor
import Mathlib.Tactic.FieldSimp
import Mathlib.Tactic.Linarith
import Mathlib.Tactic.Positivity
import Mathlib.Tactic.Ring

/-! # How far binary fractions are off

Every operation on binary fractions rounds once, so its result is off by one part in `2 ^ 53` at
most, or by next to nothing where the exponent is the least. Milliseconds in seconds are three
operations away from each other, which is less than the distance between whole milliseconds for some
thousand years. -/

namespace MailScript

/-- The milliseconds in a number of seconds. -/
def Decimal.millis (d : Decimal) : ℚ := d.coefficient * 1000 / d.denominator

theorem Decimal.ltMillis_iff {d : Decimal} {millis : Int} :
    d.ltMillis millis = true ↔ d.millis < millis := by
  have hpos : (0 : ℚ) < d.denominator := by exact_mod_cast d.denominator_pos
  rw [Decimal.ltMillis, decide_eq_true_iff, Decimal.millis, div_lt_iff₀ hpos]
  norm_cast

namespace Binary64

/-! ## Rounding -/

/-- A rounded quotient is off by one half at most. -/
theorem abs_roundDiv_sub_le (num : Nat) {den : Nat} (hden : 0 < den) :
    |(roundDiv num den : ℚ) - num / den| ≤ 1 / 2 := by
  have hpos : (0 : ℚ) < den := by exact_mod_cast hden
  have hsplit : (num : ℚ) / den = (num / den : ℕ) + (num % den : ℕ) / den := by
    rw [div_eq_iff hpos.ne', add_mul, div_mul_cancel₀ _ hpos.ne']
    exact_mod_cast (Nat.div_add_mod' num den).symm
  have hrest : ((num % den : ℕ) : ℚ) / den ≤ 1 := by
    rw [div_le_one hpos]
    exact_mod_cast (Nat.mod_lt num hden).le
  have hnonneg : (0 : ℚ) ≤ ((num % den : ℕ) : ℚ) / den := by positivity
  unfold roundDiv
  dsimp only
  rw [hsplit]
  split
  · rename_i hup
    have htwice : den ≤ 2 * (num % den) := by
      simp only [Bool.or_eq_true, Bool.and_eq_true, decide_eq_true_eq, beq_iff_eq] at hup
      omega
    have hhalf : (1 : ℚ) / 2 ≤ ((num % den : ℕ) : ℚ) / den := by
      rw [div_le_div_iff₀ two_pos hpos]
      exact_mod_cast (by omega : 1 * den ≤ num % den * 2)
    rw [abs_le]
    push_cast
    constructor <;> linarith
  · rename_i hdown
    have htwice : 2 * (num % den) ≤ den := by
      simp only [Bool.or_eq_true, Bool.and_eq_true, decide_eq_true_eq, beq_iff_eq, not_or] at hdown
      omega
    have hhalf : ((num % den : ℕ) : ℚ) / den ≤ 1 / 2 := by
      rw [div_le_div_iff₀ hpos two_pos]
      exact_mod_cast (by omega : num % den * 2 ≤ 1 * den)
    rw [abs_le]
    constructor <;> linarith

/-- A power of two as it is computed. -/
theorem cast_pow_two (exponent : Nat) : ((Nat.pow 2 exponent : ℕ) : ℚ) = 2 ^ exponent := by
  rw [Nat.pow_eq]
  exact_mod_cast rfl

theorem zpow_toNat_of_nonneg {exponent : Int} (h : 0 ≤ exponent) :
    (2 : ℚ) ^ exponent.toNat = 2 ^ exponent := by
  rw [← zpow_natCast, Int.toNat_of_nonneg h]

theorem zpow_toNat_of_neg {exponent : Int} (h : ¬ 0 ≤ exponent) :
    (2 : ℚ) ^ (-exponent).toNat = (2 ^ exponent)⁻¹ := by
  rw [← zpow_natCast, Int.toNat_of_nonneg (by omega), zpow_neg]

theorem abs_scaledDiv_sub_le (num : Nat) {den : Nat} (hden : 0 < den) (exponent : Int) :
    |(scaledDiv num den exponent : ℚ) - num / den / 2 ^ exponent| ≤ 1 / 2 := by
  unfold scaledDiv
  split
  · rename_i hnonneg
    have hround := abs_roundDiv_sub_le num (Nat.mul_pos hden (Nat.pow_pos two_pos) :
      0 < den * Nat.pow 2 exponent.toNat)
    rwa [Nat.cast_mul, cast_pow_two, zpow_toNat_of_nonneg hnonneg, ← div_div] at hround
  · rename_i hneg
    have hround := abs_roundDiv_sub_le (num * Nat.pow 2 (-exponent).toNat) hden
    rwa [Nat.cast_mul, cast_pow_two, zpow_toNat_of_neg hneg, ← div_eq_mul_inv, div_right_comm]
      at hround

/-! ## Exponents -/

/-- The leading bit of a quotient is not greater than the quotient. -/
theorem zpow_leadingExponent_le {num den : Nat} (hnum : num ≠ 0) (hden : den ≠ 0) :
    (2 : ℚ) ^ leadingExponent num den ≤ num / den := by
  have hpos : (0 : ℚ) < den := by exact_mod_cast Nat.pos_of_ne_zero hden
  unfold leadingExponent
  dsimp only
  generalize hguess : (Nat.log2 num : Int) - (Nat.log2 den : Int) = guess
  by_cases h : if 0 ≤ guess then den * Nat.pow 2 guess.toNat ≤ num
      else den ≤ num * Nat.pow 2 (-guess).toNat
  · rw [if_pos h, le_div_iff₀ hpos, mul_comm]
    split at h
    · rename_i hnonneg
      rw [← zpow_toNat_of_nonneg hnonneg, ← cast_pow_two]
      exact_mod_cast h
    · rename_i hneg
      have hle : (den : ℚ) ≤ num * 2 ^ (-guess).toNat := by
        rw [← cast_pow_two]
        exact_mod_cast h
      rwa [zpow_toNat_of_neg hneg, ← div_eq_mul_inv, le_div_iff₀ (by positivity)] at hle
  · -- The guess is too large by one at most.
    rw [if_neg h]
    have hlow : (2 : ℚ) ^ (Nat.log2 num : Int) ≤ num := by
      rw [zpow_natCast]
      exact_mod_cast Nat.log2_self_le hnum
    have hhigh : (den : ℚ) ≤ 2 ^ ((Nat.log2 den : Int) + 1) := by
      have hlt : den < 2 ^ (Nat.log2 den + 1) := Nat.lt_log2_self
      have hcast : ((Nat.log2 den : Int) + 1) = ((Nat.log2 den + 1 : ℕ) : Int) := by push_cast; rfl
      rw [hcast, zpow_natCast]
      exact_mod_cast hlt.le
    rw [le_div_iff₀ hpos]
    calc (2 : ℚ) ^ (guess - 1) * den
        ≤ 2 ^ (guess - 1) * 2 ^ ((Nat.log2 den : Int) + 1) := by gcongr
      _ = 2 ^ (Nat.log2 num : Int) := by
          rw [← zpow_add₀ two_ne_zero]
          congr 1
          omega
      _ ≤ num := hlow

/-! ## Quotients -/

/-- What a binary fraction stands for. -/
def value (b : Binary64) : ℚ := b.mantissa * 2 ^ b.exponent

/-- How far the nearest binary fraction is off at most: one part in `2 ^ 53`, or half of the least
one. -/
def slack (x : ℚ) : ℚ := |x| * 2 ^ (-53 : Int) + 2 ^ (-1075 : Int)

/-- Half of the last place of a number is no more than its slack, if the last place is 52 places
behind the leading bit or the least one of all. -/
theorem half_le_slack {x : ℚ} {leading : Int} (hleading : (2 : ℚ) ^ leading ≤ |x|) :
    (2 : ℚ) ^ max (leading - 52) (-1074) / 2 ≤ slack x := by
  rw [slack]
  rcases max_choice (leading - 52) (-1074) with hmax | hmax
  · have hhalf : (2 : ℚ) ^ (leading - 52) / 2 = 2 ^ leading * 2 ^ (-53 : Int) := by
      rw [div_eq_mul_inv, ← zpow_sub_one₀ two_ne_zero, ← zpow_add₀ two_ne_zero]
      congr 1
      omega
    have hleast : (0 : ℚ) ≤ 2 ^ (-1075 : Int) := by positivity
    have hpart : (0 : ℚ) ≤ 2 ^ (-53 : Int) := by positivity
    rw [hmax, hhalf]
    linarith [mul_le_mul_of_nonneg_right hleading hpart]
  · have hhalf : (2 : ℚ) ^ (-1074 : Int) / 2 = 2 ^ (-1075 : Int) := by
      rw [div_eq_mul_inv, ← zpow_sub_one₀ two_ne_zero]
      rfl
    have hpart : (0 : ℚ) ≤ |x| * 2 ^ (-53 : Int) := by positivity
    rw [hmax, hhalf]
    linarith

/-- A fraction with the sign of a number is as far from it as their sizes are from each other. -/
theorem abs_value_sub (num : Int) (den mantissa : Nat) (exponent : Int) :
    |value ⟨if num < 0 then -(mantissa : Int) else mantissa, exponent⟩ - num / den| =
      |(mantissa : ℚ) * 2 ^ exponent - num.natAbs / den| := by
  unfold value
  dsimp only
  split
  · rename_i hneg
    rw [Nat.cast_natAbs, abs_of_neg hneg, ← abs_neg]
    congr 1
    push_cast
    ring
  · rename_i hnonneg
    rw [Nat.cast_natAbs, abs_of_nonneg (not_lt.mp hnonneg)]
    push_cast
    rfl

/-- A quotient that is not too large has a binary fraction next to it. -/
theorem exists_ofRatio (num : Int) {den : Nat} (hden : 0 < den)
    (hsmall : |(num : ℚ) / den| < 2 ^ (1000 : Int)) :
    ∃ b, ofRatio num den = some b ∧ |b.value - num / den| ≤ slack (num / den) := by
  have hpos : (0 : ℚ) < den := by exact_mod_cast hden
  by_cases hzero : num = 0
  · refine ⟨⟨0, 0⟩, by rw [ofRatio, if_pos hzero], ?_⟩
    rw [hzero, value, slack]
    norm_num
  · have habs : |(num : ℚ) / den| = (num.natAbs : ℚ) / den := by
      rw [abs_div, abs_of_pos hpos, Nat.cast_natAbs, Int.cast_abs]
    have hleading := zpow_leadingExponent_le (Int.natAbs_ne_zero.mpr hzero) hden.ne'
    rw [← habs] at hleading
    unfold ofRatio
    rw [if_neg hzero]
    dsimp only
    generalize leadingExponent num.natAbs den = leading at hleading ⊢
    have hbound : leading < 1000 :=
      (zpow_lt_zpow_iff_right₀ one_lt_two).mp (hleading.trans_lt hsmall)
    have hhalf := half_le_slack hleading
    have hround := abs_scaledDiv_sub_le num.natAbs hden (max (leading - 52) (-1074))
    generalize hexponent : max (leading - 52) (-1074) = exponent at hround hhalf ⊢
    generalize scaledDiv num.natAbs den exponent = mantissa at hround ⊢
    have hfits : ¬ (if mantissa = Nat.pow 2 53 then (970 : Int) else 971) < exponent := by
      split <;> omega
    rw [if_neg hfits]
    refine ⟨_, rfl, ?_⟩
    rw [abs_value_sub]
    -- The error of the mantissa counts as often as the exponent says.
    have hscale : (0 : ℚ) < 2 ^ exponent := by positivity
    have hfactor : (mantissa : ℚ) * 2 ^ exponent - num.natAbs / den =
        ((mantissa : ℚ) - num.natAbs / den / 2 ^ exponent) * 2 ^ exponent := by
      rw [sub_mul, div_mul_cancel₀ _ hscale.ne']
    rw [hfactor, abs_mul, abs_of_pos hscale]
    linarith [mul_le_mul_of_nonneg_right hround hscale.le]

theorem slack_le (x : ℚ) : slack x ≤ |x| / 9007199254740992 + 1 / 1000000000 := by
  have hleast : (2 : ℚ) ^ (-1075 : Int) ≤ 2 ^ (-30 : Int) :=
    zpow_le_zpow_right₀ one_le_two (by decide)
  have hpart : |x| * (2 : ℚ) ^ (-53 : Int) = |x| / 9007199254740992 := by norm_num [div_eq_mul_inv]
  have hsmall : (2 : ℚ) ^ (-30 : Int) ≤ 1 / 1000000000 := by norm_num
  rw [slack, hpart]
  exact add_le_add le_rfl (hleast.trans hsmall)

/-! ## Operations -/

theorem cast_scaled {b : Binary64} {scale : Nat} (h : -b.exponent ≤ scale) :
    (b.scaled scale : ℚ) = b.value * 2 ^ scale := by
  unfold scaled value
  rw [Int.cast_mul, Int.cast_natCast, cast_pow_two, zpow_toNat_of_nonneg (by omega),
    zpow_add₀ two_ne_zero, zpow_natCast, mul_assoc]

theorem cast_scaled_div {b : Binary64} {scale : Nat} (h : -b.exponent ≤ scale) :
    (b.scaled scale : ℚ) / (Nat.pow 2 scale : ℕ) = b.value := by
  rw [cast_scaled h, cast_pow_two, mul_div_cancel_right₀ _ (by positivity)]

theorem le_commonScale (a b : Binary64) :
    -a.exponent ≤ commonScale a b ∧ -b.exponent ≤ commonScale a b := by
  unfold commonScale
  omega

theorem lt_iff {a b : Binary64} : a.lt b = true ↔ a.value < b.value := by
  obtain ⟨ha, hb⟩ := le_commonScale a b
  unfold lt
  dsimp only
  rw [decide_eq_true_iff, ← Int.cast_lt (R := ℚ), cast_scaled ha, cast_scaled hb]
  exact mul_lt_mul_iff_left₀ (by positivity)

variable {a b : Binary64}

theorem exists_sub (h : |a.value - b.value| < 2 ^ (1000 : Int)) :
    ∃ c, a.sub b = some c ∧ |c.value - (a.value - b.value)| ≤ slack (a.value - b.value) := by
  obtain ⟨ha, hb⟩ := le_commonScale a b
  have hratio : ((a.scaled (commonScale a b) - b.scaled (commonScale a b) : Int) : ℚ) /
      (Nat.pow 2 (commonScale a b) : ℕ) = a.value - b.value := by
    rw [Int.cast_sub, sub_div, cast_scaled_div ha, cast_scaled_div hb]
  rw [← hratio] at h ⊢
  exact exists_ofRatio _ (Nat.pow_pos two_pos) h

theorem exists_mulNat {factor : Nat} (h : |b.value * factor| < 2 ^ (1000 : Int)) :
    ∃ c, b.mulNat factor = some c ∧ |c.value - b.value * factor| ≤ slack (b.value * factor) := by
  have hratio : ((b.scaled (-b.exponent).toNat * factor : Int) : ℚ) /
      (Nat.pow 2 (-b.exponent).toNat : ℕ) = b.value * factor := by
    rw [Int.cast_mul, Int.cast_natCast, mul_div_right_comm, cast_scaled_div (by omega)]
  rw [← hratio] at h ⊢
  exact exists_ofRatio _ (Nat.pow_pos two_pos) h

theorem exists_divNat {divisor : Nat} (hdivisor : 0 < divisor)
    (h : |b.value / divisor| < 2 ^ (1000 : Int)) :
    ∃ c, b.divNat divisor = some c ∧ |c.value - b.value / divisor| ≤ slack (b.value / divisor) := by
  have hratio : (b.scaled (-b.exponent).toNat : ℚ) /
      (Nat.pow 2 (-b.exponent).toNat * divisor : ℕ) = b.value / divisor := by
    rw [Nat.cast_mul, ← div_div, cast_scaled_div (by omega)]
  rw [← hratio] at h ⊢
  exact exists_ofRatio _ (Nat.mul_pos (Nat.pow_pos two_pos) hdivisor) h

/-- The nearest whole number is one half away at most. -/
theorem abs_round_sub_le (b : Binary64) : |(b.round : ℚ) - b.value| ≤ 1 / 2 := by
  have hscale : -b.exponent ≤ (-b.exponent).toNat := by omega
  have hpos : 0 < Nat.pow 2 (-b.exponent).toNat := Nat.pow_pos two_pos
  have hround := abs_roundDiv_sub_le (b.scaled (-b.exponent).toNat).natAbs hpos
  rw [← cast_scaled_div hscale]
  unfold round
  dsimp only
  generalize b.scaled (-b.exponent).toNat = numerator at hround ⊢
  clear hpos
  generalize Nat.pow 2 (-b.exponent).toNat = den at hround ⊢
  generalize roundDiv numerator.natAbs den = size at hround ⊢
  rw [Nat.cast_natAbs] at hround
  split
  · rename_i hneg
    rw [abs_of_neg hneg] at hround
    push_cast at hround ⊢
    rwa [← abs_neg, neg_sub, sub_neg_eq_add, add_comm, ← sub_neg_eq_add, ← neg_div]
  · rename_i hnonneg
    rwa [abs_of_nonneg (not_lt.mp hnonneg)] at hround

/-! ## Milliseconds -/

/-- Whole milliseconds that are seconds for less than some thousand years. -/
def Common (millis : Int) : Prop := |millis| ≤ 2 ^ 48

instance (millis : Int) : Decidable (Common millis) :=
  inferInstanceAs (Decidable (|millis| ≤ 2 ^ 48))

theorem Common.abs_le {millis : Int} (h : Common millis) : |(millis : ℚ)| ≤ 281474976710656 := by
  have hcast : ((|millis| : Int) : ℚ) ≤ ((2 ^ 48 : Int) : ℚ) := by exact_mod_cast h
  rw [Int.cast_abs] at hcast
  exact hcast.trans (by norm_num)

theorem abs_lt_of_le {x bound : ℚ} (h : |x| ≤ bound) (hbound : bound ≤ 2 ^ (50 : Int)) :
    |x| < 2 ^ (1000 : Int) :=
  (h.trans hbound).trans_lt (zpow_lt_zpow_right₀ one_lt_two (by decide))

/-- Milliseconds in seconds are off by a tenth of a millisecond at most. -/
theorem exists_seconds {millis : Int} (h : Common millis) :
    ∃ s, seconds millis = some s ∧ |s.value * 1000 - millis| ≤ 1 / 10 := by
  have hmillis := h.abs_le
  obtain ⟨whole, hwhole, hfirst⟩ := exists_ofRatio millis one_pos
    (by rw [Nat.cast_one, div_one]; exact abs_lt_of_le hmillis (by norm_num))
  rw [Nat.cast_one, div_one] at hfirst
  replace hfirst := hfirst.trans (slack_le _)
  have hsize : |whole.value / (1000 : ℕ)| ≤ 281474976711 := by
    rw [abs_div, abs_of_pos (by norm_num : (0 : ℚ) < (1000 : ℕ)), div_le_iff₀ (by norm_num)]
    have := abs_le.mp hmillis
    have := abs_le.mp hfirst
    rw [abs_le]
    push_cast
    constructor <;> linarith
  obtain ⟨s, hs, hsecond⟩ := exists_divNat (by norm_num : 0 < 1000)
    (abs_lt_of_le hsize (by norm_num))
  replace hsecond := hsecond.trans (slack_le _)
  refine ⟨s, ?_, ?_⟩
  · unfold seconds ofInt
    rw [hwhole]
    exact hs
  · push_cast at hsize hsecond
    have := abs_le.mp hfirst
    have := abs_le.mp hsecond
    rw [abs_le]
    constructor <;> linarith

end Binary64

end MailScript
