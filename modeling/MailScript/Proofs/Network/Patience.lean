import MailScript.Network.Patience
import MailScript.Proofs.Number
import Mathlib.Algebra.Order.Floor.Semiring

/-! # When binary fractions of seconds are exact

Whoever waits is told its pause and its limit in seconds, and takes the difference of two times in
seconds. Below some thousand years all of this comes out as it would in milliseconds: a pause is
what it was, and a limit counts as passed exactly if it has been, unless it is met to the
millisecond. -/

namespace MailScript.Network.Patience

open Binary64

/-- Seconds and back is no way at all for whole milliseconds. -/
theorem pauseOf?_eq {millis : Int} (h : Common millis) : pauseOf? millis = some millis := by
  obtain ⟨s, hs, hseconds⟩ := exists_seconds h
  obtain ⟨hlow, hhigh⟩ := abs_le.mp h.abs_le
  obtain ⟨hbelow, habove⟩ := abs_le.mp hseconds
  have hsize : |s.value * (1000 : ℕ)| ≤ 281474976710657 := by
    rw [abs_le]
    push_cast
    constructor <;> linarith
  obtain ⟨product, hproduct, herror⟩ := exists_mulNat (abs_lt_of_le hsize (by norm_num))
  replace herror := herror.trans (slack_le _)
  push_cast at hsize herror
  obtain ⟨hdown, hup⟩ := abs_le.mp herror
  obtain ⟨hfloor, hceiling⟩ := abs_le.mp (abs_round_sub_le product)
  -- Less than one whole number away from a whole number there is no other one.
  have hround : product.round = millis := by
    have hlt : (product.round : ℚ) < millis + 1 := by linarith
    have hgt : (millis : ℚ) < product.round + 1 := by linarith
    have hlt' : product.round < millis + 1 := by exact_mod_cast hlt
    have hgt' : millis < product.round + 1 := by exact_mod_cast hgt
    omega
  rw [pauseOf?, hs, Option.map_some, Clock.millisOf, hproduct, Option.getD_some, hround]

theorem pauseOf_eq {millis : Int} (h : Common millis) : pauseOf millis = millis := by
  rw [pauseOf, pauseOf?_eq h, Option.getD_some]

/-- Half a millisecond away from the limit the seconds tell what the milliseconds do. -/
theorem exceeds_eq {limit : Decimal} {started now : Int} (hlimit : |limit.millis| ≤ 2 ^ 48)
    (hstarted : Common started) (hnow : Common now)
    (hfar : 1 / 2 ≤ |limit.millis - (now - started : Int)|) :
    exceeds limit started now = limit.ltMillis (now - started) := by
  obtain ⟨first, hfirst, hfirstError⟩ := exists_seconds hstarted
  obtain ⟨last, hlast, hlastError⟩ := exists_seconds hnow
  obtain ⟨hstartedLow, hstartedHigh⟩ := abs_le.mp hstarted.abs_le
  obtain ⟨hnowLow, hnowHigh⟩ := abs_le.mp hnow.abs_le
  obtain ⟨hfirstLow, hfirstHigh⟩ := abs_le.mp hfirstError
  obtain ⟨hlastLow, hlastHigh⟩ := abs_le.mp hlastError
  have hsize : |last.value - first.value| ≤ 562949953422 := by
    rw [abs_le]
    constructor <;> linarith
  obtain ⟨elapsed, helapsed, helapsedError⟩ := exists_sub (abs_lt_of_le hsize (by norm_num))
  replace helapsedError := helapsedError.trans (slack_le _)
  obtain ⟨helapsedLow, helapsedHigh⟩ := abs_le.mp helapsedError
  -- The limit is rounded once.
  have hratio : (limit.coefficient : ℚ) / limit.denominator = limit.millis / 1000 := by
    rw [Decimal.millis]
    ring
  have hlimitSize : |(limit.coefficient : ℚ) / limit.denominator| ≤ 281474976711 := by
    rw [hratio, abs_div, abs_of_pos (by norm_num : (0 : ℚ) < 1000), div_le_iff₀ (by norm_num)]
    exact hlimit.trans (by norm_num)
  obtain ⟨bound, hbound, hboundError⟩ := exists_ofRatio limit.coefficient limit.denominator_pos
    (abs_lt_of_le hlimitSize (by norm_num))
  replace hboundError := hboundError.trans (slack_le _)
  rw [hratio] at hboundError hlimitSize
  obtain ⟨hboundLow, hboundHigh⟩ := abs_le.mp hboundError
  have hexceeds : exceeds limit started now = bound.lt elapsed := by
    unfold exceeds ofDecimal
    rw [hfirst, hlast, hbound]
    change ((last.sub first).bind fun elapsed => some (bound.lt elapsed)).getD false = _
    rw [helapsed]
    rfl
  rw [hexceeds, Bool.eq_iff_iff, lt_iff, Decimal.ltMillis_iff]
  push_cast at hfar ⊢
  rcases le_abs.mp hfar with hbelow | habove
  · exact ⟨fun _ => by linarith, fun _ => by linarith⟩
  · exact ⟨fun _ => by linarith, fun _ => by linarith⟩

/-- A limit and a pause are exact for a wait from some time on: the pause is what it was, and
whenever the wait may look at the clock, the limit counts as passed exactly if it has been. -/
structure Exact (limit : Decimal) (pause started : Int) : Prop where
  pauseOf_eq : pauseOf pause = pause
  exceeds_eq : ∀ count ≤ ⌊limit.millis / pause⌋₊ + 1,
    exceeds limit started (started + count * pause) = limit.ltMillis (count * pause)

/-- Pauses fit into a limit if they are not more than it has room for. -/
theorem le_floor_iff {limit : Decimal} {pause : Int} (hlimit : 0 ≤ limit.millis) (hpause : 0 < pause)
    {count : Nat} : count ≤ ⌊limit.millis / pause⌋₊ ↔ (count : ℚ) * pause ≤ limit.millis := by
  have hpause' : (0 : ℚ) < pause := by exact_mod_cast hpause
  rw [Nat.le_floor_iff (div_nonneg hlimit hpause'.le), le_div_iff₀ hpause']

/-- Whole milliseconds are exact, unless the pauses meet the limit to the millisecond and the
seconds put it in the past. -/
theorem exact_of_bounds {limit : Decimal} {total pause started : Int} (hlimit : limit.millis = total)
    (htotal : 0 ≤ total) (hpause : 0 < pause) (hlimitCommon : Common total)
    (hpauseCommon : Common pause) (hstarted : Common started)
    (hlast : Common (started + total + pause))
    (hmeets : pause ∣ total → exceeds limit started (started + total) = false) :
    Exact limit pause started where
  pauseOf_eq := Patience.pauseOf_eq hpauseCommon
  exceeds_eq count hcount := by
    have hfits : (count : Int) * pause ≤ total + pause := by
      have hnonneg : 0 ≤ limit.millis := by
        rw [hlimit]
        exact_mod_cast htotal
      have hfloor := (le_floor_iff hnonneg hpause).mp (Nat.sub_le_of_le_add hcount)
      rw [hlimit] at hfloor
      have hbefore : ((count - 1 : Nat) : Int) * pause ≤ total := by exact_mod_cast hfloor
      have hstep := mul_le_mul_of_nonneg_right (by omega : (count : Int) ≤ (count - 1 : Nat) + 1)
        hpause.le
      linarith
    have hpassed : 0 ≤ (count : Int) * pause := mul_nonneg (Int.natCast_nonneg count) hpause.le
    have hnow : Common (started + count * pause) := by
      unfold Common at hstarted hlast ⊢
      rw [abs_le] at hstarted hlast ⊢
      omega
    have helapsed : started + count * pause - started = count * pause := by omega
    by_cases hmet : total = count * pause
    · have hnot : limit.ltMillis (count * pause) = false := by
        rw [Bool.eq_false_iff, ne_eq, Decimal.ltMillis_iff, hlimit, hmet]
        exact lt_irrefl _
      rw [hnot, ← hmet]
      exact hmeets ⟨count, by rw [hmet, mul_comm]⟩
    · have hfar : (1 : ℚ) ≤ |(total : ℚ) - ((count * pause : Int) : ℚ)| := by
        rw [← Int.cast_sub, ← Int.cast_abs]
        exact_mod_cast Int.one_le_abs (sub_ne_zero.mpr hmet)
      have hsize : |limit.millis| ≤ 2 ^ 48 := by
        rw [hlimit]
        exact hlimitCommon.abs_le.trans (by norm_num)
      have hsame := Patience.exceeds_eq hsize hstarted hnow
        (by rw [helapsed, hlimit]; linarith)
      rwa [helapsed] at hsame

/-- Between 30 and 50 milliseconds lie 20 and no more. In seconds it is a little more than that. -/
example : exceeds ⟨2, 2⟩ 30 50 = true ∧ Decimal.ltMillis ⟨2, 2⟩ (50 - 30) = false := by
  decide +kernel

end MailScript.Network.Patience
