import MailScript.Number.Binary64

/-! # A clock that only pauses move

The clock counts milliseconds. Whoever waits for a while moves it on at once, and the pauses are
kept in order. The clock of a system counts the nanoseconds of a pause in 64 bits, and refuses
pauses that it cannot count so and those that are negative. -/

namespace MailScript

/-- Why a clock refuses a pause. -/
inductive WaitError where
  | tooLong
  | negative
deriving DecidableEq, Repr

namespace WaitError

def message : WaitError → String
  | .tooLong => "timestamp too large to convert to C _PyTime_t"
  | .negative => "sleep length must be non-negative"

/-- The name of the category of an error. -/
def typeName : WaitError → String
  | .tooLong => "OverflowError"
  | .negative => "ValueError"

end WaitError

/-- A number of milliseconds since the start, and the pauses since they were last taken, the latest
first, equal neighbours counted together. -/
structure Clock where
  now : Int
  pauses : List (Int × Nat)
  /-- The clock refuses some pauses, as that of a system does. -/
  limited : Bool
deriving DecidableEq, Repr

namespace Clock

/-- A clock that refuses no pause. -/
def zero : Clock := ⟨0, [], false⟩

/-- The clock of a system. -/
def system : Clock := ⟨0, [], true⟩

instance : Inhabited Clock := ⟨zero⟩

/-- Add a pause to the latest ones. -/
def record (millis : Int) : List (Int × Nat) → List (Int × Nat)
  | (latest, count) :: rest =>
    if latest = millis then (latest, count + 1) :: rest else (millis, 1) :: (latest, count) :: rest
  | [] => [(millis, 1)]

def wait (clock : Clock) (millis : Int) : Clock :=
  { clock with now := clock.now + millis, pauses := record millis clock.pauses }

/-- The nanoseconds of a number of milliseconds need more than 64 bits. -/
def overflows (millis : Int) : Bool :=
  millis * 1000000 < -9223372036854775808 || 9223372036854775808 ≤ millis * 1000000

/-- Why a clock refuses to pause for a number of milliseconds, if it does. -/
def refusal? (clock : Clock) (millis : Int) : Option WaitError :=
  if !clock.limited then none
  else if overflows millis then some .tooLong
  else if millis < 0 then some .negative
  else none

/-- Pause for a number of milliseconds, unless the clock refuses to. -/
def sleep (clock : Clock) (millis : Int) : Except WaitError Unit × Clock :=
  match clock.refusal? millis with
  | some error => (.error error, clock)
  | none => (.ok (), clock.wait millis)

/-- A clock does not refuse a pause. -/
def Takes (clock : Clock) (millis : Int) : Prop := clock.refusal? millis = none

instance (clock : Clock) (millis : Int) : Decidable (clock.Takes millis) :=
  inferInstanceAs (Decidable (clock.refusal? millis = none))

/-- The milliseconds that a wait of some seconds takes. -/
def millisOf (seconds : Binary64) : Int :=
  ((seconds.mulNat 1000).getD seconds).round

/-- The pauses in order, and the clock without them. -/
def takePauses (clock : Clock) : List (Int × Nat) × Clock :=
  (clock.pauses.reverse, { clock with pauses := [] })

@[simp] theorem now_wait (clock : Clock) (millis : Int) :
    (clock.wait millis).now = clock.now + millis := rfl

@[simp] theorem limited_wait (clock : Clock) (millis : Int) :
    (clock.wait millis).limited = clock.limited := rfl

@[simp] theorem refusal?_wait (clock : Clock) (millis other : Int) :
    (clock.wait millis).refusal? other = clock.refusal? other := rfl

@[simp] theorem limited_sleep (clock : Clock) (millis : Int) :
    (clock.sleep millis).2.limited = clock.limited := by
  unfold sleep
  split <;> rfl

/-- What a clock refuses does not depend on the time. -/
theorem refusal?_congr {clock other : Clock} (h : clock.limited = other.limited) (millis : Int) :
    clock.refusal? millis = other.refusal? millis := by
  unfold refusal?
  rw [h]

/-- A clock that does not pause has a reason to refuse. -/
theorem refusal?_of_sleep {clock : Clock} {millis : Int} {error : WaitError}
    (h : (clock.sleep millis).1 = .error error) : clock.refusal? millis = some error := by
  unfold sleep at h
  split at h
  · rename_i hrefused
    cases h
    exact hrefused
  · cases h

theorem sleep_congr {clock other : Clock} (h : clock.limited = other.limited) (millis : Int) :
    (clock.sleep millis).1 = (other.sleep millis).1 := by
  unfold sleep
  rw [refusal?_congr h]
  split <;> rfl

theorem Takes.congr {clock other : Clock} {millis : Int} (h : clock.Takes millis)
    (hlimited : other.limited = clock.limited) : other.Takes millis :=
  (refusal?_congr hlimited millis).trans h

end Clock

end MailScript
