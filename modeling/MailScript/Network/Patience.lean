import MailScript.Clock
import MailScript.Number.Decimal

/-! # Waiting in rounds

Whoever waits for something to happen looks again and again, with a pause after every look, until a
limit has been passed. -/

namespace MailScript.Network

/-- How to wait: whether a wait that started at one time has lasted too long at another, and the
milliseconds between two looks. -/
structure Patience where
  expired : Int → Int → Bool
  pause : Int

namespace Patience

/-- More seconds than a limit lie between two times in milliseconds, as far as binary fractions of
seconds tell. -/
def exceeds (limit : Decimal) (started now : Int) : Bool :=
  let beyond : Option Bool := do
    let elapsed ← (← Binary64.seconds now).sub (← Binary64.seconds started)
    return (← Binary64.ofDecimal limit).lt elapsed
  beyond.getD false

/-- Wait until a number of seconds has been exceeded, or for ever. -/
def ofLimit (limit : Option Decimal) (pause : Int) : Patience :=
  ⟨fun started now => limit.any fun limit => exceeds limit started now, pause⟩

/-- The pause that a number of milliseconds makes when it is given in seconds, if it can be. -/
def pauseOf? (millis : Int) : Option Int :=
  (Binary64.seconds millis).map Clock.millisOf

/-- The pause that a number of milliseconds makes. Nobody waits in pauses that cannot be given in
seconds. -/
def pauseOf (millis : Int) : Int :=
  (pauseOf? millis).getD millis

end Patience

end MailScript.Network
