import MailScript.Failure

/-! # Timestamps

A moment is a date of the common calendar, a time of day and an offset from universal time. It is
written as in the header of a message. -/

namespace MailScript

/-- A moment in a time zone; the offset is in seconds. -/
structure Moment where
  year : Nat
  month : Nat
  day : Nat
  hour : Nat
  minute : Nat
  second : Nat
  offset : Int
deriving DecidableEq, Repr, Inhabited

namespace Moment

/-- A year has a 29th of February. -/
def isLeap (year : Nat) : Bool :=
  year % 4 == 0 && (year % 100 != 0 || year % 400 == 0)

/-- The number of days of a month. -/
def daysIn (year month : Nat) : Nat :=
  if month = 2 then if isLeap year then 29 else 28
  else if [4, 6, 9, 11].contains month then 30
  else 31

/-- The number of days before a year, the year 1 being the first. -/
def daysBeforeYear (year : Nat) : Nat :=
  let earlier := year - 1
  earlier * 365 + earlier / 4 - earlier / 100 + earlier / 400

/-- The number of days of a year before a month. -/
def daysBeforeMonth (year month : Nat) : Nat :=
  (List.range' 1 (month - 1)).foldl (fun days earlier => days + daysIn year earlier) 0

/-- The number of a day; the first of January of the year 1 is day 1, a Monday. -/
def dayNumber (moment : Moment) : Nat :=
  daysBeforeYear moment.year + daysBeforeMonth moment.year moment.month + moment.day

/-- The short names of the days of a week, from Sunday on. -/
def dayNames : List String := ["Sun", "Mon", "Tue", "Wed", "Thu", "Fri", "Sat"]

/-- The short names of the months. -/
def monthNames : List String :=
  ["Jan", "Feb", "Mar", "Apr", "May", "Jun", "Jul", "Aug", "Sep", "Oct", "Nov", "Dec"]

/-- The short name of the day of the week. -/
def dayName (moment : Moment) : String :=
  dayNames.getD (moment.dayNumber % 7) ""

/-- The short name of the month. -/
def monthName (moment : Moment) : String :=
  monthNames.getD (moment.month - 1) ""

/-- A number below a hundred with two digits. -/
def twoDigits (n : Nat) : String :=
  if n < 10 then "0" ++ toString n else toString n

/-- An offset with its sign, in hours, minutes and, if there are any, seconds. -/
def renderOffset (offset : Int) : String :=
  let size := offset.natAbs
  (if offset < 0 then "-" else "+") ++ twoDigits (size / 3600) ++ twoDigits (size / 60 % 60)
    ++ (if size % 60 = 0 then "" else twoDigits (size % 60))

/-- Write a moment. -/
def render (moment : Moment) : String :=
  moment.dayName ++ ", " ++ toString moment.day ++ " " ++ moment.monthName ++ " "
    ++ toString moment.year ++ " " ++ twoDigits moment.hour ++ ":" ++ twoDigits moment.minute
    ++ ":" ++ twoDigits moment.second ++ " " ++ renderOffset moment.offset

/-- A number lies between two bounds. -/
def between (low high : Int) (n : Int) : Bool := low ≤ n && n ≤ high

/-- What is wrong with a date, if anything is. -/
def dateError? (year month day : Int) : Option DateError :=
  if !between 1 9999 year then some (.year year)
  else if !between 1 12 month then some .month
  else if !between 1 (daysIn year.toNat month.toNat) day then some .day
  else none

/-- What is wrong with a time of day, if anything is. -/
def timeError? (hour minute second micro : Int) : Option DateError :=
  if !between 0 23 hour then some .hour
  else if !between 0 59 minute then some .minute
  else if !between 0 59 second then some .second
  else if !between 0 999999 micro then some .microsecond
  else none

/-- The seconds of a day. -/
def secondsPerDay : Int := 86400

/-- A number of seconds as it is shown when it is no offset. -/
def shownDuration (seconds : Int) : String :=
  let days := seconds.fdiv secondsPerDay
  let rest := seconds.fmod secondsPerDay
  let parts := (if days = 0 then [] else ["days=" ++ toString days])
    ++ (if rest = 0 then [] else ["seconds=" ++ toString rest])
  "datetime.timedelta(" ++ (if parts.isEmpty then "0" else ", ".intercalate parts) ++ ")"

/-- What is wrong with an offset, if anything is. A moment without an offset needs a day before it.
-/
def offsetError? (year month day : Int) : Option Int → Option DateError
  | some offset =>
    if between (1 - secondsPerDay) (secondsPerDay - 1) offset then none
    else some (.offset (shownDuration offset))
  | none => if year = 1 ∧ month = 1 ∧ day = 1 then some (.year 0) else none

/-- A moment made of year, month, day and, as far as they are given, hour, minute, second and
microsecond. Without an offset it is in universal time. -/
def ofParts (parts : List Int) (offset : Option Int) : Except DateError Moment :=
  let part (index : Nat) : Int := parts.getD index 0
  let (year, month, day) := (part 0, part 1, part 2)
  let (hour, minute, second) := (part 3, part 4, part 5)
  let errors := [offset.bind fun offset => offsetError? year month day (some offset),
    dateError? year month day, timeError? hour minute second (part 6),
    offsetError? year month day offset]
  match errors.findSome? id with
  | some error => .error error
  | none =>
    .ok ⟨year.toNat, month.toNat, day.toNat, hour.toNat, minute.toNat, second.toNat,
      offset.getD 0⟩

end Moment

end MailScript
