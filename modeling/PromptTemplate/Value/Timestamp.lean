import PromptTemplate.Text.Basic

set_option autoImplicit false

namespace PromptTemplate

/-- The time of day of a moment, with its distance from universal time in seconds if it is known. -/
structure TimeOfDay where
  hour : Nat
  minute : Nat
  second : Nat
  microsecond : Nat
  offset : Option Int
  deriving DecidableEq, Repr

/-- A calendar day, or a moment on it. -/
structure Timestamp where
  year : Nat
  month : Nat
  day : Nat
  time : Option TimeOfDay
  deriving DecidableEq, Repr

namespace Timestamp

def padded (width n : Nat) : Text :=
  let digits := Text.ofNat n
  List.replicate (width - digits.length) '0' ++ digits

/-- Every fourth year is a leap year, of the full centuries only every fourth. -/
def isLeapYear (year : Nat) : Bool :=
  year % 4 == 0 && (year % 100 != 0 || year % 400 == 0)

def daysIn (year month : Nat) : Nat :=
  if month = 2 then if isLeapYear year then 29 else 28
  else if month = 4 || month = 6 || month = 9 || month = 11 then 30
  else 31

/-- Whether the day is on the calendar, the time on the clock and the offset less than a day. -/
def isValid (moment : Timestamp) : Bool :=
  1 ≤ moment.year && 1 ≤ moment.month && moment.month ≤ 12 && 1 ≤ moment.day &&
    moment.day ≤ daysIn moment.year moment.month &&
    match moment.time with
    | none => true
    | some time =>
      time.hour < 24 && time.minute < 60 && time.second < 60 &&
        match time.offset with
        | none => true
        | some seconds => seconds.natAbs < 86400

/-- The number of days before a day, counted from the first day of the first year. -/
def dayNumber (moment : Timestamp) : Nat :=
  let years := moment.year - 1
  let months := (List.range (moment.month - 1)).map fun month => daysIn moment.year (month + 1)
  365 * years + years / 4 - years / 100 + years / 400 + months.foldl (· + ·) 0 + moment.day - 1

/-- The seconds from the first day on to a time of day, by the clock of universal time if the offset from
it is known. -/
def seconds (moment : Timestamp) (time : TimeOfDay) : Int :=
  86400 * (moment.dayNumber : Int) + 3600 * time.hour + 60 * time.minute + time.second -
    time.offset.getD 0

/-- Whether two days or two moments are the same. Moments with offsets are the same if they are so in
universal time. -/
def isSame (a b : Timestamp) : Bool :=
  match a.time, b.time with
  | some s, some t =>
    s.offset.isSome == t.offset.isSome && a.seconds s == b.seconds t &&
      s.microsecond == t.microsecond
  | none, none => a == b
  | _, _ => false

/-- An offset as sign, hours and minutes. -/
def offsetText (seconds : Int) : Text :=
  let minutes := seconds.natAbs / 60
  (if seconds < 0 then '-' else '+') :: padded 2 (minutes / 60) ++ ':' :: padded 2 (minutes % 60)

/-- The moment with dashes, colons and a space between day and time. -/
def plain (moment : Timestamp) : Text :=
  let day := padded 4 moment.year ++ '-' :: padded 2 moment.month ++ '-' :: padded 2 moment.day
  match moment.time with
  | none => day
  | some time =>
    day ++ ' ' :: padded 2 time.hour ++ ':' :: padded 2 time.minute ++ ':' :: padded 2 time.second ++
      (if time.microsecond = 0 then [] else '.' :: padded 6 time.microsecond) ++
      match time.offset with
      | none => []
      | some seconds => offsetText seconds

def offsetExpression (seconds : Int) : Text :=
  if seconds = 0 then "datetime.timezone.utc".toList
  else
    let days := seconds.fdiv 86400
    let rest := seconds.fmod 86400
    let parts :=
      (if days = 0 then [] else ["days=".toList ++ Text.ofInt days]) ++
        (if rest = 0 then [] else ["seconds=".toList ++ Text.ofInt rest])
    "datetime.timezone(datetime.timedelta(".toList ++ Text.join ", ".toList parts ++ "))".toList

def expression (moment : Timestamp) : Text :=
  let day := [moment.year, moment.month, moment.day].map Text.ofNat
  match moment.time with
  | none => "datetime.date(".toList ++ Text.join ", ".toList day ++ [')']
  | some time =>
    let clock := [time.hour, time.minute].map Text.ofNat
    let fine :=
      if time.second = 0 && time.microsecond = 0 then []
      else if time.microsecond = 0 then [Text.ofNat time.second]
      else [Text.ofNat time.second, Text.ofNat time.microsecond]
    let zone := match time.offset with
      | none => []
      | some seconds => ["tzinfo=".toList ++ offsetExpression seconds]
    "datetime.datetime(".toList ++ Text.join ", ".toList (day ++ clock ++ fine ++ zone) ++ [')']

end Timestamp

end PromptTemplate
