import TemplateStream.Text.Quoted

/-!
# Dates and times

Dates of the proleptic calendar, times of day to the microsecond, and their two texts: the
international one with a letter between date and time, and the description inside containers.
-/

namespace TemplateStream

/-- A day of the calendar. -/
structure Date where
  year : Nat
  month : Nat
  day : Nat
  deriving DecidableEq, Inhabited

/-- A time of day. -/
structure TimeOfDay where
  hour : Nat
  minute : Nat
  second : Nat
  microsecond : Nat
  deriving DecidableEq, Inhabited

/-- A time on a day, with its distance from universal time in seconds when that is known. -/
structure Moment where
  date : Date
  time : TimeOfDay
  offset : Option Int
  deriving DecidableEq, Inhabited

namespace Calendar

/-- A number with zeros in front up to a width. -/
def padded (width : Nat) (value : Nat) : String :=
  let digits := Nat.toDigits 10 value
  String.ofList (List.replicate (width - digits.length) '0' ++ digits)

/-- Whether a year has a leap day. -/
def isLeap (year : Nat) : Bool :=
  year % 4 == 0 && (year % 100 != 0 || year % 400 == 0)

/-- The number of days of a month. -/
def daysIn (year month : Nat) : Nat :=
  match month with
  | 2 => if isLeap year then 29 else 28
  | 4 | 6 | 9 | 11 => 30
  | _ => 31

/-- Why numbers do not name a date or a time. -/
inductive Fault where
  | year (value : Nat)
  | month
  | day
  | hour
  | minute
  | second
  /-- The distance from universal time is a day or more. -/
  | offset (seconds : Int)
  deriving DecidableEq

/-- The description of a length of time: whole days, and seconds that are not negative. -/
def describeDuration (duration : Int) : String :=
  let days := Int.fdiv duration 86400
  let seconds := Int.fmod duration 86400
  let parts := (if days == 0 then [] else [s!"days={days}"]) ++
    (if seconds == 0 then [] else [s!"seconds={seconds}"])
  "datetime.timedelta(" ++ (if parts.isEmpty then "0" else ", ".intercalate parts) ++ ")"

/-- The message of a fault. -/
def Fault.message : Fault → String
  | .year value => s!"year {value} is out of range"
  | .month => "month must be in 1..12"
  | .day => "day is out of range for month"
  | .hour => "hour must be in 0..23"
  | .minute => "minute must be in 0..59"
  | .second => "second must be in 0..59"
  | .offset seconds =>
    "offset must be a timedelta strictly between " ++
      "-timedelta(hours=24) and timedelta(hours=24), not " ++
      describeDuration seconds ++ "."

/-- The date of three numbers. -/
def date (year month day : Nat) : Except Fault Date :=
  if year < 1 || year > 9999 then .error (.year year)
  else if month < 1 || month > 12 then .error .month
  else if day < 1 || day > daysIn year month then .error .day
  else .ok ⟨year, month, day⟩

/-- The time of four numbers. -/
def time (hour minute second microsecond : Nat) : Except Fault TimeOfDay :=
  if hour > 23 then .error .hour
  else if minute > 59 then .error .minute
  else if second > 59 then .error .second
  else .ok ⟨hour, minute, second, microsecond⟩

/-- A distance from universal time of less than a day. -/
def offset (seconds : Int) : Except Fault Int :=
  if seconds.natAbs < 86400 then .ok seconds else .error (.offset seconds)

/-- The days before a date since the first day of year one. -/
def dayNumber (date : Date) : Nat :=
  let past := date.year - 1
  past * 365 + past / 4 - past / 100 + past / 400 +
    (List.range (date.month - 1)).foldl (fun days month => days + daysIn date.year (month + 1)) 0 +
    (date.day - 1)

/-- The microseconds of a moment since the start of year one of universal time. -/
def instant (moment : Moment) : Int :=
  let seconds : Int :=
    ((dayNumber moment.date * 24 + moment.time.hour) * 60 + moment.time.minute) * 60 +
      moment.time.second
  (seconds - moment.offset.getD 0) * 1000000 + moment.time.microsecond

/-- The international text of a date. -/
def dateText (date : Date) : String :=
  padded 4 date.year ++ "-" ++ padded 2 date.month ++ "-" ++ padded 2 date.day

/-- The international text of a time of day. -/
def timeText (time : TimeOfDay) : String :=
  padded 2 time.hour ++ ":" ++ padded 2 time.minute ++ ":" ++ padded 2 time.second ++
    if time.microsecond == 0 then "" else "." ++ padded 6 time.microsecond

/-- The text of a distance from universal time. -/
def offsetText (offset : Int) : String :=
  let magnitude := offset.natAbs
  let seconds := magnitude % 60
  (if offset < 0 then "-" else "+") ++ padded 2 (magnitude / 3600) ++ ":" ++
    padded 2 (magnitude / 60 % 60) ++ if seconds == 0 then "" else ":" ++ padded 2 seconds

/-- The text of a moment with the given separator between date and time. -/
def momentText (separator : String) (moment : Moment) : String :=
  dateText moment.date ++ separator ++ timeText moment.time ++
    (moment.offset.map offsetText).getD ""

/-- The numbers of a time of day as a description lists them: seconds and microseconds are left
out when nothing after them is needed. -/
def timeNumbers (time : TimeOfDay) : List Nat :=
  [time.hour, time.minute] ++
    if time.microsecond != 0 then [time.second, time.microsecond]
    else if time.second != 0 then [time.second] else []

/-- A list of numbers between commas. -/
def numbers (values : List Nat) : String :=
  ", ".intercalate (values.map toString)

/-- The description of a date. -/
def describeDate (date : Date) : String :=
  "datetime.date(" ++ numbers [date.year, date.month, date.day] ++ ")"

/-- The description of a time of day. -/
def describeTime (time : TimeOfDay) : String :=
  "datetime.time(" ++ numbers (timeNumbers time) ++ ")"

/-- The description of a distance from universal time. -/
def describeOffset (offset : Int) : String :=
  if offset == 0 then "datetime.timezone.utc"
  else "datetime.timezone(" ++ describeDuration offset ++ ")"

/-- The description of a moment. -/
def describeMoment (moment : Moment) : String :=
  "datetime.datetime(" ++
    numbers ([moment.date.year, moment.date.month, moment.date.day] ++ timeNumbers moment.time) ++
    ((moment.offset.map fun offset => ", tzinfo=" ++ describeOffset offset).getD "") ++ ")"

end Calendar

end TemplateStream
