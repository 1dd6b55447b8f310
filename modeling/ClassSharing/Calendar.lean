/-!
# Dates and times

Dates of the proleptic Gregorian calendar from the year 1 to the year 9999, times of a day, and
offsets from universal time. Only values inside these limits are built, and a fault names the
limit that was passed.
-/

namespace ClassSharing

/-- A date. -/
structure Date where
  year : Nat
  month : Nat
  day : Nat
  deriving DecidableEq, Repr

/-- A date with a time of day, to the microsecond; `offset` is the distance from universal time in
minutes, if it is known. -/
structure DateTime where
  date : Date
  hour : Nat
  minute : Nat
  second : Nat
  microsecond : Nat
  offset : Option Int
  deriving DecidableEq, Repr

/-- Why numbers stand for no date or time. -/
inductive CalendarFault where
  | year (n : Nat)
  | month
  | day
  | hour
  | minute
  | second
  /-- The distance from universal time, in minutes, is a day or more. -/
  | offset (minutes : Int)
  deriving DecidableEq, Repr

namespace Date

/-- Whether a year has a 29 February. -/
def isLeap (year : Nat) : Bool := year % 4 == 0 && (year % 100 != 0 || year % 400 == 0)

/-- The number of days of a month. -/
def daysIn (year month : Nat) : Nat :=
  if month = 2 then if isLeap year then 29 else 28
  else if month = 4 ∨ month = 6 ∨ month = 9 ∨ month = 11 then 30 else 31

/-- The date of three numbers. -/
def check (year month day : Nat) : Except CalendarFault Date :=
  if year < 1 ∨ 9999 < year then .error (.year year)
  else if month < 1 ∨ 12 < month then .error .month
  else if day < 1 ∨ daysIn year month < day then .error .day
  else .ok ⟨year, month, day⟩

/-- The number of days since the first day of the year 1. -/
def ordinal (d : Date) : Int :=
  let y := d.year - 1
  let before := ((List.range d.month).drop 1).map (daysIn d.year)
  (y * 365 + y / 4 - y / 100 + y / 400 + before.foldl (· + ·) 0 + d.day : Nat)

end Date

namespace DateTime

/-- The minutes of a day. -/
def dayMinutes : Int := 1440

/-- The date and time of checked numbers. An offset is checked first. -/
def check (year month day hour minute second microsecond : Nat) (offset : Option Int) :
    Except CalendarFault DateTime := do
  match offset with
  | some m => if m ≤ -dayMinutes ∨ dayMinutes ≤ m then throw (.offset m)
  | none => pure ()
  let date ← Date.check year month day
  if 24 ≤ hour then throw .hour
  if 60 ≤ minute then throw .minute
  if 60 ≤ second then throw .second
  return ⟨date, hour, minute, second, microsecond, offset⟩

/-- The microseconds from the first day of the year 1, in universal time where it is known. -/
def instant (t : DateTime) : Int :=
  (((t.date.ordinal * 24 + t.hour) * 60 + t.minute - t.offset.getD 0) * 60 + t.second) * 1000000 +
    t.microsecond

/-- Whether two times are the same instant. A time of known offset is never the same as one of
unknown offset. -/
def same (s t : DateTime) : Bool :=
  s.offset.isSome == t.offset.isSome && s.instant == t.instant

end DateTime

/-! ### Shown forms -/

/-- A span of minutes, as whole days and the seconds beyond them. -/
def shownMinutes (minutes : Int) : String :=
  let days := minutes.fdiv DateTime.dayMinutes
  let seconds := minutes.fmod DateTime.dayMinutes * 60
  let parts := (if days = 0 then [] else ["days=" ++ toString days]) ++
    (if seconds = 0 then [] else ["seconds=" ++ toString seconds])
  "datetime.timedelta(" ++ (if parts.isEmpty then "0" else ", ".intercalate parts) ++ ")"

/-- The shown form of a date. -/
def Date.shown (d : Date) : String :=
  "datetime.date(" ++ ", ".intercalate ([d.year, d.month, d.day].map toString) ++ ")"

/-- The shown form of a date and time. Seconds are left out when they and their fraction are
zero. -/
def DateTime.shown (t : DateTime) : String :=
  let fields := [t.date.year, t.date.month, t.date.day, t.hour, t.minute] ++
    (if t.microsecond ≠ 0 then [t.second, t.microsecond]
      else if t.second ≠ 0 then [t.second] else [])
  let zone := match t.offset with
    | none => []
    | some 0 => ["tzinfo=datetime.timezone.utc"]
    | some m => ["tzinfo=datetime.timezone(" ++ shownMinutes m ++ ")"]
  "datetime.datetime(" ++ ", ".intercalate (fields.map toString ++ zone) ++ ")"

/-- The wording of a fault. -/
def CalendarFault.message : CalendarFault → String
  | .year n => "year " ++ toString n ++ " is out of range"
  | .month => "month must be in 1..12"
  | .day => "day is out of range for month"
  | .hour => "hour must be in 0..23"
  | .minute => "minute must be in 0..59"
  | .second => "second must be in 0..59"
  | .offset m =>
    "offset must be a timedelta strictly between -timedelta(hours=24) and timedelta(hours=24), " ++
      "not " ++ shownMinutes m ++ "."

end ClassSharing
