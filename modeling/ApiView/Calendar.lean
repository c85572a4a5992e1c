import ApiView.Text.Hex

/-!
# Dates and times

The calendar values that a document may hold, and their written forms.

* `Date`, `DateTime`: a day, and a time of day with an optional distance from UTC in minutes;
* `Date.isValid`, `DateTime.isValid`: the proleptic Gregorian calendar, years 1 to 9999;
* `DateTime.sameInstant`: equality of points in time, across distances from UTC;
* `iso`, `display`, `utcText`: the written forms.
-/

namespace ApiView

structure Date where
  year : Nat
  month : Nat
  day : Nat
deriving DecidableEq, Repr

/-- A time on a day; `offset` is the distance from UTC in minutes, where the time states one. -/
structure DateTime where
  date : Date
  hour : Nat
  minute : Nat
  second : Nat
  microsecond : Nat
  offset : Option Int
deriving DecidableEq, Repr

/-! ## The calendar -/

def isLeapYear (year : Nat) : Bool :=
  year % 4 == 0 && (year % 100 != 0 || year % 400 == 0)

def daysInMonth (year month : Nat) : Nat :=
  if month == 2 then if isLeapYear year then 29 else 28
  else if month == 4 || month == 6 || month == 9 || month == 11 then 30
  else 31

namespace Date

def isValid (d : Date) : Bool :=
  1 ≤ d.year && d.year ≤ 9999 && 1 ≤ d.month && d.month ≤ 12 && 1 ≤ d.day &&
    d.day ≤ daysInMonth d.year d.month

/-- The number of days before a date, counted from the first day of year 1. -/
def dayNumber (d : Date) : Nat :=
  let y := d.year - 1
  let months := (List.range (d.month - 1)).map fun m => daysInMonth d.year (m + 1)
  y * 365 + y / 4 - y / 100 + y / 400 + months.foldl (· + ·) 0 + (d.day - 1)

end Date

def padded (width n : Nat) : String :=
  let digits := Nat.toDigits 10 n
  String.ofList (List.replicate (width - digits.length) '0' ++ digits)

def Date.iso (d : Date) : String :=
  padded 4 d.year ++ "-" ++ padded 2 d.month ++ "-" ++ padded 2 d.day

def Date.shown (d : Date) : String :=
  "datetime.date(" ++ toString d.year ++ ", " ++ toString d.month ++ ", " ++ toString d.day ++ ")"

namespace DateTime

/-- Whether a time exists; its distance from UTC is less than a day. -/
def isValid (t : DateTime) : Bool :=
  t.date.isValid && t.hour < 24 && t.minute < 60 && t.second < 60 &&
    match t.offset with
    | none => true
    | some m => m.natAbs < 24 * 60

/-- Microseconds since the first day of year 1, on the clock that the time is stated on. -/
def clock (t : DateTime) : Nat :=
  (((t.date.dayNumber * 24 + t.hour) * 60 + t.minute) * 60 + t.second) * 1000000 + t.microsecond

/-- Whether two times are the same point in time. A time without a distance from UTC is never the
same as one with it. -/
def sameInstant (s t : DateTime) : Bool :=
  match s.offset, t.offset with
  | none, none => s.clock == t.clock
  | some a, some b => (s.clock : Int) - a * 60000000 == (t.clock : Int) - b * 60000000
  | _, _ => false

/-! ## Written forms -/

def offsetText (minutes : Int) : String :=
  (if minutes < 0 then "-" else "+") ++ padded 2 (minutes.natAbs / 60) ++ ":" ++
    padded 2 (minutes.natAbs % 60)

def clockText (t : DateTime) : String :=
  padded 2 t.hour ++ ":" ++ padded 2 t.minute ++ ":" ++ padded 2 t.second ++
    if t.microsecond == 0 then "" else "." ++ padded 6 t.microsecond

def written (separator : String) (offset : Int → String) (t : DateTime) : String :=
  t.date.iso ++ separator ++ t.clockText ++ (t.offset.map offset).getD ""

def iso (t : DateTime) : String :=
  written "T" offsetText t

def display (t : DateTime) : String :=
  written " " offsetText t

def utcText (t : DateTime) : String :=
  written "T" (fun m => if m == 0 then "Z" else offsetText m) t

/-- A distance from UTC inside a displayed list or mapping. -/
def zoneShown (minutes : Int) : String :=
  if minutes == 0 then "datetime.timezone.utc"
  else
    let seconds := minutes * 60
    let days := seconds.fdiv 86400
    let rest := seconds.fmod 86400
    let parts := (if days == 0 then [] else ["days=" ++ toString days]) ++
      (if rest == 0 then [] else ["seconds=" ++ toString rest])
    "datetime.timezone(datetime.timedelta(" ++ ", ".intercalate parts ++ "))"

def shown (t : DateTime) : String :=
  let seconds := if t.second == 0 && t.microsecond == 0 then [] else [toString t.second]
  let micros := if t.microsecond == 0 then [] else [toString t.microsecond]
  let zone := match t.offset with
    | none => []
    | some m => ["tzinfo=" ++ zoneShown m]
  let parts := [t.date.year, t.date.month, t.date.day, t.hour, t.minute].map toString ++
    seconds ++ micros ++ zone
  "datetime.datetime(" ++ ", ".intercalate parts ++ ")"

end DateTime
end ApiView
