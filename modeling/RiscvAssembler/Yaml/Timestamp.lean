import RiscvAssembler.Text.Numeral

/-!
# Timestamps

A day of the calendar, or a point of time: a day, a time of day and perhaps its distance from
universal time. Days before the first year and distances of a day or more are out of range.

## Main definitions

* `Timestamp`: a day, and a time of day if one is given.
* `Timestamp.ofChars?`: the fields that a text gives, whatever their size.
* `Timestamp.fault?`: the first field that is out of range.
* `Timestamp.shown`, `Timestamp.plain`: the form with the name of each part, and the form with
  dashes and colons.
-/

namespace RiscvAssembler.Yaml

open Text

/-- A day of the calendar. -/
structure Day where
  year : Nat
  month : Nat
  day : Nat
  deriving DecidableEq, Repr

/-- A time of day. -/
structure Clock where
  hour : Nat
  minute : Nat
  second : Nat
  microsecond : Nat := 0
  /-- The minutes that the clock is ahead of universal time, if that is known. -/
  offset : Option Int := none
  deriving DecidableEq, Repr

/-- A day, or a point of time. -/
structure Timestamp where
  day : Day
  clock : Option Clock := none
  deriving DecidableEq, Repr

namespace Timestamp

/-! ### Reading -/

/-- Reads a number of at least `least` digits and moves over at most `most` of them. -/
def number? (least most : Nat) (cs : List Char) : Option (Nat × List Char) :=
  let digits := (cs.take most).takeWhile Char.isDigit
  if digits.length < least then none
  else (digitsValue? 10 digits).map fun n => (n, cs.drop digits.length)

/-- Moves over the character `c`. -/
def after? (c : Char) : List Char → Option (List Char)
  | [] => none
  | d :: rest => if d = c then some rest else none

/-- A space or a tab. -/
def isGap (c : Char) : Bool :=
  c == ' ' || c == '\t'

/-- Moves over what stands between a day and a time: the letter `T` in either case, or a gap. -/
def afterDay? : List Char → Option (List Char)
  | [] => none
  | c :: rest =>
    if c = 'T' ∨ c = 't' then some rest
    else if isGap c then some (rest.dropWhile isGap)
    else none

/-- Reads the fraction of a second, to six places. -/
def fraction : List Char → Nat × List Char
  | '.' :: rest =>
    let digits := rest.takeWhile Char.isDigit
    let places := digits.take 6 ++ List.replicate (6 - digits.length) '0'
    ((digitsValue? 10 places).getD 0, rest.drop digits.length)
  | rest => (0, rest)

/-- The distance from universal time at the end of a text: nothing, the letter `Z`, or hours and
perhaps minutes after a sign. -/
def offset? (cs : List Char) : Option (Option Int) :=
  if cs.isEmpty then some none
  else
    match cs.dropWhile isGap with
    | ['Z'] => some (some 0)
    | sign :: rest =>
      if sign = '+' ∨ sign = '-' then do
        let (hours, rest) ← number? 1 2 rest
        let (minutes, rest) ←
          match rest with
          | ':' :: rest => number? 2 2 rest
          | rest => some (0, rest)
        let ahead : Int := hours * 60 + minutes
        if rest.isEmpty then some (some (if sign = '-' then -ahead else ahead)) else none
      else none
    | [] => none

/-- Reads a day. -/
def day? (cs : List Char) : Option (Day × List Char) := do
  let (year, cs) ← number? 4 4 cs
  let (month, cs) ← number? 1 2 (← after? '-' cs)
  let (day, cs) ← number? 1 2 (← after? '-' cs)
  pure (⟨year, month, day⟩, cs)

/-- The time of day that a text gives. -/
def clock? (cs : List Char) : Option Clock := do
  let (hour, cs) ← number? 1 2 cs
  let (minute, cs) ← number? 2 2 (← after? ':' cs)
  let (second, cs) ← number? 2 2 (← after? ':' cs)
  let (microsecond, cs) := fraction cs
  let offset ← offset? cs
  pure { hour, minute, second, microsecond, offset }

/-- The fields that a text gives, whatever their size. -/
def ofChars? (cs : List Char) : Option Timestamp := do
  let (day, cs) ← day? cs
  if cs.isEmpty then pure { day }
  else
    let clock ← clock? (← afterDay? cs)
    pure { day, clock := some clock }

/-! ### Ranges -/

/-- The year has a twenty-ninth of February. -/
def isLeapYear (year : Nat) : Bool :=
  year % 4 == 0 && (year % 100 != 0 || year % 400 == 0)

/-- The number of days of a month. -/
def daysIn (year month : Nat) : Nat :=
  if month = 2 then (if isLeapYear year then 29 else 28)
  else if month ∈ [4, 6, 9, 11] then 30
  else 31

/-- A field that is out of range. -/
inductive Fault
  | offset (minutes : Int)
  | year
  | month
  | day
  | hour
  | minute
  | second
  deriving DecidableEq, Repr

/-- The number of minutes in a day. -/
def minutesPerDay : Int := 1440

/-- A span of minutes: the parts of it, days and seconds, that are not zero. -/
def spanText (minutes : Int) : String :=
  let days := minutes / minutesPerDay
  let seconds := minutes % minutesPerDay * 60
  let parts :=
    (if days = 0 then [] else ["days=" ++ decimal days]) ++
      (if seconds = 0 then [] else ["seconds=" ++ decimal seconds])
  "datetime.timedelta(" ++ String.intercalate ", " parts ++ ")"

/-- The wording of a fault. -/
def Fault.message : Fault → String
  | offset minutes =>
    "offset must be a timedelta strictly between -timedelta(hours=24) and " ++
      "timedelta(hours=24), not " ++ spanText minutes ++ "."
  | year => "year 0 is out of range"
  | month => "month must be in 1..12"
  | day => "day is out of range for month"
  | hour => "hour must be in 0..23"
  | minute => "minute must be in 0..59"
  | second => "second must be in 0..59"

/-- The field of a day that is out of range. -/
def dayFault? (d : Day) : Option Fault :=
  if d.year = 0 then some .year
  else if d.month = 0 ∨ 12 < d.month then some .month
  else if d.day = 0 ∨ daysIn d.year d.month < d.day then some .day
  else none

/-- The field of a time of day that is out of range. -/
def clockFault? (c : Clock) : Option Fault :=
  if 23 < c.hour then some .hour
  else if 59 < c.minute then some .minute
  else if 59 < c.second then some .second
  else none

/-- The distance from universal time if it is a day or more. -/
def offsetFault? (c : Clock) : Option Fault :=
  c.offset.bind fun minutes =>
    if minutesPerDay ≤ minutes.natAbs then some (.offset minutes) else none

/-- The first field that is out of range: the distance from universal time is looked at first. -/
def fault? (t : Timestamp) : Option Fault :=
  (t.clock.bind offsetFault?).or ((dayFault? t.day).or (t.clock.bind clockFault?))

/-! ### Writing -/

/-- A number filled up with zeros to `width` digits. -/
def filled (width n : Nat) : String :=
  let digits := Nat.toDigits 10 n
  String.ofList (List.replicate (width - digits.length) '0' ++ digits)

/-- A distance from universal time with the name of each part. -/
def offsetShown (minutes : Int) : String :=
  "datetime.timezone" ++ (if minutes = 0 then ".utc" else "(" ++ spanText minutes ++ ")")

/-- The fields of a time of day: seconds are left out if they and their fraction are zero. -/
def clockFields (c : Clock) : List Nat :=
  [c.hour, c.minute] ++
    (if c.microsecond ≠ 0 then [c.second, c.microsecond]
    else if c.second ≠ 0 then [c.second]
    else [])

/-- The form with the name of each part. -/
def shown (t : Timestamp) : String :=
  let day := [t.day.year, t.day.month, t.day.day]
  let fields (ns : List Nat) : List String := ns.map fun n : Nat => decimal n
  match t.clock with
  | none => "datetime.date(" ++ String.intercalate ", " (fields day) ++ ")"
  | some c =>
    let offset := c.offset.toList.map fun minutes => "tzinfo=" ++ offsetShown minutes
    "datetime.datetime(" ++ String.intercalate ", " (fields (day ++ clockFields c) ++ offset) ++ ")"

/-- A distance from universal time as a sign, hours and minutes. -/
def offsetPlain (minutes : Int) : String :=
  let n := minutes.natAbs
  (if minutes < 0 then "-" else "+") ++ filled 2 (n / 60) ++ ":" ++ filled 2 (n % 60)

/-- The form with dashes and colons. -/
def plain (t : Timestamp) : String :=
  let day := filled 4 t.day.year ++ "-" ++ filled 2 t.day.month ++ "-" ++ filled 2 t.day.day
  match t.clock with
  | none => day
  | some c =>
    day ++ " " ++ filled 2 c.hour ++ ":" ++ filled 2 c.minute ++ ":" ++ filled 2 c.second ++
      (if c.microsecond = 0 then "" else "." ++ filled 6 c.microsecond) ++
      String.join (c.offset.toList.map offsetPlain)

end Timestamp

end RiscvAssembler.Yaml
