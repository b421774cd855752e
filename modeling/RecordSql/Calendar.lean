import RecordSql.Decimal.Power
import RecordSql.Text.Numeral

/-!
# Dates and timestamps

Calendar dates of the proleptic Gregorian calendar and timestamps without a zone, in their ISO 8601
text.

- `Date`, `TimeOfDay`, `Timestamp`: valid by construction.
- `Date.text`, `Timestamp.text`: the written forms.
- `Date.parse?`, `Timestamp.parse?`, `Timestamp.parseZoned?`: their readers; the last one takes a text
  with an offset to universal time.
-/

namespace RecordSql.Calendar

open RecordSql.Text

/-- Every fourth year is a leap year, of the full centuries only every fourth. -/
def isLeapYear (year : Int) : Bool :=
  year % 4 == 0 && (year % 100 != 0 || year % 400 == 0)

/-- The number of days of a month. -/
def daysInMonth (year : Int) (month : Nat) : Nat :=
  if month = 2 then if isLeapYear year then 29 else 28
  else if month = 4 || month = 6 || month = 9 || month = 11 then 30 else 31

/-- A month and a day that exist in the year. -/
def IsDate (year : Int) (month day : Nat) : Prop :=
  1 ≤ month ∧ month ≤ 12 ∧ 1 ≤ day ∧ day ≤ daysInMonth year month

instance (year : Int) (month day : Nat) : Decidable (IsDate year month day) :=
  inferInstanceAs (Decidable (_ ∧ _))

/-- A calendar date. -/
structure Date where
  year : Int
  month : Nat
  day : Nat
  valid : IsDate year month day
  deriving DecidableEq

/-- A time of day to the nanosecond. The sixtieth second is a leap second. -/
structure TimeOfDay where
  hour : Nat
  minute : Nat
  second : Nat
  nanosecond : Nat
  valid : hour < 24 ∧ minute < 60 ∧ second ≤ 60 ∧ nanosecond < 1000000000
  deriving DecidableEq

/-- A date with a time of day. -/
structure Timestamp where
  date : Date
  time : TimeOfDay
  deriving DecidableEq

/-- The date with these parts, if there is one. -/
def Date.of? (year : Int) (month day : Nat) : Option Date :=
  if h : IsDate year month day then some ⟨year, month, day, h⟩ else none

/-- The time of day with these parts, if there is one. -/
def TimeOfDay.of? (hour minute second nanosecond : Nat) : Option TimeOfDay :=
  if h : hour < 24 ∧ minute < 60 ∧ second ≤ 60 ∧ nanosecond < 1000000000 then
    some ⟨hour, minute, second, nanosecond, h⟩
  else none

/-! ### Written forms -/

/-- Four digits for the years of the common span; outside of it a sign comes first. -/
def yearText (year : Int) : String :=
  if year < 0 then "-" ++ padded 4 year.natAbs
  else if year ≤ 9999 then padded 4 year.natAbs
  else "+" ++ padded 4 year.natAbs

/-- Year, month and day. -/
def Date.text (d : Date) : String :=
  yearText d.year ++ "-" ++ padded 2 d.month ++ "-" ++ padded 2 d.day

/-- No fraction, or three, six or nine digits of it: the fewest that lose nothing. -/
def fractionText (nanosecond : Nat) : String :=
  if nanosecond = 0 then ""
  else if nanosecond % 1000000 = 0 then "." ++ padded 3 (nanosecond / 1000000)
  else if nanosecond % 1000 = 0 then "." ++ padded 6 (nanosecond / 1000)
  else "." ++ padded 9 nanosecond

/-- Hour, minute, second and fraction. -/
def TimeOfDay.text (t : TimeOfDay) : String :=
  padded 2 t.hour ++ ":" ++ padded 2 t.minute ++ ":" ++ padded 2 t.second ++
    fractionText t.nanosecond

/-- The date and the time, with a `T` between them. -/
def Timestamp.text (t : Timestamp) : String :=
  t.date.text ++ "T" ++ t.time.text

/-! ### Readers -/

/-- Digits up to a separator, and what follows it. -/
def numberBefore? (separator : Char) (cs : List Char) : Option (Nat × List Char) :=
  match spanDigits cs with
  | (ds, c :: rest) => if c = separator then (decimal? ds).map fun n => (n, rest) else none
  | (_, []) => none

/-- Digits, and what follows them. -/
def number? (cs : List Char) : Option (Nat × List Char) :=
  let (ds, rest) := spanDigits cs
  (decimal? ds).map fun n => (n, rest)

/-- A date in front of the text, and what follows it. -/
def scanDate? (cs : List Char) : Option (Date × List Char) := do
  let (negative, cs) := match cs with
    | '-' :: rest => (true, rest)
    | '+' :: rest => (false, rest)
    | _ => (false, cs)
  let (year, cs) ← numberBefore? '-' cs
  let (month, cs) ← numberBefore? '-' cs
  let (day, cs) ← number? cs
  let date ← Date.of? (if negative then -(year : Int) else year) month day
  return (date, cs)

/-- The nanoseconds that the digits of a fraction stand for; digits past the ninth are dropped. -/
def nanoseconds? (ds : List Char) : Option Nat :=
  (decimal? (ds.take 9)).map (· * Decimal.tenTo (9 - ds.length))

/-- A time of day in front of the text, and what follows it. -/
def scanTime? (cs : List Char) : Option (TimeOfDay × List Char) := do
  let (hour, cs) ← numberBefore? ':' cs
  let (minute, cs) ← numberBefore? ':' cs
  let (second, cs) ← number? cs
  let (nanosecond, cs) ← match cs with
    | '.' :: rest =>
      let (ds, rest) := spanDigits rest
      (nanoseconds? ds).map fun n => (n, rest)
    | _ => some (0, cs)
  let time ← TimeOfDay.of? hour minute second nanosecond
  return (time, cs)

/-- A timestamp in front of the text, and what follows it. -/
def scanTimestamp? (cs : List Char) : Option (Timestamp × List Char) := do
  let (date, cs) ← scanDate? cs
  match cs with
  | 'T' :: rest =>
    let (time, cs) ← scanTime? rest
    return (⟨date, time⟩, cs)
  | _ => none

/-- A text that is a date. -/
def Date.parse? (s : String) : Option Date :=
  match scanDate? s.toList with
  | some (date, []) => some date
  | _ => none

/-- A text that is a timestamp. -/
def Timestamp.parse? (s : String) : Option Timestamp :=
  match scanTimestamp? s.toList with
  | some (t, []) => some t
  | _ => none

/-- The day after. -/
def Date.next? (d : Date) : Option Date :=
  if d.day < daysInMonth d.year d.month then Date.of? d.year d.month (d.day + 1)
  else if d.month < 12 then Date.of? d.year (d.month + 1) 1
  else Date.of? (d.year + 1) 1 1

/-- The day before. -/
def Date.previous? (d : Date) : Option Date :=
  if 1 < d.day then Date.of? d.year d.month (d.day - 1)
  else if 1 < d.month then Date.of? d.year (d.month - 1) (daysInMonth d.year (d.month - 1))
  else Date.of? (d.year - 1) 12 31

/-- The timestamp a number of minutes earlier, for less than a day. -/
def Timestamp.minutesEarlier? (t : Timestamp) (minutes : Int) : Option Timestamp := do
  let total : Int := t.time.hour * 60 + t.time.minute - minutes
  let date ← if total < 0 then t.date.previous? else if 1440 ≤ total then t.date.next? else t.date
  let within := (total % 1440).toNat
  let time ← TimeOfDay.of? (within / 60) (within % 60) t.time.second t.time.nanosecond
  return ⟨date, time⟩

/-- The offset to universal time in minutes. -/
def offset? (cs : List Char) : Option Int :=
  match cs with
  | ['Z'] => some 0
  | sign :: rest =>
    match numberBefore? ':' rest with
    | some (hours, rest) =>
      match number? rest with
      | some (minutes, []) =>
        if sign = '+' then some (hours * 60 + minutes)
        else if sign = '-' then some (-(hours * 60 + minutes : Int))
        else none
      | _ => none
    | none => none
  | [] => none

/-- A timestamp with an offset, taken to universal time. -/
def Timestamp.parseZoned? (s : String) : Option Timestamp := do
  let (t, rest) ← scanTimestamp? s.toList
  let minutes ← offset? rest
  t.minutesEarlier? minutes

end RecordSql.Calendar
