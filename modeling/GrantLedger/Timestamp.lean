import GrantLedger.Numeral

/-!
# Points in time

A `Timestamp` keeps the reading of a clock face together with the offset of that clock from UTC,
so a value is written the way it was read. Order and equality of instants (`Timestamp.compare`)
do not see the offset: they compare `Timestamp.instant`.

Section 1 is the proleptic Gregorian calendar, section 3 the RFC 3339 text.
-/

namespace GrantLedger

/-! ## 1. The calendar -/

namespace Calendar

/-- Whether a year has a 29 February. -/
def isLeap (year : Int) : Bool := year % 4 == 0 && (year % 100 != 0 || year % 400 == 0)

/-- The number of days of a month. -/
def daysInMonth (year : Int) (month : Nat) : Nat :=
  match month with
  | 2 => if isLeap year then 29 else 28
  | 4 | 6 | 9 | 11 => 30
  | _ => 31

/-- Days from 1970-01-01 to a date. Years are counted from March, so that a leap day is the last
day of its year. -/
def dayNumber (year : Int) (month day : Nat) : Int :=
  let y := if month ≤ 2 then year - 1 else year
  let era := y / 400
  let yearOfEra := y - era * 400
  let dayOfYear : Int := (153 * ((month + 9) % 12) + 2) / 5 + day - 1
  era * 146097 + (yearOfEra * 365 + yearOfEra / 4 - yearOfEra / 100 + dayOfYear) - 719468

/-- The year, month and day that lie a number of days after 1970-01-01. -/
def ofDayNumber (n : Int) : Int × Nat × Nat :=
  let z := n + 719468
  let era := z / 146097
  let dayOfEra := z - era * 146097
  let yearOfEra := (dayOfEra - dayOfEra / 1460 + dayOfEra / 36524 - dayOfEra / 146096) / 365
  let dayOfYear := dayOfEra - (365 * yearOfEra + yearOfEra / 4 - yearOfEra / 100)
  let m := (5 * dayOfYear + 2) / 153
  let day := dayOfYear - (153 * m + 2) / 5 + 1
  let month := if m < 10 then m + 3 else m - 9
  let year := yearOfEra + era * 400 + (if month ≤ 2 then 1 else 0)
  (year, month.toNat, day.toNat)

end Calendar

/-! ## 2. Clock readings and instants -/

/-- A clock reading with the offset of the clock. -/
structure Timestamp where
  /-- Nanoseconds from 1970-01-01T00:00:00 to the reading, on the clock's own face. -/
  reading : Int
  /-- Minutes by which the clock is ahead of UTC. -/
  offset : Int
  deriving DecidableEq, Inhabited

namespace Timestamp

/-- How many nanoseconds a second has. -/
def nanosPerSecond : Int := 1000000000

/-- How many nanoseconds a day has. -/
def nanosPerDay : Int := 86400 * nanosPerSecond

/-- Nanoseconds from the epoch in UTC. -/
def instant (t : Timestamp) : Int := t.reading - t.offset * 60 * nanosPerSecond

/-- Order of instants, whatever the offsets. -/
def compareInstant (a b : Timestamp) : Ordering := compare a.instant b.instant

/-- Whether one instant lies before another. -/
def before (a b : Timestamp) : Bool := a.instant < b.instant

/-- The first nanosecond of the earliest year that a clock can show. -/
def earliest : Int := Calendar.dayNumber (-9999) 1 1 * nanosPerDay

/-- The last nanosecond of the latest year that a clock can show. -/
def latest : Int := Calendar.dayNumber 10000 1 1 * nanosPerDay - 1

/-- Moves a clock by a number of nanoseconds, if it can show the result. -/
def add? (t : Timestamp) (nanos : Int) : Option Timestamp :=
  let r := t.reading + nanos
  if earliest ≤ r ∧ r ≤ latest then some { t with reading := r } else none

/-- The fields of a clock reading. -/
structure Fields where
  year : Int
  month : Nat
  day : Nat
  hour : Nat
  minute : Nat
  second : Nat
  nanosecond : Nat

/-- The fields that a clock shows. -/
def fields (t : Timestamp) : Fields :=
  let (year, month, day) := Calendar.ofDayNumber (t.reading / nanosPerDay)
  let inDay := (t.reading % nanosPerDay).toNat
  let seconds := inDay / 1000000000
  { year, month, day, hour := seconds / 3600, minute := seconds / 60 % 60, second := seconds % 60,
    nanosecond := inDay % 1000000000 }

/-- The timestamp of a date and a time of day on a clock, if the fields are in range. -/
def ofFields? (f : Fields) (offset : Int) : Option Timestamp :=
  if 1 ≤ f.month ∧ f.month ≤ 12 ∧ 1 ≤ f.day ∧ f.day ≤ Calendar.daysInMonth f.year f.month ∧
      f.hour < 24 ∧ f.minute < 60 ∧ f.second < 60 then
    let seconds := Calendar.dayNumber f.year f.month f.day * 86400 +
      (f.hour * 3600 + f.minute * 60 + f.second : Nat)
    some ⟨seconds * nanosPerSecond + f.nanosecond, offset⟩
  else none

/-! ## 3. RFC 3339 text -/

/-- Nine digits of a fraction without trailing zeros. -/
def fractionDigits (nanosecond : Nat) : List Char :=
  ((Numeral.padded 9 nanosecond).reverse.dropWhile (· == '0')).reverse

/-- Sign, hours and minutes of an offset. -/
def offsetSignHoursMinutes (offset : Int) : Char × Nat × Nat :=
  (if offset < 0 then '-' else '+', offset.natAbs / 60, offset.natAbs % 60)

/-- The RFC 3339 text, which exists for the years 0 to 9999. -/
def toText? (t : Timestamp) : Option String :=
  let f := t.fields
  if 0 ≤ f.year ∧ f.year ≤ 9999 then
    let two := Numeral.padded 2
    let fraction := if f.nanosecond = 0 then [] else '.' :: fractionDigits f.nanosecond
    let zone := if t.offset = 0 then ['Z'] else
      let (sign, hours, minutes) := offsetSignHoursMinutes t.offset
      sign :: two hours ++ ':' :: two minutes
    some (String.ofList (Numeral.padded 4 f.year.toNat ++ '-' :: two f.month ++ '-' :: two f.day ++
      'T' :: two f.hour ++ ':' :: two f.minute ++ ':' :: two f.second ++ fraction ++ zone))
  else none

/-- The text, empty where RFC 3339 has none. -/
def toText (t : Timestamp) : String := t.toText?.getD ""

/-- The wide form used in messages: an unpadded hour, at least one digit of the fraction and an
offset with seconds. -/
def describe (t : Timestamp) : String :=
  let f := t.fields
  let two := Numeral.padded 2
  let fraction := if f.nanosecond = 0 then ['0'] else fractionDigits f.nanosecond
  let (sign, hours, minutes) := offsetSignHoursMinutes t.offset
  String.ofList (Numeral.padded 4 f.year.toNat ++ '-' :: two f.month ++ '-' :: two f.day ++ ' ' ::
    Numeral.digits f.hour ++ ':' :: two f.minute ++ ':' :: two f.second ++ '.' :: fraction ++ ' ' ::
    sign :: two hours ++ ':' :: two minutes ++ ":00".toList)

/-- Reads exactly `n` digits. -/
def takeDigits (n : Nat) (cs : List Char) : Option (Nat × List Char) :=
  if (cs.take n).length = n then (Numeral.readNat? (cs.take n)).map (·, cs.drop n) else none

/-- Reads one given character. -/
def takeChar (c : Char) : List Char → Option (List Char)
  | d :: rest => if c = d then some rest else none
  | [] => none

/-- Reads an optional fraction of a second. Digits after the ninth are dropped. -/
def takeFraction (cs : List Char) : Option (Nat × List Char) :=
  match cs with
  | '.' :: rest =>
    let ds := rest.takeWhile Char.isDigit
    let nine := (ds ++ List.replicate 9 '0').take 9
    if ds.isEmpty then none else (Numeral.readNat? nine).map (·, rest.dropWhile Char.isDigit)
  | _ => some (0, cs)

/-- Reads the rest of a text as an offset in minutes: `Z`, or a sign, hours and minutes. -/
def readOffset (cs : List Char) : Option Int :=
  match cs with
  | ['Z'] => some 0
  | ['z'] => some 0
  | sign :: rest => do
    let negative ← if sign = '-' then some true else if sign = '+' then some false else none
    let (hours, rest) ← takeDigits 2 rest
    let rest ← takeChar ':' rest
    let (minutes, rest) ← takeDigits 2 rest
    if rest.isEmpty ∧ hours ≤ 23 ∧ minutes ≤ 59 then
      let total : Int := (hours * 60 + minutes : Nat)
      some (if negative then -total else total)
    else none
  | [] => none

/-- Whether a reading may stand for a leap second: the last second of a month in UTC. -/
def endsMonth (t : Timestamp) : Bool :=
  let f := { reading := t.instant, offset := 0 : Timestamp }.fields
  f.hour == 23 && f.minute == 59 && f.second == 59 && f.day == Calendar.daysInMonth f.year f.month

/-- Reads an RFC 3339 text. One ASCII character of any kind stands between date and time; a leap
second becomes the last nanosecond before it. -/
def ofText? (text : String) : Option Timestamp := do
  let (year, cs) ← takeDigits 4 text.toList
  let cs ← takeChar '-' cs
  let (month, cs) ← takeDigits 2 cs
  let cs ← takeChar '-' cs
  let (day, cs) ← takeDigits 2 cs
  let cs ← match cs with
    | c :: rest => if c.toNat < 128 then some rest else none
    | [] => none
  let (hour, cs) ← takeDigits 2 cs
  let cs ← takeChar ':' cs
  let (minute, cs) ← takeDigits 2 cs
  let cs ← takeChar ':' cs
  let (second, cs) ← takeDigits 2 cs
  let (nanosecond, cs) ← takeFraction cs
  let offset ← readOffset cs
  if second = 60 then
    let t ← ofFields? ⟨year, month, day, hour, minute, 59, 999999999⟩ offset
    if t.endsMonth then some t else none
  else
    ofFields? ⟨year, month, day, hour, minute, second, nanosecond⟩ offset

end Timestamp

end GrantLedger
