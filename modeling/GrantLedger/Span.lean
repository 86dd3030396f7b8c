import GrantLedger.Numeral
import GrantLedger.Text.Characters

/-!
# Lengths of time

A `Span` is a length of time in nanoseconds. In settings it is written as a sum of numbers with
units, such as `1h 30m` or `1.5h` (`Span.ofText?`), and written back in falling units
(`Span.toText`). A year is 365.25 days and a month 30.44 days.
-/

namespace GrantLedger

/-- A length of time. -/
structure Span where
  /-- The length in nanoseconds. -/
  nanos : Nat
  deriving DecidableEq, Inhabited

namespace Span

/-- The whole seconds of a span. -/
def seconds (s : Span) : Nat := s.nanos / 1000000000

/-- The nanoseconds of a span beyond its whole seconds. -/
def subsecond (s : Span) : Nat := s.nanos % 1000000000

/-- A number of whole seconds. -/
def ofSeconds (n : Nat) : Span := ⟨n * 1000000000⟩

/-- A number of milliseconds. -/
def ofMillis (n : Nat) : Span := ⟨n * 1000000⟩

/-! ## 1. Units -/

/-- The units of time. -/
inductive TimeUnit where
  | nanosecond | microsecond | millisecond | second | minute | hour | day | week | month | year
  deriving DecidableEq, Repr

/-- The names under which a unit is read. -/
def TimeUnit.names : TimeUnit → List String
  | .nanosecond => ["nanos", "nsec", "ns"]
  | .microsecond => ["usec", "us", "µs"]
  | .millisecond => ["millis", "msec", "ms"]
  | .second => ["seconds", "second", "secs", "sec", "s"]
  | .minute => ["minutes", "minute", "mins", "min", "m"]
  | .hour => ["hours", "hour", "hrs", "hr", "h"]
  | .day => ["days", "day", "d"]
  | .week => ["weeks", "week", "wks", "wk", "w"]
  | .month => ["months", "month", "M"]
  | .year => ["years", "year", "yrs", "yr", "y"]

/-- The nanoseconds of a unit. -/
def TimeUnit.nanos : TimeUnit → Nat
  | .nanosecond => 1
  | .microsecond => 1000
  | .millisecond => 1000000
  | .second => 1000000000
  | .minute => 60000000000
  | .hour => 3600000000000
  | .day => 86400000000000
  | .week => 604800000000000
  | .month => 2630016000000000
  | .year => 31557600000000000

/-- All units. -/
def TimeUnit.all : List TimeUnit :=
  [.nanosecond, .microsecond, .millisecond, .second, .minute, .hour, .day, .week, .month, .year]

/-- Finds a unit by one of its names. -/
def TimeUnit.ofName? (name : String) : Option TimeUnit :=
  TimeUnit.all.find? fun u => u.names.contains name

/-- The step in which a unit counts: units below a minute count nanoseconds, longer ones whole
seconds. A count of steps is held in 64 bits. -/
def TimeUnit.step (u : TimeUnit) : Nat :=
  match u with
  | .nanosecond | .microsecond | .millisecond => 1
  | _ => 1000000000

/-- The step in which the decimal places of a unit count: whole seconds from an hour on. -/
def TimeUnit.fractionStep (u : TimeUnit) : Nat :=
  match u with
  | .nanosecond | .microsecond | .millisecond | .second | .minute => 1
  | _ => 1000000000

/-! ## 2. Reading -/

/-- One more than the largest count that is held in 64 bits. -/
def countBound : Nat := 18_446_744_073_709_551_616

/-- A count, if it fits into 64 bits. -/
def count? (n : Nat) : Option Nat := if n < countBound then some n else none

/-- Whether a character may stand in the name of a unit. -/
def isUnitChar (c : Char) : Bool :=
  ('a' ≤ c && c ≤ 'z') || ('A' ≤ c && c ≤ 'Z') || c == 'µ'

/-- Reads digits after a number, passing over blanks, up to the first other character. -/
def readWhole (n : Nat) : List Char → Option (Nat × List Char)
  | [] => some (n, [])
  | c :: rest =>
    match Numeral.digitValue? c with
    | some d => (count? (n * 10)).bind fun m => (count? (m + d)).bind fun m => readWhole m rest
    | none => if Text.Blank.isBlank c then readWhole n rest else some (n, c :: rest)

/-- Reads decimal places, passing over blanks: the number they form and the power of ten that
divides it. -/
def readPlaces (numerator denominator : Nat) : List Char → Option (Nat × Nat × List Char)
  | [] => some (numerator, denominator, [])
  | c :: rest =>
    match Numeral.digitValue? c with
    | some d =>
      (count? (denominator * 10)).bind fun den =>
      (count? (numerator * 10)).bind fun num =>
      (count? (num + d)).bind fun num => readPlaces num den rest
    | none =>
      if Text.Blank.isBlank c then readPlaces numerator denominator rest
      else some (numerator, denominator, c :: rest)

/-- Adds a number of steps to a total, in nanoseconds. Nanoseconds are added to what the total has
beyond its whole seconds, and neither that count nor the count of seconds may exceed 64 bits. -/
def add? (total steps step : Nat) : Option Nat := do
  if step = 1 then
    let _ ← count? (total % 1000000000 + steps)
  let sum := total + steps * step
  let _ ← count? (sum / 1000000000)
  some sum

/-- Adds a number of units with decimal places to a total. Nanoseconds have no decimal places, and
those of another unit must come to a whole number of its steps. -/
def addTerm? (total n : Nat) (places : Option (Nat × Nat)) (u : TimeUnit) : Option Nat := do
  let whole ← count? (n * (u.nanos / u.step))
  let total ← add? total whole u.step
  match places with
  | none => some total
  | some (numerator, denominator) =>
    if u = .nanosecond then none
    else
      let part ← count? (numerator * (u.nanos / u.fractionStep))
      if part % denominator ≠ 0 then none
      else add? total (part / denominator) u.fractionStep

/-- Reads the terms of a sum after the first digit of the next term. A term ends at a blank, at
the digit that begins another term, or at the end. The first argument bounds the number of terms. -/
def readTerms : Nat → Nat → Nat → List Char → Option Nat
  | 0, _, _, _ => none
  | fuel + 1, total, n, cs => do
    let (n, cs) ← readWhole n cs
    let (places, cs) ← match cs with
      | '.' :: rest => do
        let (numerator, denominator, cs) ← readPlaces 0 1 rest
        if denominator = 1 then none
        some (some (numerator, denominator), cs)
      | _ => some (none, cs)
    let unit ← TimeUnit.ofName? (String.ofList (cs.takeWhile isUnitChar))
    let total ← addTerm? total n places unit
    match cs.dropWhile isUnitChar with
    | [] => some total
    | c :: rest =>
      match Numeral.digitValue? c with
      | some d => readTerms fuel total d rest
      | none =>
        if Text.Blank.isBlank c then
          match rest.dropWhile Text.Blank.isBlank with
          | [] => some total
          | c :: rest => (Numeral.digitValue? c).bind fun d => readTerms fuel total d rest
        else none

/-- Reads a span. A lone `0` needs no unit. -/
def ofText? (text : String) : Option Span :=
  if text = "0" then some ⟨0⟩
  else
    match text.toList.dropWhile Text.Blank.isBlank with
    | [] => none
    | c :: rest =>
      (Numeral.digitValue? c).bind fun d => (readTerms (rest.length + 1) 0 d rest).map Span.mk

/-! ## 3. Writing -/

/-- A number with a unit, left out if the number is zero. -/
def term (n : Nat) (unit : String) : List String :=
  if n = 0 then [] else [String.ofList (Numeral.digits n) ++ unit]

/-- A number with a spelled-out unit. -/
def termPlural (n : Nat) (unit : String) : List String :=
  term n (if n = 1 then unit else unit ++ "s")

/-- The text of a span: its terms in falling units, between blanks. -/
def toText (s : Span) : String :=
  let secs := s.seconds
  let inYear := secs % 31557600
  let inMonth := inYear % 2630016
  let inDay := inMonth % 86400
  let terms :=
    termPlural (secs / 31557600) "year" ++ termPlural (inYear / 2630016) "month" ++
    termPlural (inMonth / 86400) "day" ++ term (inDay / 3600) "h" ++
    term (inDay % 3600 / 60) "m" ++ term (inDay % 60) "s" ++
    term (s.subsecond / 1000000) "ms" ++ term (s.subsecond / 1000 % 1000) "us" ++
    term (s.subsecond % 1000) "ns"
  if terms.isEmpty then "0s" else String.intercalate " " terms

/-- A whole number and a remainder over a power of ten as a decimal without trailing zeros. -/
def decimal (whole remainder places : Nat) : String :=
  let digits := ((Numeral.padded places remainder).reverse.dropWhile (· == '0')).reverse
  String.ofList (Numeral.digits whole ++ if remainder = 0 then [] else '.' :: digits)

/-- A span in its largest unit out of seconds, milliseconds, microseconds and nanoseconds, as it
stands in messages. -/
def describe (s : Span) : String :=
  if 0 < s.seconds then decimal s.seconds s.subsecond 9 ++ "s"
  else if 1000000 ≤ s.nanos then decimal (s.nanos / 1000000) (s.nanos % 1000000) 6 ++ "ms"
  else if 1000 ≤ s.nanos then decimal (s.nanos / 1000) (s.nanos % 1000) 3 ++ "µs"
  else decimal s.nanos 0 0 ++ "ns"

end Span

end GrantLedger
