import GrantLedger.Decimal.Plain
import GrantLedger.Json.Read
import GrantLedger.Timestamp

/-!
# Scalars of TOML without quotes

Truth values, numbers, dates and times. Digits may be grouped by single underscores. A date or a
time has no type of its own: it is the text of it, with `T` before the time of a date and `Z` for
the offset zero.
-/

namespace GrantLedger.Toml

open Json (hexValue?)
open Timestamp (takeDigits takeChar takeFraction fractionDigits)

/-! ## 1. Numbers -/

/-- The value of a digit of a number to a base. -/
def digit? (base : Nat) (c : Char) : Option Nat :=
  (hexValue? c).bind fun d => if d < base then some d else none

/-- Digits to a base, where one underscore may stand between two of them. -/
def digits? (base : Nat) : List Char → Option (List Nat)
  | [] => none
  | [c] => (digit? base c).map ([·])
  | c :: '_' :: rest => do return (← digit? base c) :: (← digits? base rest)
  | c :: rest => do return (← digit? base c) :: (← digits? base rest)

/-- The number that digits write to a base. -/
def ofDigits (base : Nat) (ds : List Nat) : Nat := ds.foldl (fun n d => n * base + d) 0

/-- The decimal digits of a whole number without a sign, which has no leading zeros. -/
def wholeDigits? (cs : List Char) : Option (List Nat) :=
  (digits? 10 cs).bind fun ds => if ds.head? = some 0 ∧ 1 < ds.length then none else some ds

/-- Takes the sign off a number: whether it is negative, and the rest. -/
def takeSign : List Char → Bool × List Char
  | '-' :: rest => (true, rest)
  | '+' :: rest => (false, rest)
  | cs => (false, cs)

/-- A whole number of 64 bits: decimal, perhaps with a sign, or after a mark for its base. -/
def integer? (cs : List Char) : Option Int :=
  match cs with
  | '0' :: 'x' :: rest => bounded (digits? 16 rest) 16 false
  | '0' :: 'o' :: rest => bounded (digits? 8 rest) 8 false
  | '0' :: 'b' :: rest => bounded (digits? 2 rest) 2 false
  | _ => bounded (wholeDigits? (takeSign cs).2) 10 (takeSign cs).1
where
  /-- The number that digits write, if it has 64 bits. -/
  bounded (ds : Option (List Nat)) (base : Nat) (negative : Bool) : Option Int := do
    let n : Int := ofDigits base (← ds)
    let n := if negative then -n else n
    if -9_223_372_036_854_775_808 ≤ n ∧ n < 9_223_372_036_854_775_808 then some n else none

/-- Splits a text before the first character that satisfies a condition. -/
def splitBefore (p : Char → Bool) (cs : List Char) : List Char × List Char :=
  (cs.takeWhile fun c => !p c, cs.dropWhile fun c => !p c)

/-- A floating-point number: decimal with places, an exponent or both, or the name of what has no
digits. One that is too large is refused. -/
def float? (cs : List Char) : Option Float :=
  let (_, unsigned) := takeSign cs
  if unsigned = "inf".toList ∨ unsigned = "nan".toList then Decimal.ofText? (String.ofList cs)
  else do
    let (mantissa, exponent) := splitBefore (fun c => c = 'e' || c = 'E') unsigned
    let (whole, places) := splitBefore (· = '.') mantissa
    let _ ← wholeDigits? whole
    if 0 < places.length then
      let _ ← digits? 10 places.tail
    if 0 < exponent.length then
      let _ ← digits? 10 (takeSign exponent.tail).2
    if places.isEmpty ∧ exponent.isEmpty then none
    else
      let x ← Decimal.ofText? (String.ofList (cs.filter (· ≠ '_')))
      if x.isInf then none else some x

/-! ## 2. Dates and times -/

/-- Reads a date. -/
def readDate (cs : List Char) : Option (List Char × List Char) := do
  let (year, rest) ← takeDigits 4 cs
  let (month, rest) ← takeDigits 2 (← takeChar '-' rest)
  let (day, rest) ← takeDigits 2 (← takeChar '-' rest)
  if 1 ≤ month ∧ month ≤ 12 ∧ 1 ≤ day ∧ day ≤ Calendar.daysInMonth year month then
    some (cs.take 10, rest)
  else none

/-- Reads a time of a day, where seconds may be left out. Decimal places of the seconds lose their
trailing zeros, but one place stays. -/
def readTime (cs : List Char) : Option (List Char × List Char) := do
  let (hour, rest) ← takeDigits 2 cs
  let (minute, rest) ← takeDigits 2 (← takeChar ':' rest)
  if 24 ≤ hour ∨ 60 ≤ minute then none
  else
    match rest with
    | ':' :: rest => do
      let (second, rest) ← takeDigits 2 rest
      let (fraction, after) ← takeFraction rest
      let places := if fraction = 0 then ['0'] else fractionDigits fraction
      if 60 < second then none
      else some (cs.take 8 ++ (if rest.head? = some '.' then '.' :: places else []), after)
    | _ => some (cs.take 5, rest)

/-- The text of an offset, if there is one. -/
def offset? (cs : List Char) : Option (List Char) :=
  match cs with
  | [] => some []
  | ['Z'] => some ['Z']
  | ['z'] => some ['Z']
  | _ => (Timestamp.readOffset cs).map fun n => if n = 0 then "+00:00".toList else cs

/-- A date, a time, or both with or without an offset. -/
def dateTime? (cs : List Char) : Option (List Char) :=
  match readDate cs with
  | none => (readTime cs).bind fun t => if t.2.isEmpty then some t.1 else none
  | some (date, []) => some date
  | some (date, mark :: rest) => do
    let (time, zone) ← readTime rest
    let zone ← offset? zone
    if mark = 'T' ∨ mark = 't' ∨ mark = ' ' then some (date ++ 'T' :: time ++ zone) else none

/-! ## 3. Any scalar -/

/-- Whether a character may be a part of a scalar without quotes. -/
def isScalarChar (c : Char) : Bool :=
  c.isAlphanum || c = '+' || c = '-' || c = '_' || c = '.' || c = ':'

/-- The characters of a scalar at the front of a text. After a date, one blank may stand before a
time. -/
def takeScalar (cs : List Char) : List Char × List Char :=
  let front := cs.takeWhile isScalarChar
  let rest := cs.dropWhile isScalarChar
  match rest with
  | ' ' :: c :: more =>
    if c.isDigit ∧ (readDate front).map Prod.snd = some [] then
      (front ++ ' ' :: (c :: more).takeWhile isScalarChar, (c :: more).dropWhile isScalarChar)
    else (front, rest)
  | _ => (front, rest)

/-- The value of a scalar. -/
def scalar? (cs : List Char) : Option Json :=
  if cs = "true".toList then some (.bool true)
  else if cs = "false".toList then some (.bool false)
  else ((integer? cs).map .int).or (((float? cs).map .float).or
    ((dateTime? cs).map fun t => .str (String.ofList t)))

end GrantLedger.Toml
