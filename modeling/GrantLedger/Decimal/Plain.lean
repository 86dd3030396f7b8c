import GrantLedger.Decimal.Shortest
import GrantLedger.Numeral

/-!
# Floating-point numbers in plain text

A number is written with the fewest digits that read back and without an exponent, a whole one
without a point (`Decimal.plain`). `Decimal.ofText?` reads decimals with and without point and
exponent, and the names of what has no digits.
-/

namespace GrantLedger.Decimal

/-- A number in plain text. -/
def plain (x : Float) : String :=
  let bits := x.toBits
  let sign := if bits >>> 63 = 1 then ['-'] else []
  if x.isNaN then "NaN"
  else if x.isInf then String.ofList (sign ++ "inf".toList)
  else if bits &&& 0x7FFFFFFFFFFFFFFF = 0 then String.ofList (sign ++ ['0'])
  else
    let (d, p) := Shortest.digits (bits &&& 0x7FFFFFFFFFFFFFFF)
    let ds := Numeral.digits d
    let point := (ds.length : Int) + p
    let zeros (n : Int) := List.replicate n.toNat '0'
    String.ofList <| sign ++
      if 0 ≤ p then ds ++ zeros p
      else if 0 < point then ds.take point.toNat ++ '.' :: ds.drop point.toNat
      else '0' :: '.' :: zeros (-point) ++ ds

/-- The number `n · 10 ^ e`, rounded to the nearest one. Beyond the range of exponents it is zero or
infinite. -/
def scaled (n : Nat) (e : Int) : Float :=
  if n = 0 then 0
  else
    let size := ((Numeral.digits n).length : Int) + e
    if 400 < size then Float.ofScientific 1 false 400
    else if size < -400 then 0
    else Float.ofScientific n (e < 0) e.natAbs

/-- The digits before and after a point, where there is at least one digit. -/
def readDigits? (cs : List Char) : Option (Nat × Int × List Char) :=
  let whole := cs.takeWhile Char.isDigit
  let rest := cs.dropWhile Char.isDigit
  let (places, rest) := match rest with
    | '.' :: r => (r.takeWhile Char.isDigit, r.dropWhile Char.isDigit)
    | r => ([], r)
  (Numeral.readNat? (whole ++ places)).map fun n => (n, -places.length, rest)

/-- The exponent that ends a number, zero if there is none. -/
def readExponent? : List Char → Option Int
  | [] => some 0
  | c :: rest =>
    if c = 'e' ∨ c = 'E' then
      match rest with
      | '-' :: r => (Numeral.readNat? r).map fun n => -(n : Int)
      | '+' :: r => (Numeral.readNat? r).map Int.ofNat
      | r => (Numeral.readNat? r).map Int.ofNat
    else none

/-- A number without a sign. -/
def readUnsigned? (cs : List Char) : Option Float :=
  let word := String.ofList (cs.map Char.toLower)
  if word = "inf" ∨ word = "infinity" then some (1.0 / 0.0)
  else if word = "nan" then some (0.0 / 0.0)
  else do
    let (n, e, rest) ← readDigits? cs
    let e' ← readExponent? rest
    return scaled n (e + e')

/-- Reads a number. -/
def ofText? (text : String) : Option Float :=
  match text.toList with
  | '-' :: cs => (readUnsigned? cs).map fun x => -x
  | '+' :: cs => readUnsigned? cs
  | cs => readUnsigned? cs

end GrantLedger.Decimal
