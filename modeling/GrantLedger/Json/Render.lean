import GrantLedger.Decimal.Shortest
import GrantLedger.Json.Basic
import GrantLedger.Numeral

/-!
# Writing JSON

The compact form has no blanks; the wide form puts each member on a line of its own, two blanks
deeper than what holds it. In strings only the quote, the backslash and the characters below
U+0020 are escaped.
-/

namespace GrantLedger.Json

/-! ## 1. Numbers -/

/-- A floating-point number: the fewest digits that read back, positional from `1e-5` to below
`1e16` and with an exponent elsewhere. What has no digits is written as null. -/
def renderFloat (x : Float) : List Char :=
  let bits := x.toBits
  let sign := if bits >>> 63 = 1 then ['-'] else []
  if x.isNaN ∨ x.isInf then "null".toList
  else if bits &&& 0x7FFFFFFFFFFFFFFF = 0 then sign ++ "0.0".toList
  else
    let (d, p) := Decimal.Shortest.digits bits
    let ds := Numeral.digits d
    let point := (ds.length : Int) + p
    let zeros (n : Int) := List.replicate n.toNat '0'
    sign ++
      if 0 ≤ p ∧ point ≤ 16 then ds ++ zeros p ++ ".0".toList
      else if 0 < point ∧ point ≤ 16 then ds.take point.toNat ++ '.' :: ds.drop point.toNat
      else if -5 < point ∧ point ≤ 0 then '0' :: '.' :: zeros (-point) ++ ds
      else
        let fraction := if ds.length = 1 then [] else '.' :: ds.drop 1
        let e := point - 1
        ds.take 1 ++ fraction ++ 'e' :: (if e < 0 then '-' else '+') :: Numeral.digits e.natAbs

/-! ## 2. Strings -/

/-- The lowercase hexadecimal digit of a number below sixteen. -/
def hexDigit (n : Nat) : Char := if n < 10 then Char.ofNat (48 + n) else Char.ofNat (87 + n)

/-- One character inside quotes. -/
def escapeChar (c : Char) : List Char :=
  if c = '"' then ['\\', '"']
  else if c = '\\' then ['\\', '\\']
  else if c = '\x08' then ['\\', 'b']
  else if c = '\x0c' then ['\\', 'f']
  else if c = '\n' then ['\\', 'n']
  else if c = '\r' then ['\\', 'r']
  else if c = '\t' then ['\\', 't']
  else if c.toNat < 32 then
    ['\\', 'u', '0', '0', hexDigit (c.toNat / 16), hexDigit (c.toNat % 16)]
  else [c]

/-- The characters of a string between its quotes. -/
def escape (cs : List Char) : List Char := cs.flatMap escapeChar

/-- A string with its quotes. -/
def renderString (s : String) : List Char := '"' :: (escape s.toList ++ ['"'])

/-! ## 3. Values -/

mutual

/-- The compact form of a value. -/
def renderChars : Json → List Char
  | .null => "null".toList
  | .bool true => "true".toList
  | .bool false => "false".toList
  | .int n => if n < 0 then '-' :: Numeral.digits n.natAbs else Numeral.digits n.natAbs
  | .float x => renderFloat x
  | .str s => renderString s
  | .arr [] => ['[', ']']
  | .arr (item :: rest) => '[' :: (renderChars item ++ renderItems rest)
  | .obj [] => ['\x7b', '\x7d']
  | .obj ((name, value) :: rest) =>
    '\x7b' :: (renderString name ++ ':' :: (renderChars value ++ renderMembers rest))

/-- The items after the first one, with the bracket that closes the array. -/
def renderItems : List Json → List Char
  | [] => [']']
  | item :: rest => ',' :: (renderChars item ++ renderItems rest)

/-- The members after the first one, with the brace that closes the object. -/
def renderMembers : List (String × Json) → List Char
  | [] => ['\x7d']
  | (name, value) :: rest =>
    ',' :: (renderString name ++ ':' :: (renderChars value ++ renderMembers rest))

end

/-- The compact text of a value. -/
def render (j : Json) : String := String.ofList j.renderChars

/-- A new line at a depth. -/
def newLine (depth : Nat) : List Char := '\n' :: List.replicate (2 * depth) ' '

mutual

/-- The wide form of a value at a depth. -/
def renderWideChars (depth : Nat) : Json → List Char
  | .arr (item :: rest) =>
    '[' :: (newLine (depth + 1) ++ renderWideChars (depth + 1) item ++ renderWideItems depth rest)
  | .obj ((name, value) :: rest) =>
    '\x7b' :: (newLine (depth + 1) ++ renderString name ++ ':' :: ' ' ::
      (renderWideChars (depth + 1) value ++ renderWideMembers depth rest))
  | .null => "null".toList
  | .bool true => "true".toList
  | .bool false => "false".toList
  | .int n => renderChars (.int n)
  | .float x => renderFloat x
  | .str s => renderString s
  | .arr [] => ['[', ']']
  | .obj [] => ['\x7b', '\x7d']

/-- The items after the first one in the wide form. -/
def renderWideItems (depth : Nat) : List Json → List Char
  | [] => newLine depth ++ [']']
  | item :: rest =>
    ',' :: (newLine (depth + 1) ++ renderWideChars (depth + 1) item ++ renderWideItems depth rest)

/-- The members after the first one in the wide form. -/
def renderWideMembers (depth : Nat) : List (String × Json) → List Char
  | [] => newLine depth ++ ['\x7d']
  | (name, value) :: rest =>
    ',' :: (newLine (depth + 1) ++ renderString name ++ ':' :: ' ' ::
      (renderWideChars (depth + 1) value ++ renderWideMembers depth rest))

end

/-- The wide text of a value. -/
def renderWide (j : Json) : String := String.ofList (j.renderWideChars 0)

end GrantLedger.Json
