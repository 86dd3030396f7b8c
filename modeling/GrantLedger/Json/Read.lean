import GrantLedger.Json.Render

/-!
# Reading JSON

A strict reader: one value with blanks around it and nothing else. At most 127 arrays and objects
may stand inside one another. `Json.readAsWritten?` keeps the members of an object as they are
written; `Json.read?` puts them in order, and of two members of one name the later one counts.

A number without fraction and exponent that fits into 64 bits is an integer; any other number
is a floating-point number, and one that is too large is refused. A minus zero is the
floating-point one.
-/

namespace GrantLedger.Json

/-- How many arrays and objects may stand inside one another. -/
def nestingLimit : Nat := 127

/-- Whether a character is a blank between tokens. -/
def isBlank (c : Char) : Bool := c = ' ' || c = '\n' || c = '\t' || c = '\r'

/-- Passes over blanks. -/
def skipBlanks (cs : List Char) : List Char := cs.dropWhile isBlank

/-! ## 1. Strings -/

/-- The value of a hexadecimal digit of either case. -/
def hexValue? (c : Char) : Option Nat :=
  if '0' ≤ c ∧ c ≤ '9' then some (c.toNat - 48)
  else if 'a' ≤ c ∧ c ≤ 'f' then some (c.toNat - 87)
  else if 'A' ≤ c ∧ c ≤ 'F' then some (c.toNat - 55)
  else none

/-- The number of four hexadecimal digits. -/
def hexQuad? (a b c d : Char) : Option Nat := do
  let a ← hexValue? a
  let b ← hexValue? b
  let c ← hexValue? c
  let d ← hexValue? d
  return ((a * 16 + b) * 16 + c) * 16 + d

/-- The character that a backslash and a letter stand for. -/
def simpleEscape? (c : Char) : Option Char :=
  if c = '"' then some '"'
  else if c = '\\' then some '\\'
  else if c = '/' then some '/'
  else if c = 'b' then some '\x08'
  else if c = 'f' then some '\x0c'
  else if c = 'n' then some '\n'
  else if c = 'r' then some '\r'
  else if c = 't' then some '\t'
  else none

/-- Reads a string after its opening quote, up to its closing one. A pair of surrogates is one
character; a surrogate without its partner is refused. -/
def readString : List Char → Option (List Char × List Char)
  | [] => none
  | '\\' :: 'u' :: a :: b :: c :: d :: rest =>
    match hexQuad? a b c d with
    | none => none
    | some n =>
      if 0xDC00 ≤ n ∧ n < 0xE000 then none
      else if 0xD800 ≤ n ∧ n < 0xDC00 then
        match rest with
        | '\\' :: 'u' :: a' :: b' :: c' :: d' :: rest' =>
          match hexQuad? a' b' c' d' with
          | none => none
          | some m =>
            if 0xDC00 ≤ m ∧ m < 0xE000 then
              (readString rest').map fun r =>
                (Char.ofNat (0x10000 + (n - 0xD800) * 0x400 + (m - 0xDC00)) :: r.1, r.2)
            else none
        | _ => none
      else (readString rest).map fun r => (Char.ofNat n :: r.1, r.2)
  | '\\' :: c :: rest =>
    match simpleEscape? c with
    | none => none
    | some e => (readString rest).map fun r => (e :: r.1, r.2)
  | c :: rest =>
    if c = '"' then some ([], rest)
    else if c = '\\' ∨ c.toNat < 32 then none
    else (readString rest).map fun r => (c :: r.1, r.2)

/-! ## 2. Numbers -/

/-- Appends digits to a significand of 64 bits, and counts the digits from the first one that
does not fit. -/
def gather : Nat → Nat → List Char → Nat × Nat
  | acc, dropped, [] => (acc, dropped)
  | acc, dropped, c :: rest =>
    let next := acc * 10 + (c.toNat - 48)
    if dropped = 0 ∧ next < 18_446_744_073_709_551_616 then gather next 0 rest else gather acc (dropped + 1) rest

/-- Scales a significand by a power of ten, in steps of at most 308 powers. -/
def scaleDown : Nat → Float → Nat → Float
  | 0, f, _ => f
  | fuel + 1, f, e =>
    if e ≤ 308 then f / Float.ofScientific 1 false e
    else if f == 0.0 then f
    else scaleDown fuel (f / Float.ofScientific 1 false 308) (e - 308)

/-- The number of a significand and a power of ten, if it is not too large. -/
def floatOf? (significand : Nat) (exponent : Int) : Option Float :=
  let f := significand.toUInt64.toFloat
  if exponent < 0 then some (scaleDown 5 f exponent.natAbs)
  else if exponent ≤ 308 then
    let r := f * Float.ofScientific 1 false exponent.natAbs
    if r.isInf then none else some r
  else if significand = 0 then some f
  else none

/-- Reads an exponent after its mark: a sign and at least one digit. An exponent beyond 32 bits is
taken for the largest one. -/
def readExponent (cs : List Char) : Option (Int × List Char) :=
  let (negative, cs) := match cs with
    | '-' :: rest => (true, rest)
    | '+' :: rest => (false, rest)
    | _ => (false, cs)
  let ds := cs.takeWhile Char.isDigit
  (Numeral.readNat? ds).map fun n =>
    let n : Int := min n 4000000000
    (if negative then -n else n, cs.dropWhile Char.isDigit)

/-- Reads a number. -/
def readNumber (cs : List Char) : Option (Json × List Char) := do
  let (negative, cs) := match cs with
    | '-' :: rest => (true, rest)
    | _ => (false, cs)
  let whole := cs.takeWhile Char.isDigit
  let cs := cs.dropWhile Char.isDigit
  if whole.isEmpty ∨ (whole.head? = some '0' ∧ 1 < whole.length) then none
  else
    let (significand, dropped) := gather 0 0 whole
    let (places, cs) ← match cs with
      | '.' :: rest =>
        let ds := rest.takeWhile Char.isDigit
        if ds.isEmpty then none else some (some ds, rest.dropWhile Char.isDigit)
      | _ => some (none, cs)
    let (power, cs) ← match cs with
      | 'e' :: rest => (readExponent rest).map fun r => (some r.1, r.2)
      | 'E' :: rest => (readExponent rest).map fun r => (some r.1, r.2)
      | _ => some (none, cs)
    if places.isNone ∧ power.isNone ∧ dropped = 0 ∧
        (if negative then 0 < significand ∧ significand ≤ 9_223_372_036_854_775_808 else True) then
      some (.int (if negative then -(significand : Int) else significand), cs)
    else
      let fraction := places.getD []
      let (significand, unused) := gather significand 0 fraction
      let kept := fraction.length - unused
      let f ← floatOf? significand ((dropped : Int) - kept + power.getD 0)
      some (.float (if negative then -f else f), cs)

/-! ## 3. Values -/

mutual

/-- Reads a value at the front of a text. The first argument bounds the steps, the second one the
nesting. -/
def readValue : Nat → Nat → List Char → Option (Json × List Char)
  | 0, _, _ => none
  | fuel + 1, depth, cs =>
    match skipBlanks cs with
    | 'n' :: 'u' :: 'l' :: 'l' :: rest => some (.null, rest)
    | 't' :: 'r' :: 'u' :: 'e' :: rest => some (.bool true, rest)
    | 'f' :: 'a' :: 'l' :: 's' :: 'e' :: rest => some (.bool false, rest)
    | '"' :: rest => (readString rest).map fun r => (.str (String.ofList r.1), r.2)
    | '[' :: rest =>
      if depth = 0 then none
      else
        match skipBlanks rest with
        | ']' :: rest => some (.arr [], rest)
        | _ => (readItems fuel (depth - 1) rest).map fun r => (.arr r.1, r.2)
    | '\x7b' :: rest =>
      if depth = 0 then none
      else
        match skipBlanks rest with
        | '\x7d' :: rest => some (.obj [], rest)
        | _ => (readMembers fuel (depth - 1) rest).map fun r => (.obj r.1, r.2)
    | cs => readNumber cs

/-- Reads the items of an array from the next one on, with the closing bracket. -/
def readItems : Nat → Nat → List Char → Option (List Json × List Char)
  | 0, _, _ => none
  | fuel + 1, depth, cs =>
    match readValue fuel depth cs with
    | none => none
    | some (item, rest) =>
      match skipBlanks rest with
      | ',' :: rest => (readItems fuel depth rest).map fun r => (item :: r.1, r.2)
      | ']' :: rest => some ([item], rest)
      | _ => none

/-- Reads the members of an object from the next one on, with the closing brace. -/
def readMembers : Nat → Nat → List Char → Option (List (String × Json) × List Char)
  | 0, _, _ => none
  | fuel + 1, depth, cs =>
    match skipBlanks cs with
    | '"' :: rest =>
      match readString rest with
      | none => none
      | some (name, rest) =>
        match skipBlanks rest with
        | ':' :: rest =>
          match readValue fuel depth rest with
          | none => none
          | some (value, rest) =>
            match skipBlanks rest with
            | ',' :: rest =>
              (readMembers fuel depth rest).map fun r => ((String.ofList name, value) :: r.1, r.2)
            | '\x7d' :: rest => some ([(String.ofList name, value)], rest)
            | _ => none
        | _ => none
    | _ => none

end

/-- Reads a text that holds one value, with the members of its objects as they are written. -/
def readAsWritten? (text : String) : Option Json :=
  let cs := text.toList
  match readValue (2 * cs.length + 2) nestingLimit cs with
  | none => none
  | some (value, rest) => if (skipBlanks rest).isEmpty then some value else none

/-- Reads a text that holds one value. -/
def read? (text : String) : Option Json := (readAsWritten? text).map canonical

end GrantLedger.Json
