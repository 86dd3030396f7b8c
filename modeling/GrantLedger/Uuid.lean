/-!
# Universally unique identifiers

A `Uuid` is 128 bits, ordered as a number. Its text is 32 lowercase hexadecimal digits in five
groups; the reader also takes the digits without hyphens, the grouped form in braces and the grouped
form behind `urn:uuid:`, with letters of either case (`Uuid.ofText?`).

`Uuid.version4` builds an identifier of version 4 from its 122 free bits.
-/

namespace GrantLedger

/-- A universally unique identifier: 128 bits. -/
structure Uuid where
  /-- The bits, most significant first in the text. -/
  bits : BitVec 128
  deriving DecidableEq

namespace Uuid

instance : Inhabited Uuid := ⟨⟨0⟩⟩

/-! ## 1. Order -/

instance : Ord Uuid := ⟨fun a b => compare a.bits b.bits⟩

instance : Std.TransOrd Uuid where
  eq_swap := Std.OrientedOrd.eq_swap (α := BitVec 128)
  isLE_trans := Std.TransOrd.isLE_trans (α := BitVec 128)

instance : Std.LawfulEqOrd Uuid where
  compare_self := Std.ReflOrd.compare_self (α := BitVec 128)
  eq_of_compare {a b} h := by
    cases a; cases b
    exact congrArg Uuid.mk (Std.LawfulEqOrd.eq_of_compare (α := BitVec 128) h)

/-! ## 2. Hexadecimal text -/

/-- The lowercase hexadecimal digit of a number below sixteen. -/
def hexChar (n : Nat) : Char := if n < 10 then Char.ofNat (48 + n) else Char.ofNat (87 + n)

/-- The value of a hexadecimal digit of either case. -/
def hexValue? (c : Char) : Option Nat :=
  if '0' ≤ c ∧ c ≤ '9' then some (c.toNat - 48)
  else if 'a' ≤ c ∧ c ≤ 'f' then some (c.toNat - 87)
  else if 'A' ≤ c ∧ c ≤ 'F' then some (c.toNat - 55)
  else none

/-- The last `width` hexadecimal digits of a number, most significant first. -/
def hexDigits : Nat → Nat → List Char
  | 0, _ => []
  | width + 1, n => hexDigits width (n / 16) ++ [hexChar (n % 16)]

/-- A run of hexadecimal digits as a number. -/
def ofHex? (cs : List Char) : Option Nat :=
  cs.foldlM (fun acc c => (hexValue? c).map (acc * 16 + ·)) 0

/-- The grouped text: 8, 4, 4, 4 and 12 lowercase digits between hyphens. -/
def toChars (u : Uuid) : List Char :=
  let ds := hexDigits 32 u.bits.toNat
  ds.take 8 ++ '-' :: (ds.drop 8).take 4 ++ '-' :: (ds.drop 12).take 4 ++
    '-' :: (ds.drop 16).take 4 ++ '-' :: ds.drop 20

/-- The grouped text of an identifier. -/
def toText (u : Uuid) : String := String.ofList u.toChars

/-- Reads 32 digits without hyphens. -/
def ofPlain? (cs : List Char) : Option Uuid :=
  if cs.length = 32 then (ofHex? cs).map fun n => ⟨BitVec.ofNat 128 n⟩ else none

/-- Reads the grouped form: hyphens at their four places and digits everywhere else. -/
def ofGrouped? (cs : List Char) : Option Uuid :=
  if cs.length = 36 ∧ [8, 13, 18, 23].all (fun i => cs[i]? == some '-') then
    ofPlain? (cs.take 8 ++ (cs.drop 9).take 4 ++ (cs.drop 14).take 4 ++ (cs.drop 19).take 4 ++
      cs.drop 24)
  else none

/-- Reads an identifier in any of its four written forms. -/
def ofText? (text : String) : Option Uuid :=
  let cs := text.toList
  if cs.length = 32 then ofPlain? cs
  else if cs.length = 36 then ofGrouped? cs
  else if cs.length = 38 ∧ cs.head? = some '\x7b' ∧ cs.getLast? = some '\x7d' then
    ofGrouped? (cs.drop 1).dropLast
  else if (cs.take 9).map Char.toLower = "urn:uuid:".toList then ofGrouped? (cs.drop 9)
  else none

/-! ## 3. Generated identifiers -/

/-- The version 4 identifier with the given free bits. -/
def version4 (free : BitVec 122) : Uuid :=
  ⟨free.extractLsb' 74 48 ++ (4#4 ++ (free.extractLsb' 62 12 ++ (2#2 ++ free.extractLsb' 0 62)))⟩

end Uuid

end GrantLedger
