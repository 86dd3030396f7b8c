/-!
# Addresses of databases

An address may hold a password, between the last colon before the first `@` and this `@`. It is
masked before an address is shown (`mask`).
-/

namespace GrantLedger.Database.Address

/-- The characters before and from the first occurrence of a text on. -/
def splitAtText? (text : List Char) : List Char → Option (List Char × List Char)
  | [] => if text.isEmpty then some ([], []) else none
  | c :: rest =>
    if text.isPrefixOf (c :: rest) then some ([], c :: rest)
    else (splitAtText? text rest).map fun p => (c :: p.1, p.2)

/-- The characters up to the last colon, and those after it. -/
def splitAtLastColon? (cs : List Char) : Option (List Char × List Char) :=
  let after := (cs.reverse.takeWhile (· ≠ ':')).reverse
  if after.length = cs.length then none else some (cs.take (cs.length - after.length - 1), after)

/-- How many characters the scheme of an address has, with the slashes after it. -/
def schemeLength (cs : List Char) : Nat :=
  ((splitAtText? "://".toList cs).map fun p => p.1.length + 3).getD 0

/-- Masks the characters of an address. -/
def maskChars (cs : List Char) : List Char :=
  match splitAtText? ['@'] cs with
  | none => cs
  | some (front, rest) =>
    match splitAtLastColon? front with
    | none => cs
    | some (user, _) =>
      if schemeLength cs < user.length then user ++ ":****".toList ++ rest else cs

/-- An address with its password masked. -/
def mask (url : String) : String := String.ofList (maskChars url.toList)

end GrantLedger.Database.Address
