import GrantLedger.Json.Read

/-!
# Texts in TOML

Texts stand in double quotes, with escapes, or in single quotes, without; either quote may be
written three times, and then the text may have several lines. Reading starts after the opening
quotes and answers the text with what follows the closing ones.
-/

namespace GrantLedger.Toml

open Json (hexValue?)

/-- Whether a character is a blank within a line. -/
def isBlank (c : Char) : Bool := c = ' ' || c = '\t'

/-- Whether a character may stand in comments and texts as it is. -/
def isPlain (c : Char) : Bool := c = '\t' || (32 ≤ c.toNat && c.toNat ≠ 127)

/-- Whether a text begins with the end of a line. -/
def beginsNewLine : List Char → Bool
  | '\n' :: _ => true
  | '\r' :: '\n' :: _ => true
  | _ => false

/-- Passes over the end of a line at the front of a text, if there is one. -/
def dropNewLine : List Char → List Char
  | '\n' :: rest => rest
  | '\r' :: '\n' :: rest => rest
  | cs => cs

/-! ## 1. Escapes -/

/-- The character that a backslash and a letter stand for. -/
def simpleEscape? (c : Char) : Option Char :=
  if c = 'b' then some '\x08'
  else if c = 't' then some '\t'
  else if c = 'n' then some '\n'
  else if c = 'f' then some '\x0c'
  else if c = 'r' then some '\r'
  else if c = 'e' then some '\x1b'
  else if c = '"' ∨ c = '\\' then some c
  else none

/-- The character whose number hexadecimal digits write. Surrogates are no characters. -/
def hexChar? (digits : List Char) : Option Char := do
  let n ← digits.foldlM (fun n c => (hexValue? c).map (n * 16 + ·)) 0
  if n.isValidChar then some (Char.ofNat n) else none

/-! ## 2. One line -/

/-- Reads a text with escapes. -/
def readBasic : List Char → Option (List Char × List Char)
  | '"' :: rest => some ([], rest)
  | '\\' :: 'x' :: a :: b :: rest => do
    let c ← hexChar? [a, b]
    (readBasic rest).map fun r => (c :: r.1, r.2)
  | '\\' :: 'u' :: a :: b :: c :: d :: rest => do
    let c ← hexChar? [a, b, c, d]
    (readBasic rest).map fun r => (c :: r.1, r.2)
  | '\\' :: 'U' :: a :: b :: c :: d :: e :: f :: g :: h :: rest => do
    let c ← hexChar? [a, b, c, d, e, f, g, h]
    (readBasic rest).map fun r => (c :: r.1, r.2)
  | '\\' :: c :: rest => do
    let c ← simpleEscape? c
    (readBasic rest).map fun r => (c :: r.1, r.2)
  | c :: rest =>
    if isPlain c ∧ c ≠ '\\' then (readBasic rest).map fun r => (c :: r.1, r.2) else none
  | [] => none

/-- Reads a text without escapes. -/
def readLiteral : List Char → Option (List Char × List Char)
  | '\'' :: rest => some ([], rest)
  | c :: rest => if isPlain c then (readLiteral rest).map fun r => (c :: r.1, r.2) else none
  | [] => none

/-! ## 3. Several lines -/

/-- Whether a backslash before a text only joins lines. -/
def joinsLines (cs : List Char) : Bool := beginsNewLine (cs.dropWhile isBlank)

/-- Reads a text of several lines with escapes. At the end of a line, a backslash joins it to the
next character that is no blank; until there `joining` holds. Up to two quotes may stand before the
closing ones. -/
def readBasicLines : Bool → List Char → Option (List Char × List Char)
  | _, '"' :: '"' :: '"' :: '"' :: '"' :: rest => some (['"', '"'], rest)
  | _, '"' :: '"' :: '"' :: '"' :: rest => some (['"'], rest)
  | _, '"' :: '"' :: '"' :: rest => some ([], rest)
  | joining, '\r' :: '\n' :: rest =>
    if joining then readBasicLines true rest
    else (readBasicLines false rest).map fun r => ('\n' :: r.1, r.2)
  | joining, '\n' :: rest =>
    if joining then readBasicLines true rest
    else (readBasicLines false rest).map fun r => ('\n' :: r.1, r.2)
  | _, '\\' :: 'x' :: a :: b :: rest => do
    let c ← hexChar? [a, b]
    (readBasicLines false rest).map fun r => (c :: r.1, r.2)
  | _, '\\' :: 'u' :: a :: b :: c :: d :: rest => do
    let c ← hexChar? [a, b, c, d]
    (readBasicLines false rest).map fun r => (c :: r.1, r.2)
  | _, '\\' :: 'U' :: a :: b :: c :: d :: e :: f :: g :: h :: rest => do
    let c ← hexChar? [a, b, c, d, e, f, g, h]
    (readBasicLines false rest).map fun r => (c :: r.1, r.2)
  | _, '\\' :: c :: rest =>
    if joinsLines (c :: rest) then readBasicLines true (c :: rest)
    else do
      let c ← simpleEscape? c
      (readBasicLines false rest).map fun r => (c :: r.1, r.2)
  | joining, c :: rest =>
    if joining && isBlank c then readBasicLines true rest
    else if isPlain c ∧ c ≠ '\\' then (readBasicLines false rest).map fun r => (c :: r.1, r.2)
    else none
  | _, [] => none

/-- Reads a text of several lines without escapes. -/
def readLiteralLines : List Char → Option (List Char × List Char)
  | '\'' :: '\'' :: '\'' :: '\'' :: '\'' :: rest => some (['\'', '\''], rest)
  | '\'' :: '\'' :: '\'' :: '\'' :: rest => some (['\''], rest)
  | '\'' :: '\'' :: '\'' :: rest => some ([], rest)
  | '\r' :: '\n' :: rest => (readLiteralLines rest).map fun r => ('\n' :: r.1, r.2)
  | c :: rest =>
    if isPlain c ∨ c = '\n' then (readLiteralLines rest).map fun r => (c :: r.1, r.2) else none
  | [] => none

/-- Reads a text with its opening quotes. A line that ends right after three quotes is no part of
the text. -/
def readText : List Char → Option (List Char × List Char)
  | '"' :: '"' :: '"' :: rest => readBasicLines false (dropNewLine rest)
  | '\'' :: '\'' :: '\'' :: rest => readLiteralLines (dropNewLine rest)
  | '"' :: rest => readBasic rest
  | '\'' :: rest => readLiteral rest
  | _ => none

end GrantLedger.Toml
