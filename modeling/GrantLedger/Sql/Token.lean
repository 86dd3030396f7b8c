import GrantLedger.Numeral

/-!
# The tokens of a statement

The text of a statement is a sequence of tokens. Identifiers stand in double quotes and literals in
single ones, each with a quote inside written twice; a placeholder is a dollar sign with the number
of a parameter, counted from one.
-/

namespace GrantLedger.Sql

/-- A part of the text of a statement. -/
inductive Token where
  /-- Keywords, operators, brackets and blanks. -/
  | plain (text : String)
  /-- A quoted identifier. -/
  | name (identifier : String)
  /-- A text literal. -/
  | literal (text : String)
  /-- The placeholder of a parameter. -/
  | slot (number : Nat)
  deriving DecidableEq, Repr

/-- Writes every quote of a text twice. -/
def doubleQuotes (quote : Char) : List Char → List Char
  | [] => []
  | c :: rest =>
    if c = quote then quote :: quote :: doubleQuotes quote rest else c :: doubleQuotes quote rest

/-- A text between quotes. -/
def quoted (quote : Char) (text : List Char) : List Char :=
  quote :: doubleQuotes quote text ++ [quote]

/-- The characters of a token. -/
def Token.chars : Token → List Char
  | .plain text => text.toList
  | .name identifier => quoted '"' identifier.toList
  | .literal text => quoted '\'' text.toList
  | .slot number => '$' :: Numeral.digits number

/-- The text of a sequence of tokens. -/
def renderTokens (tokens : List Token) : String := String.ofList (tokens.flatMap Token.chars)

/-- A quoted identifier. -/
def identifier (name : String) : String := renderTokens [.name name]

/-- Sequences of tokens with the same text between any two. -/
def separated (separator : String) : List (List Token) → List Token
  | [] => []
  | [l] => l
  | l :: rest => l ++ .plain separator :: separated separator rest

/-- Tokens with a comma between any two. -/
def commas (tokens : List Token) : List Token := separated ", " (tokens.map fun t => [t])

end GrantLedger.Sql
