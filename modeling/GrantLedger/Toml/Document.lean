import GrantLedger.Toml.Scalar
import GrantLedger.Toml.Text
import GrantLedger.Toml.Tree

/-!
# Documents of TOML

A document is a list of statements, each on lines of its own: headers, and values under keys.
Reading a text takes two steps, statements from characters (`readStatements`) and tables from
statements (`ofStatements`). At most 80 arrays and inline tables may stand inside one another.
-/

namespace GrantLedger.Toml

/-- How many arrays and inline tables may stand inside one another. -/
def nestingLimit : Nat := 80

/-- A statement. -/
inductive Statement where
  /-- The header of a table. -/
  | table (path : KeyPath)
  /-- The header of a table in an array of tables. -/
  | tables (path : KeyPath)
  /-- A value under a key. -/
  | assign (path : KeyPath) (value : Json)

/-! ## 1. Blanks and lines -/

/-- Passes over blanks within a line. -/
def skipBlanks (cs : List Char) : List Char := cs.dropWhile isBlank

/-- Passes over blanks, comments and ends of lines. Inside of a comment `comment` holds. -/
def skipGap : Bool → List Char → Option (List Char)
  | _, '\n' :: rest => skipGap false rest
  | _, '\r' :: '\n' :: rest => skipGap false rest
  | true, c :: rest => if isPlain c then skipGap true rest else none
  | false, c :: rest =>
    if isBlank c then skipGap false rest
    else if c = '#' then skipGap true rest
    else some (c :: rest)
  | _, [] => some []

/-- Passes over the rest of a line, which holds nothing but blanks and a comment. -/
def endLine (cs : List Char) : Option (List Char) :=
  match skipBlanks cs with
  | [] => some []
  | '#' :: rest => endOf (rest.dropWhile isPlain)
  | cs => endOf cs
where
  /-- Passes over the end of a line, or stands at the end of the text. -/
  endOf (cs : List Char) : Option (List Char) :=
    if cs.isEmpty ∨ beginsNewLine cs then some (dropNewLine cs) else none

/-! ## 2. Keys -/

/-- Whether a character may be a part of a key without quotes. -/
def isKeyChar (c : Char) : Bool := c.isAlphanum || c = '_' || c = '-'

/-- Reads a key without dots. -/
def readKey (cs : List Char) : Option (String × List Char) :=
  match cs with
  | '"' :: rest => (readBasic rest).map fun r => (String.ofList r.1, r.2)
  | '\'' :: rest => (readLiteral rest).map fun r => (String.ofList r.1, r.2)
  | _ =>
    let key := cs.takeWhile isKeyChar
    if key.isEmpty then none else some (String.ofList key, cs.dropWhile isKeyChar)

/-- Reads keys with a dot between any two. Blanks may stand around keys. -/
def readKeys : Nat → List Char → Option (KeyPath × List Char)
  | 0, _ => none
  | fuel + 1, cs => do
    let (key, rest) ← readKey (skipBlanks cs)
    match skipBlanks rest with
    | '.' :: rest =>
      let (path, rest) ← readKeys fuel rest
      return ({ path with front := key :: path.front }, rest)
    | rest => return (⟨[], key⟩, rest)

/-! ## 3. Values -/

mutual

/-- Reads a value. The first argument bounds the steps, the second one the nesting. -/
def readValue : Nat → Nat → List Char → Option (Json × List Char)
  | 0, _, _ => none
  | fuel + 1, depth, cs =>
    match cs with
    | '[' :: rest =>
      if depth = 0 then none
      else (readItems fuel (depth - 1) rest).map fun r => (.arr r.1, r.2)
    | '\x7b' :: rest =>
      if depth = 0 then none
      else (readPairs fuel (depth - 1) [] rest).map fun r => (r.1.toJson, r.2)
    | c :: _ =>
      if c = '"' ∨ c = '\'' then (readText cs).map fun r => (.str (String.ofList r.1), r.2)
      else
        let (scalar, rest) := takeScalar cs
        (scalar? scalar).map fun v => (v, rest)
    | [] => none

/-- Reads the items of an array from the next one on, with the closing bracket. -/
def readItems : Nat → Nat → List Char → Option (List Json × List Char)
  | 0, _, _ => none
  | fuel + 1, depth, cs =>
    match skipGap false cs with
    | none => none
    | some (']' :: rest) => some ([], rest)
    | some cs =>
      match readValue fuel depth cs with
      | none => none
      | some (item, rest) =>
        match skipGap false rest with
        | some (',' :: rest) => (readItems fuel depth rest).map fun r => (item :: r.1, r.2)
        | some (']' :: rest) => some ([item], rest)
        | _ => none

/-- Reads the rest of an inline table after what is defined in it, with the closing brace. -/
def readPairs : Nat → Nat → Members → List Char → Option (Members × List Char)
  | 0, _, _, _ => none
  | fuel + 1, depth, defined, cs =>
    match skipGap false cs with
    | none => none
    | some ('\x7d' :: rest) => some (defined, rest)
    | some cs =>
      match readKeys cs.length cs with
      | some (path, '=' :: rest) =>
        match readValue fuel depth (skipBlanks rest) with
        | none => none
        | some (value, rest) =>
          match defined.define path.last value path.front, skipGap false rest with
          | some defined, some (',' :: rest) => readPairs fuel depth defined rest
          | some defined, some ('\x7d' :: rest) => some (defined, rest)
          | _, _ => none
      | _ => none

end

/-! ## 4. Statements -/

/-- Reads a statement, with the rest of its line. -/
def readStatement (cs : List Char) : Option (Statement × List Char) := do
  let (statement, rest) ← match cs with
    | '[' :: '[' :: rest =>
      match ← readKeys rest.length rest with
      | (path, ']' :: ']' :: rest) => some (Statement.tables path, rest)
      | _ => none
    | '[' :: rest =>
      match ← readKeys rest.length rest with
      | (path, ']' :: rest) => some (.table path, rest)
      | _ => none
    | _ =>
      match ← readKeys cs.length cs with
      | (path, '=' :: rest) => do
        let (value, rest) ← readValue (2 * rest.length) nestingLimit (skipBlanks rest)
        some (.assign path value, rest)
      | _ => none
  return (statement, ← endLine rest)

/-- Reads all statements of a text. -/
def readStatements : Nat → List Char → Option (List Statement)
  | 0, _ => none
  | fuel + 1, cs => do
    match ← skipGap false cs with
    | [] => return []
    | cs =>
      let (statement, rest) ← readStatement cs
      return statement :: (← readStatements fuel rest)

/-! ## 5. Documents -/

/-- The tables that statements define. The first argument leads to the table of the last header. -/
def ofStatements : List String → Members → List Statement → Option Members
  | _, m, [] => some m
  | _, m, .table path :: rest => do ofStatements path.keys (← m.openTable path) rest
  | _, m, .tables path :: rest => do ofStatements path.keys (← m.addTable path) rest
  | header, m, .assign path value :: rest => do
    ofStatements header (← m.within (·.define path.last value path.front) header) rest

/-- The object that a document holds. -/
def read? (text : String) : Option Json := do
  let cs := text.toList
  let statements ← readStatements (cs.length + 1) cs
  (ofStatements [] [] statements).map Members.toJson

end GrantLedger.Toml
