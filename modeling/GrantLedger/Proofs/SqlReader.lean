import GrantLedger.Proofs.QuotedNames
import Mathlib.Data.List.SplitBy

/-!
# Reading statements

What a text says to a database.  The text is taken apart into lexemes (`lexemes`), the lexemes form
pieces (`pieces`), and the pieces are read as a command by descent over the grammar
(`Command.read?`).  This is trusted: it says how the database reads, and knows nothing of how a
command is written.

The grammar is that of the statements that the stores send.  Keywords stand in capitals, blanks only
keep pieces apart, and AND binds more tightly than OR.  Conjunctions of three and more are grouped to
the right; for the database it makes no difference how they are grouped.  Tables and columns are in
double quotes, except for the batch of a statement and the letters that tables go by.  A text is
refused if it goes on after its command, or if it lists other columns of a table than the table has.
-/

namespace GrantLedger.Sql

/-! ## 1. Pieces -/

/-- What lexemes form. -/
inductive Piece where
  /-- A word, a number, an operator or a bracket. -/
  | plain (text : String)
  /-- What stands in a pair of quotes, of either sort. -/
  | quoted (quote : Char) (text : String)
  deriving DecidableEq

/-- The character of a mark. -/
def Lexeme.char? : Lexeme → Option Char
  | .mark c => some c
  | .quoted .. => none

/-- What lexemes form that are joined; a blank forms nothing. -/
def pieceOf : List Lexeme → List Piece
  | [.quoted quote text] => [.quoted quote text]
  | [.mark ' '] => []
  | marks => [.plain (String.ofList (marks.filterMap Lexeme.char?))]

/-- The pieces of a sequence of lexemes: each is as long as its lexemes are joined. -/
def pieces (l : List Lexeme) : List Piece := (l.splitBy Lexeme.joins).flatMap pieceOf

/-! ## 2. Readers -/

/-- Reads a part of a statement off the front of its pieces: what it says, and the pieces behind it.
-/
abbrev Reader (α : Type) : Type := StateT (List Piece) Option α

namespace Reader

variable {α : Type}

/-- The pieces behind given words, if these come first. -/
def behind? : List String → List Piece → Option (List Piece)
  | [], l => some l
  | text :: texts, .plain word :: l => if word = text then behind? texts l else none
  | _ :: _, _ => none

/-- Reads given words. -/
def expect (texts : List String) : Reader Unit := fun l => (behind? texts l).map ((), ·)

/-- Goes on behind the first of several sequences of words that is there. -/
def choose : List (List String × Reader α) → Reader α → Reader α
  | [], otherwise => otherwise
  | (texts, next) :: options, otherwise => fun l =>
    match behind? texts l with
    | some rest => next rest
    | none => choose options otherwise l

/-- Reads what stands in quotes of a sort. -/
def quotation (quote : Char) : Reader String
  | .quoted q text :: l => if q = quote then some (text, l) else none
  | _ => none

/-- Reads a name. -/
def name : Reader String := quotation '"'

/-- Reads a text. -/
def literal : Reader String := quotation '\''

/-- The number of a placeholder: a dollar sign with digits. -/
def placeholder? (text : String) : Option Nat :=
  match text.toList with
  | '$' :: digits => Numeral.readNat? digits
  | _ => none

/-- Reads a placeholder. -/
def slot : Reader Nat
  | .plain text :: l => (placeholder? text).map (·, l)
  | _ => none

/-- Reads the letters that a table goes by. -/
def letters : Reader String
  | .plain text :: l => if text.toList.all Char.isLower then some (text, l) else none
  | _ => none

/-- Reads the name of a table. -/
def table : Reader EntityKind := do
  let text ← name
  EntityKind.all.find? fun kind => kind.table = text

/-- Reads a column of a table that goes by letters. -/
def ownedColumn : Reader ColumnRef := do
  let owner ← letters
  expect ["."]
  return ⟨some owner, ← name⟩

/-- Reads a column. -/
def columnRef : Reader ColumnRef
  | .plain text :: l => ownedColumn (.plain text :: l)
  | l => (ColumnRef.mk none <$> name) l

/-- Reads a value: a text, a placeholder or a column. -/
def operand : Reader Operand
  | .quoted '\'' text :: l => some (.literal text, l)
  | .plain text :: l =>
    match placeholder? text with
    | some n => some (.slot n, l)
    | none => (.column <$> columnRef) (.plain text :: l)
  | l => (.column <$> columnRef) l

/-- Reads an operator of comparison. -/
def comparison : Reader Comparison :=
  choose [(["="], pure .eq), (["<>"], pure .ne), (["<"], pure .lt), (["<="], pure .le),
    ([">"], pure .gt), ([">="], pure .ge)] failure

/-- Reads one thing or several with a separator between any two, but no more of them than a number.
-/
def separatedUpTo (separator : String) (reader : Reader α) : Nat → Reader (List α)
  | 0 => failure
  | n + 1 => do
    let a ← reader
    choose [([separator], (a :: ·) <$> separatedUpTo separator reader n)] (pure [a])

/-- Reads one thing or several with a separator between any two. -/
def separated (separator : String) (reader : Reader α) : Reader (List α) := fun l =>
  separatedUpTo separator reader l.length l

/-- Reads what a reader reads, and a closing bracket. -/
def closed (reader : Reader α) : Reader α := do
  let a ← reader
  expect [")"]
  return a

/-! ## 3. Conditions -/

/-- Reads what a condition says about a column.  The reader is for conditions on other tables. -/
def property (inner : Reader Clause) (c : ColumnRef) : Reader Clause :=
  choose [
    (["IS", "NULL"], pure (.isNull c)),
    (["IS", "NOT", "NULL"], pure (.isNotNull c)),
    (["LIKE"], do
      let number ← slot
      expect ["ESCAPE"]
      guard ((← literal) = "\\")
      return .like c number),
    (["IN", "(", "SELECT"], do
      guard ((← name) = "id")
      expect ["FROM"]
      choose [(["batch", ")"], pure (.inBatch c))] do
        let kind ← table
        expect ["WHERE"]
        .inTable c kind <$> closed inner),
    (["IN", "("], .oneOf c <$> closed (separated "," slot))] do
  let op ← comparison
  .compare op (.column c) <$> operand

/-- Reads that no row of a table satisfies a condition. -/
def absence (inner : Reader Clause) : Reader Clause := do
  let kind ← table
  let owner ← letters
  expect ["WHERE"]
  .notExists kind owner <$> closed inner

mutual

/-- Reads a condition: conjunctions with OR between any two.  The number limits how deep the readers
call one another. -/
def condition : Nat → Reader Clause
  | 0 => failure
  | n + 1 => do
    let a ← conjunction n
    choose [(["OR"], .or a <$> condition n)] (pure a)

/-- Reads a conjunction: tests with AND between any two. -/
def conjunction : Nat → Reader Clause
  | 0 => failure
  | n + 1 => do
    let a ← test n
    choose [(["AND"], .and a <$> conjunction n)] (pure a)

/-- Reads a test: a condition in parentheses, or one that is not made of others by AND and OR. -/
def test : Nat → Reader Clause
  | 0 => failure
  | n + 1 => choose [
      (["FALSE"], pure .never),
      (["("], closed (condition n)),
      (["NOT", "EXISTS", "(", "SELECT", "1", "FROM"], absence (condition n))]
    (columnRef >>= property (condition n))

end

/-- Reads the condition of a statement, if there is one. -/
def whereClause (n : Nat) : Reader (Option Clause) :=
  choose [(["WHERE"], some <$> condition n)] (pure none)

/-! ## 4. Commands -/

/-- Reads the columns of a table, all of them and in the order of their declaration. -/
def declaredColumns (kind : EntityKind) : Reader Unit := do
  guard ((← separated "," name) = kind.columns.map (·.name))

/-- Reads columns, and behind them as many parameters, numbered from one on. -/
def insertCommand : Reader Command := do
  let kind ← table
  expect ["("]
  let columns ← separated "," name
  expect [")", "VALUES", "("]
  guard ((← separated "," slot) = List.range' 1 columns.length)
  expect [")", "RETURNING"]
  declaredColumns kind
  return .insert kind columns

/-- Reads a column with its new value. -/
def assignment : Reader (String × Nat) := do
  let column ← name
  expect ["="]
  return (column, ← slot)

/-- Reads columns with parameters that are numbered from one on. -/
def updateCommand (n : Nat) : Reader Command := do
  let kind ← table
  expect ["SET"]
  let assignments ← separated "," assignment
  guard (assignments.map Prod.snd = List.range' 1 assignments.length)
  expect ["WHERE"]
  return .update kind (assignments.map Prod.fst) (← condition n)

def lockCommand (n : Nat) : Reader Command := do
  let kind ← table
  expect ["WHERE"]
  let c ← condition n
  expect ["FOR", "UPDATE"]
  return .lock kind c

/-- Reads from which table which rows are deleted. -/
def deletion (n : Nat) : Reader (EntityKind × Clause) := do
  let kind ← table
  expect ["WHERE"]
  return (kind, ← condition n)

/-- Reads one of the numbers that are added up. -/
def tallied (n : Nat) : Reader (EntityKind × Clause) := do
  expect ["(", "SELECT", "COUNT", "(", "*", ")", "FROM"]
  closed (deletion n)

def tallyCommand (n : Nat) : Reader Command := do
  let counts ← separated "+" (tallied n)
  expect [")", "::", "BIGINT"]
  return .tally counts

/-- Reads a term of an order. -/
def orderTerm : Reader OrderTerm := do
  let column ← name
  choose [(["ASC"], pure ⟨column, .asc⟩), (["DESC"], pure ⟨column, .desc⟩)] failure

/-- Reads an order, if there is one. -/
def orderBy : Reader (List OrderTerm) :=
  choose [(["ORDER", "BY"], separated "," orderTerm)] (pure [])

/-- Reads a placeholder behind a keyword, if the keyword is there. -/
def slotBehind (keyword : String) : Reader (Option Nat) :=
  choose [([keyword], some <$> slot)] (pure none)

/-- Reads the columns of a table, which has to be the one that is named behind them. -/
def selectCommand (n : Nat) : Reader Command := do
  let columns ← separated "," name
  expect ["FROM"]
  let kind ← table
  guard (columns = kind.columns.map (·.name))
  let c ← whereClause n
  let order ← orderBy
  let limit ← slotBehind "LIMIT"
  return .select kind c order limit (← slotBehind "OFFSET")

def countCommand (n : Nat) : Reader Command := do
  let kind ← table
  return .count kind (← whereClause n)

/-- Reads a given column. -/
def expectColumn (c : ColumnRef) : Reader Unit := do guard ((← columnRef) = c)

/-- Reads a table that is joined by its identifier. -/
def join : Reader Join := do
  let kind ← table
  let owner ← letters
  expect ["ON"]
  expectColumn ⟨some owner, "id"⟩
  expect ["="]
  return ⟨kind, owner, ← columnRef⟩

/-- Reads a join, if there is one. -/
def joined : Reader (Option Join) := choose [(["LEFT", "JOIN"], some <$> join)] (pure none)

/-- The words that lock the rows of a selection; of two tables only those of the first. -/
def lockWords (owner : String) (joined : Bool) : List String :=
  ["FOR", "UPDATE"] ++ (if joined then ["OF", owner] else []) ++ ["SKIP", "LOCKED"]

/-- Reads that the first rows by identifier are taken and locked: the parameter with their number. -/
def firstRows (owner : String) (joined : Bool) : Reader Nat := do
  expect ["ORDER", "BY"]
  expectColumn ⟨some owner, "id"⟩
  expect ["LIMIT"]
  let limit ← slot
  expect (lockWords owner joined)
  return limit

/-- Reads the selection of a batch. -/
def batch (n : Nat) : Reader Batch := do
  expect ["SELECT"]
  let selected ← columnRef
  expect ["FROM"]
  let kind ← table
  let owner ← letters
  guard (selected = ⟨some owner, "id"⟩)
  let j ← joined
  expect ["WHERE"]
  let c ← condition n
  return ⟨kind, owner, j, c, ← firstRows owner j.isSome⟩

/-- Reads a deletion of the rows with an identifier of the batch in a column. -/
def batchDeletion (n : Nat) : Reader (EntityKind × String) := do
  expect ["DELETE", "FROM"]
  match ← deletion n with
  | (kind, .inBatch ⟨none, column⟩) => return (kind, column)
  | _ => failure

/-- Reads a deletion of what is attached to the rows of the batch, if there is one. -/
def attachment (n : Nat) : Reader (Option (EntityKind × String)) :=
  choose [([",", "attached", "AS", "("], some <$> closed (batchDeletion n))] (pure none)

def batchCommand (n : Nat) : Reader Command := do
  let b ← batch n
  expect [")"]
  let attached ← attachment n
  guard ((← batchDeletion n) = (b.kind, "id"))
  return .deleteBatch b attached

/-- Reads a command by its first words. -/
def command (n : Nat) : Reader Command :=
  choose [
    (["INSERT", "INTO"], insertCommand),
    (["UPDATE"], updateCommand n),
    (["DELETE", "FROM"], (fun d => .delete d.1 d.2) <$> deletion n),
    (["SELECT", "1", "FROM"], lockCommand n),
    (["SELECT", "COUNT", "(", "*", ")", "FROM"], countCommand n),
    (["SELECT", "("], tallyCommand n),
    (["SELECT"], selectCommand n),
    (["WITH", "batch", "AS", "("], batchCommand n)] failure

end Reader

/-- Reads the text of a command.  No condition is nested more deeply than three times the number of
pieces. -/
def Command.read? (text : String) : Option Command := do
  let l := pieces (← lexemes text.toList)
  match ← (Reader.command (3 * l.length)).run l with
  | (c, []) => some c
  | _ => none

end GrantLedger.Sql
