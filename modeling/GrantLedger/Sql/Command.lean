import GrantLedger.Query.RowQuery
import GrantLedger.Sql.Token

/-!
# Commands

The statements that the database is asked to run, as syntax trees. A tree holds no values: where one
is needed it names a parameter by its number. `Command.tokens` writes a tree as text.
-/

namespace GrantLedger.Sql

/-! ## 1. Conditions -/

/-- A column, with the letter that its table goes by where there are several. -/
structure ColumnRef where
  owner : Option String
  column : String
  deriving DecidableEq, Repr

/-- What a comparison compares. -/
inductive Operand where
  | column (c : ColumnRef)
  /-- A parameter, counted from one. -/
  | slot (number : Nat)
  | literal (text : String)
  deriving DecidableEq, Repr

/-- The comparisons. -/
inductive Comparison where
  | eq | ne | lt | le | gt | ge
  deriving DecidableEq, Repr

/-- The operator of a comparison. -/
def Comparison.operator : Comparison → String
  | .eq => "="
  | .ne => "<>"
  | .lt => "<"
  | .le => "<="
  | .gt => ">"
  | .ge => ">="

/-- A condition on a row. -/
inductive Clause where
  | compare (op : Comparison) (a b : Operand)
  | isNull (c : ColumnRef)
  | isNotNull (c : ColumnRef)
  /-- A text matches the pattern of a parameter, where a backslash escapes. -/
  | like (c : ColumnRef) (slot : Nat)
  /-- The value of a column is one of several parameters. -/
  | oneOf (c : ColumnRef) (slots : List Nat)
  | never
  | and (a b : Clause)
  | or (a b : Clause)
  /-- The value of a column is the identifier of a row of a table that satisfies a condition. -/
  | inTable (c : ColumnRef) (kind : EntityKind) (condition : Clause)
  /-- The value of a column is an identifier of the batch. -/
  | inBatch (c : ColumnRef)
  /-- No row of a table that goes by a letter satisfies a condition. -/
  | notExists (kind : EntityKind) (owner : String) (condition : Clause)
  deriving DecidableEq, Repr

/-- The tokens of a column. -/
def ColumnRef.tokens (c : ColumnRef) : List Token :=
  match c.owner with
  | none => [.name c.column]
  | some owner => [.plain (owner ++ "."), .name c.column]

/-- The tokens of an operand. -/
def Operand.tokens : Operand → List Token
  | .column c => c.tokens
  | .slot n => [.slot n]
  | .literal text => [.literal text]

/-- Tokens in parentheses if need be. -/
def parenthesized (needed : Bool) (tokens : List Token) : List Token :=
  if needed then .plain "(" :: tokens ++ [.plain ")"] else tokens

namespace Clause

/-- Whether a condition is a conjunction. -/
def isAnd : Clause → Bool
  | .and _ _ => true
  | _ => false

/-- Whether a condition is a disjunction. -/
def isOr : Clause → Bool
  | .or _ _ => true
  | _ => false

/-- The tokens of a condition. Conjunctions and disjunctions inside one another stand in
parentheses. -/
def tokens : Clause → List Token
  | .compare op a b => a.tokens ++ .plain (" " ++ op.operator ++ " ") :: b.tokens
  | .isNull c => c.tokens ++ [.plain " IS NULL"]
  | .isNotNull c => c.tokens ++ [.plain " IS NOT NULL"]
  | .like c n => c.tokens ++ [.plain " LIKE ", .slot n, .plain " ESCAPE ", .literal "\\"]
  | .oneOf c slots => c.tokens ++ .plain " IN (" :: commas (slots.map .slot) ++ [.plain ")"]
  | .never => [.plain "FALSE"]
  | .and a b =>
    parenthesized a.isOr a.tokens ++ .plain " AND " :: parenthesized b.isOr b.tokens
  | .or a b =>
    parenthesized a.isAnd a.tokens ++ .plain " OR " :: parenthesized b.isAnd b.tokens
  | .inTable c kind condition =>
    c.tokens ++ [.plain " IN (SELECT ", .name "id", .plain " FROM ", .name kind.table,
      .plain " WHERE "] ++ condition.tokens ++ [.plain ")"]
  | .inBatch c => c.tokens ++ [.plain " IN (SELECT ", .name "id", .plain " FROM batch)"]
  | .notExists kind owner condition =>
    [.plain "NOT EXISTS (SELECT 1 FROM ", .name kind.table, .plain (" " ++ owner ++ " WHERE ")] ++
      condition.tokens ++ [.plain ")"]

end Clause

/-- The tokens of a condition on the rows of a statement, if there is one. -/
def whereTokens : Option Clause → List Token
  | none => []
  | some c => .plain " WHERE " :: c.tokens

/-! ## 2. Commands -/

/-- A table that is joined to another one by a reference of it. -/
structure Join where
  kind : EntityKind
  /-- The letter that the joined table goes by. -/
  owner : String
  /-- The reference to its identifier. -/
  reference : ColumnRef
  deriving DecidableEq, Repr

/-- The first rows of a table, by identifier, that satisfy a condition and that nobody has locked.
-/
structure Batch where
  kind : EntityKind
  /-- The letter that the table goes by. -/
  owner : String
  join : Option Join
  condition : Clause
  /-- The parameter that limits the number of rows. -/
  limit : Nat
  deriving DecidableEq, Repr

/-- A command. -/
inductive Command where
  /-- Stores a row and returns it: the columns receive the parameters in turn. -/
  | insert (kind : EntityKind) (columns : List String)
  /-- Replaces the values of columns by the parameters in turn. -/
  | update (kind : EntityKind) (columns : List String) (condition : Clause)
  /-- Locks rows. -/
  | lock (kind : EntityKind) (condition : Clause)
  /-- Deletes rows. -/
  | delete (kind : EntityKind) (condition : Clause)
  /-- Adds up the numbers of rows of several tables. -/
  | tally (counts : List (EntityKind × Clause))
  /-- Returns rows in an order through a window. -/
  | select (kind : EntityKind) (condition : Option Clause) (order : List OrderTerm)
      (limit offset : Option Nat)
  /-- Counts rows. -/
  | count (kind : EntityKind) (condition : Option Clause)
  /-- Deletes a batch, and the rows of other tables with one of its identifiers in a column. -/
  | deleteBatch (batch : Batch) (attached : Option (EntityKind × String))
  deriving DecidableEq

/-- The quoted columns of a table. -/
def columnTokens (kind : EntityKind) : List Token := commas (kind.columns.map fun c => .name c.name)

/-- An unqualified column. -/
def column (name : String) : ColumnRef := ⟨none, name⟩

/-- The keyword of a direction. -/
def directionKeyword : Direction → String
  | .asc => " ASC"
  | .desc => " DESC"

/-- The tokens of an order. -/
def orderTokens (order : List OrderTerm) : List Token :=
  if order.isEmpty then []
  else .plain " ORDER BY " :: separated ", " (order.map fun t =>
    [.name t.column, .plain (directionKeyword t.direction)])

/-- A keyword with a parameter, if there is one. -/
def slotTokens (keyword : String) : Option Nat → List Token
  | none => []
  | some n => [.plain keyword, .slot n]

/-- The tokens of a batch. -/
def Batch.tokens (b : Batch) : List Token :=
  let id := ColumnRef.tokens ⟨some b.owner, "id"⟩
  let join := match b.join with
    | none => []
    | some j => [.plain " LEFT JOIN ", .name j.kind.table, .plain (" " ++ j.owner ++ " ON ")] ++
        (Clause.compare .eq (.column ⟨some j.owner, "id"⟩) (.column j.reference)).tokens
  let lock := if b.join.isSome then " FOR UPDATE OF " ++ b.owner ++ " SKIP LOCKED"
    else " FOR UPDATE SKIP LOCKED"
  .plain "SELECT " :: id ++ [.plain " FROM ", .name b.kind.table, .plain (" " ++ b.owner)] ++
    join ++ .plain " WHERE " :: b.condition.tokens ++ .plain " ORDER BY " :: id ++
    [.plain " LIMIT ", .slot b.limit, .plain lock]

/-- The tokens of a deletion. -/
def deleteTokens (kind : EntityKind) (condition : Clause) : List Token :=
  [.plain "DELETE FROM ", .name kind.table, .plain " WHERE "] ++ condition.tokens

namespace Command

/-- The tokens of a command. -/
def tokens : Command → List Token
  | .insert kind columns =>
    [.plain "INSERT INTO ", .name kind.table, .plain " ("] ++ commas (columns.map .name) ++
      .plain ") VALUES (" :: commas (columns.zipIdx.map fun c => .slot (c.2 + 1)) ++
      .plain ") RETURNING " :: columnTokens kind
  | .update kind columns condition =>
    [.plain "UPDATE ", .name kind.table, .plain " SET "] ++
      separated ", " (columns.zipIdx.map fun c => [.name c.1, .plain " = ", .slot (c.2 + 1)]) ++
      .plain " WHERE " :: condition.tokens
  | .lock kind condition =>
    [.plain "SELECT 1 FROM ", .name kind.table, .plain " WHERE "] ++ condition.tokens ++
      [.plain " FOR UPDATE"]
  | .delete kind condition => deleteTokens kind condition
  | .tally counts =>
    .plain "SELECT (" :: separated " + " (counts.map fun c =>
      [.plain "(SELECT COUNT(*) FROM ", .name c.1.table, .plain " WHERE "] ++ c.2.tokens ++
        [.plain ")"]) ++ [.plain ")::BIGINT"]
  | .select kind condition order limit offset =>
    .plain "SELECT " :: columnTokens kind ++ [.plain " FROM ", .name kind.table] ++
      whereTokens condition ++ orderTokens order ++ slotTokens " LIMIT " limit ++
      slotTokens " OFFSET " offset
  | .count kind condition =>
    [.plain "SELECT COUNT(*) FROM ", .name kind.table] ++ whereTokens condition
  | .deleteBatch batch attached =>
    let attachedTokens := match attached with
      | none => [.plain ") "]
      | some (kind, reference) =>
        .plain "), attached AS (" :: deleteTokens kind (.inBatch (column reference)) ++
          [.plain ") "]
    .plain "WITH batch AS (" :: batch.tokens ++ attachedTokens ++
      deleteTokens batch.kind (.inBatch (column "id"))

/-- The text of a command. -/
def text (c : Command) : String := renderTokens c.tokens

end Command

end GrantLedger.Sql
