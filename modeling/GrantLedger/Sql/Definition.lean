import GrantLedger.Key
import GrantLedger.Schema
import GrantLedger.Sql.Token

/-!
# Table definitions

The text that creates the four tables with their indexes, each only if it does not exist. A table
comes after the tables that it references. References have no rule for deletions, because a store
deletes dependents itself.
-/

namespace GrantLedger.Sql

/-- The tokens of the definition of a column. -/
def columnDefinition (key : KeyKind) (c : Column) : List Token :=
  .name c.name :: match c.type with
  | .key =>
    [.plain (" " ++ key.sqlType ++
      (if key = .bigint then " GENERATED BY DEFAULT AS IDENTITY PRIMARY KEY" else " PRIMARY KEY"))]
  | .reference target =>
    [.plain (" " ++ key.sqlType ++ " REFERENCES "), .name target.table, .plain " (", .name "id",
      .plain ")"]
  | .text (some limit) => [.plain (" VARCHAR(" ++ String.ofList (Numeral.digits limit) ++ ")")]
  | .text none => [.plain " TEXT"]
  | .timestamp => [.plain " TIMESTAMPTZ"]

/-- The tokens that create an index over columns of a table. -/
def indexDefinition (unique : Bool) (kind : EntityKind) (columns : List String) (suffix : String) :
    List Token :=
  [.plain (if unique then "CREATE UNIQUE INDEX IF NOT EXISTS " else "CREATE INDEX IF NOT EXISTS "),
    .name (kind.table ++ "_" ++ String.intercalate "_" columns ++ suffix), .plain " ON ",
    .name kind.table, .plain " ("] ++ commas (columns.map .name) ++ [.plain ");\n"]

/-- The tokens that create the table of a kind, with the index of its unique column. -/
def tableDefinition (key : KeyKind) (kind : EntityKind) : List Token :=
  [.plain "CREATE TABLE IF NOT EXISTS ", .name kind.table, .plain " (\n"] ++
    separated ",\n" (kind.columns.map fun c => .plain "    " :: columnDefinition key c) ++
    .plain "\n);\n" ::
    kind.uniqueColumn?.elim [] fun c => indexDefinition true kind [c] "_key"

/-- The columns that rows are looked up by, beyond identifiers and unique columns. -/
def lookupIndexes : List (EntityKind × List String) := [
  (.authorization, ["application_id", "status", "subject", "type"]),
  (.token, ["application_id", "status", "subject", "type"]),
  (.token, ["authorization_id"])]

/-- The text that creates the tables and indexes for a form of keys. -/
def definitions (key : KeyKind) : String :=
  renderTokens (EntityKind.all.flatMap (tableDefinition key) ++
    lookupIndexes.flatMap fun i => indexDefinition false i.1 i.2 "_idx")

end GrantLedger.Sql
