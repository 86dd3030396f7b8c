import GrantLedger.Sql.Command
import GrantLedger.Sql.Param
import GrantLedger.Tables

/-!
# Statements

A statement is a command with its parameters. Each operation on the four tables has a statement that
does the same in a database. Building one fails only if a value cannot be bound to its column.
-/

namespace GrantLedger.Sql

/-- A command with its parameters. -/
structure Statement where
  command : Command
  params : List Param
  deriving DecidableEq

/-- The text of a statement. -/
def Statement.text (s : Statement) : String := s.command.text

/-! ## 1. Writing -/

/-- The values of columns as parameters. -/
def bindColumns (key : KeyKind) (columns : List Column) (row : Row) :
    Except StoreError (List Param) :=
  columns.mapM fun c => Param.ofCell key c.type (row.cell c.name)

/-- The columns of a kind without the identifier. -/
def valueColumns (kind : EntityKind) : List Column := kind.columns.filter fun c => c.name != "id"

/-- A column that equals a parameter. -/
def columnIs (name : String) (slot : Nat) : Clause :=
  .compare .eq (.column (column name)) (.slot slot)

/-- The row with an identifier and a concurrency token, which are parameters from a number on. -/
def tokenMatch (slot : Nat) : Clause :=
  .and (columnIs "id" slot) (columnIs "concurrency_token" (slot + 1))

/-- The parameters of `tokenMatch`. -/
def bindTokenMatch (key : KeyKind) (id : Key) (expected : String) :
    Except StoreError (List Param) := do
  return [← Param.ofKey key id, .text (some expected)]

/-- Stores a new row. An identifier that the row does not have is left to the database. -/
def insert (kind : EntityKind) (key : KeyKind) (row : Row) : Except StoreError Statement := do
  let columns := if (row.cell "id").isNull then valueColumns kind else kind.columns
  return ⟨.insert kind (columns.map (·.name)), ← bindColumns key columns row⟩

/-- Replaces the row under a key if it holds the expected token. -/
def update (kind : EntityKind) (key : KeyKind) (id : Key) (expected : String) (row : Row) :
    Except StoreError Statement := do
  let columns := valueColumns kind
  let values ← bindColumns key columns row
  let keys ← bindTokenMatch key id expected
  return ⟨.update kind (columns.map (·.name)) (tokenMatch (columns.length + 1)), values ++ keys⟩

/-- Locks the row under a key if it holds the expected token. -/
def lockRow (kind : EntityKind) (key : KeyKind) (id : Key) (expected : String) :
    Except StoreError Statement := do
  return ⟨.lock kind (tokenMatch 1), ← bindTokenMatch key id expected⟩

/-- Deletes the row under a key. -/
def deleteRow (kind : EntityKind) (key : KeyKind) (id : Key) : Except StoreError Statement := do
  return ⟨.delete kind (columnIs "id" 1), [← Param.ofKey key id]⟩

/-! ## 2. Dependents -/

/-- The rows that depend on a row of a kind whose identifier is the first parameter, by kind, tokens
first. -/
def dependents : EntityKind → List (EntityKind × Clause)
  | .application => [
      (.token, .or (columnIs "application_id" 1)
        (.inTable (column "authorization_id") .authorization (columnIs "application_id" 1))),
      (.authorization, columnIs "application_id" 1)]
  | .authorization => [(.token, columnIs "authorization_id" 1)]
  | .scope | .token => []

/-- Counts the rows that depend on a row, for a kind that may have dependents. -/
def countDependents (kind : EntityKind) (key : KeyKind) (id : Key) :
    Except StoreError (Option Statement) :=
  match dependents kind with
  | [] => .ok none
  | counts => (Param.ofKey key id).map fun p => some ⟨.tally counts, [p]⟩

/-- Deletes the rows that depend on a row, a statement per kind. -/
def deleteDependents (kind : EntityKind) (key : KeyKind) (id : Key) :
    Except StoreError (List Statement) :=
  (dependents kind).mapM fun d => (Param.ofKey key id).map fun p => ⟨.delete d.1 d.2, [p]⟩

/-! ## 3. Reading -/

/-- Writes a backslash before the characters that have a meaning in a pattern. -/
def escapeLike : List Char → List Char
  | [] => []
  | c :: rest =>
    if c = '\\' ∨ c = '%' ∨ c = '_' then '\\' :: c :: escapeLike rest else c :: escapeLike rest

/-- The pattern of the texts that have a text as a part. -/
def containsPattern (needle : String) : String :=
  String.ofList ('%' :: escapeLike needle.toList ++ ['%'])

/-- A test of a column, with its parameters, which are numbered from `slot` on. -/
def bindPredicate (key : KeyKind) (c : Column) (slot : Nat) (p : Predicate) :
    Except StoreError (Clause × List Param) :=
  let compare (op : Comparison) (value : Cell) : Except StoreError (Clause × List Param) := do
    return (.compare op (.column (column c.name)) (.slot slot), [← Param.ofCell key c.type value])
  match p with
  | .eq value => compare .eq value
  | .ne value => compare .ne value
  | .lt value => compare .lt value
  | .le value => compare .le value
  | .gt value => compare .gt value
  | .ge value => compare .ge value
  | .isNull => return (.isNull (column c.name), [])
  | .isNotNull => return (.isNotNull (column c.name), [])
  | .contains needle =>
    return (.like (column c.name) slot, [.text (some (containsPattern needle))])
  | .oneOf [] => return (.never, [])
  | .oneOf values => do
    let params ← values.mapM (Param.ofCell key c.type)
    return (.oneOf (column c.name) ((List.range params.length).map (slot + ·)), params)

/-- Conditions on the columns of a kind, with their parameters, which are numbered from `slot` on.
-/
def bindConditions (kind : EntityKind) (key : KeyKind) :
    Nat → List Condition → Except StoreError (Option Clause × List Param)
  | _, [] => .ok (none, [])
  | slot, c :: rest =>
    match kind.column? c.column with
    | none => .error (.validation (.statementColumn kind c.column))
    | some column => do
      let (clause, params) ← bindPredicate key column slot c.predicate
      let (others, more) ← bindConditions kind key (slot + params.length) rest
      return (some (others.elim clause (.and clause)), params ++ more)

/-- Returns the rows that answer a query. -/
def select (kind : EntityKind) (key : KeyKind) (query : RowQuery) :
    Except StoreError Statement := do
  let (condition, params) ← bindConditions kind key 1 query.filter.conditions
  let limit := query.limit.toList.map Param.ofCount
  let offset := if query.offset = 0 then [] else [Param.ofCount query.offset]
  let limitSlot := query.limit.map fun _ => params.length + 1
  let offsetSlot := if query.offset = 0 then none else some (params.length + limit.length + 1)
  return ⟨.select kind condition query.order limitSlot offsetSlot, params ++ limit ++ offset⟩

/-- Counts the rows that satisfy a filter. -/
def count (kind : EntityKind) (key : KeyKind) (filter : Filter) : Except StoreError Statement := do
  let (condition, params) ← bindConditions kind key 1 filter.conditions
  return ⟨.count kind condition, params⟩

/-! ## 4. Pruning -/

/-- A column of the table that goes by a letter, compared with another operand. -/
def ownedCompare (op : Comparison) (owner name : String) (other : Operand) : Clause :=
  .compare op (.column ⟨some owner, name⟩) other

/-- The tokens that may be pruned: the cutoff is the first parameter, the present the second. -/
def prunableTokens : Clause :=
  .and (ownedCompare .lt "t" "creation_date" (.slot 1))
    (.or (.and (ownedCompare .ne "t" "status" (.literal "inactive"))
        (ownedCompare .ne "t" "status" (.literal "valid")))
      (.or (ownedCompare .ne "a" "status" (.literal "valid"))
        (ownedCompare .lt "t" "expiration_date" (.slot 2))))

/-- The authorizations that may be pruned: the cutoff is the first parameter. -/
def prunableAuthorizations : Clause :=
  .and (ownedCompare .lt "a" "creation_date" (.slot 1))
    (.or (ownedCompare .ne "a" "status" (.literal "valid"))
      (.and (ownedCompare .eq "a" "type" (.literal "ad-hoc"))
        (.notExists .token "t"
          (ownedCompare .eq "t" "authorization_id" (.column ⟨some "a", "id"⟩)))))

/-- Removes a batch of prunable rows of a kind. Tokens attached to a removed authorization go with
it. Applications and scopes are never pruned. -/
def pruneBatch (kind : EntityKind) (criteria : PruneCriteria) : Option Statement :=
  let cutoff := Param.timestamp (some criteria.cutoff)
  let limit := Param.ofCount criteria.batchSize
  match kind with
  | .token =>
    let join : Join := ⟨.authorization, "a", ⟨some "t", "authorization_id"⟩⟩
    some ⟨.deleteBatch ⟨.token, "t", some join, prunableTokens, 3⟩ none,
      [cutoff, .timestamp (some criteria.now), limit]⟩
  | .authorization =>
    some ⟨.deleteBatch ⟨.authorization, "a", none, prunableAuthorizations, 2⟩
      (some (.token, "authorization_id")), [cutoff, limit]⟩
  | .application | .scope => none

end GrantLedger.Sql
