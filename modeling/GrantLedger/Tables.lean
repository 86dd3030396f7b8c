import GrantLedger.Query.RowQuery

/-!
# The four tables

`Tables` holds the rows of the four kinds in memory. Each operation on it is one atomic step of a
session: it answers and gives the tables after the step.

Three rules hold the tables together. A row stands under the key in its `id` column; the texts of
a unique column differ from row to row; and a row is written or deleted only by who names its
current concurrency token. Deleting and pruning take the rows that reference a removed row with
them, or refuse.
-/

namespace GrantLedger

/-- The rows of one kind, with the identity that the next row without a key receives. -/
structure Table where
  rows : OrdMap Key Row := .empty
  nextIdentity : Int64 := 1
  deriving DecidableEq, Inhabited

/-- The tables of the four kinds. -/
@[ext] structure Tables where
  applications : Table := {}
  authorizations : Table := {}
  scopes : Table := {}
  tokens : Table := {}
  deriving DecidableEq, Inhabited

/-- What became of a delete. -/
inductive DeleteOutcome where
  /-- The row is deleted, together with a number of rows that depended on it. -/
  | deleted (cascaded : Nat)
  /-- No row has the identifier and the token. -/
  | conflict
  /-- The row is kept, because a number of rows depend on it. -/
  | referenced (dependents : Nat)
  deriving DecidableEq, Repr

/-- What one batch of a sweep may remove. -/
structure PruneCriteria where
  /-- Only rows created before this instant are removed. -/
  cutoff : Timestamp
  /-- The instant at which expiry is judged. -/
  now : Timestamp
  /-- How many rows the batch removes at most, rows attached to them aside. -/
  batchSize : Nat

namespace Tables

/-! ## 1. Tables by kind -/

/-- Tables without rows. -/
def empty : Tables := {}

/-- The table of a kind. -/
def get (t : Tables) : EntityKind → Table
  | .application => t.applications
  | .authorization => t.authorizations
  | .scope => t.scopes
  | .token => t.tokens

/-- Replaces the table of a kind. -/
def set (t : Tables) (kind : EntityKind) (table : Table) : Tables :=
  match kind with
  | .application => { t with applications := table }
  | .authorization => { t with authorizations := table }
  | .scope => { t with scopes := table }
  | .token => { t with tokens := table }

@[simp] theorem get_set_self (t : Tables) (kind : EntityKind) (table : Table) :
    (t.set kind table).get kind = table := by
  cases kind <;> rfl

theorem get_set_of_ne (t : Tables) {kind other : EntityKind} (h : other ≠ kind) (table : Table) :
    (t.set kind table).get other = t.get other := by
  cases kind <;> cases other <;> first | rfl | exact absurd rfl h

/-- Tables with the same table of every kind are the same. -/
theorem ext_get {t u : Tables} (h : ∀ kind, t.get kind = u.get kind) : t = u :=
  Tables.ext (h .application) (h .authorization) (h .scope) (h .token)

/-- The rows of a kind, by ascending key. -/
def rows (t : Tables) (kind : EntityKind) : List Row := (t.get kind).rows.values

/-- The row of a kind under a key. -/
def row? (t : Tables) (kind : EntityKind) (id : Key) : Option Row := (t.get kind).rows.get? id

/-- The number of rows of a kind. -/
def size (t : Tables) (kind : EntityKind) : Nat := (t.get kind).rows.size

/-- Replaces the rows of a kind. -/
def setRows (t : Tables) (kind : EntityKind) (rows : OrdMap Key Row) : Tables :=
  t.set kind { t.get kind with rows }

/-- Removes rows of a kind. -/
def removeRows (t : Tables) (kind : EntityKind) (ids : List Key) : Tables :=
  t.setRows kind ((t.get kind).rows.filter fun id _ => !ids.contains id)

/-! ## 2. Writing -/

/-- Whether the row under a key holds a concurrency token. -/
def tokenMatches (t : Tables) (kind : EntityKind) (id : Key) (expected : String) : Bool :=
  (t.row? kind id).any fun r => (r.cell "concurrency_token").text? == some expected

/-- The unique text of a row that another row of the table holds already. A row that is being
updated does not stand in its own way. -/
def takenText? (t : Tables) (kind : EntityKind) (row : Row) (updating : Option Key) :
    Option BackendFault := do
  let column ← kind.uniqueColumn?
  let text ← (row.cell column).text?
  if (t.rows kind).any fun other =>
      (other.cell column).text? == some text && (other.cell "id").key? != updating then
    some (.duplicateValue text kind.table column)
  else none

/-- The successor of an integer. The largest one has none. -/
def successor? (n : Int64) : Option Int64 := if n = Int64.maxValue then none else some (n + 1)

/-- Moves the next identity past an integer that is being stored, if this integer has a successor.
-/
def Table.advance? (table : Table) (id : Key) : Option Table :=
  match id with
  | .int n => (successor? n).map fun next =>
    { table with nextIdentity := max table.nextIdentity next }
  | .text _ | .uuid _ => some table

/-- The identifier that an inserted row is stored under: its own, or the next identity. -/
def Table.identify (table : Table) (row : Row) : Key :=
  (row.cell "id").key?.getD (.int table.nextIdentity)

/-- Stores a new row. An integer identifier counts as used even if the row is then refused. The
largest integer cannot count as used: the sum overflows before anything is stored. -/
def insert (t : Tables) (kind : EntityKind) (row : Row) : Outcome Row × Tables :=
  let id := Table.identify (t.get kind) row
  let stored := row.set "id" (.key id)
  match Table.advance? (t.get kind) id with
  | none => (.panic, t)
  | some table =>
    let t' := t.set kind table
    if (t'.get kind).rows.contains id then
      (.error (.backend (.duplicateKey id kind.table)), t')
    else
      match t'.takenText? kind stored none with
      | some fault => (.error (.backend fault), t')
      | none => (.ok stored, t'.setRows kind ((t'.get kind).rows.insert id stored))

/-- Replaces the row under a key if it holds the expected token. Answers how many rows were
written. -/
def update (t : Tables) (kind : EntityKind) (id : Key) (expected : String) (row : Row) :
    Except StoreError Nat × Tables :=
  if t.tokenMatches kind id expected then
    match t.takenText? kind row (some id) with
    | some fault => (.error (.backend fault), t)
    | none => (.ok 1, t.setRows kind ((t.get kind).rows.insert id (row.set "id" (.key id))))
  else (.ok 0, t)

/-! ## 3. Deleting -/

/-- Whether a column of a row references a key. -/
def references (column : String) (id : Key) (row : Row) : Bool :=
  (row.cell column).key? == some id

/-- The identifiers of the rows of a kind that satisfy a test, ascending. -/
def idsWhere (t : Tables) (kind : EntityKind) (p : Row → Bool) : List Key :=
  ((t.rows kind).filter p).filterMap fun r => (r.cell "id").key?

/-- The authorizations that depend on a row. -/
def dependentAuthorizations (t : Tables) (kind : EntityKind) (id : Key) : List Key :=
  match kind with
  | .application => t.idsWhere .authorization (references "application_id" id)
  | _ => []

/-- The tokens that depend on a row, directly or through an authorization that depends on it. -/
def dependentTokens (t : Tables) (kind : EntityKind) (id : Key) : List Key :=
  match kind with
  | .application =>
    let through := t.dependentAuthorizations kind id
    t.idsWhere .token fun r => references "application_id" id r ||
      ((r.cell "authorization_id").key?).any through.contains
  | .authorization => t.idsWhere .token (references "authorization_id" id)
  | _ => []

/-- Deletes the row under a key if it holds the expected token, treating its dependents by a
policy. -/
def delete (t : Tables) (kind : EntityKind) (id : Key) (expected : String)
    (policy : DeletePolicy) : DeleteOutcome × Tables :=
  if t.tokenMatches kind id expected then
    let authorizations := t.dependentAuthorizations kind id
    let tokens := t.dependentTokens kind id
    let count := authorizations.length + tokens.length
    if 0 < count ∧ policy = .restrict then (.referenced count, t)
    else
      let t' := (t.removeRows .authorization authorizations).removeRows .token tokens
      (.deleted count, t'.setRows kind ((t'.get kind).rows.erase id))
  else (.conflict, t)

/-! ## 4. Reading -/

/-- The rows that answer a query, in its order. -/
def select (t : Tables) (kind : EntityKind) (query : RowQuery) : List Row :=
  query.run (t.rows kind)

/-- The number of rows that satisfy a filter. -/
def count (t : Tables) (kind : EntityKind) (filter : Filter) : Nat :=
  (t.rows kind).countP filter.holds

/-! ## 5. Pruning -/

/-- Whether a row is old enough to be pruned. -/
def createdBefore (row : Row) (criteria : PruneCriteria) : Bool :=
  (row.cell "creation_date").timestamp?.any (·.before criteria.cutoff)

/-- Whether a token may be pruned: it is old, and its status is final, or its authorization is
stored with a status other than valid, or it has expired. -/
def tokenIsPrunable (t : Tables) (criteria : PruneCriteria) (token : Row) : Bool :=
  createdBefore token criteria &&
    ((token.cell "status").text?.any (fun s => s != "inactive" && s != "valid") ||
    (((token.cell "authorization_id").key?.bind (t.row? .authorization)).bind
      fun r => (r.cell "status").text?).any (· != "valid") ||
    (token.cell "expiration_date").timestamp?.any (·.before criteria.now))

/-- Whether an authorization may be pruned: it is old, and its status is not valid, or it was given
for one occasion and no token is attached to it. -/
def authorizationIsPrunable (t : Tables) (criteria : PruneCriteria) (row : Row) : Bool :=
  createdBefore row criteria &&
    ((row.cell "status").text?.any (· != "valid") ||
    ((row.cell "type").text? == some "ad-hoc" &&
      !(row.cell "id").key?.any fun id =>
        (t.rows .token).any (references "authorization_id" id)))

/-- Whether a row of a kind may be pruned. -/
def isPrunable (t : Tables) (kind : EntityKind) (criteria : PruneCriteria) (row : Row) : Bool :=
  match kind with
  | .token => t.tokenIsPrunable criteria row
  | .authorization => t.authorizationIsPrunable criteria row
  | .application | .scope => false

/-- Removes the first prunable rows of a kind by ascending key, as many as a batch may. Tokens
attached to a removed authorization go with it. Answers how many rows of the kind were removed. -/
def pruneBatch (t : Tables) (kind : EntityKind) (criteria : PruneCriteria) : Nat × Tables :=
  let ids := (t.idsWhere kind (t.isPrunable kind criteria)).take criteria.batchSize
  let t' := match kind with
    | .authorization => t.setRows .token ((t.get .token).rows.filter fun _ r =>
        !((r.cell "authorization_id").key?).any ids.contains)
    | _ => t
  (ids.length, t'.removeRows kind ids)

end Tables

end GrantLedger
