import GrantLedger.Proofs.SqlReader
import Mathlib.Data.Multiset.Bind
import Mathlib.Data.Multiset.Filter

/-!
# What statements mean

The meaning of the statements that read, count and remove rows, in a database that runs one session.
The database is sent a text with parameters: it reads the text as a command (`Command.read?`) and
runs the command.  Both are trusted: nothing is checked against a database.  A table is a multiset of
tuples, so it has no order of its own, and a condition has one of three truths.

* `Clause.truth` is the truth of a condition.  A comparison with NULL is unknown, and a tuple
  satisfies a condition only if the condition holds of it.
* `Sorts` allows every sequence that an order allows; NULL sorts as the largest value.
* `afterOffset` and `upToLimit` are the window that OFFSET and LIMIT leave of a sequence.
* `Command.accepted` is what the database checks before it runs a command: columns and parameters
  exist, and what is compared is of one type.  So the truth that a comparison of two types receives
  here is never used.
* `TextRuns` relates a text, parameters and a database to the answers and to the databases after it.

Commands that store, replace or lock rows are not accepted here.
-/

namespace GrantLedger.Sql

/-! ## 1. Truth -/

/-- The truth of a condition. -/
inductive Truth where
  | holds
  | fails
  | unknown
  deriving DecidableEq, Repr

namespace Truth

/-- The truth of a condition that is never unknown. -/
def ofBool (b : Bool) : Truth := if b then .holds else .fails

/-- A conjunction fails if a part fails, and otherwise is unknown if a part is. -/
def and : Truth → Truth → Truth
  | .fails, _ | _, .fails => .fails
  | .holds, .holds => .holds
  | _, _ => .unknown

/-- A disjunction holds if a part holds, and otherwise is unknown if a part is. -/
def or : Truth → Truth → Truth
  | .holds, _ | _, .holds => .holds
  | .fails, .fails => .fails
  | _, _ => .unknown

/-- The disjunction of any number of parts. -/
def any (parts : Multiset Truth) : Truth :=
  if .holds ∈ parts then .holds else if .unknown ∈ parts then .unknown else .fails

@[simp] theorem ofBool_eq_holds {b : Bool} : ofBool b = .holds ↔ b = true := by
  cases b <;> simp [ofBool]

@[simp] theorem and_eq_holds {a b : Truth} : a.and b = .holds ↔ a = .holds ∧ b = .holds := by
  cases a <;> cases b <;> simp [and]

@[simp] theorem or_eq_holds {a b : Truth} : a.or b = .holds ↔ a = .holds ∨ b = .holds := by
  cases a <;> cases b <;> simp [or]

@[simp] theorem any_eq_holds {parts : Multiset Truth} : any parts = .holds ↔ .holds ∈ parts := by
  rw [any]
  split
  · next h => simp [h]
  · next h => split <;> simp [h]

end Truth

/-! ## 2. Values -/

/-- The types of columns and parameters. -/
inductive ValueType where
  | text
  | int
  | uuid
  | timestamp
  deriving DecidableEq, Repr

/-- A value of the database.  A point in time is kept without the offset of a clock. -/
inductive Value where
  | null
  | text (value : String)
  | int (value : Int64)
  | uuid (value : Uuid)
  | timestamp (instant : Int)
  deriving DecidableEq

/-- The type of the keys of a database. -/
def keyType : KeyKind → ValueType
  | .text => .text
  | .bigint => .int
  | .uuid => .uuid

/-- The type of the values of a column. -/
def columnType (key : KeyKind) : ColumnType → ValueType
  | .key | .reference _ => keyType key
  | .text _ => .text
  | .timestamp => .timestamp

namespace Value

/-- Compares two values of one type; texts by code point.  A comparison with NULL has no result. -/
def compare? : Value → Value → Option Ordering
  | .text a, .text b => some (compare a b)
  | .int a, .int b => some (compare a b)
  | .uuid a, .uuid b => some (compare a b)
  | .timestamp a, .timestamp b => some (compare a b)
  | _, _ => none

/-- The order in which values of one type are sorted: NULL is larger than every value. -/
def order : Value → Value → Ordering
  | .null, .null => .eq
  | .null, _ => .gt
  | _, .null => .lt
  | a, b => (a.compare? b).getD .eq

end Value

namespace Param

/-- The value of a parameter. -/
def value : Param → Value
  | .text s => s.elim .null .text
  | .int n => n.elim .null .int
  | .uuid u => u.elim .null .uuid
  | .timestamp t => t.elim .null fun t => .timestamp t.instant

/-- The type of a parameter. -/
def type : Param → ValueType
  | .text _ => .text
  | .int _ => .int
  | .uuid _ => .uuid
  | .timestamp _ => .timestamp

/-- The number of rows that a parameter stands for. -/
def count? : Param → Option Nat
  | .int (some n) => if 0 ≤ n.toInt then some n.toInt.toNat else none
  | _ => none

end Param

/-- A parameter by its number, counted from one. -/
def param? (params : List Param) : Nat → Option Param
  | 0 => none
  | n + 1 => params[n]?

/-- The number of rows that a parameter stands for, by its number. -/
def countAt? (params : List Param) (n : Nat) : Option Nat := (param? params n).bind Param.count?

/-! ## 3. Conditions -/

/-- Whether a comparison accepts a result. -/
def Comparison.accepts : Comparison → Ordering → Bool
  | .eq => (· == .eq)
  | .ne => (· != .eq)
  | .lt => (· == .lt)
  | .le => (· != .gt)
  | .gt => (· == .gt)
  | .ge => (· != .lt)

/-- The truth of a comparison. -/
def Comparison.truth (op : Comparison) (a b : Value) : Truth :=
  (a.compare? b).elim .unknown fun o => .ofBool (op.accepts o)

/-- Whether a text matches a pattern: a percent sign stands for any text, an underscore for any
character, and a backslash takes the character after it literally.  No pattern here ends in a
backslash, which the database refuses. -/
def likes : List Char → List Char → Bool
  | [], text => text.isEmpty
  | '%' :: pattern, text => text.tails.any (likes pattern)
  | '_' :: pattern, text =>
    match text with
    | [] => false
    | _ :: rest => likes pattern rest
  | '\\' :: c :: pattern, text =>
    match text with
    | [] => false
    | d :: rest => c == d && likes pattern rest
  | c :: pattern, text =>
    match text with
    | [] => false
    | d :: rest => c == d && likes pattern rest

/-- The truth of a match. -/
def likeTruth : Value → Value → Truth
  | .text text, .text pattern => .ofBool (likes pattern.toList text.toList)
  | _, _ => .unknown

/-- A row of a table: the values of its columns by their names. -/
abbrev Tuple := String → Value

/-- The rows of every table, in no order. -/
abbrev Database := EntityKind → Multiset Tuple

/-- What a condition is read against. -/
structure Frame where
  db : Database
  params : List Param
  /-- The identifiers of the batch of the statement. -/
  batch : Multiset Value := 0
  /-- The tuple that a letter goes by, or that goes by none. -/
  tuple : Option String → Tuple := fun _ _ => .null

namespace Frame

/-- Lets a tuple go by a letter, or by none. -/
def bind (f : Frame) (owner : Option String) (r : Tuple) : Frame :=
  { f with tuple := Function.update f.tuple owner r }

/-- The value of a column. -/
def column (f : Frame) (c : ColumnRef) : Value := f.tuple c.owner c.column

/-- The value of a parameter. -/
def param (f : Frame) (n : Nat) : Value := (param? f.params n).elim .null Param.value

/-- The value of an operand. -/
def operand (f : Frame) : Operand → Value
  | .column c => f.column c
  | .slot n => f.param n
  | .literal text => .text text

end Frame

/-- The truth of a condition.  In a condition on another table, a column that goes by no letter is a
column of that table. -/
def Clause.truth : Clause → Frame → Truth
  | .compare op a b, f => op.truth (f.operand a) (f.operand b)
  | .isNull c, f => .ofBool (f.column c = .null)
  | .isNotNull c, f => .ofBool (f.column c ≠ .null)
  | .like c n, f => likeTruth (f.column c) (f.param n)
  | .oneOf c slots, f => .any (slots.map fun n => Comparison.eq.truth (f.column c) (f.param n))
  | .never, _ => .fails
  | .and a b, f => (a.truth f).and (b.truth f)
  | .or a b, f => (a.truth f).or (b.truth f)
  | .inTable c kind condition, f =>
    .any (((f.db kind).filter fun r => condition.truth (f.bind none r) = .holds).map fun r =>
      Comparison.eq.truth (f.column c) (r "id"))
  | .inBatch c, f => .any (f.batch.map (Comparison.eq.truth (f.column c)))
  | .notExists kind owner condition, f =>
    .ofBool (((f.db kind).filter fun r =>
      condition.truth (f.bind (some owner) r) = .holds).card = 0)

/-- Whether a condition holds, if there is one. -/
def satisfied (condition : Option Clause) (f : Frame) : Bool :=
  condition.all fun c => c.truth f = .holds

/-! ## 4. What is accepted -/

/-- What the names in a condition stand for. -/
structure Names where
  key : KeyKind
  params : List Param
  /-- The table that a letter goes by, or that goes by none. -/
  table : Option String → Option EntityKind := fun _ => none

namespace Names

/-- Lets a table go by a letter, or by none. -/
def bind (n : Names) (owner : Option String) (kind : EntityKind) : Names :=
  { n with table := Function.update n.table owner (some kind) }

/-- The type of a column, if there is one. -/
def column? (n : Names) (c : ColumnRef) : Option ValueType := do
  let kind ← n.table c.owner
  let column ← kind.column? c.column
  return columnType n.key column.type

/-- The type of a parameter, if there is one. -/
def param? (n : Names) (slot : Nat) : Option ValueType := (Sql.param? n.params slot).map Param.type

/-- The type of an operand, if it stands for anything. -/
def operand? (n : Names) : Operand → Option ValueType
  | .column c => n.column? c
  | .slot slot => n.param? slot
  | .literal _ => some .text

end Names

/-- Whether the database accepts a condition: its names stand for something, and it compares values
of one type.  A list of values may not be empty. -/
def Clause.accepted : Clause → Names → Bool
  | .compare _ a b, n => (n.operand? a).isSome && n.operand? a == n.operand? b
  | .isNull c, n | .isNotNull c, n => (n.column? c).isSome
  | .like c slot, n => n.column? c == some .text && n.param? slot == some .text
  | .oneOf c slots, n =>
    (n.column? c).isSome && !slots.isEmpty && slots.all fun slot => n.param? slot == n.column? c
  | .never, _ => true
  | .and a b, n | .or a b, n => a.accepted n && b.accepted n
  | .inTable c kind condition, n =>
    n.column? c == some (keyType n.key) && condition.accepted (n.bind none kind)
  | .inBatch c, n => n.column? c == some (keyType n.key)
  | .notExists kind owner condition, n => condition.accepted (n.bind (some owner) kind)

/-! ## 5. Tables -/

/-- Compares two tuples by one term of an order. -/
def termOrder (term : OrderTerm) (a b : Tuple) : Ordering :=
  match term.direction with
  | .asc => (a term.column).order (b term.column)
  | .desc => ((a term.column).order (b term.column)).swap

/-- Compares two tuples by a list of terms, an earlier term before a later one. -/
def tupleOrder : List OrderTerm → Tuple → Tuple → Ordering
  | [], _, _ => .eq
  | term :: rest, a, b => (termOrder term a b).then (tupleOrder rest a b)

/-- A sequence of the given tuples in an order.  Tuples that compare equal may stand in any. -/
structure Sorts (order : List OrderTerm) (tuples : Multiset Tuple) (sorted : List Tuple) :
    Prop where
  same : (sorted : Multiset Tuple) = tuples
  ordered : sorted.Pairwise fun a b => (tupleOrder order a b).isLE

namespace Database

/-- The tuples of a table that satisfy a condition. -/
def matching (db : Database) (params : List Param) (kind : EntityKind)
    (condition : Option Clause) : Multiset Tuple :=
  (db kind).filter fun r => satisfied condition (Frame.bind { db, params } none r)

/-- The number of tuples that satisfy the conditions on their tables, together. -/
def tally (db : Database) (params : List Param) : List (EntityKind × Clause) → Nat
  | [] => 0
  | c :: rest => (db.matching params c.1 (some c.2)).card + db.tally params rest

/-- Whether a column of a tuple holds one of the identifiers of a batch. -/
def inBatch (db : Database) (params : List Param) (ids : Multiset Value) (name : String)
    (r : Tuple) : Bool :=
  satisfied (some (.inBatch (Sql.column name))) (Frame.bind { db, params, batch := ids } none r)

/-- Removes tuples. -/
def without (db : Database) (gone : EntityKind → Tuple → Bool) : Database :=
  fun kind => (db kind).filter fun r => gone kind r = false

end Database

/-- The tuples that are joined to a tuple: those that its reference names, or one of NULLs. -/
def Join.partners (j : Join) (f : Frame) : Multiset Tuple :=
  let on := Clause.compare .eq (.column ⟨some j.owner, "id"⟩) (.column j.reference)
  let named := (f.db j.kind).filter fun s => on.truth (f.bind (some j.owner) s) = .holds
  if named.card = 0 then {fun _ => .null} else named

namespace Batch

/-- The frames in which the condition of a batch is read for a tuple. -/
def frames (b : Batch) (db : Database) (params : List Param) (r : Tuple) : Multiset Frame :=
  let f := Frame.bind { db, params } (some b.owner) r
  b.join.elim {f} fun j => (j.partners f).map (f.bind (some j.owner))

/-- The tuples that a batch is taken from.  A tuple with several partners may occur several times.
-/
def candidates (b : Batch) (db : Database) (params : List Param) : Multiset Tuple :=
  (db b.kind).bind fun r =>
    ((b.frames db params r).filter fun f => b.condition.truth f = .holds).map fun _ => r

/-- The identifiers that a batch may come to: the first ones of the tuples it is taken from. -/
def Takes (b : Batch) (db : Database) (params : List Param) (ids : Multiset Value) : Prop :=
  ∃ sorted n, Sorts [⟨"id", .asc⟩] (b.candidates db params) sorted ∧
    countAt? params b.limit = some n ∧ ids = ((sorted.take n).map (· "id") : List Value)

end Batch

/-! ## 6. Commands -/

/-- What a command answers. -/
inductive Answer where
  /-- The values of the columns of some tuples. -/
  | rows (tuples : List (List Value))
  /-- A number. -/
  | number (n : Nat)
  /-- How many tuples of its table were removed. -/
  | removed (n : Nat)
  deriving DecidableEq

/-- The values of the columns of a tuple, in the order of their declaration. -/
def listed (kind : EntityKind) (r : Tuple) : List Value := kind.columns.map fun c => r c.name

/-- What OFFSET leaves of a sequence: all but its first rows. -/
def afterOffset {α : Type} (offset : Option Nat) (l : List α) : List α :=
  match offset with
  | none => l
  | some n => l.drop n

/-- What LIMIT leaves of a sequence: its first rows.  The offset is taken before. -/
def upToLimit {α : Type} (limit : Option Nat) (l : List α) : List α :=
  match limit with
  | none => l
  | some n => l.take n

/-- Runs a command with parameters: its answer and the database after it. -/
inductive Command.Runs (db : Database) (params : List Param) :
    Command → Answer → Database → Prop
  | select {kind : EntityKind} {condition : Option Clause} {order : List OrderTerm}
      {limit offset : Option Nat} {sorted : List Tuple} :
      Sorts order (db.matching params kind condition) sorted →
      Command.Runs db params (.select kind condition order limit offset)
        (.rows ((upToLimit (limit.bind (countAt? params))
          (afterOffset (offset.bind (countAt? params)) sorted)).map (listed kind))) db
  | count {kind : EntityKind} {condition : Option Clause} :
      Command.Runs db params (.count kind condition)
        (.number (db.matching params kind condition).card) db
  | tally {counts : List (EntityKind × Clause)} :
      Command.Runs db params (.tally counts) (.number (db.tally params counts)) db
  | delete {kind : EntityKind} {condition : Clause} :
      Command.Runs db params (.delete kind condition)
        (.removed (db.matching params kind (some condition)).card)
        (db.without fun other r =>
          other = kind && satisfied (some condition) (Frame.bind { db, params } none r))
  /-- Both deletions see the tables as they were before. -/
  | deleteBatch {batch : Batch} {attached : Option (EntityKind × String)} {ids : Multiset Value} :
      batch.Takes db params ids →
      Command.Runs db params (.deleteBatch batch attached)
        (.removed ((db batch.kind).filter fun r => db.inBatch params ids "id" r).card)
        (db.without fun kind r => (kind = batch.kind && db.inBatch params ids "id" r) ||
          attached.any fun a => kind = a.1 && db.inBatch params ids a.2 r)

/-- Whether the database accepts a command with parameters. -/
def Command.accepted (key : KeyKind) (params : List Param) : Command → Bool
  | .insert .. | .update .. | .lock .. => false
  | .select kind condition order limit offset =>
    condition.all (·.accepted (Names.bind { key, params } none kind)) &&
      (order.all fun term => (kind.column? term.column).isSome) &&
      (limit.all fun n => (countAt? params n).isSome) &&
      offset.all fun n => (countAt? params n).isSome
  | .count kind condition => condition.all (·.accepted (Names.bind { key, params } none kind))
  | .tally counts => counts.all fun c => c.2.accepted (Names.bind { key, params } none c.1)
  | .delete kind condition => condition.accepted (Names.bind { key, params } none kind)
  | .deleteBatch batch attached =>
    let names := Names.bind { key, params } (some batch.owner) batch.kind
    let joined := batch.join.elim names fun j => names.bind (some j.owner) j.kind
    batch.condition.accepted joined &&
      (batch.join.all fun j => joined.column? j.reference == some (keyType key)) &&
      (countAt? params batch.limit).isSome &&
      attached.all fun a => (Names.bind { key, params } none a.1).column? (column a.2) ==
        some (keyType key)

/-- Runs a command that the database of a form of keys accepts. -/
def Command.Executes (key : KeyKind) (params : List Param) (c : Command) (db : Database)
    (answer : Answer) (after : Database) : Prop :=
  c.accepted key params = true ∧ c.Runs db params answer after

/-! ## 7. Statements -/

/-- Runs a text with parameters, as what the database reads it as. -/
def TextRuns (key : KeyKind) (text : String) (params : List Param) (db : Database)
    (answer : Answer) (after : Database) : Prop :=
  ∃ c, Command.read? text = some c ∧ c.Executes key params db answer after

/-- Runs a statement: of the statement the database is sent the text and the parameters. -/
def Statement.Runs (key : KeyKind) (s : Statement) (db : Database) (answer : Answer)
    (after : Database) : Prop :=
  TextRuns key s.text s.params db answer after

/-- Runs statements one after the other. -/
inductive RunsAll (key : KeyKind) : List Statement → Database → Database → Prop
  | nil {db : Database} : RunsAll key [] db db
  | cons {s : Statement} {rest : List Statement} {db between after : Database} {answer : Answer} :
      s.Runs key db answer between → RunsAll key rest between after →
      RunsAll key (s :: rest) db after

end GrantLedger.Sql
