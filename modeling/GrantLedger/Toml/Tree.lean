import GrantLedger.Json.Basic

/-!
# Tables of TOML

A document defines tables by headers, by keys with dots and inline. What defined a table settles how
it may grow:

* a table that only stands in the path of a header may still get a header of its own, and dotted
  keys may pass through it but not end in it;
* a table with a header takes no second one, and no dotted key reaches it from another table;
* a table that dotted keys made grows by dotted keys only;
* a value, inline tables and arrays included, does not grow;
* an array of tables grows by further tables, and paths continue in its last one.

No key is defined twice.
-/

namespace GrantLedger.Toml

/-- What defined a table. -/
inductive Origin where
  /-- It stands in the path of a header. -/
  | path
  /-- A header. -/
  | header
  /-- Keys with dots. -/
  | dotted
  deriving DecidableEq, Repr

/-- What stands under a key. -/
inductive Node where
  | value (v : Json)
  | table (origin : Origin) (members : List (String × Node))
  /-- An array of tables: the last one, and those before it, latest first. -/
  | tables (before : List (List (String × Node))) (last : List (String × Node))

/-- The content of a table. -/
abbrev Members := List (String × Node)

/-- A key with the keys of the tables that it is in. -/
structure KeyPath where
  front : List String
  last : String
  deriving DecidableEq, Repr, Inhabited

/-- All keys of a path. -/
def KeyPath.keys (p : KeyPath) : List String := p.front ++ [p.last]

namespace Members

/-- Puts a node under a key, in place of an earlier one. -/
def put (key : String) (node : Node) : Members → Members
  | [] => [(key, node)]
  | e :: rest => if e.1 = key then (key, node) :: rest else e :: put key node rest

/-- Changes the table that the keys of a header lead to. Tables that do not exist are made. -/
def within (change : Members → Option Members) : List String → Members → Option Members
  | [], m => change m
  | key :: rest, m =>
    match m.lookup key with
    | none => (within change rest []).map fun t => put key (.table .path t) m
    | some (.table origin t) => (within change rest t).map fun t => put key (.table origin t) m
    | some (.tables before t) => (within change rest t).map fun t => put key (.tables before t) m
    | some (.value _) => none

/-- Defines a table by a header. -/
def openTable (p : KeyPath) : Members → Option Members :=
  within (fun m =>
    match m.lookup p.last with
    | none => some (put p.last (.table .header []) m)
    | some (.table .path t) => some (put p.last (.table .header t) m)
    | some _ => none) p.front

/-- Adds a table to an array of tables by a header. -/
def addTable (p : KeyPath) : Members → Option Members :=
  within (fun m =>
    match m.lookup p.last with
    | none => some (put p.last (.tables [] []) m)
    | some (.tables before t) => some (put p.last (.tables (t :: before) []) m)
    | some _ => none) p.front

/-- Defines a value under a key with dots. -/
def define (last : String) (value : Json) : List String → Members → Option Members
  | [], m => if (m.lookup last).isNone then some (put last (.value value) m) else none
  | key :: rest, m =>
    match m.lookup key with
    | none => (define last value rest []).map fun t => put key (.table .dotted t) m
    | some (.table .dotted t) =>
      (define last value rest t).map fun t => put key (.table .dotted t) m
    | some (.table .path t) =>
      if rest.isEmpty then none
      else (define last value rest t).map fun t => put key (.table .path t) m
    | some (.tables before t) =>
      if rest.isEmpty then none
      else (define last value rest t).map fun t => put key (.tables before t) m
    | some (.table .header _) | some (.value _) => none

end Members

mutual

/-- A node as a JSON value. -/
def Node.toJson : Node → Json
  | .value v => v
  | .table _ members => .object (membersJson members)
  | .tables before last => .arr ((tablesJson before).reverse ++ [.object (membersJson last)])

/-- The content of a table as members of an object. -/
def membersJson : List (String × Node) → List (String × Json)
  | [] => []
  | (key, node) :: rest => (key, node.toJson) :: membersJson rest

/-- Tables as objects. -/
def tablesJson : List (List (String × Node)) → List Json
  | [] => []
  | members :: rest => .object (membersJson members) :: tablesJson rest

end

/-- The content of a table as an object. -/
def Members.toJson (m : Members) : Json := .object (membersJson m)

end GrantLedger.Toml
