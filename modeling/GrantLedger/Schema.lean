/-!
# Tables and their columns

Four kinds of entities are kept, one table each. `EntityKind.columns` declares the columns of a
table with their types, the identifier first; `EntityKind.uniqueColumn?` names the column whose
texts are unique in the table, where there is one.
-/

namespace GrantLedger

/-- The four kinds of entities. -/
inductive EntityKind where
  /-- Registered clients. -/
  | application
  /-- Recorded consents. -/
  | authorization
  /-- Named groups of permissions. -/
  | scope
  /-- Issued credentials. -/
  | token
  deriving DecidableEq, Repr, Inhabited

/-- The type of a column. -/
inductive ColumnType where
  /-- The identifier of the row. -/
  | key
  /-- An optional reference to a row of another table. -/
  | reference (kind : EntityKind)
  /-- Text, with an optional limit of its length. -/
  | text (limit : Option Nat)
  /-- A point in time. -/
  | timestamp
  deriving DecidableEq, Repr

/-- A column: its name and its type. -/
structure Column where
  name : String
  type : ColumnType
  deriving DecidableEq, Repr

/-- What happens to the rows that depend on a deleted row. -/
inductive DeletePolicy where
  /-- A row with dependents is not deleted. -/
  | restrict
  /-- The dependents are deleted with the row. -/
  | cascade
  deriving DecidableEq, Repr, Inhabited

namespace EntityKind

/-- All kinds, a referenced kind before the kinds that reference it. -/
def all : List EntityKind := [.application, .authorization, .scope, .token]

/-- The name of a kind. -/
def name : EntityKind → String
  | .application => "application"
  | .authorization => "authorization"
  | .scope => "scope"
  | .token => "token"

/-- Finds a kind by its name. -/
def ofName? (name : String) : Option EntityKind := all.find? (·.name == name)

/-- The place of a kind in the list of all kinds. -/
def position : EntityKind → Nat
  | .application => 0
  | .authorization => 1
  | .scope => 2
  | .token => 3

/-- The table of a kind. -/
def table : EntityKind → String
  | .application => "authstore_applications"
  | .authorization => "authstore_authorizations"
  | .scope => "authstore_scopes"
  | .token => "authstore_tokens"

/-- The columns of a kind, the identifier first. -/
def columns : EntityKind → List Column
  | .application => [
      ⟨"id", .key⟩,
      ⟨"client_id", .text (some 100)⟩,
      ⟨"client_secret", .text none⟩,
      ⟨"concurrency_token", .text (some 50)⟩,
      ⟨"consent_type", .text (some 50)⟩,
      ⟨"display_name", .text none⟩,
      ⟨"display_names", .text none⟩,
      ⟨"permissions", .text none⟩,
      ⟨"post_logout_redirect_uris", .text none⟩,
      ⟨"properties", .text none⟩,
      ⟨"redirect_uris", .text none⟩,
      ⟨"requirements", .text none⟩,
      ⟨"type", .text (some 50)⟩]
  | .authorization => [
      ⟨"id", .key⟩,
      ⟨"application_id", .reference .application⟩,
      ⟨"concurrency_token", .text (some 50)⟩,
      ⟨"creation_date", .timestamp⟩,
      ⟨"properties", .text none⟩,
      ⟨"scopes", .text none⟩,
      ⟨"status", .text (some 50)⟩,
      ⟨"subject", .text (some 400)⟩,
      ⟨"type", .text (some 50)⟩]
  | .scope => [
      ⟨"id", .key⟩,
      ⟨"concurrency_token", .text (some 50)⟩,
      ⟨"description", .text none⟩,
      ⟨"descriptions", .text none⟩,
      ⟨"display_name", .text none⟩,
      ⟨"display_names", .text none⟩,
      ⟨"name", .text (some 200)⟩,
      ⟨"properties", .text none⟩,
      ⟨"resources", .text none⟩]
  | .token => [
      ⟨"id", .key⟩,
      ⟨"application_id", .reference .application⟩,
      ⟨"authorization_id", .reference .authorization⟩,
      ⟨"concurrency_token", .text (some 50)⟩,
      ⟨"creation_date", .timestamp⟩,
      ⟨"expiration_date", .timestamp⟩,
      ⟨"payload", .text none⟩,
      ⟨"properties", .text none⟩,
      ⟨"redemption_date", .timestamp⟩,
      ⟨"reference_id", .text (some 100)⟩,
      ⟨"status", .text (some 50)⟩,
      ⟨"subject", .text (some 400)⟩,
      ⟨"type", .text (some 50)⟩]

/-- The column of a kind with a given name. -/
def column? (kind : EntityKind) (name : String) : Option Column :=
  kind.columns.find? (·.name == name)

/-- The column whose texts are unique in the table of a kind. -/
def uniqueColumn? : EntityKind → Option String
  | .application => some "client_id"
  | .authorization => none
  | .scope => some "name"
  | .token => some "reference_id"

end EntityKind

/-- The name of a policy in settings. -/
def DeletePolicy.name : DeletePolicy → String
  | .restrict => "restrict"
  | .cascade => "cascade"

/-- All policies. -/
def DeletePolicy.all : List DeletePolicy := [.restrict, .cascade]

/-- Finds a policy by its name. -/
def DeletePolicy.ofName? (name : String) : Option DeletePolicy :=
  DeletePolicy.all.find? (·.name == name)

end GrantLedger
