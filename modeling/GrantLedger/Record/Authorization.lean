import GrantLedger.Record.Basic

/-!
# Recorded consents
-/

namespace GrantLedger

/-- A consent that a subject gave to an application for a set of scopes. -/
structure Authorization (K : Type) where
  id : Option K := none
  /-- The application that the consent was given to. -/
  applicationId : Option K := none
  concurrencyToken : Option String := none
  creationDate : Option Timestamp := none
  properties : Option String := none
  /-- The encoded list of the names of the scopes. -/
  scopes : Option String := none
  status : Option String := none
  subject : Option String := none
  authorizationType : Option String := none
  deriving DecidableEq, Inhabited

namespace Authorization

variable {K : Type}

/-- The columns of an authorization. -/
def toRow [EntityKey K] (a : Authorization K) : Row :=
  .ofList [
    ("id", Cell.ofId? a.id),
    ("application_id", Cell.ofId? a.applicationId),
    ("concurrency_token", Cell.ofText? a.concurrencyToken),
    ("creation_date", Cell.ofTimestamp? a.creationDate),
    ("properties", Cell.ofText? a.properties),
    ("scopes", Cell.ofText? a.scopes),
    ("status", Cell.ofText? a.status),
    ("subject", Cell.ofText? a.subject),
    ("type", Cell.ofText? a.authorizationType)]

/-- Takes the columns of an authorization out of a row, in the order of their declaration. -/
def taken [EntityKey K] : Row.Taking (Authorization K) := do
  let id ← Row.takeId "id"
  let applicationId ← Row.takeId "application_id"
  let concurrencyToken ← Row.takeText "concurrency_token"
  let creationDate ← Row.takeTimestamp "creation_date"
  let properties ← Row.takeText "properties"
  let scopes ← Row.takeText "scopes"
  let status ← Row.takeText "status"
  let subject ← Row.takeText "subject"
  let authorizationType ← Row.takeText "type"
  return ⟨id, applicationId, concurrencyToken, creationDate, properties, scopes, status,
    subject, authorizationType⟩

/-- Reads an authorization from a row. -/
def ofRow [EntityKey K] (row : Row) : Except StoreError (Authorization K) := taken.answer row

/-- No column is taken twice, so an authorization is what the columns of the row are read as. -/
theorem ofRow_eq [EntityKey K] (row : Row) : (ofRow row : Except StoreError (Authorization K)) = do
    let id ← row.readId "id"
    let applicationId ← row.readId "application_id"
    let concurrencyToken ← row.readText "concurrency_token"
    let creationDate ← row.readTimestamp "creation_date"
    let properties ← row.readText "properties"
    let scopes ← row.readText "scopes"
    let status ← row.readText "status"
    let subject ← row.readText "subject"
    let authorizationType ← row.readText "type"
    return ⟨id, applicationId, concurrencyToken, creationDate, properties, scopes, status,
      subject, authorizationType⟩ := by
  simp only [ofRow, taken, Row.takeId_eq, Row.takeText, Row.takeTimestamp, Row.answer_take_bind,
    Row.answer_pure, Row.readId_erase_of_ne, Row.readText_erase_of_ne,
    Row.readTimestamp_erase_of_ne, ne_eq, String.reduceEq, not_false_eq_true]
  rfl

instance [EntityKey K] : Record (Authorization K) K where
  kind := .authorization
  blank := {}
  id a := a.id
  withId a k := { a with id := some k }
  token a := a.concurrencyToken
  withToken a text := { a with concurrencyToken := text }
  toRow := toRow
  ofRow := ofRow

/-! ## Encoded columns -/

/-- The column `scopes`. -/
def scopesField : TextField (Authorization K) :=
  ⟨"scopes", (·.scopes), fun r text => { r with scopes := text }⟩

/-- The column `properties`. -/
def propertiesField : TextField (Authorization K) :=
  ⟨"properties", (·.properties), fun r text => { r with properties := text }⟩

end Authorization

end GrantLedger
