import GrantLedger.Record.Basic

/-!
# Issued credentials
-/

namespace GrantLedger

/-- An issued credential, with what it was issued for. -/
structure Token (K : Type) where
  id : Option K := none
  applicationId : Option K := none
  authorizationId : Option K := none
  concurrencyToken : Option String := none
  creationDate : Option Timestamp := none
  expirationDate : Option Timestamp := none
  /-- The credential itself, where it is kept. -/
  payload : Option String := none
  properties : Option String := none
  redemptionDate : Option Timestamp := none
  /-- An identifier by which the token is known outside, unique among tokens. -/
  referenceId : Option String := none
  status : Option String := none
  subject : Option String := none
  tokenType : Option String := none
  deriving DecidableEq, Inhabited

namespace Token

variable {K : Type}

/-- The columns of a token. -/
def toRow [EntityKey K] (t : Token K) : Row :=
  .ofList [
    ("id", Cell.ofId? t.id),
    ("application_id", Cell.ofId? t.applicationId),
    ("authorization_id", Cell.ofId? t.authorizationId),
    ("concurrency_token", Cell.ofText? t.concurrencyToken),
    ("creation_date", Cell.ofTimestamp? t.creationDate),
    ("expiration_date", Cell.ofTimestamp? t.expirationDate),
    ("payload", Cell.ofText? t.payload),
    ("properties", Cell.ofText? t.properties),
    ("redemption_date", Cell.ofTimestamp? t.redemptionDate),
    ("reference_id", Cell.ofText? t.referenceId),
    ("status", Cell.ofText? t.status),
    ("subject", Cell.ofText? t.subject),
    ("type", Cell.ofText? t.tokenType)]

/-- Takes the columns of a token out of a row, in the order of their declaration. -/
def taken [EntityKey K] : Row.Taking (Token K) := do
  let id ← Row.takeId "id"
  let applicationId ← Row.takeId "application_id"
  let authorizationId ← Row.takeId "authorization_id"
  let concurrencyToken ← Row.takeText "concurrency_token"
  let creationDate ← Row.takeTimestamp "creation_date"
  let expirationDate ← Row.takeTimestamp "expiration_date"
  let payload ← Row.takeText "payload"
  let properties ← Row.takeText "properties"
  let redemptionDate ← Row.takeTimestamp "redemption_date"
  let referenceId ← Row.takeText "reference_id"
  let status ← Row.takeText "status"
  let subject ← Row.takeText "subject"
  let tokenType ← Row.takeText "type"
  return ⟨id, applicationId, authorizationId, concurrencyToken, creationDate, expirationDate,
    payload, properties, redemptionDate, referenceId, status, subject, tokenType⟩

/-- Reads a token from a row. -/
def ofRow [EntityKey K] (row : Row) : Except StoreError (Token K) := taken.answer row

/-- No column is taken twice, so a token is what the columns of the row are read as. -/
theorem ofRow_eq [EntityKey K] (row : Row) : (ofRow row : Except StoreError (Token K)) = do
    let id ← row.readId "id"
    let applicationId ← row.readId "application_id"
    let authorizationId ← row.readId "authorization_id"
    let concurrencyToken ← row.readText "concurrency_token"
    let creationDate ← row.readTimestamp "creation_date"
    let expirationDate ← row.readTimestamp "expiration_date"
    let payload ← row.readText "payload"
    let properties ← row.readText "properties"
    let redemptionDate ← row.readTimestamp "redemption_date"
    let referenceId ← row.readText "reference_id"
    let status ← row.readText "status"
    let subject ← row.readText "subject"
    let tokenType ← row.readText "type"
    return ⟨id, applicationId, authorizationId, concurrencyToken, creationDate, expirationDate,
      payload, properties, redemptionDate, referenceId, status, subject, tokenType⟩ := by
  simp only [ofRow, taken, Row.takeId_eq, Row.takeText, Row.takeTimestamp, Row.answer_take_bind,
    Row.answer_pure, Row.readId_erase_of_ne, Row.readText_erase_of_ne,
    Row.readTimestamp_erase_of_ne, ne_eq, String.reduceEq, not_false_eq_true]
  rfl

instance [EntityKey K] : Record (Token K) K where
  kind := .token
  blank := {}
  id t := t.id
  withId t k := { t with id := some k }
  token t := t.concurrencyToken
  withToken t text := { t with concurrencyToken := text }
  toRow := toRow
  ofRow := ofRow

/-! ## Encoded columns -/

/-- The column `properties`. -/
def propertiesField : TextField (Token K) :=
  ⟨"properties", (·.properties), fun r text => { r with properties := text }⟩

end Token

end GrantLedger
