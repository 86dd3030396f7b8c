import GrantLedger.Record.Basic

/-!
# Registered clients
-/

namespace GrantLedger

/-- A registered client. Its lists, localized texts and properties are encoded texts. -/
structure Application (K : Type) where
  id : Option K := none
  /-- The public identifier of the client, unique among applications. -/
  clientId : Option String := none
  /-- A secret, kept as it is given. -/
  clientSecret : Option String := none
  concurrencyToken : Option String := none
  consentType : Option String := none
  displayName : Option String := none
  displayNames : Option String := none
  permissions : Option String := none
  postLogoutRedirectUris : Option String := none
  properties : Option String := none
  redirectUris : Option String := none
  requirements : Option String := none
  applicationType : Option String := none
  deriving DecidableEq, Inhabited

namespace Application

variable {K : Type}

/-- The application with a client identifier. -/
def named (name : String) : Application K := { clientId := some name }

/-- The columns of an application. -/
def toRow [EntityKey K] (a : Application K) : Row :=
  .ofList [
    ("id", Cell.ofId? a.id),
    ("client_id", Cell.ofText? a.clientId),
    ("client_secret", Cell.ofText? a.clientSecret),
    ("concurrency_token", Cell.ofText? a.concurrencyToken),
    ("consent_type", Cell.ofText? a.consentType),
    ("display_name", Cell.ofText? a.displayName),
    ("display_names", Cell.ofText? a.displayNames),
    ("permissions", Cell.ofText? a.permissions),
    ("post_logout_redirect_uris", Cell.ofText? a.postLogoutRedirectUris),
    ("properties", Cell.ofText? a.properties),
    ("redirect_uris", Cell.ofText? a.redirectUris),
    ("requirements", Cell.ofText? a.requirements),
    ("type", Cell.ofText? a.applicationType)]

/-- Takes the columns of an application out of a row, in the order of their declaration. -/
def taken [EntityKey K] : Row.Taking (Application K) := do
  let id ← Row.takeId "id"
  let clientId ← Row.takeText "client_id"
  let clientSecret ← Row.takeText "client_secret"
  let concurrencyToken ← Row.takeText "concurrency_token"
  let consentType ← Row.takeText "consent_type"
  let displayName ← Row.takeText "display_name"
  let displayNames ← Row.takeText "display_names"
  let permissions ← Row.takeText "permissions"
  let postLogoutRedirectUris ← Row.takeText "post_logout_redirect_uris"
  let properties ← Row.takeText "properties"
  let redirectUris ← Row.takeText "redirect_uris"
  let requirements ← Row.takeText "requirements"
  let applicationType ← Row.takeText "type"
  return ⟨id, clientId, clientSecret, concurrencyToken, consentType, displayName,
    displayNames, permissions, postLogoutRedirectUris, properties, redirectUris, requirements,
    applicationType⟩

/-- Reads an application from a row. -/
def ofRow [EntityKey K] (row : Row) : Except StoreError (Application K) := taken.answer row

/-- No column is taken twice, so an application is what the columns of the row are read as. -/
theorem ofRow_eq [EntityKey K] (row : Row) : (ofRow row : Except StoreError (Application K)) = do
    let id ← row.readId "id"
    let clientId ← row.readText "client_id"
    let clientSecret ← row.readText "client_secret"
    let concurrencyToken ← row.readText "concurrency_token"
    let consentType ← row.readText "consent_type"
    let displayName ← row.readText "display_name"
    let displayNames ← row.readText "display_names"
    let permissions ← row.readText "permissions"
    let postLogoutRedirectUris ← row.readText "post_logout_redirect_uris"
    let properties ← row.readText "properties"
    let redirectUris ← row.readText "redirect_uris"
    let requirements ← row.readText "requirements"
    let applicationType ← row.readText "type"
    return ⟨id, clientId, clientSecret, concurrencyToken, consentType, displayName,
      displayNames, permissions, postLogoutRedirectUris, properties, redirectUris, requirements,
      applicationType⟩ := by
  simp only [ofRow, taken, Row.takeId_eq, Row.takeText, Row.answer_take_bind, Row.answer_pure,
    Row.readText_erase_of_ne, ne_eq, String.reduceEq, not_false_eq_true]
  rfl

instance [EntityKey K] : Record (Application K) K where
  kind := .application
  blank := {}
  id a := a.id
  withId a k := { a with id := some k }
  token a := a.concurrencyToken
  withToken a text := { a with concurrencyToken := text }
  toRow := toRow
  ofRow := ofRow

/-! ## Encoded columns -/

/-- The column `display_names`. -/
def displayNamesField : TextField (Application K) :=
  ⟨"display_names", (·.displayNames), fun r text => { r with displayNames := text }⟩

/-- The column `permissions`. -/
def permissionsField : TextField (Application K) :=
  ⟨"permissions", (·.permissions), fun r text => { r with permissions := text }⟩

/-- The column `post_logout_redirect_uris`. -/
def postLogoutRedirectUrisField : TextField (Application K) :=
  ⟨"post_logout_redirect_uris", (·.postLogoutRedirectUris),
    fun r text => { r with postLogoutRedirectUris := text }⟩

/-- The column `properties`. -/
def propertiesField : TextField (Application K) :=
  ⟨"properties", (·.properties), fun r text => { r with properties := text }⟩

/-- The column `redirect_uris`. -/
def redirectUrisField : TextField (Application K) :=
  ⟨"redirect_uris", (·.redirectUris), fun r text => { r with redirectUris := text }⟩

/-- The column `requirements`. -/
def requirementsField : TextField (Application K) :=
  ⟨"requirements", (·.requirements), fun r text => { r with requirements := text }⟩

end Application

end GrantLedger
