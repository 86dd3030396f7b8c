import GrantLedger.Record.Basic

/-!
# Named groups of permissions
-/

namespace GrantLedger

/-- A named group of permissions. -/
structure Scope (K : Type) where
  id : Option K := none
  concurrencyToken : Option String := none
  description : Option String := none
  descriptions : Option String := none
  displayName : Option String := none
  displayNames : Option String := none
  /-- The name, unique among scopes. -/
  name : Option String := none
  properties : Option String := none
  /-- The encoded list of the resources that the scope opens. -/
  resources : Option String := none
  deriving DecidableEq, Inhabited

namespace Scope

variable {K : Type}

/-- The scope with a name. -/
def named (name : String) : Scope K := { name := some name }

/-- The columns of a scope. -/
def toRow [EntityKey K] (s : Scope K) : Row :=
  .ofList [
    ("id", Cell.ofId? s.id),
    ("concurrency_token", Cell.ofText? s.concurrencyToken),
    ("description", Cell.ofText? s.description),
    ("descriptions", Cell.ofText? s.descriptions),
    ("display_name", Cell.ofText? s.displayName),
    ("display_names", Cell.ofText? s.displayNames),
    ("name", Cell.ofText? s.name),
    ("properties", Cell.ofText? s.properties),
    ("resources", Cell.ofText? s.resources)]

/-- Takes the columns of a scope out of a row, in the order of their declaration. -/
def taken [EntityKey K] : Row.Taking (Scope K) := do
  let id ← Row.takeId "id"
  let concurrencyToken ← Row.takeText "concurrency_token"
  let description ← Row.takeText "description"
  let descriptions ← Row.takeText "descriptions"
  let displayName ← Row.takeText "display_name"
  let displayNames ← Row.takeText "display_names"
  let name ← Row.takeText "name"
  let properties ← Row.takeText "properties"
  let resources ← Row.takeText "resources"
  return ⟨id, concurrencyToken, description, descriptions, displayName, displayNames, name,
    properties, resources⟩

/-- Reads a scope from a row. -/
def ofRow [EntityKey K] (row : Row) : Except StoreError (Scope K) := taken.answer row

/-- No column is taken twice, so a scope is what the columns of the row are read as. -/
theorem ofRow_eq [EntityKey K] (row : Row) : (ofRow row : Except StoreError (Scope K)) = do
    let id ← row.readId "id"
    let concurrencyToken ← row.readText "concurrency_token"
    let description ← row.readText "description"
    let descriptions ← row.readText "descriptions"
    let displayName ← row.readText "display_name"
    let displayNames ← row.readText "display_names"
    let name ← row.readText "name"
    let properties ← row.readText "properties"
    let resources ← row.readText "resources"
    return ⟨id, concurrencyToken, description, descriptions, displayName, displayNames, name,
      properties, resources⟩ := by
  simp only [ofRow, taken, Row.takeId_eq, Row.takeText, Row.answer_take_bind, Row.answer_pure,
    Row.readText_erase_of_ne, ne_eq, String.reduceEq, not_false_eq_true]
  rfl

instance [EntityKey K] : Record (Scope K) K where
  kind := .scope
  blank := {}
  id s := s.id
  withId s k := { s with id := some k }
  token s := s.concurrencyToken
  withToken s text := { s with concurrencyToken := text }
  toRow := toRow
  ofRow := ofRow

/-! ## Encoded columns -/

/-- The column `descriptions`. -/
def descriptionsField : TextField (Scope K) :=
  ⟨"descriptions", (·.descriptions), fun r text => { r with descriptions := text }⟩

/-- The column `display_names`. -/
def displayNamesField : TextField (Scope K) :=
  ⟨"display_names", (·.displayNames), fun r text => { r with displayNames := text }⟩

/-- The column `properties`. -/
def propertiesField : TextField (Scope K) :=
  ⟨"properties", (·.properties), fun r text => { r with properties := text }⟩

/-- The column `resources`. -/
def resourcesField : TextField (Scope K) :=
  ⟨"resources", (·.resources), fun r text => { r with resources := text }⟩

end Scope

end GrantLedger
