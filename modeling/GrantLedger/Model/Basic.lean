import GrantLedger.Json.Basic
import GrantLedger.Record.Basic

/-!
# Models

A model is a type of entities that carries a record, its base, and possibly state of its own. Every
record type is a model of itself. A model that names an extension property has its own state stored
in the property bag of its base under this name; state of a model that names none is not stored.
-/

namespace GrantLedger

/-- A type of entities around records of type `R` with identifiers of type `K`. -/
class Model (M : Type) (R : outParam Type) (K : outParam Type) where
  /-- The record that carries the stored columns. -/
  base : M → R
  /-- Replaces the record. -/
  withBase : M → R → M
  /-- The entity around a record, without state of its own. -/
  ofBase : R → M
  /-- The name of the property that holds the state of the entity. -/
  extensionProperty : Option String := none
  /-- The state of the entity. -/
  extension : M → Json := fun _ => .null
  /-- Gives an entity the state that was stored. -/
  restore : M → Json → Except StoreError M := fun m _ => .ok m

/-- A record is a model of itself. -/
instance {R K : Type} [Record R K] : Model R R K where
  base := id
  withBase _ r := r
  ofBase := id

end GrantLedger
