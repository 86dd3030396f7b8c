import GrantLedger.Model.ModelType
import GrantLedger.Store.Finders

/-!
# Encoded columns of models

Lists of texts, localized texts and property bags live in text columns. Each model has a fixed list
of such columns (`ModelType.encodedFields`), which tools read and write as JSON.
-/

namespace GrantLedger.Store

/-- What a text column encodes. -/
inductive Encoding where
  | list
  | localized
  | properties
  deriving DecidableEq, Repr

/-- A text column with what it encodes. -/
structure EncodedField (R : Type) where
  encoding : Encoding
  field : TextField R

variable {K : Type} [EntityKey K]

/-- The encoded columns of applications. -/
def applicationFields : List (EncodedField (Application K)) := [
  ⟨.localized, Application.displayNamesField⟩, ⟨.list, Application.permissionsField⟩,
  ⟨.list, Application.postLogoutRedirectUrisField⟩, ⟨.properties, Application.propertiesField⟩,
  ⟨.list, Application.redirectUrisField⟩, ⟨.list, Application.requirementsField⟩]

/-- The encoded columns of authorizations. -/
def authorizationFields : List (EncodedField (Authorization K)) := [
  ⟨.list, Authorization.scopesField⟩, ⟨.properties, Authorization.propertiesField⟩]

/-- The encoded columns of scopes. -/
def scopeFields : List (EncodedField (Scope K)) := [
  ⟨.localized, Scope.descriptionsField⟩, ⟨.localized, Scope.displayNamesField⟩,
  ⟨.properties, Scope.propertiesField⟩, ⟨.list, Scope.resourcesField⟩]

/-- The encoded columns of tokens. -/
def tokenFields : List (EncodedField (Token K)) := [⟨.properties, Token.propertiesField⟩]

/-- The encoded columns of a model. -/
def encodedFields : (m : ModelType) → List (EncodedField m.Base)
  | .application k => applicationFields (K := k.type)
  | .authorization k => authorizationFields (K := k.type)
  | .scope k => scopeFields (K := k.type)
  | .token k => tokenFields (K := k.type)
  | .labelledScope | .taggedScope => scopeFields (K := String)
  | .auditedToken => tokenFields (K := String)

/-- The encoded column of a model with a name. -/
def encodedField? (m : ModelType) (column : String) : Option (EncodedField m.Base) :=
  (encodedFields m).find? fun f => f.field.column == column

namespace EncodedField

variable {m : ModelType}

/-- What the column of an entity holds. -/
def get (f : EncodedField m.Base) (e : m.Entity) : Except StoreError Json :=
  match f.encoding with
  | .list => (texts f.field e).map .ofTexts
  | .localized => (localized f.field e).map Codec.localizedJson
  | .properties => (properties f.field e).map Codec.propertiesJson

/-- Replaces what the column of an entity holds. -/
def set? (f : EncodedField m.Base) (e : m.Entity) (value : Json) : Option m.Entity :=
  match f.encoding with
  | .list => value.texts?.map (setTexts f.field e)
  | .localized => (Codec.localized? value).map (setLocalized f.field e)
  | .properties => (Codec.properties? value).map (setProperties f.field e)

end EncodedField

end GrantLedger.Store
