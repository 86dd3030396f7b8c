import GrantLedger.Record.Application
import GrantLedger.Record.Authorization
import GrantLedger.Record.Scope
import GrantLedger.Record.Token
import GrantLedger.Store.Paging

/-!
# Finders and encoded columns

What is asked for often, kind by kind: entities by a text, by a reference, or by an element of an
encoded list. A list column is searched for the quoted element first, and the lists found are
decoded to keep those that do hold it. All finders answer by ascending identifier.

The encoded columns of an entity are read with `texts`, `localized` and `properties`, and written
with the setters beside them.
-/

namespace GrantLedger.Store

variable {K : Type} [EntityKey K]

/-! ## 1. Encoded columns -/

section Columns

variable {M R : Type} [Record R K] [Model M R K]

/-- The list in a column of an entity. -/
def texts (field : TextField R) (m : M) : Except StoreError (List String) :=
  Codec.decodeList (field.get (Model.base m))

/-- The localized texts in a column of an entity. -/
def localized (field : TextField R) (m : M) : Except StoreError Localized :=
  Codec.decodeLocalized (field.get (Model.base m))

/-- The property bag in a column of an entity. -/
def properties (field : TextField R) (m : M) : Except StoreError Properties :=
  Codec.decodeProperties (field.get (Model.base m))

/-- Replaces the text in a column of an entity. -/
def setText (field : TextField R) (m : M) (text : Option String) : M :=
  Model.withBase m (field.set (Model.base m) text)

/-- Replaces the list in a column of an entity. -/
def setTexts (field : TextField R) (m : M) (values : List String) : M :=
  setText field m (Codec.encodeList values)

/-- Replaces the localized texts in a column of an entity. -/
def setLocalized (field : TextField R) (m : M) (values : Localized) : M :=
  setText field m (Codec.encodeLocalized values)

/-- Replaces the property bag in a column of an entity. -/
def setProperties (field : TextField R) (m : M) (values : Properties) : M :=
  setText field m (Codec.encodeProperties values)

end Columns

/-! ## 2. Search by a column -/

section Search

variable (M : Type) {R : Type} [Record R K] [Model M R K]

/-- The entities with a text in a column. -/
def findByText (column : String) (pageSize : Nat) (value : String) : Request (List M) :=
  fetchAll M pageSize (Filter.all.eq column (.text value))

/-- The entities with a reference in a column. -/
def findByReference (column : String) (pageSize : Nat) (id : K) : Request (List M) :=
  fetchAll M pageSize (Filter.all.eq column (.key (EntityKey.toKey id)))

variable {M} in
/-- The entities whose list in a column holds a text. -/
def keepHolding (field : TextField R) (value : String) : List M → Except StoreError (List M)
  | [] => .ok []
  | m :: rest => do
    let values ← texts field m
    let kept ← keepHolding field value rest
    return if values.contains value then m :: kept else kept

/-- The entities whose list in a column holds a text. -/
def findByElement (field : TextField R) (pageSize : Nat) (value : String) : Request (List M) := do
  let quoted := (Json.str value).render
  let candidates ← fetchAll M pageSize (Filter.all.and field.column (.contains quoted))
  keepHolding field value candidates

end Search

/-! ## 3. Finders of the four kinds -/

section Kinds

variable (M : Type)

/-- The applications with a redirect URI. -/
def findByRedirectUri [Model M (Application K) K] (pageSize : Nat) (uri : String) :
    Request (List M) :=
  findByElement M Application.redirectUrisField pageSize uri

/-- The applications with a redirect URI for after a logout. -/
def findByPostLogoutRedirectUri [Model M (Application K) K] (pageSize : Nat) (uri : String) :
    Request (List M) :=
  findByElement M Application.postLogoutRedirectUrisField pageSize uri

/-- The authorizations of a subject for an application, narrowed by status and type where given. -/
def findGrants [Model M (Authorization K) K] (pageSize : Nat) (subject : String) (client : K)
    (status type : Option String) : Request (List M) :=
  let narrowed (filter : Filter) (column : String) (value : Option String) : Filter :=
    value.elim filter fun v => filter.eq column (.text v)
  let filter := (Filter.all.eq "subject" (.text subject)).eq "application_id"
    (.key (EntityKey.toKey client))
  fetchAll M pageSize (narrowed (narrowed filter "status" status) "type" type)

/-- The scopes with one of the given names. -/
def findByNames [Model M (Scope K) K] (pageSize : Nat) (names : List String) : Request (List M) :=
  if names.isEmpty then return []
  else fetchAll M pageSize (Filter.all.and "name" (.oneOf (names.map .text)))

/-- The scopes for a resource. -/
def findByResource [Model M (Scope K) K] (pageSize : Nat) (resource : String) : Request (List M) :=
  findByElement M Scope.resourcesField pageSize resource

/-- The authorizations or tokens of a subject. -/
def findBySubject {R : Type} [Record R K] [Model M R K] (pageSize : Nat) (subject : String) :
    Request (List M) :=
  findByText M "subject" pageSize subject

/-- The authorizations or tokens of an application. -/
def findByApplicationId {R : Type} [Record R K] [Model M R K] (pageSize : Nat) (id : K) :
    Request (List M) :=
  findByReference M "application_id" pageSize id

/-- The tokens of an authorization. -/
def findByAuthorizationId [Model M (Token K) K] (pageSize : Nat) (id : K) : Request (List M) :=
  findByReference M "authorization_id" pageSize id

end Kinds

end GrantLedger.Store
