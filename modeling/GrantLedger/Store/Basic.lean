import GrantLedger.Codec
import GrantLedger.Model.Basic
import GrantLedger.Store.Request

/-!
# Writing and finding single entities

The operations of a store of models `M`. An entity is written as the row of its base; a model with
an extension property has its state merged into the property bag (`Store.encode`) and gets it back
on reading (`Store.decode`).

Every write installs a fresh concurrency token, and an update or a delete succeeds only with the
token that the row holds at that moment.
-/

namespace GrantLedger.Store

variable {M R K : Type} [EntityKey K] [Record R K] [Model M R K]

/-- The kind of the entities of a model. -/
def kindOf (M : Type) {R K : Type} [Record R K] [Model M R K] : EntityKind := Record.kind R

/-! ## 1. Rows of entities -/

/-- The row that is written for an entity. -/
def encode (m : M) : Except StoreError Row :=
  let row := Record.toRow (Model.base m)
  match Model.extensionProperty M with
  | none => .ok row
  | some name => do
    let properties ← Codec.decodeProperties (row.cell "properties").text?
    let merged := properties.insert name (Model.extension m)
    return row.set "properties" (.ofText? (Codec.encodeProperties merged))

/-- The stored state of an entity, out of the property bag of its row. -/
def storedExtension (M : Type) {R K : Type} [Model M R K] (row : Row) :
    Except StoreError (Option Json) :=
  match Model.extensionProperty M with
  | none => .ok none
  | some name => do
    let properties ← Codec.decodeProperties (row.cell "properties").text?
    return properties.get? name

/-- Reads an entity from a row. -/
def decode (row : Row) : Except StoreError M := do
  let extension ← storedExtension M row
  let base ← Record.ofRow row
  match extension with
  | none => return Model.ofBase base
  | some value => Model.restore (Model.ofBase base) value

/-! ## 2. Writing -/

/-- An entity as it is about to be created: with an identifier, where stores generate one, and a
concurrency token. -/
def drafted (id token : Uuid) (m : M) : M :=
  let base := Model.base m
  let base := match Record.id base, EntityKey.generate? (K := K) id with
    | none, some k => Record.withId base k
    | _, _ => base
  Model.withBase m (Record.withToken base (some token.toText))

/-- Creates an entity. The answer is the entity as it is stored. -/
def create (id token : Uuid) (m : M) : Request M :=
  .session fun t =>
    let draft := drafted id token m
    match encode draft with
    | .error e => (.error e, t)
    | .ok row =>
      match t.insert (kindOf M) row with
      | (.error e, t') => (.error e, t')
      | (.panic, t') => (.panic, t')
      | (.ok stored, t') =>
        (.answered ((Record.ofRow stored).map (Model.withBase draft)), t')

/-- The conflict on an entity that was modified or removed. -/
def conflict (M : Type) {R K : Type} [EntityKey K] [Record R K] [Model M R K] (id : K) :
    StoreError :=
  .concurrencyConflict (kindOf M) (EntityKey.toText id)

/-- The identifier and the token of an entity that is to be written. -/
def addressed (operation : String) (m : M) : Except StoreError (K × String) :=
  match Record.id (Model.base m), Record.token (Model.base m) with
  | none, _ => .error (.validation (.missingId operation (kindOf M)))
  | some id, none => .error (conflict M id)
  | some id, some token => .ok (id, token)

/-- Updates an entity. The answer is the entity with its new token. -/
def update (token : Uuid) (m : M) : Request M :=
  match addressed "update" m with
  | .error e => .refused e
  | .ok (id, expected) =>
    let fresh := Model.withBase m (Record.withToken (Model.base m) (some token.toText))
    match encode fresh with
    | .error e => .refused e
    | .ok row => .session fun t =>
      match t.update (kindOf M) (EntityKey.toKey id) expected row with
      | (.error e, t') => (.error e, t')
      | (.ok 0, t') => (.error (conflict M id), t')
      | (.ok _, t') => (.ok fresh, t')

/-- Deletes an entity, treating its dependents by a policy. -/
def delete (policy : DeletePolicy) (m : M) : Request Unit :=
  match addressed "delete" m with
  | .error e => .refused e
  | .ok (id, expected) => .session fun t =>
    match t.delete (kindOf M) (EntityKey.toKey id) expected policy with
    | (.deleted _, t') => (.ok (), t')
    | (.conflict, t') => (.error (conflict M id), t')
    | (.referenced n, t') =>
      (.error (.referentialConflict (kindOf M) (EntityKey.toText id) n), t')

/-! ## 3. Finding one entity -/

/-- The first entity that satisfies a filter, by ascending identifier. -/
def fetchOne (M : Type) {R K : Type} [Record R K] [Model M R K] (filter : Filter) :
    Request (Option M) :=
  match RowQuery.make (kindOf M) filter [] with
  | .error e => .refused e
  | .ok q => .reading fun t =>
    match t.select (kindOf M) (q.window 0 (some 1)) with
    | [] => .ok none
    | row :: _ => (decode row).map some

/-- The entity with an identifier. -/
def findById (M : Type) {R K : Type} [EntityKey K] [Record R K] [Model M R K] (id : K) :
    Request (Option M) :=
  fetchOne M (Filter.all.eq "id" (.key (EntityKey.toKey id)))

/-- The entity with a text in the unique column of its kind. A kind without one has no such
entity. -/
def findByUniqueField (M : Type) {R K : Type} [Record R K] [Model M R K] (value : String) :
    Request (Option M) :=
  match (kindOf M).uniqueColumn? with
  | none => .settled (.ok none)
  | some column => fetchOne M (Filter.all.eq column (.text value))

/-- The number of entities that satisfy a filter. -/
def count (M : Type) {R K : Type} [Record R K] [Model M R K] (filter : Filter) : Request Nat :=
  match filter.check (kindOf M) with
  | .error e => .refused e
  | .ok () => .reading fun t => .ok (t.count (kindOf M) filter)

end GrantLedger.Store
