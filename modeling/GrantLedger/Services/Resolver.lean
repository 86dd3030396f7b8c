import GrantLedger.Error
import GrantLedger.Model.ModelType

/-!
# Which store serves a type

A `Resolver` finds the store for a type of entities of its kind. A store that was set for the type
by hand comes first. Otherwise the store of a registered type is made once and kept in a cache. Any
other type has no store.

Finding a store takes three steps that need not follow one another at once: looking it up (`find?`),
making one (`derives`), and publishing it (`publish`), where a store that was published in between
is kept and answered.
-/

namespace GrantLedger

/-- A type of entities for which a store may be asked. -/
inductive EntityType where
  /-- A model that the library brings along. -/
  | model (m : ModelType)
  /-- A model of a kind that comes from elsewhere, by its name. -/
  | foreign (kind : EntityKind) (name : String)
  /-- A type that is no model. -/
  | unrelated
  deriving DecidableEq, Repr

/-- The name of a type of entities. -/
def EntityType.name : EntityType → String
  | .model m => m.name
  | .foreign _ name => name
  | .unrelated => "unrelated entity"

/-- The kind of the entities of a type, if it is a model. -/
def EntityType.kind? : EntityType → Option EntityKind
  | .model m => some m.kind
  | .foreign kind _ => some kind
  | .unrelated => none

/-- The models of a kind. -/
abbrev ModelOf (kind : EntityKind) : Type := { x : EntityType // x.kind? = some kind }

/-- A store that was made. -/
structure StoreHandle where
  /-- Which one of the stores made so far it is. -/
  serial : Nat
  /-- Whether it works on its own, without a backing context. -/
  isDetached : Bool
  deriving DecidableEq, Repr

/-- Binds a name in a list of bindings, in place of an earlier binding. -/
def rebind {α β : Type} [DecidableEq α] (a : α) (b : β) (l : List (α × β)) : List (α × β) :=
  (a, b) :: l.filter fun e => e.1 ≠ a

theorem lookup_rebind {α β : Type} [DecidableEq α] (a x : α) (b : β) (l : List (α × β)) :
    (rebind a b l).lookup x = if x = a then some b else l.lookup x := by
  by_cases h : x = a
  · simp [rebind, h]
  · simp only [rebind, List.lookup_cons, beq_eq_false_iff_ne.2 h, if_neg h]
    induction l with
    | nil => rfl
    | cons e l ih => by_cases he : e.1 = a <;> by_cases hx : x = e.1 <;> grind

/-- What finds the stores of a kind. -/
structure Resolver where
  /-- The kind of the stores. -/
  kind : EntityKind
  /-- The registered types, each with the kind of the store that can be made for it. -/
  registered : List (EntityType × EntityKind) := []
  /-- The stores that were set by hand. -/
  overrides : List (EntityType × StoreHandle) := []
  /-- The stores that were made and published. -/
  cache : List (EntityType × StoreHandle) := []
  deriving DecidableEq, Repr

namespace Resolver

variable (r : Resolver) (x : EntityType)

/-! ## 1. Setting up -/

/-- Registers a type, for which stores of a kind can be made. -/
def register (kind : EntityKind) : Resolver := { r with registered := rebind x kind r.registered }

/-- Sets the store of a type by hand. -/
def override (store : StoreHandle) : Resolver :=
  { r with overrides := rebind x store r.overrides }

/-- Whether a type is registered. -/
def isRegistered : Bool := (r.registered.lookup x).isSome

/-- Whether a store is expected to be found for a type. -/
def supports : Bool := (r.overrides.lookup x).isSome || r.isRegistered x

/-- Whether a published store is kept for a type. -/
def isCached : Bool := (r.cache.lookup x).isSome

/-! ## 2. Resolving -/

/-- The store of a type, if it is there already. -/
def find? : Option StoreHandle := (r.overrides.lookup x).or (r.cache.lookup x)

/-- Whether a store can be made for a type. -/
def derives : Bool := r.registered.lookup x == some r.kind

/-- Whether finding the store of a type makes a new one. -/
def makes : Bool := (r.find? x).isNone && r.derives x

/-- Publishes a store for a type unless one is published already. Answers the published store. -/
def publish (store : StoreHandle) : StoreHandle × Resolver :=
  match r.cache.lookup x with
  | some published => (published, r)
  | none => (store, { r with cache := (x, store) :: r.cache })

/-- The error for a type without a store. -/
def unsupported : StoreError := .unsupportedEntity x.name r.kind

/-- Finds the store of a type, publishing a new one if there is none yet. -/
def resolve (new : StoreHandle) : Except StoreError StoreHandle × Resolver :=
  match r.find? x with
  | some store => (.ok store, r)
  | none =>
    if r.derives x then
      let (store, r') := r.publish x new
      (.ok store, r')
    else (.error (r.unsupported x), r)

/-- Forgets the published stores. -/
def clear : Resolver := { r with cache := [] }

end Resolver

end GrantLedger
