import GrantLedger.Pruning.Pass
import GrantLedger.Services.Binding
import GrantLedger.Services.Resolver

/-!
# Stores wired together

`Setup` collects settings, context factories, models and stores that are set by hand; `Setup.build`
makes `Services` out of them if the settings hold and the context that they name has a factory. The
services keep one resolver per kind, one binding that all made stores share, the clock, and the
tables.

An operation finds its store, settles its request as far as it can, and only then opens a session.
-/

namespace GrantLedger

/-! ## 1. One resolver per kind -/

/-- The resolvers of the four kinds. -/
structure Resolvers where
  applications : Resolver := { kind := .application }
  authorizations : Resolver := { kind := .authorization }
  scopes : Resolver := { kind := .scope }
  tokens : Resolver := { kind := .token }
  deriving DecidableEq, Repr, Inhabited

namespace Resolvers

/-- The resolver of a kind. -/
def get (r : Resolvers) : EntityKind → Resolver
  | .application => r.applications
  | .authorization => r.authorizations
  | .scope => r.scopes
  | .token => r.tokens

/-- Replaces the resolver of a kind. -/
def set (r : Resolvers) (kind : EntityKind) (resolver : Resolver) : Resolvers :=
  match kind with
  | .application => { r with applications := resolver }
  | .authorization => { r with authorizations := resolver }
  | .scope => { r with scopes := resolver }
  | .token => { r with tokens := resolver }

@[simp] theorem get_set_self (r : Resolvers) (kind : EntityKind) (resolver : Resolver) :
    (r.set kind resolver).get kind = resolver := by
  cases kind <;> rfl

theorem get_set_of_ne (r : Resolvers) {kind other : EntityKind} (h : other ≠ kind)
    (resolver : Resolver) : (r.set kind resolver).get other = r.get other := by
  cases kind <;> cases other <;> first | rfl | exact absurd rfl h

@[simp] theorem set_get_self (r : Resolvers) (kind : EntityKind) : r.set kind (r.get kind) = r := by
  cases kind <;> rfl

/-- Changes the resolver of a kind. -/
def modify (r : Resolvers) (kind : EntityKind) (f : Resolver → Resolver) : Resolvers :=
  r.set kind (f (r.get kind))

theorem get_modify (r : Resolvers) (kind : EntityKind) (f : Resolver → Resolver)
    (other : EntityKind) :
    (r.modify kind f).get other = if other = kind then f (r.get kind) else r.get other := by
  unfold modify
  split
  · next h => rw [h, get_set_self]
  · next h => rw [get_set_of_ne _ h]

/-- Forgets the published stores of all kinds. -/
def clear (r : Resolvers) : Resolvers :=
  ⟨r.applications.clear, r.authorizations.clear, r.scopes.clear, r.tokens.clear⟩

@[simp] theorem get_clear (r : Resolvers) (kind : EntityKind) :
    r.clear.get kind = (r.get kind).clear := by
  cases kind <;> rfl

/-- How many stores each kind has published. -/
def cached (r : Resolvers) : List Nat := EntityKind.all.map fun kind => (r.get kind).cache.length

end Resolvers

/-! ## 2. Setting up -/

/-- What services are built from. -/
structure Setup where
  settings : Settings.Store := {}
  /-- The context factories by name. -/
  factories : OrdMap String ContextFactory := .empty
  resolvers : Resolvers := {}
  /-- How many stores were made so far. -/
  made : Nat := 0
  clock : Timestamp
  deriving Inhabited

namespace Setup

/-- Registers a model of a kind with the stores of this kind. -/
def registerModel (s : Setup) {kind : EntityKind} (x : ModelOf kind) : Setup :=
  { s with resolvers := s.resolvers.modify kind (·.register x.1 kind) }

/-- Registers a model that the library brings along. -/
def register (s : Setup) (m : ModelType) : Setup := s.registerModel (⟨.model m, rfl⟩ : ModelOf m.kind)

/-- Registers the four record types over a key type. -/
def withKey (s : Setup) (key : KeyType) : Setup :=
  EntityKind.all.foldl (fun s kind => s.register (.ofKind kind key)) s

/-- Registers one model of each kind. -/
def replaceDefaults (s : Setup) (application : ModelOf .application)
    (authorization : ModelOf .authorization) (scope : ModelOf .scope) (token : ModelOf .token) :
    Setup :=
  (((s.registerModel application).registerModel authorization).registerModel scope).registerModel
    token

/-- A setup with settings. The record types over textual identifiers are always registered. -/
def ofSettings (settings : Settings.Store) (clock : Timestamp) : Setup :=
  withKey { settings, clock } .string

/-- Registers a context factory under a name, in place of an earlier one. -/
def registerContext (s : Setup) (name : String) (factory : ContextFactory) : Setup :=
  { s with factories := s.factories.insert name factory }

/-- Sets the store of a kind for a type by hand. -/
def overrideWith (s : Setup) (kind : EntityKind) (x : EntityType) (store : StoreHandle) : Setup :=
  { s with resolvers := s.resolvers.modify kind (·.override x store) }

/-- Sets the store of a model by hand, to a store that works without a backing context. -/
def override (s : Setup) (m : ModelType) : Setup :=
  { s.overrideWith m.kind (.model m) ⟨s.made, true⟩ with made := s.made + 1 }

end Setup

/-- Stores that share settings, a clock and a backing context. -/
structure Services where
  settings : Settings.Store
  binding : Binding
  resolvers : Resolvers
  made : Nat
  clock : Timestamp
  /-- The tables of the context that is shared with others. -/
  tables : Tables := .empty
  /-- The tables of a context of their own. -/
  ownTables : Tables := .empty
  deriving Inhabited

/-- Builds services. -/
def Setup.build (s : Setup) : Except StoreError Services := do
  match s.settings.check with
  | .error fault => .error (.configuration (.settings fault))
  | .ok () =>
    let binding ← match s.settings.context with
      | none => pure {}
      | some name =>
        match s.factories.get? name with
        | some factory => pure { factory := some factory }
        | none => .error (.configuration (.unknownContext name s.factories.keys))
    return { settings := s.settings, binding, resolvers := s.resolvers, made := s.made,
             clock := s.clock }

/-! ## 3. Sessions -/

/-- The same request for a store without a backing context. -/
def Request.detach {α : Type} : Request α → Request α
  | .settled answer => .settled answer
  | .session _ => .refused (.configuration .unbound)

namespace Services

variable {α : Type}

/-- The tables of a context. -/
def tablesOf (s : Services) : ContextSource → Tables
  | .shared => s.tables
  | .fresh => s.ownTables

/-- Replaces the tables of a context. -/
def setTables (s : Services) (source : ContextSource) (t : Tables) : Services :=
  match source with
  | .shared => { s with tables := t }
  | .fresh => { s with ownTables := t }

/-- The name of the backing context, which is made if need be. -/
def contextName (s : Services) : Except StoreError String × Services :=
  let (answer, binding) := s.binding.resolve
  (answer.map fun _ => memoryContextName, { s with binding })

/-- Carries out a request, in a session if it needs one. -/
def carryOut (s : Services) (r : Request α) : Outcome α × Services :=
  match r with
  | .settled answer => (.answered answer, s)
  | .session work =>
    match s.binding.resolve with
    | (.error e, binding) => (.error e, { s with binding })
    | (.ok source, binding) =>
      let (answer, t) := work (s.tablesOf source)
      (answer, { s with binding }.setTables source t)

/-! ## 4. Stores -/

/-- Finds the store of a kind for a type. -/
def resolve (s : Services) (kind : EntityKind) (x : EntityType) :
    Except StoreError StoreHandle × Services :=
  let (answer, resolver) := (s.resolvers.get kind).resolve x ⟨s.made, false⟩
  let made := if (s.resolvers.get kind).makes x then s.made + 1 else s.made
  (answer, { s with resolvers := s.resolvers.set kind resolver, made })

/-- Whether a store of a kind is expected to be found for a type. -/
def supports (s : Services) (kind : EntityKind) (x : EntityType) : Bool :=
  (s.resolvers.get kind).supports x

/-- Forgets the published stores of a kind. -/
def clear (s : Services) (kind : EntityKind) : Services :=
  { s with resolvers := s.resolvers.modify kind (·.clear) }

/-- A request to a store, by the settings that it works with. -/
def request (s : Services) (store : StoreHandle) (op : Settings.Store → Request α) : Request α :=
  if store.isDetached then (op {}).detach else op s.settings

/-- Performs an operation of the store for a model. -/
def perform (s : Services) (m : ModelType) (op : Settings.Store → Request α) :
    Outcome α × Services :=
  match s.resolve m.kind (.model m) with
  | (.error e, s) => (.error e, s)
  | (.ok store, s) => s.carryOut (s.request store op)

/-- Forgets the published stores and lets go of the backing context, which stays usable. -/
def shutdown (s : Services) : Services := { s with resolvers := s.resolvers.clear }

/-! ## 5. Pruning -/

/-- The sweeps of a store. -/
def sweeper (s : Services) (kind : EntityKind) (store : StoreHandle) : Pruning.Sweeper :=
  fun cutoff cancelled =>
    s.request store fun settings => Pruning.sweeper kind settings.prune s.clock cutoff cancelled

/-- The pruning job over two models of authorizations and tokens, as one pass of it. -/
def pruningPass (s : Services) (authorization token : ModelType) :
    Except StoreError (Pruning.Cancellation → Request Pruning.PassReport) × Services :=
  match s.resolve .authorization (.model authorization) with
  | (.error e, s) => (.error e, s)
  | (.ok authorizations, s) =>
    match s.resolve .token (.model token) with
    | (.error e, s) => (.error e, s)
    | (.ok tokens, s) =>
      (.ok fun cancelled => Pruning.runPass s.settings.prune s.clock cancelled
        (s.sweeper .token tokens) (s.sweeper .authorization authorizations), s)

/-- Runs one pass of the pruning job. -/
def pruneOnce (s : Services) (authorization token : ModelType) (cancelled : Pruning.Cancellation) :
    Outcome Pruning.PassReport × Services :=
  match s.pruningPass authorization token with
  | (.error e, s) => (.error e, s)
  | (.ok pass, s) => s.carryOut (pass cancelled)

/-- Runs the pruning job for a span of time. -/
def pruneFor (s : Services) (authorization token : ModelType) (span : Span) :
    Except StoreError Unit × Services :=
  match s.pruningPass authorization token with
  | (.error e, s) => (.error e, s)
  | (.ok pass, s) =>
    let run (cancelled : Pruning.Cancellation) (s : Services) := s.carryOut (pass cancelled)
    (.ok (), Pruning.runJob s.settings.prune span run s)

end Services

end GrantLedger
