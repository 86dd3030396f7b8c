import GrantLedger.Store.Request

/-!
# The backing context

Stores work on a backing context that is made by a factory when the first session is opened. A
factory may fail; then the next session tries again. A context that was made stays.
-/

namespace GrantLedger

/-- Where the tables of a backing context come from. -/
inductive ContextSource where
  /-- The tables that are shared with others. -/
  | shared
  /-- Tables that nobody else sees. -/
  | fresh
  deriving DecidableEq, Repr, Inhabited

/-- A maker of backing contexts. -/
structure ContextFactory where
  /-- How many attempts fail before the first one that succeeds. -/
  failures : Nat := 0
  /-- What a successful attempt hands out. -/
  source : ContextSource := .shared
  deriving DecidableEq, Repr, Inhabited

/-- The name of the contexts that live in memory. -/
def memoryContextName : String := "memory"

/-- The fault of an attempt that a number of failing attempts, itself included, remain from. -/
def refusedFault (remaining : Nat) : BackendFault :=
  .stated ("refused, " ++ String.ofList (Numeral.digits remaining) ++ " left")

/-- The tie of stores to their backing context. -/
structure Binding where
  /-- The factory with the attempts that are still to fail, if stores are bound to one. -/
  factory : Option ContextFactory := none
  /-- The context, once it is made. -/
  context : Option ContextSource := none
  deriving DecidableEq, Repr, Inhabited

namespace Binding

/-- Whether stores are bound to a factory. -/
def isBound (b : Binding) : Bool := b.factory.isSome

/-- Whether the context is made. -/
def isResolved (b : Binding) : Bool := b.context.isSome

/-- The context, made if need be. -/
def resolve (b : Binding) : Except StoreError ContextSource × Binding :=
  match b.factory, b.context with
  | none, _ => (.error (.configuration .unbound), b)
  | some _, some source => (.ok source, b)
  | some factory, none =>
    match factory.failures with
    | 0 => (.ok factory.source, { b with context := some factory.source })
    | n + 1 =>
      let later := { factory with failures := n }
      (.error (.backend (refusedFault (n + 1))), { b with factory := some later })

end Binding

end GrantLedger
