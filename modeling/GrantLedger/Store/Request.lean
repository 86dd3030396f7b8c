import GrantLedger.Tables

/-!
# Requests

A store settles an operation in two stages. First it looks at the arguments: an operation may be
answered, or refused, without the backing context. Otherwise it opens a session and works on the
tables. `Request` keeps the two apart, because opening a session may fail in between.

Requests follow one another as in a program: the first error ends the whole, and so does a panic; a
request that comes after one with a session works on the tables that this one left.
-/

namespace GrantLedger

/-- What an operation does with the tables of a session. -/
abbrev Session (α : Type) : Type := Tables → Outcome α × Tables

/-- An operation after its arguments have been looked at. -/
inductive Request (α : Type) where
  /-- The operation is settled without a session. -/
  | settled (answer : Except StoreError α)
  /-- The operation needs a session. -/
  | session (work : Session α)

namespace Request

variable {α β : Type}

/-- Carries out a request on tables that are at hand. -/
def run (r : Request α) (t : Tables) : Outcome α × Tables :=
  match r with
  | .settled answer => (.answered answer, t)
  | .session work => work t

/-- A request whose arguments are refused. -/
def refused (e : StoreError) : Request α := .settled (.error e)

/-- A request that only reads. -/
def reading (f : Tables → Except StoreError α) : Request α :=
  .session fun t => (.answered (f t), t)

/-- Goes on with the answer of a request. -/
def bind (r : Request α) (f : α → Request β) : Request β :=
  match r with
  | .settled (.ok a) => f a
  | .settled (.error e) => .refused e
  | .session work => .session fun t =>
    match work t with
    | (.ok a, t') => (f a).run t'
    | (.error e, t') => (.error e, t')
    | (.panic, t') => (.panic, t')

instance : Monad Request where
  pure a := .settled (.ok a)
  bind := bind

instance : MonadLift (Except StoreError) Request where
  monadLift := .settled

@[simp] theorem run_refused (e : StoreError) (t : Tables) :
    (refused e : Request α).run t = (.error e, t) := rfl

@[simp] theorem run_pure (a : α) (t : Tables) : (pure a : Request α).run t = (.ok a, t) := rfl

/-- A request after another one works on the tables that this one left. -/
theorem run_bind (r : Request α) (f : α → Request β) (t : Tables) :
    (r >>= f).run t =
      match r.run t with
      | (.ok a, t') => (f a).run t'
      | (.error e, t') => (.error e, t')
      | (.panic, t') => (.panic, t') := by
  rcases r with (e | a) | work <;> rfl

/-- A request with its answer changed does the same to the tables. -/
theorem run_map (f : α → β) (r : Request α) (t : Tables) :
    (f <$> r).run t = ((r.run t).1.map f, (r.run t).2) := by
  change (r >>= fun a => pure (f a)).run t = _
  rw [run_bind]
  rcases r.run t with ⟨a | e | _, t'⟩ <;> rfl

/-- An answer that is at hand needs no tables. -/
@[simp] theorem run_liftM (answer : Except StoreError α) (t : Tables) :
    (liftM answer : Request α).run t = (.answered answer, t) := rfl

end Request

end GrantLedger
