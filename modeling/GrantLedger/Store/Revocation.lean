import GrantLedger.Store.Finders

/-!
# Revoking the tokens of an authorization

The tokens are listed first and then updated one by one, each in a session of its own. A token that
is revoked already is left alone, and so is one that somebody else modified or removed since it was
listed.
-/

namespace GrantLedger.Store

variable {M K : Type} [EntityKey K] [Model M (Token K) K]

/-- The status of a revoked token. -/
def revokedStatus : String := "revoked"

/-- Whether a token is revoked. -/
def isRevoked (m : M) : Bool := (Model.base m : Token K).status == some revokedStatus

/-- A token with the status of a revoked one. -/
def withRevokedStatus (m : M) : M :=
  Model.withBase m { (Model.base m : Token K) with status := some revokedStatus }

/-- Revokes one token and answers how many tokens were revoked. -/
def revokeOne (token : Uuid) (m : M) : Session Nat := fun t =>
  if isRevoked m then (.ok 0, t)
  else
    match (update token (withRevokedStatus m)).run t with
    | (.ok _, t') => (.ok 1, t')
    | (.error e, t') => (if e.isRetryable then .ok 0 else .error e, t')
    | (.panic, t') => (.panic, t')

/-- Revokes listed tokens, where the `n`-th of them receives the `n`-th of the concurrency tokens.
-/
def revokeEach (tokens : Nat → Uuid) : List M → Session Nat
  | [], t => (.ok 0, t)
  | m :: rest, t =>
    match revokeOne (tokens 0) m t with
    | (.error e, t') => (.error e, t')
    | (.panic, t') => (.panic, t')
    | (.ok n, t') =>
      match revokeEach (fun i => tokens (i + 1)) rest t' with
      | (.error e, t'') => (.error e, t'')
      | (.panic, t'') => (.panic, t'')
      | (.ok m, t'') => (.ok (n + m), t'')

/-- Revokes the tokens of an authorization and answers how many were revoked. -/
def revoke (M : Type) [Model M (Token K) K] (pageSize : Nat) (tokens : Nat → Uuid) (id : K) :
    Request Nat := do
  let found ← findByAuthorizationId M pageSize id
  .session (revokeEach tokens found)

end GrantLedger.Store
