import GrantLedger.Proofs.Paging
import GrantLedger.Proofs.TokenChain
import GrantLedger.Store.Revocation

/-!
# A revocation among other clients

`Store.revoke` opens one session for each page of tokens that it lists and one for each token that
it updates.  Between two of these sessions other clients may come in.  Here the operation is taken
apart into its sessions: a `Revocation` is what has become of it so far, `RevokeCall.step` carries
out the next session, and `RevokeCall.interleave` follows a list of moves, each a step of its own
or a call of another client.

`RevokeCall.leads_revoke` says that these are the right steps: without other clients they come to
the answer and the tables of `Store.revoke`.
-/

namespace GrantLedger.Clients

open Store

/-! ## 1. Steps and moves -/

/-- The arguments of a revocation: the authorization whose tokens are revoked, how many tokens are
listed at once, and the concurrency tokens that are drawn. -/
structure RevokeCall (K : Type) where
  id : K
  pageSize : Nat
  tokens : Nat → Uuid

/-- What has become of a revocation. -/
inductive Revocation (M : Type) where
  /-- The tokens in front of a cursor have been listed. -/
  | listing (cursor : Cursor) (found : List M)
  /-- All tokens have been listed; some are still to be revoked, and some have been. -/
  | writing (rest : List M) (drawn revoked : Nat)
  /-- The operation has been answered. -/
  | finished (answer : Outcome Nat)

/-- A revocation of which no session has been opened yet. -/
def Revocation.start {M : Type} : Revocation M := .listing (.start 0 none) []

/-- How many tokens have been revoked, once the operation has been answered without an error. -/
def Revocation.count? {M : Type} : Revocation M → Option Nat
  | .finished (.ok n) => some n
  | _ => none

/-- A step of a revocation, or a call of another client. -/
inductive Move : Type 1 where
  | own
  | other (call : Call)

/-- A call of another client during a revocation, by the tables around it. -/
structure Disturbance (M : Type) where
  revocation : Revocation M
  before : Tables
  after : Tables

namespace RevokeCall

variable {M K : Type} [EntityKey K] [Model M (Token K) K]

/-- The condition on the tokens that are listed. -/
def filter (c : RevokeCall K) : Filter :=
  Filter.all.eq "authorization_id" (.key (EntityKey.toKey c.id))

/-- The query for the tokens that are listed. -/
def query (c : RevokeCall K) : RowQuery :=
  { filter := c.filter, order := [⟨"id", .asc⟩], offset := 0, limit := none }

/-- Carries out the next session of a revocation. -/
def step (c : RevokeCall K) : Revocation M → Tables → Revocation M × Tables
  | .listing cursor found, t =>
    if cursor.isDone then (.writing found 0 0, t)
    else
      match readPage M c.query c.pageSize cursor (t.rows .token) with
      | .error e => (.finished (.error e), t)
      | .ok (page, next) => (.listing next (found ++ page), t)
  | .writing [] _ revoked, t => (.finished (.ok revoked), t)
  | .writing (m :: rest) drawn revoked, t =>
    match revokeOne (c.tokens drawn) m t with
    | (.error e, t') => (.finished (.error e), t')
    | (.panic, t') => (.finished .panic, t')
    | (.ok n, t') => (.writing rest (drawn + 1) (revoked + n), t')
  | .finished answer, t => (.finished answer, t)

/-- A revocation and the tables after a list of moves. -/
def interleave (c : RevokeCall K) (s : Revocation M × Tables) :
    List Move → Revocation M × Tables
  | [] => s
  | .own :: moves => c.interleave (c.step s.1 s.2) moves
  | .other call :: moves => c.interleave (s.1, (call.run s.2).2) moves

/-- The calls of other clients in a list of moves. -/
def disturbances (c : RevokeCall K) (s : Revocation M × Tables) : List Move → List (Disturbance M)
  | [] => []
  | .own :: moves => c.disturbances (c.step s.1 s.2) moves
  | .other call :: moves =>
    ⟨s.1, s.2, (call.run s.2).2⟩ :: c.disturbances (s.1, (call.run s.2).2) moves

/-! ## 2. The steps of the operation -/

variable {c : RevokeCall K} {r s u : Revocation M × Tables} {t : Tables}

theorem interleave_append (ms ns : List Move) :
    c.interleave s (ms ++ ns) = c.interleave (c.interleave s ms) ns := by
  induction ms generalizing s with
  | nil => rfl
  | cons move ms ih => cases move <;> exact ih

/-- Some number of steps leads from one place to another, if no other client comes in. -/
def Leads (c : RevokeCall K) (s u : Revocation M × Tables) : Prop :=
  ∃ n, c.interleave s (List.replicate n .own) = u

theorem Leads.refl (s : Revocation M × Tables) : c.Leads s s := ⟨0, rfl⟩

theorem Leads.trans (h : c.Leads r s) (h' : c.Leads s u) : c.Leads r u := by
  obtain ⟨m, rfl⟩ := h
  obtain ⟨n, rfl⟩ := h'
  exact ⟨m + n, by rw [List.replicate_add, interleave_append]⟩

/-- A step, and what it leads to. -/
theorem Leads.head (h : c.Leads (c.step s.1 s.2) u) : c.Leads s u := by
  obtain ⟨n, rfl⟩ := h
  exact ⟨n + 1, rfl⟩

/-- Where the listing ends that begins at a cursor. -/
def listed (found : List M) (s : Streamed M) : Revocation M :=
  match s.fault with
  | some e => .finished (.error e)
  | none => .writing (found ++ s.entities) 0 0

theorem leads_listed (cursor : Cursor) (found : List M) (t : Tables) :
    c.Leads (.listing cursor found, t)
      (listed found (streamFrom M c.query c.pageSize (t.rows .token) cursor), t) := by
  fun_induction streamFrom M c.query c.pageSize (t.rows .token) cursor generalizing found with
  | case1 cursor hdone =>
    refine .head ?_
    rw [step, if_pos hdone, listed, List.append_nil]
    exact .refl _
  | case2 cursor hopen e hpage =>
    refine .head ?_
    rw [step, if_neg hopen, readPage, hpage]
    exact .refl _
  | case3 cursor hopen page hpage ih =>
    refine .head ?_
    rw [step, if_neg hopen, readPage, hpage]
    refine (ih (found ++ page)).trans ?_
    simp only [listed, Streamed.prepend, List.append_assoc]
    exact .refl _

/-- Where the revocation of listed tokens ends. -/
def settled (revoked : Nat) (answer : Outcome Nat) : Revocation M :=
  .finished (answer.map (revoked + ·))

theorem leads_settled (rest : List M) (drawn revoked : Nat) (t : Tables) :
    c.Leads (.writing rest drawn revoked, t)
      (settled revoked (revokeEach (fun i => c.tokens (drawn + i)) rest t).1,
        (revokeEach (fun i => c.tokens (drawn + i)) rest t).2) := by
  induction rest generalizing drawn revoked t with
  | nil => exact .head (.refl _)
  | cons m rest ih =>
    refine .head ?_
    rw [step, revokeEach, Nat.add_zero]
    rcases revokeOne (c.tokens drawn) m t with ⟨n | e | _, u⟩
    · refine (ih (drawn + 1) (revoked + n) u).trans ?_
      simp only [Nat.add_assoc, Nat.add_comm 1]
      rcases revokeEach (fun i => c.tokens (drawn + (i + 1))) rest u with ⟨k | e | _, v⟩
      · simp only [settled, Outcome.map, Nat.add_assoc]
        exact .refl _
      · exact .refl _
      · exact .refl _
    · exact .refl _
    · exact .refl _

/-- **Without other clients the steps are the operation.** -/
theorem leads_revoke (c : RevokeCall K) (t : Tables) :
    c.Leads (.start, t) ((.finished ((revoke M c.pageSize c.tokens c.id).run t).1 : Revocation M),
      ((revoke M c.pageSize c.tokens c.id).run t).2) := by
  have hfound : (findByAuthorizationId M c.pageSize c.id).run t =
      (.answered (streamFrom M c.query c.pageSize (t.rows .token) (.start 0 none)).toExcept, t) :=
    rfl
  refine (leads_listed (.start 0 none) [] t).trans ?_
  rw [revoke, Request.run_bind, hfound, Streamed.toExcept, listed]
  cases (streamFrom M c.query c.pageSize (t.rows .token) (.start 0 none)).fault with
  | some e => exact .refl _
  | none =>
    refine (leads_settled _ 0 0 t).trans ?_
    simp only [List.nil_append, Nat.zero_add, Request.run, Outcome.answered_ok]
    rcases revokeEach c.tokens
      (streamFrom M c.query c.pageSize (t.rows .token) (.start 0 none)).entities t with ⟨n | e | _, u⟩
    · rw [settled, Outcome.map, Nat.zero_add]
      exact .refl _
    · exact .refl _
    · exact .refl _

end RevokeCall

end GrantLedger.Clients
