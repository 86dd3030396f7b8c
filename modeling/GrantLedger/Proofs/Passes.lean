import GrantLedger.Proofs.Sweeping

/-!
# One pass of the pruning job is enough

A pass sweeps the tokens and then the authorizations, each by a cutoff of its own.  Both sweeps
change what the other one looks at: a token may be pruned because of its authorization, and an
authorization because it has no token left.

* The second sweep makes no token eligible (`eligible_token_of_drops`): a token is eligible by what
  is stored, and a sweep only removes rows.
* The first sweep may make authorizations eligible, and the second one takes these as well, because
  it comes later.  An authorization for one occasion loses its last token in the first sweep and is
  gone after the second (`mem_eligible_of_tokens_gone`).

So a pass leaves nothing that the next one could remove (`pass_reaches_fixpoint`).
-/

namespace GrantLedger

namespace Tables

variable {t u : Tables} {cutoff now : Timestamp} {id : Key} {row : Row}

/-- **Rows that go make no token eligible.** -/
theorem eligible_token_of_drops (hu : Drops t u) :
    u.eligible .token cutoff now ⊆ t.eligible .token cutoff now := by
  rintro id ⟨row, hrow, hold, hwhy⟩
  refine ⟨row, row?_of_drops hu hrow, hold, ?_⟩
  rcases hwhy with hstatus | ⟨a, authorization, hcell, hstored, hinvalid⟩ | hexpired
  · exact Or.inl hstatus
  · exact Or.inr (Or.inl ⟨a, authorization, hcell, row?_of_drops hu hstored, hinvalid⟩)
  · exact Or.inr (Or.inr hexpired)

/-- An old authorization for one occasion is eligible once the tokens attached to it are gone. -/
theorem mem_eligible_of_tokens_gone {gone : List Key} (now : Timestamp)
    (hrow : t.row? .authorization id = some row)
    (hold : Earlier (row.cell "creation_date") cutoff) (htype : row.cell "type" = .text "ad-hoc")
    (hgone : ∀ i token, t.row? .token i = some token →
      token.cell "authorization_id" = .key id → i ∈ gone) :
    id ∈ (t.purge .token gone).eligible .authorization cutoff now := by
  have hkept : (t.purge .token gone).row? .authorization id = some row := by
    rw [row?_purge_of_ne t (by decide) (by simp), hrow]
  refine ⟨row, hkept, hold, Or.inr ⟨htype, fun i token htoken href => ?_⟩⟩
  have hbefore := row?_of_drops (drops_purge t .token gone) htoken
  have htaken : t.IsTaken .token gone .token i := Or.inl ⟨rfl, hgone i token hbefore href⟩
  rw [(row?_purge_of_taken t .token .token gone i).1 htaken] at htoken
  cases htoken

theorem eligible_eq_empty_iff (h : t.Keyed) (kind : EntityKind) (criteria : PruneCriteria) :
    t.eligible kind criteria.cutoff criteria.now = ∅ ↔ t.due kind criteria = [] := by
  rw [Set.eq_empty_iff_forall_notMem, List.eq_nil_iff_forall_not_mem]
  exact forall_congr' fun id => not_congr (mem_due_iff h kind criteria).symm

end Tables

namespace Pruning

open Tables

variable {t : Tables} {settings : Settings.Prune} {now tokenCutoff authorizationCutoff : Timestamp}

/-- One pass over both stores of a backing context, without a cancellation. -/
def wholePass (settings : Settings.Prune) (now : Timestamp) : Request PassReport :=
  runPass settings now .never (sweeper .token settings now) (sweeper .authorization settings now)

/-- A pass is one sweep after the other. -/
theorem wholePass_run {u v : Tables} {tokens authorizations : Report}
    (htokens : settings.disableTokenPruning = false)
    (hauthorizations : settings.disableAuthorizationPruning = false)
    (htokenCutoff : cutoff "token_retention" now settings.tokenRetention = .ok tokenCutoff)
    (hauthorizationCutoff : cutoff "authorization_retention" now
      settings.authorizationRetention = .ok authorizationCutoff)
    (hfirst : (sweep .token ⟨tokenCutoff, now, settings.batchSize⟩ .never).run t =
      (.ok tokens, u))
    (hsecond : (sweep .authorization ⟨authorizationCutoff, now, settings.batchSize⟩ .never).run u =
      (.ok authorizations, v)) :
    (wholePass settings now).run t =
      (.ok { tokens := some tokens, authorizations := some authorizations }, v) := by
  have hlater : Cancellation.never.later tokens.pauses = .never := rfl
  simp only [wholePass, runPass, sweeper, htokens, hauthorizations, htokenCutoff,
    hauthorizationCutoff, Request.run_bind, Request.run_map, Request.run_liftM, Request.run_pure,
    Bool.false_eq_true, if_false, hfirst, Outcome.map, Outcome.answered_ok, Cancellation.never, Bool.or_self,
    Option.elim, hlater, hsecond]

/-- A sweep that finds nothing removes nothing. -/
theorem sweep_run_of_none {kind : EntityKind} {criteria : PruneCriteria} (ht : t.WellFormed)
    (hb : 0 < criteria.batchSize) (hnone : t.eligible kind criteria.cutoff criteria.now = ∅) :
    (sweep kind criteria .never).run t = (.ok { deleted := 0, batches := 1 }, t) := by
  rw [eligible_eq_empty_iff ht.keyed] at hnone
  rw [sweep_run_eq ht hb, hnone, List.length_nil, Nat.zero_div, purge_nil]

/-- **One pass reaches a fixpoint.**  From all tables that operations come to, a pass over both
kinds leaves no token and no authorization that is eligible by the cutoff of its kind.  A second
pass removes nothing and changes no table.  An old authorization for one occasion all of whose
tokens were eligible at the beginning is gone after the one pass. -/
theorem pass_reaches_fixpoint (ht : Reachable t) (hb : 0 < settings.batchSize)
    (htokens : settings.disableTokenPruning = false)
    (hauthorizations : settings.disableAuthorizationPruning = false)
    (htokenCutoff : cutoff "token_retention" now settings.tokenRetention = .ok tokenCutoff)
    (hauthorizationCutoff : cutoff "authorization_retention" now
      settings.authorizationRetention = .ok authorizationCutoff) :
    ∃ report u, (wholePass settings now).run t = (.ok report, u) ∧
      u.eligible .token tokenCutoff now = ∅ ∧
      u.eligible .authorization authorizationCutoff now = ∅ ∧
      (wholePass settings now).run u =
        (.ok { tokens := some { deleted := 0, batches := 1 }
               authorizations := some { deleted := 0, batches := 1 } }, u) ∧
      ∀ id row, t.row? .authorization id = some row → row.cell "type" = .text "ad-hoc" →
        Earlier (row.cell "creation_date") authorizationCutoff →
        (∀ i token, t.row? .token i = some token → token.cell "authorization_id" = .key id →
          i ∈ t.eligible .token tokenCutoff now) →
        u.row? .authorization id = none := by
  let first : PruneCriteria := ⟨tokenCutoff, now, settings.batchSize⟩
  let second : PruneCriteria := ⟨authorizationCutoff, now, settings.batchSize⟩
  have hwf := ht.wellFormed
  have hwfFirst := hwf.purge .token (t.due .token first)
  have hwfSecond := hwfFirst.purge .authorization
    ((t.purge .token (t.due .token first)).due .authorization second)
  have hfirst : (sweep .token first .never).run t = _ := sweep_run_eq hwf hb
  have hsecond : (sweep .authorization second .never).run
      (t.purge .token (t.due .token first)) = _ := sweep_run_eq hwfFirst hb
  have hnoAuthorization := (eligible_eq_empty_iff hwfSecond.keyed .authorization second).mpr
    (due_purge_due hwfFirst .authorization second)
  -- the second sweep only removes rows, so what the first one achieved stays so
  have hnoToken : ((t.purge .token (t.due .token first)).purge .authorization
      ((t.purge .token (t.due .token first)).due .authorization second)).eligible .token
        tokenCutoff now = ∅ := by
    refine Set.subset_eq_empty (eligible_token_of_drops (drops_purge _ .authorization _)) ?_
    exact (eligible_eq_empty_iff hwfFirst.keyed .token first).mpr (due_purge_due hwf .token first)
  refine ⟨_, _, wholePass_run htokens hauthorizations htokenCutoff hauthorizationCutoff hfirst
    hsecond, hnoToken, hnoAuthorization, ?_, fun id row hrow htype hold hall => ?_⟩
  · exact wholePass_run htokens hauthorizations htokenCutoff hauthorizationCutoff
      (sweep_run_of_none hwfSecond hb hnoToken) (sweep_run_of_none hwfSecond hb hnoAuthorization)
  · have hgone : ∀ i token, t.row? .token i = some token →
        token.cell "authorization_id" = .key id → i ∈ t.due .token first :=
      fun i token htoken href => (mem_due_iff hwf.keyed .token first).mpr (hall i token htoken href)
    have heligible := mem_eligible_of_tokens_gone now hrow hold htype hgone
    rw [← mem_due_iff hwfFirst.keyed .authorization second] at heligible
    exact (row?_purge_of_taken _ .authorization .authorization _ id).1 (Or.inl ⟨rfl, heligible⟩)

/-- A valid authorization for one occasion with an expired token, for an example. -/
def spentGrant : Tables :=
  [(.authorization, .ofList [("creation_date", .timestamp ⟨0, 0⟩), ("status", .text "valid"),
      ("type", .text "ad-hoc")]),
    (.token, .ofList [("authorization_id", .key (.int 1)), ("creation_date", .timestamp ⟨0, 0⟩),
      ("expiration_date", .timestamp ⟨1, 0⟩)])].foldl
    (fun t r => (Operation.insert r.1 r.2).apply t) empty

/-- Settings that keep nothing, for an example. -/
def noRetention : Settings.Prune := { tokenRetention := ⟨0⟩, authorizationRetention := ⟨0⟩ }

/-- The token goes in the first sweep of the pass, and the authorization in the second. -/
theorem pass_reaches_fixpoint_spentGrant :
    Reachable spentGrant ∧ 0 < noRetention.batchSize ∧
      noRetention.disableTokenPruning = false ∧ noRetention.disableAuthorizationPruning = false ∧
      cutoff "token_retention" ⟨2, 0⟩ noRetention.tokenRetention = .ok ⟨2, 0⟩ ∧
      cutoff "authorization_retention" ⟨2, 0⟩ noRetention.authorizationRetention = .ok ⟨2, 0⟩ ∧
      (spentGrant.row? .authorization (.int 1)).isSome ∧
      ∃ report u, (wholePass noRetention ⟨2, 0⟩).run spentGrant = (.ok report, u) ∧
        u.row? .authorization (.int 1) = none := by
  have hreach : Reachable spentGrant := reachable_foldl_insert _ .empty
  have hkeyed := hreach.wellFormed.keyed
  have hcutoff (setting : String) : cutoff setting ⟨2, 0⟩ ⟨0⟩ = .ok ⟨2, 0⟩ := rfl
  have hpositive : 0 < noRetention.batchSize := by decide
  obtain ⟨report, u, hrun, -, -, -, hgone⟩ :=
    pass_reaches_fixpoint hreach hpositive rfl rfl (hcutoff _) (hcutoff _)
  have hall : (spentGrant.get .token).rows.keys =
      spentGrant.due .token ⟨⟨2, 0⟩, ⟨2, 0⟩, noRetention.batchSize⟩ := by decide +kernel
  have htokens : ∀ i token, spentGrant.row? .token i = some token →
      token.cell "authorization_id" = .key (.int 1) →
      i ∈ spentGrant.eligible .token ⟨2, 0⟩ ⟨2, 0⟩ := by
    intro i token htoken _
    have hkey : i ∈ (spentGrant.get .token).rows.keys :=
      List.mem_map.mpr ⟨(i, token), OrdMap.get?_eq_some_iff.mp htoken, rfl⟩
    rw [hall] at hkey
    exact (mem_due_iff hkeyed .token _).mp hkey
  refine ⟨hreach, hpositive, rfl, rfl, hcutoff _, hcutoff _, by decide +kernel, report, u, hrun, ?_⟩
  exact hgone (.int 1) ((spentGrant.row? .authorization (.int 1)).getD .empty) (by decide +kernel)
    (by decide +kernel) ⟨⟨0, 0⟩, by decide +kernel, by decide +kernel⟩ htokens

end Pruning

end GrantLedger
