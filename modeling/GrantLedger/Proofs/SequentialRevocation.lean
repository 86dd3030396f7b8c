import GrantLedger.Proofs.Listing
import GrantLedger.Proofs.StoreRuns

/-!
# A revocation without other clients

A revocation lists the tokens of an authorization and then updates them one by one.  If no other
client comes in between, the tables still hold each token as it was listed when its turn comes: the
updates before it were of other tokens.  So no update is refused.

* `revokeOne_stored`: one token that is stored as it was listed is revoked, and nothing else
  changes.
* `revokeEach_stored`: so are the tokens of a list, by induction; those that are still to come are
  stored as they were listed.
* `revoke_stored`: over all tables whose tokens are stored as they can be read, the revocation is
  exact.  `revoke_of_not_pending` says that it does nothing where all tokens are revoked already,
  and `allStored_revoked` that this is so after a revocation.

`sequential_revocation_exact` puts this together for the tables that the stores of a key type come
to (`allStored_of_reachableWith`).
-/

namespace GrantLedger.Store

variable {K : Type} [EntityKey K] {a : K} {row : Row}

/-! ## 1. The tokens that are to be revoked -/

/-- A token of an authorization that is not revoked.  It may have no status at all. -/
def IsPending (a : K) (row : Row) : Prop :=
  row.cell "authorization_id" = .key (EntityKey.toKey a) ∧ row.cell "status" ≠ .text revokedStatus

instance : Decidable (IsPending a row) :=
  inferInstanceAs (Decidable (_ ∧ _))

/-- A row with the status of a revoked token and another concurrency token. -/
def revokedRow (token : Uuid) (row : Row) : Row :=
  (row.set "status" (.text revokedStatus)).set "concurrency_token" (.text token.toText)

/-- A token with the status of a revoked one and another concurrency token. -/
def revokedToken (token : Uuid) (m : Token K) : Token K :=
  { m with status := some revokedStatus, concurrencyToken := some token.toText }

/-- It is what is written for a token that is revoked. -/
theorem renewed_withRevokedStatus (token : Uuid) (m : Token K) :
    renewed token (withRevokedStatus m) = revokedToken token m := rfl

theorem toRow_revokedToken (token : Uuid) (m : Token K) :
    (revokedToken token m).toRow = revokedRow token m.toRow := by
  have hstatus : m.toRow.set "status" (.text revokedStatus) =
      Token.toRow { m with status := some revokedStatus } := by
    unfold Token.toRow
    refine Row.set_ofList ?_ fun c hc => ?_
    · simp [List.lookup_cons, Cell.ofText?]
    · simp [List.lookup_cons, hc]
  have htoken : (Token.toRow { m with status := some revokedStatus }).set "concurrency_token"
      (.text token.toText) = (revokedToken token m).toRow := by
    unfold Token.toRow revokedToken
    refine Row.set_ofList ?_ fun c hc => ?_
    · simp [List.lookup_cons, Cell.ofText?]
    · simp [List.lookup_cons, hc]
  rw [revokedRow, hstatus, htoken]

theorem cell_status (m : Token K) : m.toRow.cell "status" = Cell.ofText? m.status := by
  simp [Token.toRow, Row.cell_ofList, List.lookup_cons]

theorem cell_concurrencyToken (m : Token K) :
    m.toRow.cell "concurrency_token" = Cell.ofText? m.concurrencyToken := by
  simp [Token.toRow, Row.cell_ofList, List.lookup_cons]

theorem cell_authorizationId (m : Token K) :
    m.toRow.cell "authorization_id" = Cell.ofId? m.authorizationId := by
  simp [Token.toRow, Row.cell_ofList, List.lookup_cons]

theorem isRevoked_iff (m : Token K) :
    isRevoked m = true ↔ m.toRow.cell "status" = .text revokedStatus := by
  rw [isRevoked, beq_iff_eq, cell_status]
  exact ⟨fun h => congrArg Cell.ofText? h, fun h => Cell.ofText?_injective h⟩

/-! ## 2. One token -/

section Stored

variable {t : Tables} {x : Key} {m : Token K}

/-- A revoked token is stored if its row is, since its identifier is the same. -/
theorem stored_revokedToken (h : Stored t x m) {u : Tables} (token : Uuid)
    (hrow : u.row? .token x = some (revokedRow token m.toRow)) :
    Stored u x (revokedToken token m) where
  row := by
    rw [← toRow_revokedToken] at hrow
    exact hrow
  id := h.id
  token := ⟨_, rfl⟩

/-- **Revoking a token that is stored as it was listed.** -/
theorem revokeOne_stored (ht : t.WellFormed) (h : Stored t x m) (token : Uuid) :
    ∃ u, revokeOne token m t = (.ok (if isRevoked m then 0 else 1), u) ∧ u.WellFormed ∧
      u.row? .token x = some (if isRevoked m then m.toRow else revokedRow token m.toRow) ∧
      ∀ kind y, ¬ (kind = .token ∧ y = x) → u.row? kind y = t.row? kind y := by
  by_cases hrevoked : isRevoked m = true
  · refine ⟨t, ?_, ht, ?_, fun _ _ _ => rfl⟩
    · rw [revokeOne, if_pos hrevoked, if_pos hrevoked]
    · rw [if_pos hrevoked]
      exact h.row
  · obtain ⟨k, hid, rfl⟩ := h.id
    obtain ⟨expected, htoken⟩ := h.token
    have hexpected : m.toRow.cell "concurrency_token" = .text expected := by
      rw [cell_concurrencyToken]
      exact congrArg Cell.ofText? htoken
    -- the reference of the token stays the same
    have hunique : Tables.uniqueText? .token (revokedToken token m).toRow =
        Tables.uniqueText? .token m.toRow := by
      rw [toRow_revokedToken, revokedRow]
      simp only [Tables.uniqueText?, EntityKind.uniqueColumn?, Option.bind_some]
      rw [Row.cell_set_of_ne _ (by decide), Row.cell_set_of_ne _ (by decide)]
    have hencode : encode (renewed token (withRevokedStatus m)) =
        .ok (revokedToken token m).toRow := by
      rw [renewed_withRevokedStatus]
      exact encode_of_plain rfl _
    obtain ⟨u, hrun, hu⟩ := exists_update_run (M := Token K) (m := withRevokedStatus m) ht hid
      htoken hencode h.row hexpected hunique
    have hwellFormed : u.WellFormed := by
      have hupdate := wellFormed_update ht token (withRevokedStatus m)
      rwa [hrun] at hupdate
    have hwritten : rowUnder (revokedToken token m) k = revokedRow token m.toRow := by
      rw [← toRow_revokedToken]
      exact rowUnder_of_id (b := revokedToken token m) hid
    refine ⟨u, ?_, hwellFormed, ?_, fun kind y hne => ?_⟩
    · rw [revokeOne, if_neg hrevoked, if_neg hrevoked, hrun]
    · rw [if_neg hrevoked, ← hwritten]
      exact (hu .token _).trans (if_pos ⟨rfl, rfl⟩)
    · exact (hu kind y).trans (if_neg hne)

end Stored

/-! ## 3. Many tokens -/

section List

/-- Nothing is written for tokens that are revoked already. -/
theorem revokeEach_of_revoked {tokens : Nat → Uuid} {l : List (Token K)} {t : Tables}
    (h : ∀ m ∈ l, isRevoked m = true) : revokeEach tokens l t = (.ok 0, t) := by
  induction l generalizing tokens with
  | nil => rfl
  | cons m rest ih =>
    have hone : revokeOne (tokens 0) m t = (.ok 0, t) := by
      rw [revokeOne, if_pos (h m List.mem_cons_self)]
    rw [revokeEach, hone]
    dsimp only
    rw [ih fun m hm => h m (List.mem_cons_of_mem _ hm)]

/-- **Revoking tokens that are stored as they were listed.**  The `n`-th of them receives the `n`-th
concurrency token. -/
theorem revokeEach_stored {t : Tables} (ht : t.WellFormed) {l : List (Key × Token K)}
    (hdistinct : (l.map Prod.fst).Nodup) (hstored : ∀ p ∈ l, Stored t p.1 p.2)
    (tokens : Nat → Uuid) :
    ∃ u, revokeEach tokens (l.map Prod.snd) t =
        (.ok (l.countP fun p => !isRevoked p.2), u) ∧ u.WellFormed ∧
      (∀ p ∈ l, u.row? .token p.1 = some (if isRevoked p.2 then p.2.toRow
        else revokedRow (tokens ((l.map Prod.fst).idxOf p.1)) p.2.toRow)) ∧
      ∀ kind y, ¬ (kind = .token ∧ y ∈ l.map Prod.fst) → u.row? kind y = t.row? kind y := by
  induction l generalizing t tokens with
  | nil => exact ⟨t, rfl, ht, List.forall_mem_nil _, fun _ _ _ => rfl⟩
  | cons p rest ih =>
    obtain ⟨x, m⟩ := p
    rw [List.map_cons, List.nodup_cons] at hdistinct
    obtain ⟨hnew, hrest⟩ := hdistinct
    obtain ⟨v, hone, hv, hself, hother⟩ :=
      revokeOne_stored ht (hstored _ List.mem_cons_self) (tokens 0)
    have hne : ∀ q ∈ rest, q.1 ≠ x := by
      rintro q hq rfl
      exact hnew (List.mem_map.mpr ⟨q, hq, rfl⟩)
    -- the tokens that are still to come are stored as before
    have hkept : ∀ q ∈ rest, Stored v q.1 q.2 := by
      intro q hq
      obtain ⟨hrow, hid, htoken⟩ := hstored q (List.mem_cons_of_mem _ hq)
      refine ⟨?_, hid, htoken⟩
      rw [hother _ _ fun h => hne q hq h.2]
      exact hrow
    obtain ⟨u, hrun, hu, hrevoked, hothers⟩ := ih hv hrest hkept fun i => tokens (i + 1)
    refine ⟨u, ?_, hu, fun q hq => ?_, fun kind y hy => ?_⟩
    · rw [List.map_cons, revokeEach, hone]
      dsimp only
      rw [hrun, List.countP_cons]
      cases isRevoked m <;> simp [Nat.add_comm]
    · rcases List.mem_cons.mp hq with rfl | hq
      · rw [hothers _ _ fun h => hnew h.2, hself, List.map_cons, List.idxOf_cons_self]
      · rw [hrevoked q hq, List.map_cons, List.idxOf_cons_ne _ (hne q hq).symm]
    · rw [List.map_cons, List.mem_cons, not_and, not_or] at hy
      rw [hothers kind y fun h => (hy h.1).2 h.2, hother kind y fun h => (hy h.1).1 h.2]

end List

/-! ## 4. Whole revocations -/

section Revoke

variable [LawfulEntityKey K] {t : Tables}

/-- Every token is stored as it can be read. -/
def AllStored (K : Type) [EntityKey K] (t : Tables) : Prop :=
  ∀ x row, t.row? .token x = some row → ∃ m : Token K, row = m.toRow ∧ Stored t x m

/-- Then each can be read. -/
theorem AllStored.exists_decode (h : AllStored K t) :
    ∀ row ∈ t.rows .token, ∃ m : Token K, decode row = .ok m :=
  EachStored.exists_decode (R := Token K) h

/-- What is read is what is stored. -/
theorem AllStored.of_decode (h : AllStored K t) {x : Key} {m : Token K}
    (hrow : t.row? .token x = some row) (hm : decode row = .ok m) :
    row = m.toRow ∧ Stored t x m :=
  EachStored.of_decode (R := Token K) h hrow hm

/-- The condition on the tokens that are listed. -/
def attachedTo (a : K) : Filter := Filter.all.eq "authorization_id" (.key (EntityKey.toKey a))

omit [LawfulEntityKey K] in
theorem check_attachedTo (a : K) : (attachedTo a).check .token = .ok () :=
  Filter.check_one (by decide)

omit [LawfulEntityKey K] in
theorem holds_attachedTo (a : K) (m : Token K) : (attachedTo a).holds m.toRow = true ↔
    m.toRow.cell "authorization_id" = .key (EntityKey.toKey a) := by
  rw [attachedTo, Filter.eq, Filter.holds_one, cell_authorizationId, Cell.ofId?,
    Predicate.holds_eq_key]
  cases m.authorizationId <;> simp [Cell.ofKey?]

omit [LawfulEntityKey K] in
/-- The pending tokens are those of the listed ones that are not revoked. -/
theorem countP_isPending (hstored : AllStored K t) (a : K) {found : List (Key × Token K)}
    (h : (t.rows .token).filter (attachedTo a).holds = found.map fun p => p.2.toRow) :
    (t.rows .token).countP (IsPending a ·) = found.countP fun p => !isRevoked p.2 := by
  let valid (row : Row) : Bool := row.cell "status" ≠ .text revokedStatus
  have hpending : ∀ row ∈ t.rows .token,
      decide (IsPending a row) = true ↔ (valid row && (attachedTo a).holds row) = true := by
    intro row hrow
    obtain ⟨x, hx⟩ := Tables.mem_rows.mp hrow
    obtain ⟨m, rfl, -⟩ := hstored x row hx
    rw [decide_eq_true_iff, Bool.and_eq_true, holds_attachedTo, decide_eq_true_iff, and_comm]
    rfl
  have hvalid : ∀ p : Key × Token K, valid p.2.toRow = !isRevoked p.2 := by
    intro p
    rw [Bool.eq_iff_iff, decide_eq_true_iff, Bool.not_eq_true', ← Bool.not_eq_true, isRevoked_iff]
  calc (t.rows .token).countP (IsPending a ·)
      = (t.rows .token).countP fun row => valid row && (attachedTo a).holds row :=
        List.countP_congr hpending
    _ = (found.map fun p => p.2.toRow).countP valid := by rw [← h, List.countP_filter]
    _ = found.countP fun p => !isRevoked p.2 := by
        rw [List.countP_map]
        exact List.countP_congr fun p _ => by rw [Function.comp_apply, hvalid]

/-- **The tokens of an authorization are listed as they are stored.** -/
theorem exists_attached (ht : t.WellFormed) (hstored : AllStored K t) (pageSize : Nat) (a : K) :
    ∃ found : List (Key × Token K),
      (findByAuthorizationId (Token K) pageSize a).run t = (.ok (found.map Prod.snd), t) ∧
      (found.map Prod.fst).Nodup ∧
      (t.rows .token).countP (IsPending a ·) = found.countP (fun p => !isRevoked p.2) ∧
      ∀ x m, (x, m) ∈ found ↔ Stored t x m ∧
        m.toRow.cell "authorization_id" = .key (EntityKey.toKey a) := by
  have hcheck : (attachedTo a).check (kindOf (Token K)) = .ok () := check_attachedTo a
  have hrows : ∀ row ∈ t.rows (kindOf (Token K)), ∃ m : Token K, decode row = .ok m :=
    hstored.exists_decode
  obtain ⟨found, hfound, hrun⟩ := exists_found ht.keyed hcheck hrows pageSize
  refine ⟨found, hrun, ?_, countP_isPending hstored a ?_, fun x m => ?_⟩
  · refine List.pairwise_map.mpr ((ascending_found hfound).imp fun {p q} hlt heq => ?_)
    rw [heq, Std.ReflOrd.compare_self] at hlt
    cases hlt
  · have hfilter := map_snd_entriesWhere (t := t) .token (attachedTo a)
    rw [← hfilter]
    refine map_snd_of_decodeUnder hfound fun e he m hm => ?_
    exact (hstored.of_decode (mem_entriesWhere.mp he).1 hm).1
  · rw [mem_found_iff hfound]
    constructor
    · rintro ⟨row, hrow, hm, hholds⟩
      obtain ⟨rfl, hstored⟩ := hstored.of_decode hrow hm
      exact ⟨hstored, (holds_attachedTo a m).mp hholds⟩
    · rintro ⟨hm, hattached⟩
      exact ⟨m.toRow, hm.row, hm.decode_toRow, (holds_attachedTo a m).mpr hattached⟩

omit [LawfulEntityKey K] in
theorem isPending_toRow_iff {m : Token K} : IsPending a m.toRow ↔
    m.toRow.cell "authorization_id" = .key (EntityKey.toKey a) ∧ ¬ isRevoked m = true := by
  rw [IsPending, isRevoked_iff]

/-- **A revocation of tokens that are all stored as they can be read.**  Each pending one receives a
token that is drawn for it alone. -/
theorem revoke_stored (ht : t.WellFormed) (hstored : AllStored K t) (pageSize : Nat)
    (tokens : Nat → Uuid) (a : K) :
    ∃ u, ∃ drawn : Key → Nat,
      (revoke (Token K) pageSize tokens a).run t =
        (.ok ((t.rows .token).countP (IsPending a ·)), u) ∧ u.WellFormed ∧
      (∀ kind x, u.row? kind x = (t.row? kind x).map fun row =>
        if kind = .token ∧ IsPending a row then revokedRow (tokens (drawn x)) row else row) ∧
      ∀ x y, (t.row? .token x).any (IsPending a ·) → (t.row? .token y).any (IsPending a ·) →
        drawn x = drawn y → x = y := by
  obtain ⟨found, hlisted, hnodup, hcount, hfound⟩ := exists_attached ht hstored pageSize a
  obtain ⟨u, hrun, hu, hrevoked, hothers⟩ := revokeEach_stored ht hnodup
    (fun p hp => ((hfound p.1 p.2).mp hp).1) tokens
  have hlists : ∀ x row, t.row? .token x = some row → IsPending a row →
      x ∈ found.map Prod.fst := by
    intro x row hrow hpending
    obtain ⟨m, rfl, hm⟩ := hstored x row hrow
    exact List.mem_map.mpr ⟨(x, m), (hfound x m).mpr ⟨hm, hpending.1⟩, rfl⟩
  refine ⟨u, (found.map Prod.fst).idxOf, ?_, hu, fun kind x => ?_, fun x y hx hy => ?_⟩
  · rw [revoke, Request.run_bind, hlisted, hcount]
    exact hrun
  · by_cases hat : kind = .token ∧ x ∈ found.map Prod.fst
    · obtain ⟨rfl, hx⟩ := hat
      obtain ⟨p, hp, rfl⟩ := List.mem_map.mp hx
      obtain ⟨hm, hattached⟩ := (hfound p.1 p.2).mp hp
      have hrow : t.row? .token p.1 = some p.2.toRow := hm.row
      have hpending : IsPending a p.2.toRow ↔ ¬ isRevoked p.2 = true :=
        isPending_toRow_iff.trans (and_iff_right hattached)
      rw [hrevoked p hp, hrow, Option.map_some]
      -- A token that was revoked before is passed over, and all others get the status.
      by_cases hold : isRevoked p.2 = true
      · rw [if_pos hold, if_neg fun h => hpending.mp h.2 hold]
      · rw [if_neg hold, if_pos ⟨rfl, hpending.mpr hold⟩]
    · rw [hothers kind x hat]
      cases hrow : t.row? kind x with
      | none => rfl
      -- A pending token would have been listed.
      | some row =>
        rw [Option.map_some, if_neg]
        rintro ⟨rfl, hpending⟩
        exact hat ⟨rfl, hlists x row hrow hpending⟩
  · obtain ⟨row, hrow, hpending⟩ := (Option.any_eq_true _ _).mp hx
    obtain ⟨row', hrow', hpending'⟩ := (Option.any_eq_true _ _).mp hy
    exact (List.idxOf_inj (hlists x row hrow (of_decide_eq_true hpending))).mp

/-- Where all tokens of an authorization are revoked, nothing is done. -/
theorem revoke_of_not_pending (ht : t.WellFormed) (hstored : AllStored K t) {a : K}
    (h : ∀ x row, t.row? .token x = some row → ¬ IsPending a row) (pageSize : Nat)
    (tokens : Nat → Uuid) : (revoke (Token K) pageSize tokens a).run t = (.ok 0, t) := by
  obtain ⟨found, hlisted, -, -, hfound⟩ := exists_attached ht hstored pageSize a
  have hrevoked : ∀ m ∈ found.map Prod.snd, isRevoked m = true := by
    intro m hm
    obtain ⟨p, hp, rfl⟩ := List.mem_map.mp hm
    obtain ⟨hp, hattached⟩ := (hfound p.1 p.2).mp hp
    rw [isRevoked_iff]
    by_contra hstatus
    exact h p.1 _ hp.row ⟨hattached, hstatus⟩
  rw [revoke, Request.run_bind, hlisted]
  exact revokeEach_of_revoked hrevoked

omit [LawfulEntityKey K] in
theorem not_isPending_revokedRow (token : Uuid) (row : Row) :
    ¬ IsPending a (revokedRow token row) := by
  rintro ⟨-, hstatus⟩
  rw [revokedRow, Row.cell_set_of_ne _ (by decide), Row.cell_set_self] at hstatus
  exact hstatus rfl

omit [LawfulEntityKey K] in
/-- After a revocation every token is stored as it can be read, and none is pending. -/
theorem allStored_revoked (hstored : AllStored K t) {u : Tables} {token : Key → Uuid}
    (hu : ∀ x, u.row? .token x = (t.row? .token x).map fun row =>
      if IsPending a row then revokedRow (token x) row else row) :
    AllStored K u ∧ ∀ x row, u.row? .token x = some row → ¬ IsPending a row := by
  refine ⟨fun x row hrow => ?_, fun x row hrow => ?_⟩
  · obtain ⟨held, hheld, hnew⟩ := Option.map_eq_some_iff.mp ((hu x).symm.trans hrow)
    obtain ⟨m, rfl, hm⟩ := hstored x held hheld
    by_cases hpending : IsPending a m.toRow
    · rw [if_pos hpending] at hnew
      rw [← hnew] at hrow
      exact ⟨revokedToken (token x) m, by rw [toRow_revokedToken, hnew],
        stored_revokedToken hm _ hrow⟩
    · rw [if_neg hpending] at hnew
      rw [← hnew] at hrow
      exact ⟨m, hnew.symm, hrow, hm.id, hm.token⟩
  · rw [hu, Option.map_eq_some_iff] at hrow
    obtain ⟨held, -, rfl⟩ := hrow
    split
    · exact not_isPending_revokedRow _ _
    · assumption

end Revoke

/-! ## 5. The tables of one key type -/

section Runs

variable {key : KeyType} {t : Tables}

/-- Where all tokens can be read, each is stored as it is read. -/
theorem allStored_of_reachableWith (h : ReachableWith key t)
    (hrows : ∀ row ∈ t.rows .token, ∃ m : Token key.type, decode row = .ok m) :
    AllStored key.type t :=
  h.eachStored .token fun row hrow => (hrows row hrow).imp fun _ => ofRow_of_decode

/-- **A revocation without other clients** answers how many tokens of the authorization are
pending, and revokes exactly these, each with a concurrency token of its own.  A second revocation
answers zero and does nothing. -/
theorem sequential_revocation_exact (h : ReachableWith key t)
    (hrows : ∀ row ∈ t.rows .token, ∃ m : Token key.type, decode row = .ok m) (pageSize : Nat)
    (tokens : Nat → Uuid) (a : key.type) :
    ∃ u, ∃ drawn : Key → Nat,
      (revoke (Token key.type) pageSize tokens a).run t =
        (.ok ((t.rows .token).countP (IsPending a ·)), u) ∧
      (∀ kind x, u.row? kind x = (t.row? kind x).map fun row =>
        if kind = .token ∧ IsPending a row then revokedRow (tokens (drawn x)) row else row) ∧
      (∀ x y, (t.row? .token x).any (IsPending a ·) → (t.row? .token y).any (IsPending a ·) →
        drawn x = drawn y → x = y) ∧
      ∀ (pageSize' : Nat) (tokens' : Nat → Uuid),
        (revoke (Token key.type) pageSize' tokens' a).run u = (.ok 0, u) := by
  have hstored := allStored_of_reachableWith h hrows
  obtain ⟨u, drawn, hrun, hu, hrevoked, hdrawn⟩ :=
    revoke_stored h.wellFormed hstored pageSize tokens a
  have htokens : ∀ x, u.row? .token x = (t.row? .token x).map fun row =>
      if IsPending a row then revokedRow (tokens (drawn x)) row else row := by
    intro x
    simpa using hrevoked .token x
  obtain ⟨hstored', hsettled⟩ := allStored_revoked hstored htokens
  exact ⟨u, drawn, hrun, hrevoked, hdrawn, revoke_of_not_pending hu hstored' hsettled⟩

/-- A token of an authorization, for examples. -/
def attached (authorization : Int32) (status : Option String) : Token Int32 :=
  { authorizationId := some authorization, status }

/-- Tables after tokens were created, for examples. -/
def issued : Tables :=
  [attached 7 (some "valid"), attached 7 none, attached 7 (some revokedStatus),
    attached 8 none].foldl (fun t m => ((create ⟨0⟩ ⟨1⟩ m).run t).2) .empty

/-- Of four tokens two are pending, of which one has no status.  They are revoked over pages of one
token, and the token of the other authorization stays as it is. -/
theorem sequential_revocation_exact_issued :
    ReachableWith .int32 issued ∧
      (∀ row ∈ issued.rows .token, ∃ m : Token Int32, decode row = .ok m) ∧
      ∃ u, (revoke (Token Int32) 1 (fun n => ⟨BitVec.ofNat 128 n⟩) 7).run issued = (.ok 2, u) ∧
        (u.row? .token (.int 2)).map (·.cell "status") = some (.text revokedStatus) ∧
        u.row? .token (.int 4) = issued.row? .token (.int 4) ∧
        (revoke (Token Int32) 5 (fun _ => ⟨0⟩) 7).run u = (.ok 0, u) := by
  have hcreate : ∀ (m : Token Int32) {t : Tables}, ReachableWith .int32 t →
      ReachableWith .int32 ((create ⟨0⟩ ⟨1⟩ m).run t).2 := fun m _ h =>
    .create .token (M := (ModelType.ofKind .token .int32).Base) ⟨0⟩ ⟨1⟩ m h
  have hreach : ReachableWith .int32 issued := hcreate _ (hcreate _ (hcreate _ (hcreate _ .empty)))
  -- together, so that the tables are computed once
  obtain ⟨hdecoded, hcount, hpending, hother⟩ :
      (∀ row ∈ issued.rows .token, (decode row : Except StoreError (Token Int32)).isOk = true) ∧
      (issued.rows .token).countP (IsPending (7 : Int32) ·) = 2 ∧
      (issued.row? .token (.int 2)).any (IsPending (7 : Int32) ·) = true ∧
      (issued.row? .token (.int 4)).all (¬ IsPending (7 : Int32) ·) = true := by decide +kernel
  have hrows : ∀ row ∈ issued.rows .token, ∃ m : Token Int32, decode row = .ok m := by
    intro row hrow
    have hok := hdecoded row hrow
    cases hm : (decode row : Except StoreError (Token Int32)) with
    | error e =>
      rw [hm] at hok
      cases hok
    | ok m => exact ⟨m, rfl⟩
  obtain ⟨u, drawn, hrun, hrevoked, -, hagain⟩ := sequential_revocation_exact hreach hrows 1
    (fun n => ⟨BitVec.ofNat 128 n⟩) (7 : Int32)
  replace hrevoked (kind : EntityKind) (x : Key) :
      u.row? kind x = (issued.row? kind x).map fun row =>
        if kind = .token ∧ IsPending (7 : Int32) row
        then revokedRow ⟨BitVec.ofNat 128 (drawn x)⟩ row else row := hrevoked kind x
  refine ⟨hreach, hrows, u, ?_, ?_, ?_, hagain _ _⟩
  · rw [← hcount]
    exact hrun
  · obtain ⟨row, hrow, hpending⟩ := (Option.any_eq_true _ _).mp hpending
    rw [hrevoked, hrow, Option.map_some, if_pos ⟨rfl, of_decide_eq_true hpending⟩, Option.map_some,
      revokedRow, Row.cell_set_of_ne _ (by decide), Row.cell_set_self]
  · rw [hrevoked]
    cases hrow : issued.row? .token (.int 4) with
    | none => rfl
    | some row =>
      rw [hrow, Option.all_some, decide_eq_true_iff] at hother
      rw [Option.map_some, if_neg fun h => hother h.2]

end Runs

end GrantLedger.Store
