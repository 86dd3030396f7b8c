import GrantLedger.Proofs.References
import GrantLedger.Proofs.RevocationSteps

/-!
# Which tokens a revocation reaches

A page of a listing begins behind a number of tokens, and that number is all that the listing keeps
between two pages.  If another client removes one of them, every token behind moves up by one place
and the first of the next page is passed over.  It is never updated, although nobody else has
touched it: `revocation_passes_over_token`.

A token that holds a concurrency token is missed in no other way.  `reaches_untouched_tokens`
follows one token through a run: while tokens are being listed it is among those found or stands
behind the cursor, later it is among those still to be revoked or has been (`Covers`).  The calls of
other clients keep this as long as none of the tokens in front of the cursor ceases to be attached,
whatever they add there (`mem_drop_of_kept`).
-/

namespace GrantLedger

/-! ## 1. Pages of keyed tables -/

/-- An element behind a place of an ascending list stays behind it in another one that keeps the
elements in front of it. -/
theorem mem_drop_of_kept {α : Type} {r : α → α → Prop} (hasymm : ∀ a b, r a b → ¬ r b a)
    {l l' : List α} (hl : l.Pairwise r) (hl' : l'.Pairwise r) {n : Nat} {x : α}
    (hx : x ∈ l.drop n) (hx' : x ∈ l') (hkept : ∀ i ∈ l.take n, i ∈ l') : x ∈ l'.drop n := by
  rw [← List.take_append_drop n l, List.pairwise_append] at hl
  rw [← List.take_append_drop n l', List.mem_append] at hx'
  refine hx'.resolve_left fun hfront => ?_
  rw [← List.take_append_drop n l', List.pairwise_append] at hl'
  -- then the elements in front of `x`, and `x`, all stand in front of the place
  have hsub : x :: l.take n ⊆ l'.take n := by
    refine List.cons_subset.mpr ⟨hfront, fun i hi => ?_⟩
    have hmem := hkept i hi
    rw [← List.take_append_drop n l', List.mem_append] at hmem
    exact hmem.resolve_right fun hback =>
      hasymm _ _ (hl.2.2 i hi x hx) (hl'.2.2 x hfront i hback)
  have hnodup : (x :: l.take n).Nodup := by
    refine List.nodup_cons.mpr ⟨fun hmem => ?_, hl.1.imp fun hab heq => ?_⟩
    · exact hasymm _ _ (hl.2.2 x hmem x hx) (hl.2.2 x hmem x hx)
    · exact hasymm _ _ hab (heq ▸ heq ▸ hab)
  have hlength := (List.subperm_of_subset hnodup hsub).length_le
  have hpos := List.length_pos_of_mem hx
  rw [List.length_cons, List.length_take, List.length_take] at hlength
  rw [List.length_drop] at hpos
  omega

namespace Tables

open RowQuery

variable {t u : Tables} {kind : EntityKind}

/-- In keyed tables a query by ascending identifier answers in the order of the table. -/
theorem Keyed.answers_eq (h : t.Keyed) {q : RowQuery} (hq : q.order = [⟨"id", .asc⟩]) :
    q.answers (t.rows kind) = (t.rows kind).filter q.filter.holds := by
  have hfits : ∀ row ∈ t.rows kind, (row.cell "id").Fits .key := by
    intro row hrow
    obtain ⟨id, hid⟩ := mem_rows.mp hrow
    rw [h kind id row hid]
    trivial
  have hcompare : ∀ a ∈ (t.rows kind).filter q.filter.holds,
      ∀ b ∈ (t.rows kind).filter q.filter.holds,
        (q.compare a b == .lt) = (orderBy [⟨"id", .asc⟩] a b == .lt) := by
    intro a ha b hb
    rw [RowQuery.compare, hq, compareBy, orderBy, compareLex, OrderTerm.compare, OrderTerm.order,
      Cell.compareNullsLast_of_fits (hfits a (List.mem_of_mem_filter ha))
        (hfits b (List.mem_of_mem_filter hb))]
    rfl
  -- the entries of a table ascend by their keys, and each row shows its key
  have hsorted : (t.rows kind).Pairwise fun a b => (orderBy [⟨"id", .asc⟩] a b).isLE := by
    refine List.pairwise_map.mpr ((t.get kind).rows.ascending.imp_of_mem fun {a b} ha hb hlt => ?_)
    have hkey : ∀ e ∈ (t.get kind).rows.entries, e.2.cell "id" = .key e.1 := fun e he =>
      h kind e.1 e.2 (OrdMap.get?_eq_some_iff.mpr he)
    rw [orderBy, compareLex, OrderTerm.order, hkey a ha, hkey b hb]
    simp only [Cell.order, hlt]
    rfl
  rw [answers, sort, sortBy_congr hcompare, sortBy_eq_mergeSort]
  exact List.mergeSort_of_pairwise (hsorted.filter _)

/-- A row behind a place is on the page that begins there, or the page is full and the row stands
behind it. -/
theorem Keyed.mem_page (h : t.Keyed) {p : Row → Bool} {x : Key} {row : Row} {offset : Nat}
    (hrow : t.row? kind x = some row) (hx : x ∈ (t.idsWhere kind p).drop offset) (n : Nat) :
    row ∈ slice offset (some n) ((t.rows kind).filter p) ∨
      (slice offset (some n) ((t.rows kind).filter p)).length = n ∧
        x ∈ (t.idsWhere kind p).drop (offset + n) := by
  have hrows : (t.rows kind).filter p =
      ((t.get kind).rows.entries.filter fun e => p e.2).map Prod.snd := List.filter_map
  rw [h.idsWhere_eq, ← List.map_drop, List.mem_map] at hx
  obtain ⟨e, he, rfl⟩ := hx
  have hvalue : e.2 = row := by
    have hmem := List.mem_of_mem_filter (List.mem_of_mem_drop he)
    rw [row?, OrdMap.get?_eq_some_iff.mpr hmem] at hrow
    exact Option.some.inj hrow
  rw [hrows, h.idsWhere_eq, ← List.map_drop, ← List.drop_drop, slice_some, ← List.map_drop,
    ← List.map_take]
  -- the page is the front part of what is left behind the place
  rw [← List.take_append_drop n (List.drop _ _), List.mem_append] at he
  rcases he with hpage | hbehind
  · exact .inl (hvalue ▸ List.mem_map_of_mem hpage)
  · refine .inr ⟨?_, List.mem_map_of_mem hbehind⟩
    have hpos := List.length_pos_of_mem hbehind
    rw [List.length_drop] at hpos
    rw [List.length_map, List.length_take]
    omega

end Tables

/-! ## 2. One token -/

/-- A model whose record is the one that it was read from. -/
class ReadableModel (M : Type) {R K : Type} [Model M R K] : Prop where
  base_ofBase : ∀ r : R, Model.base (Model.ofBase r : M) = r
  base_restore : ∀ {m m' : M} {value : Json}, Model.restore m value = .ok m' →
    Model.base m' = Model.base m

instance {R K : Type} [Record R K] : ReadableModel R where
  base_ofBase _ := rfl
  base_restore h := by
    cases h
    rfl

instance : ReadableModel AuditedToken where
  base_ofBase _ := rfl
  base_restore h := by
    cases h
    rfl

namespace Store

/-- A cursor that may go on for ever is done when its last page was short. -/
theorem Cursor.isDone_of_unlimited (c : Cursor) (h : c.remaining = none) :
    c.isDone = c.exhausted := by
  rw [isDone, h]
  exact Bool.or_false _

theorem ofRow_of_decode {M R K : Type} [Record R K] [Model M R K] [ReadableModel M] {row : Row}
    {m : M} (h : decode row = .ok m) : Record.ofRow row = .ok (Model.base m) := by
  obtain ⟨extension, -, h⟩ := bind_eq_ok_iff.mp h
  obtain ⟨base, hbase, h⟩ := bind_eq_ok_iff.mp h
  rw [hbase]
  cases extension with
  | none =>
    cases h
    rw [ReadableModel.base_ofBase]
  | some value => rw [ReadableModel.base_restore h, ReadableModel.base_ofBase]

variable {M K : Type} [EntityKey K] [Model M (Token K) K]
variable {t u : Tables} {m : M} {row : Row} {token : Uuid}

/-- The columns of a token that a revocation looks at. -/
theorem columns_of_decode [ReadableModel M] (h : decode row = .ok m) :
    row.readId "id" = .ok (Model.base m : Token K).id ∧
      row.readText "concurrency_token" = .ok (Model.base m : Token K).concurrencyToken ∧
      row.readText "status" = .ok (Model.base m : Token K).status := by
  have hrow : Token.ofRow row = .ok (Model.base m : Token K) := ofRow_of_decode h
  simp only [Token.ofRow_eq, bind_eq_ok_iff] at hrow
  obtain ⟨_, hid, _, -, _, -, _, htoken, _, -, _, -, _, -, _, -, _, -, _, -, _, hstatus, _, -, _, -,
    hbase⟩ := hrow
  rw [← Except.ok.inj hbase]
  exact ⟨hid, htoken, hstatus⟩

/-- An entity is addressed as its row is. -/
theorem address_of_decode [ReadableModel M] [LawfulEntityKey K] {k : K} {expected : String}
    (h : decode row = .ok m) (hid : row.cell "id" = .key (EntityKey.toKey k))
    (htoken : row.cell "concurrency_token" = .text expected) :
    (Model.base m : Token K).id = some k ∧
      (Model.base m : Token K).concurrencyToken = some expected := by
  obtain ⟨hreadId, hreadToken, -⟩ := columns_of_decode h
  rw [Row.readId_eq, hid, Cell.asId_key, LawfulEntityKey.ofKey_toKey] at hreadId
  rw [Row.readText_eq, htoken] at hreadToken
  exact ⟨(Except.ok.inj hreadId).symm, (Except.ok.inj hreadToken).symm⟩

/-- An entity that is revoked already was read from a row that says so. -/
theorem status_of_isRevoked [ReadableModel M] (h : decode row = .ok m)
    (hrevoked : isRevoked m = true) : row.cell "status" = .text revokedStatus := by
  obtain ⟨-, -, hstatus⟩ := columns_of_decode h
  rw [isRevoked, beq_iff_eq] at hrevoked
  rw [hrevoked, Row.readText_eq] at hstatus
  cases hcell : row.cell "status" <;> rw [hcell] at hstatus <;> cases hstatus
  rfl

/-- Whether the token under a key is stored as a revoked one. -/
def StoredRevoked (t : Tables) (x : Key) : Prop :=
  ∃ row, t.row? .token x = some row ∧ row.cell "status" = .text revokedStatus

variable [LawfulModel M]

/-- What is written for a token that is revoked shows it. -/
theorem encode_revoked (h : encode (renewed token (withRevokedStatus m)) = .ok row) :
    row.cell "status" = .text revokedStatus := by
  have hstatus : ∀ b : Token K, (Record.toRow b).cell "status" = Cell.ofText? b.status := by
    intro b
    change b.toRow.cell "status" = Cell.ofText? b.status
    simp [Token.toRow, Row.cell_ofList, List.lookup_cons]
  rw [encode_cell h (by decide), renewed, LawfulModel.base_withBase, hstatus, withRevokedStatus,
    LawfulModel.base_withBase]
  rfl

/-- **Revoking one token.**  Nothing changes, or the row of the token is replaced by a revoked one.
-/
theorem revokeOne_cases (token : Uuid) (m : M) (t : Tables) :
    (revokeOne token m t).2 = t ∨
      ∃ (x : Key) (row : Row), row.cell "status" = .text revokedStatus ∧
        Tables.Writes t (revokeOne token m t).2 .token x (row.set "id" (.key x)) := by
  rw [revokeOne]
  split
  · exact .inl rfl
  · rcases update_cases token (withRevokedStatus m) t with
      ⟨err, hrun⟩ | ⟨k, expected, row, u, -, -, hrow, hrun, -, hu⟩
    · rw [hrun]
      exact .inl rfl
    · rw [hrun]
      exact .inr ⟨EntityKey.toKey k, row, encode_revoked hrow, hu⟩

theorem keyed_revokeOne (h : t.Keyed) (token : Uuid) (m : M) : (revokeOne token m t).2.Keyed := by
  rcases revokeOne_cases token m t with hsame | ⟨x, row, -, hu⟩
  · rw [hsame]
    exact h
  · exact h.write hu

/-- Revoking one token leaves each token as it is or stores it as a revoked one. -/
theorem row?_revokeOne (token : Uuid) (m : M) (t : Tables) (x : Key) :
    (revokeOne token m t).2.row? .token x = t.row? .token x ∨
      StoredRevoked (revokeOne token m t).2 x := by
  rcases revokeOne_cases token m t with hsame | ⟨y, row, hstatus, hu⟩
  · exact .inl (by rw [hsame])
  · rw [StoredRevoked, hu .token x]
    split
    · exact .inr ⟨_, rfl, by rw [Row.cell_set_of_ne _ (by decide), hstatus]⟩
    · exact .inl rfl

/-- A conflict says that the row of an entity does not hold its token. -/
theorem tokenMatches_of_conflict {M R K : Type} [EntityKey K] [Record R K] [Model M R K]
    {token : Uuid} {m : M} {t u : Tables} {err : StoreError} {id : K} {expected : String}
    (h : (update token m).run t = (.error err, u)) (herr : err.isRetryable = true)
    (hid : Record.id (Model.base m) = some id)
    (htoken : Record.token (Model.base m) = some expected) :
    t.tokenMatches (kindOf M) (EntityKey.toKey id) expected = false := by
  have haddr : addressed "update" m = .ok (id, expected) := addressed_eq_ok_iff.mpr ⟨hid, htoken⟩
  simp only [update, haddr] at h
  split at h
  · next e hrow =>
    cases h
    rw [isRetryable_of_isValidation (encode_malformedOnly _ _ hrow)] at herr
    cases herr
  · next row hrow =>
    rcases t.update_cases (kindOf M) (EntityKey.toKey id) expected row with
      ⟨hmatch, -⟩ | ⟨fault, hupd, -⟩ | ⟨v, hupd, -⟩
    · exact hmatch
    · simp only [Request.run, hupd] at h
      cases h
      cases herr
    · simp only [Request.run, hupd] at h
      cases h

/-- **A token that nobody has touched is revoked.** -/
theorem storedRevoked_of_revokeOne [ReadableModel M] [LawfulEntityKey K] {k : K}
    {expected : String} {n : Nat} (hrow : t.row? .token (EntityKey.toKey k) = some row)
    (hm : decode row = .ok m) (hid : row.cell "id" = .key (EntityKey.toKey k))
    (htoken : row.cell "concurrency_token" = .text expected)
    (h : (revokeOne token m t).1 = .ok n) :
    StoredRevoked (revokeOne token m t).2 (EntityKey.toKey k) := by
  have hbase : (Model.base (withRevokedStatus m) : Token K) =
      { (Model.base m : Token K) with status := some revokedStatus } :=
    LawfulModel.base_withBase _ _
  obtain ⟨hbaseId, hbaseToken⟩ := address_of_decode hm hid htoken
  have haddress : Record.id (Model.base (withRevokedStatus m) : Token K) = some k := by
    rw [hbase]
    exact hbaseId
  have hexpected : Record.token (Model.base (withRevokedStatus m) : Token K) = some expected := by
    rw [hbase]
    exact hbaseToken
  have hmatch : t.tokenMatches (kindOf M) (EntityKey.toKey k) expected = true := by
    change t.tokenMatches .token (EntityKey.toKey k) expected = true
    rw [Tables.tokenMatches, hrow, Option.any_some, htoken]
    exact beq_self_eq_true _
  rw [revokeOne] at h ⊢
  split
  · next hrevoked => exact ⟨row, hrow, status_of_isRevoked hm hrevoked⟩
  · next hvalid =>
    rw [if_neg hvalid] at h
    rcases update_cases token (withRevokedStatus m) t with
      ⟨err, hrun⟩ | ⟨k', _, written, u, hid', -, hwritten, hrun, -, hu⟩
    · -- the row holds the token, so the refusal is no conflict, and it ends the operation
      rw [hrun] at h
      dsimp only at h
      split at h
      · next hretryable =>
        rw [tokenMatches_of_conflict hrun hretryable haddress hexpected] at hmatch
        cases hmatch
      · cases h
    · cases hid'.symm.trans haddress
      rw [hrun]
      refine ⟨_, (hu .token _).trans (if_pos ⟨rfl, rfl⟩), ?_⟩
      rw [Row.cell_set_of_ne _ (by decide), encode_revoked hwritten]

end Store

/-! ## 3. One token through a run -/

namespace Clients

open Store

theorem keyed_call {t : Tables} (h : t.Keyed) (call : Call) : (call.run t).2.Keyed := by
  cases call with
  | create s id token entity =>
    rcases create_cases id token entity t with
      hrun | ⟨err, u, hrun, hsame, -⟩ | ⟨row, u, -, hrun, -, hu⟩
    · simp only [Call.run, hrun]
      exact h
    · simp only [Call.run, hrun]
      exact h.restrict hsame.drops
    · simp only [Call.run, hrun]
      exact h.write hu
  | update s token entity =>
    rcases update_cases token entity t with ⟨err, hrun⟩ | ⟨id, _, row, u, -, -, -, hrun, -, hu⟩
    · simp only [Call.run, hrun]
      exact h
    · simp only [Call.run, hrun]
      exact h.write hu
  | delete s policy entity =>
    rcases delete_cases policy entity t with ⟨err, hrun⟩ | ⟨id, _, u, -, -, hrun, -, -, hu⟩
    · simp only [Call.run, hrun]
      exact h
    · simp only [Call.run, hrun]
      exact h.restrict hu
  | prune kind criteria => exact h.restrict (t.drops_purge kind _)

/-- How many tokens stand in front of the page that is listed next.  Once all pages have been
listed, none do. -/
def Revocation.front {M : Type} : Revocation M → Nat
  | .listing cursor _ => if cursor.isDone then 0 else cursor.offset
  | .writing .. | .finished _ => 0

/-- The identifiers of the tokens that are attached to the authorization, ascending. -/
def RevokeCall.attached {K : Type} [EntityKey K] (c : RevokeCall K) (t : Tables) : List Key :=
  t.idsWhere .token c.filter.holds

/-- No token in front of the page that is listed next ceases to be attached. -/
def Disturbance.KeepsFront {M K : Type} [EntityKey K] (c : RevokeCall K) (d : Disturbance M) :
    Prop :=
  ∀ i ∈ (c.attached d.before).take d.revocation.front, i ∈ c.attached d.after

instance {M K : Type} [EntityKey K] (c : RevokeCall K) (d : Disturbance M) :
    Decidable (d.KeepsFront c) :=
  inferInstanceAs (Decidable (∀ i ∈ (c.attached d.before).take d.revocation.front,
    i ∈ c.attached d.after))

/-- The token under a key stays as it is. -/
def Disturbance.Leaves {M : Type} (x : Key) (d : Disturbance M) : Prop :=
  d.after.row? .token x = d.before.row? .token x

instance {M : Type} (x : Key) (d : Disturbance M) : Decidable (d.Leaves x) :=
  inferInstanceAs (Decidable (d.after.row? .token x = d.before.row? .token x))

namespace RevokeCall

variable {M K : Type} [EntityKey K] [Model M (Token K) K]
variable {c : RevokeCall K} {x : Key} {row : Row} {r : Revocation M} {t u : Tables}

/-- **The invariant of a token that nobody else touches.**  It is found or stands behind the cursor;
then it is still to be revoked or has been. -/
def Covers (c : RevokeCall K) (x : Key) (row : Row) : Revocation M → Tables → Prop
  | .listing cursor found, t => t.row? .token x = some row ∧ cursor.remaining = none ∧
    ((∃ m ∈ found, decode row = .ok m) ∨
      cursor.exhausted = false ∧ x ∈ (c.attached t).drop cursor.offset)
  | .writing rest _ _, t => StoredRevoked t x ∨
    t.row? .token x = some row ∧ ∃ m ∈ rest, decode row = .ok m
  | .finished (.ok _), t => StoredRevoked t x
  | .finished (.error _), _ | .finished .panic, _ => True

theorem Covers.storedRevoked {n : Nat} (h : c.Covers x row r t) (hcount : r.count? = some n) :
    StoredRevoked t x := by
  cases r with
  | finished answer =>
    cases answer with
    | ok n => exact h
    | error e => cases hcount
    | panic => cases hcount
  | listing cursor found => cases hcount
  | writing rest drawn revoked => cases hcount

/-- A call of another client that leaves the token alone. -/
theorem Covers.disturb (h : c.Covers x row r t) (ht : t.Keyed) (hu : u.Keyed)
    (hattached : c.filter.holds row = true) (hleaves : u.row? .token x = t.row? .token x)
    (hfront : Disturbance.KeepsFront c ⟨r, t, u⟩) : c.Covers x row r u := by
  have hrevoked : StoredRevoked t x → StoredRevoked u x := by
    rintro ⟨row', hrow', hstatus⟩
    exact ⟨row', hleaves.trans hrow', hstatus⟩
  cases r with
  | listing cursor found =>
    obtain ⟨hrow, hremaining, hplace⟩ := h
    refine ⟨hleaves.trans hrow, hremaining, ?_⟩
    rcases hplace with hfound | ⟨hopen, hx⟩
    · exact .inl hfound
    · -- the token is not found yet, so the condition on the front is about this very cursor
      have hnext : cursor.isDone = false := (cursor.isDone_of_unlimited hremaining).trans hopen
      rw [Disturbance.KeepsFront, Revocation.front, hnext, if_neg Bool.false_ne_true] at hfront
      refine .inr ⟨hopen, ?_⟩
      exact mem_drop_of_kept (fun _ _ => Std.OrientedCmp.not_lt_of_lt)
        (ht.ascending_idsWhere _ _) (hu.ascending_idsWhere _ _) hx
        (hu.mem_idsWhere.mpr ⟨row, hleaves.trans hrow, hattached⟩) hfront
  | writing rest drawn revoked =>
    rcases h with hdone | ⟨hrow, hrest⟩
    · exact .inl (hrevoked hdone)
    · exact .inr ⟨hleaves.trans hrow, hrest⟩
  | finished answer =>
    cases answer with
    | ok n => exact hrevoked h
    | error e => trivial
    | panic => trivial

/-- The attached tokens in the order of the table, from the place of a cursor on and as many as a
page holds. -/
def page (c : RevokeCall K) (cursor : Cursor) (t : Tables) : List Row :=
  RowQuery.slice cursor.offset (some (cursor.limit c.pageSize))
    ((t.rows .token).filter c.filter.holds)

theorem pageRows_query (h : t.Keyed) (cursor : Cursor) :
    pageRows c.query c.pageSize cursor (t.rows .token) = c.page cursor t := by
  rw [pageRows, RowQuery.run, h.answers_eq (q := c.query.window _ _) rfl]
  rfl

/-- Listing a page. -/
theorem Covers.list {cursor : Cursor} {found : List M}
    (h : c.Covers x row (.listing cursor found) t) (ht : t.Keyed) :
    c.Covers x row (c.step (.listing cursor found) t).1
      (c.step (.listing cursor found) t).2 := by
  obtain ⟨hrow, hremaining, hplace⟩ := h
  rw [step]
  split
  · next hdone =>
    rw [cursor.isDone_of_unlimited hremaining] at hdone
    -- the listing is over, so nothing stands behind the cursor any more
    rcases hplace with hfound | ⟨hopen, -⟩
    · exact .inr ⟨hrow, hfound⟩
    · rw [hopen] at hdone
      cases hdone
  · rw [readPage, pageRows_query ht]
    cases hpage : (c.page cursor t).mapM (decode (M := M)) with
    | error e => trivial
    | ok page =>
      have hunlimited : (cursor.next c.pageSize (c.page cursor t).length).remaining = none := by
        rw [Cursor.next, hremaining]
        rfl
      refine ⟨hrow, hunlimited, ?_⟩
      rcases hplace with ⟨m, hm, hdecoded⟩ | ⟨-, hx⟩
      · exact .inl ⟨m, List.mem_append_left _ hm, hdecoded⟩
      · -- a token behind the cursor is on this page, or the page is full and the next one follows
        rcases ht.mem_page hrow hx (cursor.limit c.pageSize) with hmem | ⟨hfull, hbehind⟩
        · obtain ⟨m, hm, hdecoded⟩ := exists_mem_of_mapM hpage hmem
          exact .inl ⟨m, List.mem_append_right _ hm, hdecoded⟩
        · have hlength : (c.page cursor t).length = cursor.limit c.pageSize := hfull
          refine .inr ⟨?_, ?_⟩
          · rw [Cursor.next, hlength]
            exact decide_eq_false (Nat.lt_irrefl _)
          · rw [Cursor.next, hlength]
            exact hbehind

variable [LawfulModel M]

theorem keyed_step (h : t.Keyed) (r : Revocation M) : (c.step r t).2.Keyed := by
  cases r with
  | listing cursor found =>
    rw [step]
    split
    · exact h
    · split <;> exact h
  | writing rest drawn revoked =>
    cases rest with
    | nil => exact h
    | cons m rest =>
      have hkeyed := keyed_revokeOne h (c.tokens drawn) m
      rw [step]
      rcases hone : revokeOne (c.tokens drawn) m t with ⟨n | e | _, u⟩ <;> rw [hone] at hkeyed <;>
        exact hkeyed
  | finished answer => exact h

/-- Revoking a token that has been found. -/
theorem Covers.write [ReadableModel M] [LawfulEntityKey K] {k : K} {expected : String} {m : M}
    {rest : List M} {drawn revoked : Nat}
    (h : c.Covers (EntityKey.toKey k) row (.writing (m :: rest) drawn revoked) t) (ht : t.Keyed)
    (htoken : row.cell "concurrency_token" = .text expected) :
    c.Covers (EntityKey.toKey k) row (c.step (.writing (m :: rest) drawn revoked) t).1
      (c.step (.writing (m :: rest) drawn revoked) t).2 := by
  have hother := row?_revokeOne (c.tokens drawn) m t (EntityKey.toKey k)
  have hself : ∀ n, (revokeOne (c.tokens drawn) m t).1 = .ok n →
      t.row? .token (EntityKey.toKey k) = some row → decode row = .ok m →
      StoredRevoked (revokeOne (c.tokens drawn) m t).2 (EntityKey.toKey k) :=
    fun n hn hrow hdecoded =>
      storedRevoked_of_revokeOne hrow hdecoded (ht .token _ row hrow) htoken hn
  rw [step]
  rcases hone : revokeOne (c.tokens drawn) m t with ⟨n | e | _, u⟩
  · rw [hone] at hother hself
    rcases hother with hsame | hrevoked
    · rcases h with ⟨row', hrow', hstatus⟩ | ⟨hrow, m', hm', hdecoded⟩
      · exact .inl ⟨row', hsame.trans hrow', hstatus⟩
      · -- the token is the one whose turn it is, or its turn comes later
        rcases List.mem_cons.mp hm' with rfl | hm'
        · exact .inl (hself n rfl hrow hdecoded)
        · exact .inr ⟨hsame.trans hrow, m', hm', hdecoded⟩
    · exact .inl hrevoked
  -- the operation ends without a count, and nothing is owed
  · trivial
  · trivial

/-- **The step.** -/
theorem Covers.step [ReadableModel M] [LawfulEntityKey K] {k : K} {expected : String}
    (h : c.Covers (EntityKey.toKey k) row r t) (ht : t.Keyed)
    (htoken : row.cell "concurrency_token" = .text expected) :
    c.Covers (EntityKey.toKey k) row (c.step r t).1 (c.step r t).2 := by
  cases r with
  | listing cursor found => exact h.list ht
  | writing rest drawn revoked =>
    cases rest with
    | nil =>
      rcases h with hdone | ⟨-, m, hm, -⟩
      · exact hdone
      · cases hm
    | cons m rest => exact h.write ht htoken
  | finished answer => exact h

/-- **The run.** -/
theorem Covers.interleave [ReadableModel M] [LawfulEntityKey K] {k : K} {expected : String}
    {moves : List Move}
    (h : c.Covers (EntityKey.toKey k) row r t) (ht : t.Keyed)
    (hattached : c.filter.holds row = true)
    (htoken : row.cell "concurrency_token" = .text expected)
    (hfront : ∀ d ∈ c.disturbances (r, t) moves, d.KeepsFront c)
    (hleaves : ∀ d ∈ c.disturbances (r, t) moves, d.Leaves (EntityKey.toKey k)) :
    c.Covers (EntityKey.toKey k) row (c.interleave (r, t) moves).1
      (c.interleave (r, t) moves).2 := by
  induction moves generalizing r t with
  | nil => exact h
  | cons move moves ih =>
    cases move with
    | own => exact ih (h.step ht htoken) (keyed_step ht r) hfront hleaves
    | other call =>
      rw [disturbances, List.forall_mem_cons] at hfront hleaves
      exact ih (h.disturb ht (keyed_call ht call) hattached hleaves.1 hfront.1)
        (keyed_call ht call) hfront.2 hleaves.2

/-- **A revocation reaches every token that is left alone,** as long as the tokens in front of the
page that is listed next stay attached.  Whenever it succeeds, a token that was attached to the
authorization at its beginning, and that no other client has written or removed, is revoked. -/
theorem reaches_untouched_tokens [ReadableModel M] [LawfulEntityKey K] (ht : t.Keyed)
    {moves : List Move} {n : Nat} {expected : String}
    (hcount : (c.interleave ((.start : Revocation M), t) moves).1.count? = some n)
    (hfront : ∀ d ∈ c.disturbances ((.start : Revocation M), t) moves, d.KeepsFront c)
    (k : K) (hrow : t.row? .token (EntityKey.toKey k) = some row)
    (hattached : row.cell "authorization_id" = .key (EntityKey.toKey c.id))
    (htoken : row.cell "concurrency_token" = .text expected)
    (hleaves : ∀ d ∈ c.disturbances ((.start : Revocation M), t) moves,
      d.Leaves (EntityKey.toKey k)) :
    ∃ row', (c.interleave ((.start : Revocation M), t) moves).2.row? .token
        (EntityKey.toKey k) = some row' ∧ row'.cell "status" = .text "revoked" := by
  have hholds : c.filter.holds row = true := by
    have hself : (Cell.key (EntityKey.toKey c.id)).compare? (.key (EntityKey.toKey c.id)) =
        some .eq := congrArg some Std.ReflOrd.compare_self
    change ((row.cell "authorization_id").compare? (.key (EntityKey.toKey c.id)) == some .eq &&
      true) = true
    rw [hattached, hself]
    rfl
  have hstart : c.Covers (EntityKey.toKey k) row (.start : Revocation M) t :=
    ⟨hrow, rfl, .inr ⟨rfl, ht.mem_idsWhere.mpr ⟨row, hrow, hholds⟩⟩⟩
  exact (hstart.interleave ht hholds htoken hfront hleaves).storedRevoked hcount

/-! ## 4. A token that is passed over -/

/-- A valid token of the authorization `a`, for examples. -/
def validToken (id : String) : Token String :=
  { id := some id, authorizationId := some "a", concurrencyToken := some "t",
    status := some "valid" }

theorem cell_validToken : (validToken "y").toRow.cell "concurrency_token" = .text "t" := by
  decide +kernel

/-- Three tokens of one authorization. -/
def threeTokens : Tables :=
  ["x", "y", "z"].foldl
    (fun t id => (Tables.Operation.insert .token (validToken id).toRow).apply t) .empty

/-- The revocation of their authorization, in pages of one token. -/
def oneByOne : RevokeCall String := ⟨"a", 1, fun n => ⟨BitVec.ofNat 128 n⟩⟩

/-- The store of these tokens. -/
def tokenStore : StoreModel := { Entity := Token String, Base := Token String, Key := String }

theorem reachable_threeTokens : Tables.Reachable threeTokens :=
  Tables.reachable_foldl_insert
    (["x", "y", "z"].map fun id => (EntityKind.token, (validToken id).toRow)) .empty

theorem row?_threeTokens :
    threeTokens.row? .token (.text "y") = some (validToken "y").toRow := by
  decide +kernel

/-- After the first page a token is added in front of it, and the listing shows the first one again.
-/
def addition : List Move :=
  [.own, .other (.create tokenStore ⟨0⟩ ⟨9⟩ (validToken "w"))] ++ List.replicate 10 .own

/-- The first token is listed twice and revoked once; the others have moved up, and both of them are
reached. -/
theorem reaches_untouched_tokens_addition :
    Tables.Reachable threeTokens ∧
      (oneByOne.interleave ((.start : Revocation (Token String)), threeTokens) addition).1.count? =
        some 3 ∧
      (∀ d ∈ oneByOne.disturbances ((.start : Revocation (Token String)), threeTokens) addition,
        d.KeepsFront oneByOne ∧ d.Leaves (.text "y")) ∧
      ∃ row, (oneByOne.interleave ((.start : Revocation (Token String)), threeTokens)
        addition).2.row? .token (.text "y") = some row ∧ row.cell "status" = .text "revoked" := by
  obtain ⟨hcount, hothers⟩ :
      (oneByOne.interleave ((.start : Revocation (Token String)), threeTokens) addition).1.count? =
        some 3 ∧
      ∀ d ∈ oneByOne.disturbances ((.start : Revocation (Token String)), threeTokens) addition,
        d.KeepsFront oneByOne ∧ d.Leaves (.text "y") := by
    decide +kernel
  refine ⟨reachable_threeTokens, hcount, hothers, ?_⟩
  exact reaches_untouched_tokens reachable_threeTokens.wellFormed.keyed hcount
    (fun d hd => (hothers d hd).1) "y" row?_threeTokens (by decide +kernel) cell_validToken
    fun d hd => (hothers d hd).2

/-- After the first page its token is deleted, and the second one takes its place. -/
def deletion : List Move :=
  [.own, .other (.delete tokenStore .restrict (validToken "x"))] ++ List.replicate 6 .own

/-- **A token that nobody has touched is passed over.**  The first of three tokens is deleted after
it has been listed; the listing goes on with the third one, and the second stays valid. -/
theorem revocation_passes_over_token :
    Tables.Reachable threeTokens ∧
      (oneByOne.interleave ((.start : Revocation (Token String)), threeTokens) deletion).1.count? =
        some 1 ∧
      threeTokens.row? .token (.text "y") = some (validToken "y").toRow ∧
      (validToken "y").toRow.cell "authorization_id" = .key (EntityKey.toKey oneByOne.id) ∧
      (∀ d ∈ oneByOne.disturbances ((.start : Revocation (Token String)), threeTokens) deletion,
        d.Leaves (.text "y")) ∧
      (oneByOne.interleave ((.start : Revocation (Token String)), threeTokens) deletion).2.row?
        .token (.text "y") = some (validToken "y").toRow ∧
      (validToken "y").toRow.cell "status" = .text "valid" :=
  ⟨reachable_threeTokens, by decide +kernel⟩

end RevokeCall

end Clients

end GrantLedger
