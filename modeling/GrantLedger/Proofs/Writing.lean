import GrantLedger.Proofs.LawfulModel
import GrantLedger.Proofs.Operations
import GrantLedger.Store.Basic

/-!
# What a store's writes do to the rows

The writes of a store do fallible work of their own around the one session call that changes the
tables: they look at the entity, encode it, and a create reads back the row it stored.  One law for
each write says what becomes of the rows, over every lawful model:

* `create_cases`: no row changes, or the draft's row is stored under a new key, whatever reading it
  back then gives;
* `update_cases` and `delete_cases`: nothing at all changes, or the row that held the entity's token
  is replaced or goes.
-/

namespace GrantLedger.Store

variable {M R K : Type} [Record R K] [Model M R K] {m : M} {row : Row}

/-! ## 1. The row of an entity -/

/-- Without an extension property the row is the row of the base. -/
theorem encode_of_plain (h : Model.extensionProperty M = none) (m : M) :
    encode m = .ok (Record.toRow (Model.base m)) := by
  simp only [encode, h]

/-- An entity's row is the row of its base in every column but the property bag. -/
theorem encode_cell (h : encode m = .ok row) {column : String} (hc : column ≠ "properties") :
    row.cell column = (Record.toRow (Model.base m)).cell column := by
  simp only [encode] at h
  split at h
  · cases h
    rfl
  · next name _ =>
    cases hp : Codec.decodeProperties
        ((Record.toRow (Model.base m)).cell "properties").text? with
    | error e =>
      rw [hp] at h
      cases h
    | ok properties =>
      rw [hp] at h
      cases h
      exact Row.cell_set_of_ne _ hc _

theorem decodeProperties_malformedOnly (encoded : Option String) :
    MalformedOnly (Codec.decodeProperties encoded) := by
  unfold Codec.decodeProperties
  split
  · exact malformedOnly_ok _
  · split
    · exact malformedOnly_ok _
    · exact malformedOnly_error _

theorem encode_malformedOnly (m : M) : MalformedOnly (encode m) := by
  unfold encode
  dsimp only
  split
  · exact malformedOnly_ok _
  · exact (decodeProperties_malformedOnly _).bind fun _ => malformedOnly_ok _

/-! ## 2. The entity that is written -/

variable [EntityKey K]

section Lawful

variable [LawfulRecord R]

/-- A written row shows the token of its entity. -/
theorem encode_token (h : encode m = .ok row) :
    row.cell "concurrency_token" = Cell.ofText? (Record.token (Model.base m)) := by
  rw [encode_cell h (by decide), LawfulRecord.cell_token]

variable [LawfulModel M]

/-- A draft carries the fresh token. -/
theorem token_drafted (id token : Uuid) (m : M) :
    Record.token (Model.base (drafted id token m)) = some token.toText := by
  rw [drafted, LawfulModel.base_withBase, LawfulRecord.token_withToken]

/-- A draft keeps the identifier of its entity and receives a generated one, if it has none and the
key type knows how to generate one. -/
theorem id_drafted (id token : Uuid) (m : M) :
    Record.id (Model.base (drafted id token m)) =
      (Record.id (Model.base m)).or (EntityKey.generate? id) := by
  rw [drafted, LawfulModel.base_withBase, LawfulRecord.id_withToken]
  cases h : Record.id (Model.base m) with
  | some k => simpa using h
  | none =>
    cases (EntityKey.generate? id : Option K) with
    | none => simpa using h
    | some k => simp [LawfulRecord.id_withId]

/-- The entity that an update stores: the given one with a fresh token. -/
def renewed (token : Uuid) (m : M) : M :=
  Model.withBase m (Record.withToken (Model.base m) (some token.toText))

theorem token_renewed (token : Uuid) (m : M) :
    Record.token (Model.base (renewed token m)) = some token.toText := by
  rw [renewed, LawfulModel.base_withBase, LawfulRecord.token_withToken]

end Lawful

/-! ## 3. What each write does -/

/-- What is malformed is no conflict. -/
theorem isRetryable_of_isValidation {err : StoreError} (h : err.isValidation = true) :
    err.isRetryable = false := by
  cases err <;> first | rfl | cases h

/-- **Create.**  A create that panics or is refused changes no row.  Otherwise the draft's row is
stored under a key that was free, and reading it back decides the answer only. -/
theorem create_cases (id token : Uuid) (m : M) (t : Tables) :
    (create id token m).run t = (.panic, t) ∨
      (∃ err u, (create id token m).run t = (.error err, u) ∧ Tables.SameRows u t ∧
        err.isRetryable = false) ∨
      (∃ row u, encode (drafted id token m) = .ok row ∧
        (create id token m).run t =
          (.answered ((Record.ofRow (t.insertedRow (kindOf M) row)).map
            (Model.withBase (drafted id token m))), u) ∧
        t.row? (kindOf M) (t.insertedKey (kindOf M) row) = none ∧
        Tables.Writes t u (kindOf M) (t.insertedKey (kindOf M) row)
          (t.insertedRow (kindOf M) row)) := by
  cases hrow : encode (drafted id token m) with
  | error e =>
    refine Or.inr (Or.inl
      ⟨e, t, ?_, .refl t, isRetryable_of_isValidation (encode_malformedOnly _ e hrow)⟩)
    simp only [create, Request.run, hrow]
  | ok row =>
    rcases t.insert_cases (kindOf M) row with
      ⟨-, hins⟩ | ⟨fault, u, hins, hsame, -⟩ | ⟨u, hins, hfree, -, hu⟩
    · left
      simp only [create, Request.run, hrow, hins]
    · refine Or.inr (Or.inl ⟨.backend fault, u, ?_, hsame, rfl⟩)
      simp only [create, Request.run, hrow, hins]
    · refine Or.inr (Or.inr ⟨row, u, rfl, ?_, hfree, hu⟩)
      simp only [create, Request.run, hrow, hins]

theorem addressed_eq_ok_iff {operation : String} {id : K} {expected : String} :
    addressed operation m = .ok (id, expected) ↔
      Record.id (Model.base m) = some id ∧ Record.token (Model.base m) = some expected := by
  unfold addressed
  cases Record.id (Model.base m) <;> cases Record.token (Model.base m) <;> simp

/-- **Update.**  A refused update changes nothing.  Otherwise the row that held the entity's token
is replaced by one with the fresh token. -/
theorem update_cases (token : Uuid) (m : M) (t : Tables) :
    (∃ err, (update token m).run t = (.error err, t)) ∨
      (∃ id expected row u, Record.id (Model.base m) = some id ∧
        Record.token (Model.base m) = some expected ∧ encode (renewed token m) = .ok row ∧
        (update token m).run t = (.ok (renewed token m), u) ∧
        t.tokenMatches (kindOf M) (EntityKey.toKey id) expected = true ∧
        Tables.Writes t u (kindOf M) (EntityKey.toKey id)
          (row.set "id" (.key (EntityKey.toKey id)))) := by
  cases haddr : addressed "update" m with
  | error e =>
    refine Or.inl ⟨e, ?_⟩
    simp only [update, haddr, Request.run_refused]
  | ok address =>
    obtain ⟨id, expected⟩ := address
    obtain ⟨hid, htoken⟩ := addressed_eq_ok_iff.mp haddr
    cases hrow : encode (renewed token m) with
    | error e =>
      refine Or.inl ⟨e, ?_⟩
      rw [renewed] at hrow
      simp only [update, haddr, hrow, Request.run_refused]
    | ok row =>
      have hrow' := hrow
      rw [renewed] at hrow'
      rcases t.update_cases (kindOf M) (EntityKey.toKey id) expected row with
        ⟨-, hupd⟩ | ⟨fault, hupd, -⟩ | ⟨u, hupd, hmatch, -, hu⟩
      · refine Or.inl ⟨conflict M id, ?_⟩
        simp only [update, haddr, hrow', hupd, Request.run]
      · refine Or.inl ⟨.backend fault, ?_⟩
        simp only [update, haddr, hrow', hupd, Request.run]
      · refine Or.inr ⟨id, expected, row, u, hid, htoken, rfl, ?_, hmatch, hu⟩
        simp only [update, haddr, hrow', hupd, Request.run, renewed]

/-- **Delete.**  A refused delete changes nothing.  Otherwise the row that held the entity's token
goes, together with its dependents. -/
theorem delete_cases (policy : DeletePolicy) (m : M) (t : Tables) :
    (∃ err, (delete policy m).run t = (.error err, t)) ∨
      (∃ id expected u, Record.id (Model.base m) = some id ∧
        Record.token (Model.base m) = some expected ∧
        (delete policy m).run t = (.ok (), u) ∧
        t.tokenMatches (kindOf M) (EntityKey.toKey id) expected = true ∧
        u.row? (kindOf M) (EntityKey.toKey id) = none ∧ Tables.Drops t u) := by
  cases haddr : addressed "delete" m with
  | error e =>
    refine Or.inl ⟨e, ?_⟩
    simp only [delete, haddr, Request.run_refused]
  | ok address =>
    obtain ⟨id, expected⟩ := address
    obtain ⟨hid, htoken⟩ := addressed_eq_ok_iff.mp haddr
    rcases t.delete_cases (kindOf M) (EntityKey.toKey id) expected policy with
      ⟨hdel, -⟩ | ⟨n, hdel, -⟩ | ⟨n, u, hdel, hmatch, hu⟩
    · refine Or.inl ⟨conflict M id, ?_⟩
      simp only [delete, haddr, hdel, Request.run]
    · refine Or.inl ⟨.referentialConflict (kindOf M) (EntityKey.toText id) n, ?_⟩
      simp only [delete, haddr, hdel, Request.run]
    · refine Or.inr ⟨id, expected, u, hid, htoken, ?_, hmatch,
        (hu (kindOf M) _).1 (Or.inl ⟨rfl, rfl⟩), Tables.drops_of_gone hu⟩
      simp only [delete, haddr, hdel, Request.run]

end GrantLedger.Store
