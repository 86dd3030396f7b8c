import GrantLedger.Proofs.FailedWrites
import GrantLedger.Proofs.Ordering
import GrantLedger.Proofs.WellFormed

/-!
# Entities that are written and found again

A store finds an entity by a query over the identifier column, and it writes rows under keys.  In
keyed tables the two come together: `findById_run` says that finding by an identifier answers with
the row under its key, whatever else is stored.  Finders with other conditions look at one of the
rows that these hold of (`fetchOne_cases`).

The second half says what a create stores.  It is the record that was encoded, under the identifier
that this record has or else receives (`create_ok`), provided that identifiers which the tables
assign are read as what they are stored as (`AssignedKey`).
-/

namespace GrantLedger

/-! ## 1. Identifiers -/

/-- A key type that reads the identifiers which the tables assign, where stores do not generate
any, as what they are stored as. -/
class AssignedKey (K : Type) [EntityKey K] : Prop where
  toKey_of_assigned : ∀ {id : Uuid} {n : Int64} {k : K},
    (EntityKey.generate? id : Option K) = none → EntityKey.ofKey (.int n) = .ok k →
      EntityKey.toKey k = .int n

instance : AssignedKey String where
  toKey_of_assigned h := by cases h

instance : AssignedKey Uuid where
  toKey_of_assigned h := by cases h

instance : AssignedKey Int64 where
  toKey_of_assigned _ h := by
    cases h
    rfl

theorem toInt64_of_narrow {n : Int64} {k : Int32} (h : EntityKey.narrow n = .ok k) :
    k.toInt64 = n := by
  rw [EntityKey.narrow] at h
  split at h
  · cases h
  · split at h
    · cases h
    · next hlow hhigh =>
      cases h
      rw [← Int64.toInt_inj, Int32.toInt_toInt64, Int64.toInt_toInt32,
        Int.bmod_eq_of_le (by omega) (by omega)]

instance : AssignedKey Int32 where
  toKey_of_assigned _ h := congrArg Key.int (toInt64_of_narrow h)

instance (key : KeyType) : AssignedKey key.type := by
  cases key
  · exact inferInstanceAs (AssignedKey String)
  · exact inferInstanceAs (AssignedKey Uuid)
  · exact inferInstanceAs (AssignedKey Int64)
  · exact inferInstanceAs (AssignedKey Int32)

/-- Different identifiers are stored under different keys. -/
theorem toKey_injective {K : Type} [EntityKey K] [LawfulEntityKey K] {i k : K}
    (h : EntityKey.toKey i = EntityKey.toKey k) : i = k := by
  have hread := LawfulEntityKey.ofKey_toKey i
  rw [h, LawfulEntityKey.ofKey_toKey] at hread
  exact (Except.ok.inj hread).symm

/-! ## 2. Conditions on a column -/

section Conditions

variable {kind : EntityKind} {filter : Filter} {column : String} {p : Predicate} {row : Row}

@[simp] theorem Filter.holds_all : Filter.all.holds row = true := rfl

theorem Filter.holds_and : (filter.and column p).holds row = true ↔
    filter.holds row = true ∧ p.holds (row.cell column) = true := by
  simp [holds, and, Condition.holds]

theorem Filter.holds_one : (Filter.all.and column p).holds row = true ↔
    p.holds (row.cell column) = true :=
  holds_and.trans (and_iff_right holds_all)

@[simp] theorem Filter.check_all : Filter.all.check kind = .ok () := rfl

/-- A condition more is accepted exactly if its column is declared. -/
theorem Filter.check_and_iff : (filter.and column p).check kind = .ok () ↔
    filter.check kind = .ok () ∧ kind.Declares column := by
  simp only [check, and, forM_eq_ok_iff, EntityKind.checkColumn_eq_ok_iff,
    List.forall_mem_append, List.forall_mem_singleton]

/-- A condition on one column is accepted if this column is declared. -/
theorem Filter.check_one (h : kind.Declares column) :
    (Filter.all.and column p).check kind = .ok () :=
  check_and_iff.mpr ⟨check_all, h⟩

/-- A column equals a key exactly if it holds this key; without a value it equals none. -/
theorem Predicate.holds_eq_key {i : Option Key} {key : Key} :
    (Predicate.eq (.key key)).holds (Cell.ofKey? i) = true ↔ i = some key := by
  cases i <;> simp [holds, Cell.ofKey?, Cell.compare?]

/-- A column equals a text exactly if it holds this text; without a value it equals none. -/
theorem Predicate.holds_eq_text {s : Option String} {text : String} :
    (Predicate.eq (.text text)).holds (Cell.ofText? s) = true ↔ s = some text := by
  cases s <;> simp [holds, Cell.ofText?, Cell.compare?]

end Conditions

/-! ## 3. Finding -/

/-- The condition on the identifier holds of the row under the key alone. -/
theorem Tables.Keyed.holds_id_iff {t : Tables} (h : t.Keyed) {kind : EntityKind} {key : Key}
    {row : Row} : row ∈ t.rows kind ∧ (Filter.all.eq "id" (.key key)).holds row = true ↔
      t.row? kind key = some row := by
  have hid : ∀ i, t.row? kind i = some row →
      ((Filter.all.eq "id" (.key key)).holds row = true ↔ i = key) := by
    intro i hi
    have hcell : row.cell "id" = Cell.ofKey? (some i) := h kind i row hi
    rw [Filter.eq, Filter.holds_one, hcell, Predicate.holds_eq_key, Option.some.injEq]
  rw [mem_rows]
  constructor
  · rintro ⟨⟨i, hi⟩, hholds⟩
    rw [← (hid i hi).mp hholds]
    exact hi
  · intro hrow
    exact ⟨⟨key, hrow⟩, (hid key hrow).mpr rfl⟩

namespace Store

variable {M R K : Type} [EntityKey K] [Record R K] [Model M R K] {t u : Tables}

omit [EntityKey K] in
/-- A record is a model of itself, so that reading an entity is reading the record. -/
theorem decode_eq_ofRow (row : Row) : (decode row : Except StoreError R) = Record.ofRow row := by
  change (Record.ofRow row >>= fun b => Except.ok b) = _
  cases (Record.ofRow row : Except StoreError R) <;> rfl

/-- What a store of models `M` finds in the row of an identifier. -/
def found (M : Type) {R K : Type} [EntityKey K] [Record R K] [Model M R K] (t : Tables) (k : K) :
    Except StoreError (Option M) :=
  (t.row? (kindOf M) (EntityKey.toKey k)).elim (.ok none) fun row => (decode row).map some

theorem check_id (kind : EntityKind) (key : Key) :
    (Filter.all.eq "id" (.key key)).check kind = .ok () := Filter.check_one kind.declares_id

omit [EntityKey K] in
/-- **The first row.**  A finder for one entity looks at one of the rows that its filter holds of,
if there are any. -/
theorem fetchOne_cases {filter : Filter} (hcheck : filter.check (kindOf M) = .ok ())
    (t : Tables) :
    (∃ row ∈ t.rows (kindOf M), filter.holds row = true ∧
      (fetchOne M filter).run t = (.answered ((decode row).map some), t)) ∨
    (∀ row ∈ t.rows (kindOf M), ¬ filter.holds row = true) ∧
      (fetchOne M filter).run t = (.ok none, t) := by
  let query : RowQuery := ⟨filter, RowQuery.withTieBreak [], 0, none⟩
  have hmake : RowQuery.make (kindOf M) filter [] = .ok query :=
    RowQuery.make_eq_ok_iff.mpr ⟨hcheck, List.forall_mem_nil _, rfl⟩
  have hmem : ∀ row, row ∈ query.answers (t.rows (kindOf M)) ↔
      row ∈ t.rows (kindOf M) ∧ filter.holds row = true := by
    intro row
    rw [(RowQuery.answers_perm query _).mem_iff, List.mem_filter]
  have hselect : t.select (kindOf M) (query.window 0 (some 1)) =
      (query.answers (t.rows (kindOf M))).take 1 := rfl
  rw [fetchOne, hmake]
  simp only [Request.reading, Request.run, hselect]
  cases hrows : query.answers (t.rows (kindOf M)) with
  | nil =>
    refine .inr ⟨fun row hrow hholds => ?_, rfl⟩
    have hanswer := (hmem row).mpr ⟨hrow, hholds⟩
    rw [hrows] at hanswer
    cases hanswer
  | cons row rest =>
    obtain ⟨hrow, hholds⟩ := (hmem row).mp (hrows ▸ List.mem_cons_self)
    exact .inl ⟨row, hrow, hholds, rfl⟩

/-- **Finding.**  In keyed tables, finding by an identifier looks at the row under its key. -/
theorem findById_run (h : t.Keyed) (k : K) : (findById M k).run t = (.answered (found M t k), t) := by
  have hcheck := check_id (kindOf M) (EntityKey.toKey k)
  rw [findById, found]
  rcases fetchOne_cases hcheck t with ⟨row, hrow, hholds, hrun⟩ | ⟨hnone, hrun⟩
  · rw [hrun, h.holds_id_iff.mp ⟨hrow, hholds⟩]
    rfl
  · have hfree : t.row? (kindOf M) (EntityKey.toKey k) = none := by
      refine Option.eq_none_iff_forall_ne_some.mpr fun row hrow => ?_
      obtain ⟨hmem, hholds⟩ := h.holds_id_iff.mpr hrow
      exact hnone row hmem hholds
    rw [hrun, hfree]
    rfl

/-- Finding answers alike where the row under the key is the same. -/
theorem findById_congr (ht : t.Keyed) (hu : u.Keyed) {k : K}
    (h : u.row? (kindOf M) (EntityKey.toKey k) = t.row? (kindOf M) (EntityKey.toKey k)) :
    (findById M k).run u = (((findById M k).run t).1, u) := by
  rw [findById_run ht, findById_run hu, found, found, h]

/-! ## 4. What is written -/

/-- The row of a record under an identifier. -/
def rowUnder (r : R) (k : K) : Row := (Record.toRow r).set "id" (.key (EntityKey.toKey k))

/-- After one row is written, its identifier leads to it. -/
theorem findById_written (ht : t.Keyed) {r : R} {k : K}
    (hu : Tables.Writes t u (kindOf M) (EntityKey.toKey k) (rowUnder r k)) :
    (findById M k).run u = (.answered ((decode (rowUnder r k)).map some), u) := by
  rw [findById_run (ht.write hu), found, hu, if_pos ⟨rfl, rfl⟩]
  rfl

/-- **Update.**  An update that succeeds stores the record that was encoded under the entity's
identifier; its answer is the given entity with its new token. -/
theorem update_ok {token : Uuid} {m c : M} {r : R}
    (hrow : encode (renewed token m) = .ok (Record.toRow r))
    (h : (update token m).run t = (.ok c, u)) :
    ∃ k, Record.id (Model.base m) = some k ∧ c = renewed token m ∧
      Tables.Writes t u (kindOf M) (EntityKey.toKey k) (rowUnder r k) := by
  rcases update_cases token m t with
    ⟨err, hrun⟩ | ⟨k, expected, row, v, hid, -, hencode, hrun, -, hv⟩
  · rw [hrun] at h
    cases h
  · rw [hrow] at hencode
    cases hencode
    rw [hrun] at h
    obtain ⟨hanswer, rfl⟩ := Prod.mk.inj h
    cases hanswer
    exact ⟨k, hid, rfl, hv⟩

section Lawful

variable [LawfulRecord R] [LawfulEntityKey K]

theorem ofRow_rowUnder (r : R) (k : K) :
    Record.ofRow (rowUnder r k) = .ok (Record.withId r k) := by
  rw [rowUnder, LawfulRecord.ofRow_set_id, LawfulEntityKey.ofKey_toKey]
  rfl

/-- A record that is read back from an insertion was stored under the identifier that it has
now. -/
theorem insertedKey_of_ofRow [AssignedKey K] {kind : EntityKind} {id : Uuid} {r b : R}
    (hgenerate : Record.id r = none → (EntityKey.generate? id : Option K) = none)
    (h : Record.ofRow (t.insertedRow kind (Record.toRow r)) = .ok b) :
    ∃ k, b = Record.withId r k ∧ t.insertedKey kind (Record.toRow r) = EntityKey.toKey k ∧
      ∀ i, Record.id r = some i → k = i := by
  rw [Tables.insertedRow, LawfulRecord.ofRow_set_id, insertedKey_toRow] at h
  rw [insertedKey_toRow]
  cases hid : Record.id r with
  | some i =>
    rw [hid, Option.elim_some, LawfulEntityKey.ofKey_toKey] at h
    cases h
    exact ⟨i, rfl, rfl, fun j hj => Option.some.inj hj⟩
  | none =>
    rw [hid, Option.elim_none] at h
    cases hread : (EntityKey.ofKey (.int (t.get kind).nextIdentity) : Except StoreError K) with
    | error e =>
      rw [hread] at h
      cases h
    | ok k =>
      rw [hread] at h
      cases h
      exact ⟨k, rfl, (AssignedKey.toKey_of_assigned (hgenerate hid) hread).symm,
        fun i hi => by cases hi⟩

variable [LawfulModel M] {token : Uuid} {m c : M} {r : R}

/-- **Create.**  A create that succeeds stores the record that was encoded under a free key, which
is that of the record's identifier, if it has one; its answer carries the stored record. -/
theorem create_ok [AssignedKey K] {id : Uuid}
    (hrow : encode (drafted id token m) = .ok (Record.toRow r))
    (hid : Record.id r = Record.id (Model.base (drafted id token m)))
    (h : (create id token m).run t = (.ok c, u)) :
    ∃ k, c = Model.withBase (drafted id token m) (Record.withId r k) ∧
      (∀ i, Record.id r = some i → k = i) ∧
      t.row? (kindOf M) (EntityKey.toKey k) = none ∧
      Tables.Writes t u (kindOf M) (EntityKey.toKey k) (rowUnder r k) := by
  rcases create_cases id token m t with
    hrun | ⟨err, v, hrun, -⟩ | ⟨row, v, hencode, hrun, hfree, hv⟩
  · rw [hrun] at h
    cases h
  · rw [hrun] at h
    cases h
  · rw [hrow] at hencode
    cases hencode
    rw [hrun] at h
    obtain ⟨hanswer, rfl⟩ := Prod.mk.inj h
    cases hread : (Record.ofRow (t.insertedRow (kindOf M) (Record.toRow r)) :
        Except StoreError R) with
    | error e =>
      rw [hread] at hanswer
      cases hanswer
    | ok b =>
      rw [hread] at hanswer
      cases hanswer
      have hgenerate : Record.id r = none → (EntityKey.generate? id : Option K) = none :=
        fun hnone => by
          rw [hid, id_drafted, Option.or_eq_none_iff] at hnone
          exact hnone.2
      obtain ⟨k, rfl, hkey, hkept⟩ := insertedKey_of_ofRow hgenerate hread
      rw [Tables.insertedRow, hkey] at hv
      rw [hkey] at hfree
      exact ⟨k, rfl, hkept, hfree, hv⟩

end Lawful

end Store

end GrantLedger
