import GrantLedger.Proofs.Finding
import GrantLedger.Proofs.References

/-!
# Writes are read back, and nothing else changes

The four record types are stored as they are.  `read_your_writes` says, over each of them, each key
type and all tables that operations come to, what a write that succeeds leaves behind:

* the answer is the given entity with a fresh token and, where it had no identifier, with one that
  was not stored before;
* finding by its identifier answers with exactly this entity, or with none after a deletion;
* every other identifier finds what it found before, and rows of other kinds stay, except for the
  dependents that a cascading deletion takes along.

The first part is about records (`withId_drafted`) and the second about tables (`Settled`).
-/

namespace GrantLedger

/-! ## 1. Identifier and token are columns of their own -/

/-- A record type in which the identifier and the token are replaced independently. -/
class SeparateColumns (R : Type) {K : Type} [Record R K] : Prop where
  withId_of_id : ∀ {r : R} {k : K}, Record.id r = some k → Record.withId r k = r
  withId_withId : ∀ (r : R) (i k : K), Record.withId (Record.withId r i) k = Record.withId r k
  withId_withToken : ∀ (r : R) (token : Option String) (k : K),
    Record.withId (Record.withToken r token) k = Record.withToken (Record.withId r k) token

section

variable {K : Type} [EntityKey K]

instance : SeparateColumns (Application K) where
  withId_of_id {r k} h := by
    cases r
    cases h
    rfl
  withId_withId _ _ _ := rfl
  withId_withToken _ _ _ := rfl

instance : SeparateColumns (Authorization K) where
  withId_of_id {r k} h := by
    cases r
    cases h
    rfl
  withId_withId _ _ _ := rfl
  withId_withToken _ _ _ := rfl

instance : SeparateColumns (Scope K) where
  withId_of_id {r k} h := by
    cases r
    cases h
    rfl
  withId_withId _ _ _ := rfl
  withId_withToken _ _ _ := rfl

instance : SeparateColumns (Token K) where
  withId_of_id {r k} h := by
    cases r
    cases h
    rfl
  withId_withId _ _ _ := rfl
  withId_withToken _ _ _ := rfl

end

/-! ## 2. Rows after a deletion -/

namespace Tables

variable {t u : Tables} {kind : EntityKind} {id : Key} {expected : String} {policy : DeletePolicy}

/-- The rows that a deletion takes along: the dependents, if it cascades. -/
def taken (t : Tables) (policy : DeletePolicy) (kind : EntityKind) (id : Key) :
    Set (EntityKind × Key) :=
  {p | policy = .cascade ∧ p ∈ t.dependents kind id}

theorem taken_cascade : t.taken .cascade kind id = t.dependents kind id := by
  ext p
  exact and_iff_right rfl

theorem taken_restrict : t.taken .restrict kind id = ∅ := by
  ext p
  exact iff_of_false (fun h => by cases h.1) (Set.notMem_empty p)

/-- **A deletion removes the row and what it takes along.**  One that restricts goes through only
without dependents, and then it does what one that cascades does. -/
theorem Keyed.row?_of_deleted (h : t.Keyed) {n : Nat}
    (hdelete : t.delete kind id expected policy = (.deleted n, u)) (other : EntityKind) (i : Key) :
    ((other, i) = (kind, id) ∨ (other, i) ∈ t.taken policy kind id → u.row? other i = none) ∧
      (¬ ((other, i) = (kind, id) ∨ (other, i) ∈ t.taken policy kind id) →
        u.row? other i = t.row? other i) := by
  have hrow : t.StoredWith kind id expected := by
    by_contra hno
    rw [delete_of_not_storedWith hno] at hdelete
    cases hdelete
  obtain ⟨v, hcascade, hrestrict⟩ := h.delete_of_storedWith hrow
  have hrows := h.row?_of_cascade hcascade other i
  cases policy with
  | cascade =>
    rw [hcascade] at hdelete
    cases hdelete
    rw [taken_cascade]
    exact hrows
  | restrict =>
    rw [hrestrict] at hdelete
    split at hdelete
    · cases hdelete
    · next hnone =>
      cases hdelete
      have hfinite : (t.dependents kind id).Finite :=
        t.finite_stored.subset fun p hp => family_subset_stored hrow (Or.inr hp)
      have hempty : t.dependents kind id = ∅ :=
        (Set.ncard_eq_zero hfinite).mp (Nat.eq_zero_of_not_pos hnone)
      rw [taken_restrict, ← hempty]
      exact hrows

end Tables

namespace Store

variable {M R K : Type} [EntityKey K] [Record R K] [Model M R K] {t u : Tables}

/-! ## 3. What a write settles -/

/-- An entity with an identifier and a fresh token, and otherwise as it is. -/
def stamped (k : K) (token : Uuid) (m : M) : M :=
  Model.withBase m (Record.withToken (Record.withId (Model.base m) k) (some token.toText))

/-- What a write of the entity under an identifier leaves behind: what this identifier finds, what
all others find, and the rows of other kinds, where some may be gone. -/
structure Settled (k : K) (answer : Option M) (gone : Set (EntityKind × Key)) (t u : Tables) :
    Prop where
  this : (findById M k).run u = (.ok answer, u)
  others : ∀ i, i ≠ k → (findById M i).run u = (((findById M i).run t).1, u)
  removed : ∀ p ∈ gone, u.row? p.1 p.2 = none
  kept : ∀ other i, other ≠ kindOf M → (other, i) ∉ gone → u.row? other i = t.row? other i

/-- A deletion that succeeds found the row with the token that the entity holds. -/
theorem delete_ok {policy : DeletePolicy} {m : M} (h : (delete policy m).run t = (.ok (), u)) :
    ∃ k expected n, Record.id (Model.base m) = some k ∧
      t.delete (kindOf M) (EntityKey.toKey k) expected policy = (.deleted n, u) := by
  cases haddressed : addressed "delete" m with
  | error e =>
    simp only [delete, haddressed, Request.refused, Request.run] at h
    cases h
  | ok address =>
    obtain ⟨k, expected⟩ := address
    simp only [delete, haddressed, Request.run] at h
    split at h <;> cases h
    next n hdelete => exact ⟨k, expected, n, (addressed_eq_ok_iff.mp haddressed).1, hdelete⟩

variable [LawfulEntityKey K]

/-- **Writing one row settles its identifier.** -/
theorem settled_of_writes (ht : t.Keyed) {r : R} {k : K} {m : M}
    (hu : Tables.Writes t u (kindOf M) (EntityKey.toKey k) (rowUnder r k))
    (hm : decode (rowUnder r k) = .ok m) : Settled k (some m) ∅ t u where
  this := by
    rw [findById_written ht hu, hm]
    rfl
  others i hne := findById_congr ht (ht.write hu) (by
    rw [hu, if_neg fun h => hne (toKey_injective h.2)])
  removed _ hp := absurd hp (Set.notMem_empty _)
  kept other i hne _ := by rw [hu, if_neg fun h => hne h.1]

/-- **Deleting a row settles its identifier.** -/
theorem settled_of_deleted (ht : t.Keyed) {k : K} {expected : String} {policy : DeletePolicy}
    {n : Nat}
    (h : t.delete (kindOf M) (EntityKey.toKey k) expected policy = (.deleted n, u)) :
    Settled k (none : Option M) (t.taken policy (kindOf M) (EntityKey.toKey k)) t u := by
  have hrows := ht.row?_of_deleted h
  have hu : u.Keyed := ht.restrict (Tables.drops_of_gone hrows)
  refine ⟨?_, fun i hne => findById_congr ht hu ((hrows _ _).2 ?_),
    fun p hp => (hrows _ _).1 (Or.inr hp), fun other i hne hkept => (hrows _ _).2 ?_⟩
  · rw [findById_run hu, found, (hrows _ _).1 (Or.inl rfl)]
    rfl
  · rintro (heq | htaken)
    · exact hne (toKey_injective (Prod.mk.inj heq).2)
    · exact Tables.notMem_dependents_self htaken.2
  · rintro (heq | htaken)
    · exact hne (Prod.mk.inj heq).1
    · exact hkept htaken

/-! ## 4. Records -/

section Records

variable [SeparateColumns R]

omit [LawfulEntityKey K] in
/-- Under its identifier, a draft is the given record with this identifier and the fresh token. -/
theorem withId_drafted (id token : Uuid) (r : R) (k : K) :
    Record.withId (drafted id token r) k = stamped k token r := by
  change Record.withId (Record.withToken _ _) k = Record.withToken (Record.withId r k) _
  rw [SeparateColumns.withId_withToken]
  split
  · rw [SeparateColumns.withId_withId]
    rfl
  · rfl

omit [EntityKey K] [LawfulEntityKey K] in
/-- With the identifier that it has, an entity receives a fresh token and no more. -/
theorem stamped_of_id (token : Uuid) {r : R} {k : K} (h : Record.id r = some k) :
    stamped k token r = renewed token r := by
  change Record.withToken (Record.withId r k) _ = Record.withToken r _
  rw [SeparateColumns.withId_of_id h]

variable [LawfulRecord R]

omit [SeparateColumns R] [LawfulEntityKey K] in
theorem id_stamped (k : K) (token : Uuid) (r : R) : Record.id (stamped k token r) = some k := by
  change Record.id (Record.withToken (Record.withId r k) _) = some k
  rw [LawfulRecord.id_withToken, LawfulRecord.id_withId]

omit [SeparateColumns R] in
theorem decode_rowUnder (r : R) (k : K) : decode (rowUnder r k) = .ok (Record.withId r k) := by
  rw [decode_eq_ofRow, ofRow_rowUnder]

/-- **A record that is created** is stored as it is answered. -/
theorem record_create [AssignedKey K] (ht : t.Keyed) {id token : Uuid} {e c : R}
    (h : (create id token e).run t = (.ok c, u)) :
    ∃ k, Record.id c = some k ∧ c = stamped k token e ∧ (∀ i, Record.id e = some i → k = i) ∧
      t.row? (kindOf R) (EntityKey.toKey k) = none ∧ Settled k (some c) ∅ t u := by
  obtain ⟨k, rfl, hkept, hfree, hu⟩ := create_ok (encode_of_plain rfl _) rfl h
  have hstamped := withId_drafted id token e k
  refine ⟨k, (congrArg Record.id hstamped).trans (id_stamped k token e), hstamped,
    fun i hi => hkept i ?_, hfree, settled_of_writes ht hu (decode_rowUnder _ k)⟩
  have hbase : Record.id (Model.base e) = some i := hi
  rw [id_drafted, hbase, Option.some_or]

/-- **A record that is updated** is stored as it is answered. -/
theorem record_update (ht : t.Keyed) {token : Uuid} {e c : R}
    (h : (update token e).run t = (.ok c, u)) :
    ∃ k, Record.id e = some k ∧ Record.id c = some k ∧ c = stamped k token e ∧
      Settled k (some c) ∅ t u := by
  obtain ⟨k, hid, rfl, hu⟩ := update_ok (encode_of_plain rfl _) h
  have hstamped := stamped_of_id token hid
  have hk : Record.withId (renewed token e) k = renewed token e :=
    (SeparateColumns.withId_withToken e (some token.toText) k).trans hstamped
  exact ⟨k, hid, (congrArg Record.id hstamped).symm.trans (id_stamped k token e), hstamped.symm,
    settled_of_writes ht hu ((decode_rowUnder _ k).trans (congrArg Except.ok hk))⟩

end Records

/-! ## 5. Every kind and every key type -/

/-- **Writes are read back, and nothing else changes.**  Over the four record types, the four key
types, every entity and all tables that operations come to:

* a create that succeeds answers with the entity under a fresh token and an identifier which was
  free, the entity's own if it has one, and this identifier then finds the answer;
* an update that succeeds answers with the entity under a fresh token, and its identifier then finds
  the answer;
* after a delete that succeeds the identifier finds nothing.

Each time all other identifiers find what they found before, and the rows of other kinds stay but
for the dependents that a cascading deletion removes. -/
theorem read_your_writes (kind : EntityKind) (key : KeyType)
    (e : (ModelType.ofKind kind key).Entity) (h : Tables.Reachable t) :
    (∀ id token c u, (create id token e).run t = (.ok c, u) →
      ∃ k, Record.id (Model.base c) = some k ∧ c = stamped k token e ∧
        (∀ i, Record.id (Model.base e) = some i → k = i) ∧
        t.row? kind (EntityKey.toKey k) = none ∧ Settled k (some c) ∅ t u) ∧
    (∀ token c u, (update token e).run t = (.ok c, u) →
      ∃ k, Record.id (Model.base e) = some k ∧ Record.id (Model.base c) = some k ∧
        c = stamped k token e ∧ Settled k (some c) ∅ t u) ∧
    ∀ policy u, (delete policy e).run t = (.ok (), u) →
      ∃ k, Record.id (Model.base e) = some k ∧
        Settled k (none : Option (ModelType.ofKind kind key).Entity)
          (t.taken policy kind (EntityKey.toKey k)) t u := by
  have ht := h.wellFormed.keyed
  have hkind : kindOf (ModelType.ofKind kind key).Entity = kind := by cases kind <;> rfl
  refine ⟨fun id token c u hrun => ?_, fun token c u hrun => ?_, fun policy u hrun => ?_⟩
  · cases kind with
    | application => exact record_create (R := Application key.type) ht hrun
    | authorization => exact record_create (R := Authorization key.type) ht hrun
    | scope => exact record_create (R := Scope key.type) ht hrun
    | token => exact record_create (R := Token key.type) ht hrun
  · cases kind with
    | application => exact record_update (R := Application key.type) ht hrun
    | authorization => exact record_update (R := Authorization key.type) ht hrun
    | scope => exact record_update (R := Scope key.type) ht hrun
    | token => exact record_update (R := Token key.type) ht hrun
  · obtain ⟨k, expected, n, hid, hdelete⟩ := delete_ok hrun
    have hsettled := settled_of_deleted (M := (ModelType.ofKind kind key).Entity) ht hdelete
    rw [hkind] at hsettled
    exact ⟨k, hid, hsettled⟩

theorem exists_of_isOk {α : Type} {r : Outcome α × Tables} (h : r.1.isOk = true) :
    ∃ a u, r = (.ok a, u) := by
  obtain ⟨a | e | _, u⟩ := r
  · exact ⟨a, u, rfl⟩
  · cases h
  · cases h

/-- An application of a store of 64-bit identifiers, for examples. -/
def shop (id : Option Int64) : (ModelType.ofKind .application .int64).Entity :=
  ({ id := id, clientId := some "shop", concurrencyToken := some "t" } : Application Int64)

/-- The tables hold two applications with their dependents.  A third one is created, the first one is
updated, and then it is deleted with what depends on it. -/
theorem read_your_writes_twoGrants :
    Tables.Reachable Tables.twoGrants ∧
      (∃ c u k, (create ⟨1⟩ ⟨2⟩ (shop none)).run Tables.twoGrants = (.ok c, u) ∧
        c = stamped k ⟨2⟩ (shop none) ∧ Settled k (some c) ∅ Tables.twoGrants u) ∧
      (∃ c u k, (update ⟨2⟩ (shop (some 1))).run Tables.twoGrants = (.ok c, u) ∧
        c = stamped k ⟨2⟩ (shop (some 1)) ∧ Settled k (some c) ∅ Tables.twoGrants u) ∧
      ∃ u k, (delete .cascade (shop (some 1))).run Tables.twoGrants = (.ok (), u) ∧
        Settled k (none : Option (ModelType.ofKind .application .int64).Entity)
          (Tables.twoGrants.taken .cascade .application (EntityKey.toKey k)) Tables.twoGrants u := by
  have hreach := Tables.reachable_twoGrants
  refine ⟨hreach, ?_, ?_, ?_⟩
  · obtain ⟨c, u, hrun⟩ := exists_of_isOk (r := (create ⟨1⟩ ⟨2⟩ (shop none)).run Tables.twoGrants)
      (by decide +kernel)
    obtain ⟨k, -, hc, -, -, hsettled⟩ :=
      (read_your_writes .application .int64 (shop none) hreach).1 ⟨1⟩ ⟨2⟩ c u hrun
    exact ⟨c, u, k, hrun, hc, hsettled⟩
  · obtain ⟨c, u, hrun⟩ := exists_of_isOk (r := (update ⟨2⟩ (shop (some 1))).run Tables.twoGrants)
      (by decide +kernel)
    obtain ⟨k, -, -, hc, hsettled⟩ :=
      (read_your_writes .application .int64 (shop (some 1)) hreach).2.1 ⟨2⟩ c u hrun
    exact ⟨c, u, k, hrun, hc, hsettled⟩
  · obtain ⟨⟨⟩, u, hrun⟩ :=
      exists_of_isOk (r := (delete .cascade (shop (some 1))).run Tables.twoGrants) (by decide +kernel)
    obtain ⟨k, -, hsettled⟩ :=
      (read_your_writes .application .int64 (shop (some 1)) hreach).2.2 .cascade u hrun
    exact ⟨u, k, hrun, hsettled⟩

end Store

end GrantLedger
