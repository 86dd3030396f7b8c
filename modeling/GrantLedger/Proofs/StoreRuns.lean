import GrantLedger.Proofs.StateRounds

/-!
# What the stores of one key type leave in the tables

Stores of any models over one key type may share their tables.  Whatever they write is the row of a
record of this key type, under an identifier of this type, or under a number that the tables
assigned because none is generated (`Stamped`).  The tables that such stores come to, in any order
of their operations and with pruning in between, are `ReachableWith`.

* `stamped_create`, `stamped_update`: every write keeps this, whatever state its model carries.
* `ReachableWith.stamped`: so does every run.
* `Stamped.stored`: of these rows, one that can be read is the row of the record that is read,
  under the identifier of this record, and it has a concurrency token.
* `ReachableWith.eachStored`: where all rows of a kind can be read, the tables hold the records that
  are read, as they are read (`EachStored`).
-/

namespace GrantLedger

open Store

/-! ## 1. The laws for every kind -/

instance (m : ModelType) : PropertyColumn m.Base m.Key :=
  match m with
  | .application k => inferInstanceAs (PropertyColumn (Application k.type) k.type)
  | .authorization k => inferInstanceAs (PropertyColumn (Authorization k.type) k.type)
  | .scope k => inferInstanceAs (PropertyColumn (Scope k.type) k.type)
  | .token k => inferInstanceAs (PropertyColumn (Token k.type) k.type)
  | .labelledScope | .taggedScope => inferInstanceAs (PropertyColumn (Scope String) String)
  | .auditedToken => inferInstanceAs (PropertyColumn (Token String) String)

instance (m : ModelType) : SettableColumns m.Base := by
  cases m
  case application k => exact inferInstanceAs (SettableColumns (Application k.type))
  case authorization k => exact inferInstanceAs (SettableColumns (Authorization k.type))
  case scope k => exact inferInstanceAs (SettableColumns (Scope k.type))
  case token k => exact inferInstanceAs (SettableColumns (Token k.type))
  case labelledScope => exact inferInstanceAs (SettableColumns (Scope String))
  case taggedScope => exact inferInstanceAs (SettableColumns (Scope String))
  case auditedToken => exact inferInstanceAs (SettableColumns (Token String))

instance (m : ModelType) : SeparateColumns m.Base := by
  cases m
  case application k => exact inferInstanceAs (SeparateColumns (Application k.type))
  case authorization k => exact inferInstanceAs (SeparateColumns (Authorization k.type))
  case scope k => exact inferInstanceAs (SeparateColumns (Scope k.type))
  case token k => exact inferInstanceAs (SeparateColumns (Token k.type))
  case labelledScope => exact inferInstanceAs (SeparateColumns (Scope String))
  case taggedScope => exact inferInstanceAs (SeparateColumns (Scope String))
  case auditedToken => exact inferInstanceAs (SeparateColumns (Token String))

theorem ModelType.kind_base_ofKind (kind : EntityKind) (key : KeyType) :
    Record.kind (ModelType.ofKind kind key).Base = kind := by
  cases kind <;> rfl

theorem Cell.ofText?_injective {s s' : Option String} (h : Cell.ofText? s = Cell.ofText? s') :
    s = s' := by
  rw [← Cell.text?_ofText? s, h, Cell.text?_ofText?]

/-! ## 2. Rows that stores write -/

section Rows

variable {R K : Type} [EntityKey K] [Record R K] {key : Key} {row : Row}

/-- A row as stores write it under a key. -/
def Stamped (R : Type) {K : Type} [EntityKey K] [Record R K] (key : Key) (row : Row) : Prop :=
  ∃ r : R, row = (Record.toRow r).set "id" (.key key) ∧ (∃ token, Record.token r = some token) ∧
    ((∃ k : K, key = EntityKey.toKey k) ∨
      ∃ n id, key = .int n ∧ (EntityKey.generate? id : Option K) = none)

/-- A record that is stored as it is: under its identifier, and with a token. -/
structure Stored (t : Tables) (key : Key) (r : R) : Prop where
  row : t.row? (Record.kind R) key = some (Record.toRow r)
  id : ∃ k, Record.id r = some k ∧ key = EntityKey.toKey k
  token : ∃ token, Record.token r = some token

variable [LawfulRecord R] [PropertyColumn R K] [SettableColumns R]

theorem token_withId (r : R) (k : K) : Record.token (Record.withId r k) = Record.token r := by
  refine Cell.ofText?_injective ?_
  rw [← LawfulRecord.cell_token, ← LawfulRecord.cell_token, SettableColumns.toRow_withId,
    Row.cell_set_of_ne _ (by decide)]

/-- **A stamped row that can be read is the row of what is read.** -/
theorem Stamped.stored [LawfulEntityKey K] [AssignedKey K] (h : Stamped R key row) {b : R}
    (hb : Record.ofRow row = .ok b) {t : Tables} (hrow : t.row? (Record.kind R) key = some row) :
    Stored t key b := by
  obtain ⟨r, rfl, htoken, hkey⟩ := h
  rw [LawfulRecord.ofRow_set_id, map_eq_ok_iff] at hb
  obtain ⟨k, hk, rfl⟩ := hb
  have hid : key = EntityKey.toKey k := by
    rcases hkey with ⟨i, rfl⟩ | ⟨n, id, rfl, hgenerate⟩
    · rw [LawfulEntityKey.ofKey_toKey] at hk
      rw [Except.ok.inj hk]
    · exact (AssignedKey.toKey_of_assigned hgenerate hk).symm
  refine ⟨?_, ⟨k, LawfulRecord.id_withId r k, hid⟩, ?_⟩
  · rw [hrow, SettableColumns.toRow_withId, hid]
  · rw [token_withId]
    exact htoken

/-- A stored record is read from its row. -/
theorem Stored.decode_toRow [LawfulEntityKey K] [SeparateColumns R] {t : Tables} {r : R}
    (h : Stored t key r) : decode (Record.toRow r) = .ok r := by
  obtain ⟨k, hid, -⟩ := h.id
  rw [← rowUnder_of_id hid, decode_rowUnder, SeparateColumns.withId_of_id hid]

/-- Every row of a kind is that of a record which is stored as it is. -/
def EachStored (R : Type) {K : Type} [EntityKey K] [Record R K] (t : Tables) : Prop :=
  ∀ x row, t.row? (Record.kind R) x = some row → ∃ r : R, row = Record.toRow r ∧ Stored t x r

section EachStored

variable [LawfulEntityKey K] [SeparateColumns R] {t : Tables}

/-- Then each row can be read. -/
theorem EachStored.exists_decode (h : EachStored R t) :
    ∀ row ∈ t.rows (Record.kind R), ∃ r : R, decode row = .ok r := by
  intro row hrow
  obtain ⟨x, hx⟩ := Tables.mem_rows.mp hrow
  obtain ⟨r, rfl, hr⟩ := h x row hx
  exact ⟨r, hr.decode_toRow⟩

/-- What is read is what is stored. -/
theorem EachStored.of_decode (h : EachStored R t) {x : Key} {r : R}
    (hrow : t.row? (Record.kind R) x = some row) (hr : decode row = .ok r) :
    row = Record.toRow r ∧ Stored t x r := by
  obtain ⟨r', rfl, hr'⟩ := h x row hrow
  have heq : r' = r := Except.ok.inj (hr'.decode_toRow.symm.trans hr)
  rw [← heq]
  exact ⟨rfl, hr'⟩

end EachStored

end Rows

/-! ## 3. Writes -/

section Writes

variable {M R K : Type} [EntityKey K] [Record R K] [Model M R K] {m : M} {row : Row}
variable {t u : Tables}

/-- Every row is an old one or a stamped one of a kind. -/
def AddsStamped (R : Type) {K : Type} [EntityKey K] [Record R K] (t u : Tables) : Prop :=
  ∀ kind key row, u.row? kind key = some row →
    t.row? kind key = some row ∨ kind = Record.kind R ∧ Stamped R key row

theorem addsStamped_of_drops (hu : Tables.Drops t u) : AddsStamped R t u :=
  fun _ _ _ h => .inl (Tables.row?_of_drops hu h)

theorem addsStamped_of_writes {key : Key} (hu : Tables.Writes t u (Record.kind R) key row)
    (h : Stamped R key row) : AddsStamped R t u := by
  intro kind i held hheld
  rw [hu kind i] at hheld
  split at hheld
  · next hat =>
    cases hheld
    exact .inr ⟨hat.1, hat.2 ▸ h⟩
  · exact .inl hheld

theorem stamped_delete (policy : DeletePolicy) (m : M) (t : Tables) :
    AddsStamped R t ((delete policy m).run t).2 := by
  rcases delete_cases policy m t with ⟨err, hrun⟩ | ⟨_, _, u, -, -, hrun, -, -, hu⟩
  · rw [hrun]
    exact addsStamped_of_drops fun _ _ => .inr rfl
  · rw [hrun]
    exact addsStamped_of_drops hu

theorem wellFormed_delete (ht : t.WellFormed) (policy : DeletePolicy) (m : M) :
    ((delete policy m).run t).2.WellFormed := by
  rcases delete_cases policy m t with ⟨err, hrun⟩ | ⟨_, _, u, -, -, hrun, -, -, hu⟩
  · rw [hrun]
    exact ht
  · rw [hrun]
    exact ht.restrict hu

variable [LawfulRecord R] [PropertyColumn R K]

/-- The row of an entity is the row of a record, also if the entity carries a state. -/
theorem exists_toRow_of_encode (h : encode m = .ok row) : ∃ r : R, row = Record.toRow r ∧
    Record.id r = Record.id (Model.base m) ∧ Record.token r = Record.token (Model.base m) := by
  have htoken := encode_token h
  cases hname : Model.extensionProperty M with
  | none =>
    rw [encode_of_plain hname] at h
    exact ⟨Model.base m, (Except.ok.inj h).symm, rfl, rfl⟩
  | some name =>
    cases hbag : bag? m with
    | error e =>
      have hdecoded : Codec.decodeProperties (PropertyColumn.field.get (Model.base m)) =
        .error e := hbag
      simp only [encode, hname, PropertyColumn.cell_properties, Cell.text?_ofText?, hdecoded] at h
      cases h
    | ok bag =>
      rw [encode_of_bag hname hbag] at h
      cases h
      refine ⟨storedBase name bag m, rfl, PropertyColumn.id_set _ _, ?_⟩
      rw [LawfulRecord.cell_token] at htoken
      exact Cell.ofText?_injective htoken

variable [LawfulModel M]

/-- **A create** stores the draft under its identifier or under an assigned one. -/
theorem stamped_create (id token : Uuid) (m : M) (t : Tables) :
    AddsStamped R t ((create id token m).run t).2 := by
  rcases create_cases id token m t with
    hrun | ⟨err, u, hrun, hsame, -⟩ | ⟨row, u, hrow, hrun, -, hu⟩
  · rw [hrun]
    exact addsStamped_of_drops fun _ _ => .inr rfl
  · rw [hrun]
    exact addsStamped_of_drops hsame.drops
  · rw [hrun]
    obtain ⟨r, rfl, hid, htoken⟩ := exists_toRow_of_encode hrow
    refine addsStamped_of_writes hu ⟨r, rfl, ⟨_, htoken.trans (token_drafted id token m)⟩, ?_⟩
    rw [insertedKey_toRow, hid, id_drafted]
    cases Record.id (Model.base m) with
    | some k => exact .inl ⟨k, rfl⟩
    | none =>
      cases hgenerate : (EntityKey.generate? id : Option K) with
      | some k => exact .inl ⟨k, rfl⟩
      | none => exact .inr ⟨_, id, rfl, hgenerate⟩

/-- **An update** stores the renewed entity under its identifier. -/
theorem stamped_update (token : Uuid) (m : M) (t : Tables) :
    AddsStamped R t ((update token m).run t).2 := by
  rcases update_cases token m t with ⟨err, hrun⟩ | ⟨k, _, row, u, -, -, hrow, hrun, -, hu⟩
  · rw [hrun]
    exact addsStamped_of_drops fun _ _ => .inr rfl
  · rw [hrun]
    obtain ⟨r, rfl, -, htoken⟩ := exists_toRow_of_encode hrow
    exact addsStamped_of_writes hu
      ⟨r, rfl, ⟨_, htoken.trans (token_renewed token m)⟩, .inl ⟨k, rfl⟩⟩

end Writes

/-! ## 4. Runs -/

/-- The tables that stores over a key type come to from empty ones.  Their models are any around
records of this key type. -/
inductive ReachableWith (key : KeyType) : Tables → Prop
  | empty : ReachableWith key .empty
  | create (kind : EntityKind) {M : Type} [Model M (ModelType.ofKind kind key).Base
      (ModelType.ofKind kind key).Key] [LawfulModel M] {t : Tables} (id token : Uuid) (m : M) :
    ReachableWith key t → ReachableWith key ((create id token m).run t).2
  | update (kind : EntityKind) {M : Type} [Model M (ModelType.ofKind kind key).Base
      (ModelType.ofKind kind key).Key] [LawfulModel M] {t : Tables} (token : Uuid) (m : M) :
    ReachableWith key t → ReachableWith key ((update token m).run t).2
  | delete (kind : EntityKind) {M : Type} [Model M (ModelType.ofKind kind key).Base
      (ModelType.ofKind kind key).Key] [LawfulModel M] {t : Tables} (policy : DeletePolicy)
      (m : M) :
    ReachableWith key t → ReachableWith key ((delete policy m).run t).2
  | prune {t : Tables} (kind : EntityKind) (criteria : PruneCriteria) :
    ReachableWith key t → ReachableWith key (t.pruneBatch kind criteria).2

namespace ReachableWith

variable {key : KeyType} {t : Tables}

theorem wellFormed (h : ReachableWith key t) : t.WellFormed := by
  induction h with
  | empty => exact Tables.wellFormed_empty
  | create _ id token m _ ih => exact wellFormed_create ih id token m
  | update _ token m _ ih => exact wellFormed_update ih token m
  | delete _ policy m _ ih => exact wellFormed_delete ih policy m
  | prune kind criteria _ ih => exact ih.purge kind _

/-- All rows are stamped ones of their kinds. -/
def AllStamped (key : KeyType) (t : Tables) : Prop :=
  ∀ kind i row, t.row? kind i = some row → Stamped (ModelType.ofKind kind key).Base i row

theorem AllStamped.step (h : AllStamped key t) {u : Tables} (kind : EntityKind)
    (hu : AddsStamped (ModelType.ofKind kind key).Base t u) : AllStamped key u := by
  intro other i row hrow
  rcases hu other i row hrow with hold | ⟨hkind, hnew⟩
  · exact h other i row hold
  · rw [ModelType.kind_base_ofKind] at hkind
    exact hkind ▸ hnew

/-- **Every row is stamped.** -/
theorem stamped (h : ReachableWith key t) : AllStamped key t := by
  induction h with
  | empty =>
    intro kind i row hrow
    rw [Tables.row?_empty] at hrow
    cases hrow
  | create kind id token m _ ih => exact ih.step kind (stamped_create id token m _)
  | update kind token m _ ih => exact ih.step kind (stamped_update token m _)
  | delete kind policy m _ ih => exact ih.step kind (stamped_delete policy m _)
  | @prune t kind criteria _ ih =>
    refine ih.step kind (addsStamped_of_drops ?_)
    exact t.drops_purge kind (t.batch kind criteria)

/-- **A row that can be read is the row of what is read.** -/
theorem stored (h : ReachableWith key t) (kind : EntityKind) {i : Key} {row : Row}
    {b : (ModelType.ofKind kind key).Base} (hrow : t.row? kind i = some row)
    (hb : Record.ofRow row = .ok b) : Stored t i b := by
  refine (h.stamped kind i row hrow).stored hb ?_
  rw [ModelType.kind_base_ofKind]
  exact hrow

/-- Where all rows of a kind can be read, each is stored as it is read. -/
theorem eachStored (h : ReachableWith key t) (kind : EntityKind)
    (hrows : ∀ row ∈ t.rows kind, ∃ b : (ModelType.ofKind kind key).Base,
      Record.ofRow row = .ok b) : EachStored (ModelType.ofKind kind key).Base t := by
  intro x row hrow
  rw [ModelType.kind_base_ofKind] at hrow
  obtain ⟨b, hb⟩ := hrows row (Tables.mem_rows.mpr ⟨x, hrow⟩)
  have hstored : Stored t x b := h.stored kind hrow hb
  have hheld := hstored.row
  rw [ModelType.kind_base_ofKind, hrow] at hheld
  exact ⟨b, Option.some.inj hheld, hstored⟩

end ReachableWith

end GrantLedger
