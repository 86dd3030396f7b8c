import GrantLedger.Proofs.TypedRows

/-!
# Records and their rows

A record type names its columns three times: where a record is written as a row, where a row is read
as a record, and where the kind declares the columns of its table.  The three agree for all record
types over all key types (`records_mirror_rows`).

* A row of a record has the declared columns and no others, with values of their types, and the
  record is read back from it.
* A row can be read exactly if every declared column holds no value or a value of its type, and all
  keys are identifiers of the key type.  Other columns do not matter.
* The record that is read shows the columns of the row, each key as it was read.

What has to be checked of each record type is said by `MirroredRecord`; the rest follows from the
list of cells that its rows are made of (`Row.forall_cell_ofList`).
-/

namespace GrantLedger

/-! ## 1. Cells that are read and shown again -/

/-- Whether a column of a type may hold a cell that is read with identifiers of type `K`. -/
structure Cell.Readable (K : Type) [EntityKey K] (type : ColumnType) (c : Cell) : Prop where
  fits : c.Fits type
  convertible : ∀ key, c = .key key → ∃ k : K, EntityKey.ofKey key = .ok k

/-- Whether a cell is shown as it was read: a key as the identifier that it was read as, and every
other cell as it is. -/
def Cell.ReadAs (K : Type) [EntityKey K] (c shown : Cell) : Prop :=
  match c with
  | .key j => ∃ k : K, EntityKey.ofKey j = .ok k ∧ shown = .key (EntityKey.toKey k)
  | .null | .text _ | .timestamp _ => shown = c

/-- A computation in two stages can succeed exactly if each stage can. -/
theorem exists_bind_ok_iff {ε α β : Type} {x : Except ε α} {f : α → Except ε β} {p q : Prop}
    (hx : (∃ a, x = .ok a) ↔ p) (hf : ∀ a, (∃ b, f a = .ok b) ↔ q) :
    (∃ b, (x >>= f) = .ok b) ↔ p ∧ q := by
  simp only [bind_eq_ok_iff, ← hx]
  constructor
  · rintro ⟨b, a, ha, hb⟩
    exact ⟨⟨a, ha⟩, (hf a).mp ⟨b, hb⟩⟩
  · rintro ⟨⟨a, ha⟩, hq⟩
    obtain ⟨b, hb⟩ := (hf a).mpr hq
    exact ⟨b, a, ha, hb⟩

section Reading

variable {K : Type} [EntityKey K] {row : Row} {column : String} {kind : EntityKind}
variable {limit : Option Nat}

theorem Row.exists_readText_iff :
    (∃ s, row.readText column = .ok s) ↔ (row.cell column).Readable K (.text limit) := by
  rw [readText_eq]
  cases row.cell column with
  | null => exact iff_of_true ⟨_, rfl⟩ ⟨trivial, fun _ h => by cases h⟩
  | text s => exact iff_of_true ⟨_, rfl⟩ ⟨trivial, fun _ h => by cases h⟩
  | key | timestamp => exact iff_of_false (fun ⟨_, h⟩ => by cases h) fun h => h.fits

theorem Row.exists_readTimestamp_iff :
    (∃ t, row.readTimestamp column = .ok t) ↔ (row.cell column).Readable K .timestamp := by
  rw [readTimestamp_eq]
  cases row.cell column with
  | null => exact iff_of_true ⟨_, rfl⟩ ⟨trivial, fun _ h => by cases h⟩
  | timestamp t => exact iff_of_true ⟨_, rfl⟩ ⟨trivial, fun _ h => by cases h⟩
  | key | text => exact iff_of_false (fun ⟨_, h⟩ => by cases h) fun h => h.fits

theorem Row.exists_readId_iff :
    (∃ k : Option K, row.readId column = .ok k) ↔ (row.cell column).Readable K .key := by
  rw [exists_congr fun k => by rw [readId_eq]]
  cases row.cell column with
  | null => exact iff_of_true ⟨_, rfl⟩ ⟨trivial, fun _ h => by cases h⟩
  | key key =>
    simp only [Cell.asId_key, map_eq_ok_iff]
    constructor
    · rintro ⟨_, k, hk, -⟩
      exact ⟨trivial, fun _ h => by cases h; exact ⟨k, hk⟩⟩
    · intro h
      obtain ⟨k, hk⟩ := h.convertible key rfl
      exact ⟨some k, k, hk, rfl⟩
  | text | timestamp => exact iff_of_false (fun ⟨_, h⟩ => by cases h) fun h => h.fits

/-- An identifier column and a reference are read alike. -/
theorem Row.exists_readReference_iff :
    (∃ k : Option K, row.readId column = .ok k) ↔
      (row.cell column).Readable K (.reference kind) := by
  rw [exists_readId_iff]
  constructor
  · rintro ⟨hfits, hconvertible⟩
    exact ⟨by cases h : row.cell column <;> simp_all [Cell.Fits], hconvertible⟩
  · rintro ⟨hfits, hconvertible⟩
    exact ⟨by cases h : row.cell column <;> simp_all [Cell.Fits], hconvertible⟩

theorem Row.readAs_of_readText {s : Option String} (h : row.readText column = .ok s) :
    (row.cell column).ReadAs K (Cell.ofText? s) := by
  rw [readText_eq] at h
  cases hcell : row.cell column <;> rw [hcell] at h <;> cases h <;> exact rfl

theorem Row.readAs_of_readTimestamp {t : Option Timestamp} (h : row.readTimestamp column = .ok t) :
    (row.cell column).ReadAs K (Cell.ofTimestamp? t) := by
  rw [readTimestamp_eq] at h
  cases hcell : row.cell column <;> rw [hcell] at h <;> cases h <;> exact rfl

theorem Row.readAs_of_readId {k : Option K} (h : row.readId column = .ok k) :
    (row.cell column).ReadAs K (Cell.ofId? k) := by
  rw [readId_eq] at h
  cases hcell : row.cell column with
  | key key =>
    rw [hcell, Cell.asId_key, map_eq_ok_iff] at h
    obtain ⟨k, hk, rfl⟩ := h
    exact ⟨k, hk, rfl⟩
  | null =>
    rw [hcell] at h
    cases h
    exact rfl
  | text | timestamp =>
    rw [hcell] at h
    cases h

end Reading

/-! ## 2. Rows of a list of cells -/

/-- A row of a list of cells has the columns of the list. -/
theorem Row.contains_ofList {cells : List (String × Cell)} {name : String} :
    (Row.ofList cells).cells.contains name = true ↔ name ∈ cells.map Prod.fst := by
  rw [OrdMap.contains, ofList, OrdMap.get?_ofList, List.lookup_isSome_iff]
  simp only [List.mem_reverse, List.mem_map, beq_iff_eq]
  exact exists_congr fun e => and_congr_right fun _ => eq_comm

theorem Row.cell_ofList_of_mem {cells : List (String × Cell)} (hnodup : (cells.map Prod.fst).Nodup)
    {e : String × Cell} (he : e ∈ cells) : (Row.ofList cells).cell e.1 = e.2 := by
  have hlookup : cells.reverse.lookup e.1 = some e.2 := by
    obtain ⟨after, before, hcells⟩ := List.append_of_mem (List.mem_reverse.mpr he)
    rw [List.lookup_eq_some_iff]
    refine ⟨after, before, hcells, fun f hf => ?_⟩
    have hsplit : (cells.map Prod.fst).reverse =
        after.map Prod.fst ++ e.1 :: before.map Prod.fst := by
      rw [← List.map_reverse, hcells, List.map_append, List.map_cons]
    rw [← (List.reverse_perm _).nodup_iff, hsplit, List.nodup_append] at hnodup
    rw [bne_iff_ne]
    exact (hnodup.2.2 f.1 (List.mem_map_of_mem hf) e.1 List.mem_cons_self).symm
  rw [cell_ofList, hlookup, Option.getD_some]

theorem EntityKind.nodup_names (kind : EntityKind) : (kind.columns.map Column.name).Nodup := by
  cases kind <;> decide

/-- What is said of the columns of a row is said of the cells that it is made of, if these are named
like the columns. -/
theorem Row.forall_cell_ofList {kind : EntityKind} {cells : List (String × Cell)}
    (hnames : kind.columns.map Column.name = cells.map Prod.fst) (P : Column → Cell → Prop) :
    (∀ column ∈ kind.columns, P column ((Row.ofList cells).cell column.name)) ↔
      List.Forall₂ (fun column e => P column e.2) kind.columns cells := by
  have hcell : ∀ e ∈ cells, (Row.ofList cells).cell e.1 = e.2 := fun e he =>
    cell_ofList_of_mem (hnames ▸ kind.nodup_names) he
  generalize Row.ofList cells = row at hcell
  generalize kind.columns = columns at hnames
  induction cells generalizing columns with
  | nil =>
    rw [List.map_eq_nil_iff.mp hnames]
    exact iff_of_true (List.forall_mem_nil _) .nil
  | cons e cells ih =>
    cases columns with
    | nil => cases hnames
    | cons column columns =>
      rw [List.map_cons, List.map_cons, List.cons.injEq] at hnames
      rw [List.forall_mem_cons] at hcell
      rw [List.forall_mem_cons, List.forall₂_cons, hnames.1, hcell.1]
      exact and_congr_right' (ih hcell.2 columns hnames.2)

/-! ## 3. Record types -/

/-- **A record type whose three lists of columns agree.** -/
structure Record.Mirrors (R : Type) {K : Type} [EntityKey K] [Record R K] : Prop where
  /-- A row of a record has the declared columns and no others. -/
  populated : ∀ (r : R) (name : String),
    (Record.toRow r).cells.contains name = true ↔ (Record.kind R).Declares name
  /-- Each of them holds no value or a value of its type. -/
  typed : ∀ r : R, (Record.toRow r).TypedIn (EntityKey.kind K) (Record.kind R)
  ofRow_toRow : ∀ r : R, Record.ofRow (Record.toRow r) = .ok r
  /-- Any row is read exactly if its declared columns can be read. -/
  readable : ∀ row : Row, (∃ r : R, Record.ofRow row = .ok r) ↔
    ∀ column ∈ (Record.kind R).columns, (row.cell column.name).Readable K column.type
  /-- Other columns do not matter. -/
  declaredOnly : ∀ row row' : Row,
    (∀ column ∈ (Record.kind R).columns, row.cell column.name = row'.cell column.name) →
      (Record.ofRow row : Except StoreError R) = Record.ofRow row'
  /-- The record that is read shows what was read. -/
  shown : ∀ (row : Row) (r : R), Record.ofRow row = .ok r →
    ∀ column ∈ (Record.kind R).columns,
      (row.cell column.name).ReadAs K ((Record.toRow r).cell column.name)

/-- What has to be checked of a record type: of its rows, that they are made of one cell per column,
and of reading, that it goes through the columns. -/
class MirroredRecord (R : Type) {K : Type} [EntityKey K] [Record R K] : Prop where
  exists_cells : ∀ r : R, ∃ cells : List (String × Cell), Record.toRow r = .ofList cells ∧
    (Record.kind R).columns.map Column.name = cells.map Prod.fst ∧
    List.Forall₂ (fun column e => e.2.FitsIn (EntityKey.kind K) column.type)
      (Record.kind R).columns cells ∧
    ∀ row, Record.ofRow row = .ok r →
      List.Forall₂ (fun column e => (row.cell column.name).ReadAs K e.2)
        (Record.kind R).columns cells
  ofRow_toRow : ∀ r : R, Record.ofRow (Record.toRow r) = .ok r
  exists_ofRow_iff : ∀ row : Row, (∃ r : R, Record.ofRow row = .ok r) ↔
    ∀ column ∈ (Record.kind R).columns, (row.cell column.name).Readable K column.type
  ofRow_congr : ∀ row row' : Row,
    (∀ column ∈ (Record.kind R).columns, row.cell column.name = row'.cell column.name) →
      (Record.ofRow row : Except StoreError R) = Record.ofRow row'

theorem MirroredRecord.mirrors (R : Type) {K : Type} [EntityKey K] [Record R K]
    [MirroredRecord R] : Record.Mirrors R where
  populated r name := by
    obtain ⟨cells, hcells, hnames, -⟩ := exists_cells (K := K) r
    rw [hcells, Row.contains_ofList, ← hnames, List.mem_map]
    rfl
  typed r := by
    obtain ⟨cells, hcells, hnames, htyped, -⟩ := exists_cells (K := K) r
    rw [hcells]
    exact (Row.forall_cell_ofList hnames fun column c =>
      c.FitsIn (EntityKey.kind K) column.type).mpr htyped
  ofRow_toRow := ofRow_toRow
  readable := exists_ofRow_iff
  declaredOnly := ofRow_congr
  shown row r h := by
    obtain ⟨cells, hcells, hnames, -, hshown⟩ := exists_cells (K := K) r
    rw [hcells]
    exact (Row.forall_cell_ofList hnames fun column c =>
      (row.cell column.name).ReadAs K c).mpr (hshown row h)

section

variable {key : KeyType}

/-- Identifiers are stored in the form of their type. -/
theorem KeyType.kind_toKey (k : key.type) :
    (EntityKey.toKey k).kind = EntityKey.kind key.type := by
  cases key <;> rfl

@[simp] theorem Cell.fitsIn_ofText? {form : KeyKind} {limit : Option Nat} (s : Option String) :
    (Cell.ofText? s).FitsIn form (.text limit) := by
  cases s <;> exact ⟨trivial, fun _ h => by cases h⟩

@[simp] theorem Cell.fitsIn_ofTimestamp? {form : KeyKind} (t : Option Timestamp) :
    (Cell.ofTimestamp? t).FitsIn form .timestamp := by
  cases t <;> exact ⟨trivial, fun _ h => by cases h⟩

theorem Cell.keyOf_ofId? (k : Option key.type) :
    (Cell.ofId? k).KeyOf (EntityKey.kind key.type) := by
  intro j h
  cases k with
  | none => cases h
  | some k =>
    cases h
    exact KeyType.kind_toKey k

@[simp] theorem Cell.fitsIn_ofId? (k : Option key.type) :
    (Cell.ofId? k).FitsIn (EntityKey.kind key.type) .key :=
  ⟨by cases k <;> exact trivial, keyOf_ofId? k⟩

@[simp] theorem Cell.fitsIn_ofId?_reference (k : Option key.type) (kind : EntityKind) :
    (Cell.ofId? k).FitsIn (EntityKey.kind key.type) (.reference kind) :=
  ⟨by cases k <;> exact trivial, keyOf_ofId? k⟩

instance : MirroredRecord (Application key.type) where
  exists_cells a := by
    refine ⟨_, rfl, rfl, ?_, ?_⟩
    · simp [Record.kind, EntityKind.columns]
    · intro row h
      change Application.ofRow row = .ok a at h
      simp only [Application.ofRow_eq, bind_eq_ok_iff] at h
      obtain ⟨_, hid, _, hclientId, _, hclientSecret, _, htoken, _, hconsentType, _, hdisplayName,
        _, hdisplayNames, _, hpermissions, _, hpostLogout, _, hproperties, _, hredirect, _,
        hrequirements, _, htype, h⟩ := h
      cases h
      exact .cons (Row.readAs_of_readId hid) (.cons (Row.readAs_of_readText hclientId)
        (.cons (Row.readAs_of_readText hclientSecret) (.cons (Row.readAs_of_readText htoken)
        (.cons (Row.readAs_of_readText hconsentType) (.cons (Row.readAs_of_readText hdisplayName)
        (.cons (Row.readAs_of_readText hdisplayNames) (.cons (Row.readAs_of_readText hpermissions)
        (.cons (Row.readAs_of_readText hpostLogout) (.cons (Row.readAs_of_readText hproperties)
        (.cons (Row.readAs_of_readText hredirect) (.cons (Row.readAs_of_readText hrequirements)
        (.cons (Row.readAs_of_readText htype) .nil))))))))))))
  ofRow_toRow a := by
    change Application.ofRow a.toRow = .ok a
    simp [Application.ofRow_eq, Application.toRow, Row.readId_eq, Row.readText_eq, Row.cell_ofList,
      List.lookup_cons]
  exists_ofRow_iff row := by
    change (∃ r, Application.ofRow row = .ok r) ↔ _
    rw [Application.ofRow_eq]
    simp only [Record.kind, EntityKind.columns, List.forall_mem_cons]
    refine exists_bind_ok_iff Row.exists_readId_iff fun _ => ?_
    repeat refine exists_bind_ok_iff Row.exists_readText_iff fun _ => ?_
    exact iff_of_true ⟨_, rfl⟩ (List.forall_mem_nil _)
  ofRow_congr row row' h := by
    simp only [Record.kind, EntityKind.columns, List.forall_mem_cons] at h
    change Application.ofRow row = Application.ofRow row'
    simp only [Application.ofRow_eq, Row.readId_eq, Row.readText_eq, h]

instance : MirroredRecord (Authorization key.type) where
  exists_cells a := by
    refine ⟨_, rfl, rfl, ?_, ?_⟩
    · simp [Record.kind, EntityKind.columns]
    · intro row h
      change Authorization.ofRow row = .ok a at h
      simp only [Authorization.ofRow_eq, bind_eq_ok_iff] at h
      obtain ⟨_, hid, _, happlication, _, htoken, _, hcreation, _, hproperties, _, hscopes, _,
        hstatus, _, hsubject, _, htype, h⟩ := h
      cases h
      exact .cons (Row.readAs_of_readId hid) (.cons (Row.readAs_of_readId happlication)
        (.cons (Row.readAs_of_readText htoken) (.cons (Row.readAs_of_readTimestamp hcreation)
        (.cons (Row.readAs_of_readText hproperties) (.cons (Row.readAs_of_readText hscopes)
        (.cons (Row.readAs_of_readText hstatus) (.cons (Row.readAs_of_readText hsubject)
        (.cons (Row.readAs_of_readText htype) .nil))))))))
  ofRow_toRow a := by
    change Authorization.ofRow a.toRow = .ok a
    simp [Authorization.ofRow_eq, Authorization.toRow, Row.readId_eq, Row.readText_eq,
      Row.readTimestamp_eq, Row.cell_ofList, List.lookup_cons]
  exists_ofRow_iff row := by
    change (∃ r, Authorization.ofRow row = .ok r) ↔ _
    rw [Authorization.ofRow_eq]
    simp only [Record.kind, EntityKind.columns, List.forall_mem_cons]
    refine exists_bind_ok_iff Row.exists_readId_iff fun _ => ?_
    refine exists_bind_ok_iff Row.exists_readReference_iff fun _ => ?_
    repeat first
      | refine exists_bind_ok_iff Row.exists_readText_iff fun _ => ?_
      | refine exists_bind_ok_iff Row.exists_readTimestamp_iff fun _ => ?_
    exact iff_of_true ⟨_, rfl⟩ (List.forall_mem_nil _)
  ofRow_congr row row' h := by
    simp only [Record.kind, EntityKind.columns, List.forall_mem_cons] at h
    change Authorization.ofRow row = Authorization.ofRow row'
    simp only [Authorization.ofRow_eq, Row.readId_eq, Row.readText_eq, Row.readTimestamp_eq, h]

instance : MirroredRecord (Scope key.type) where
  exists_cells s := by
    refine ⟨_, rfl, rfl, ?_, ?_⟩
    · simp [Record.kind, EntityKind.columns]
    · intro row h
      change Scope.ofRow row = .ok s at h
      simp only [Scope.ofRow_eq, bind_eq_ok_iff] at h
      obtain ⟨_, hid, _, htoken, _, hdescription, _, hdescriptions, _, hdisplayName, _,
        hdisplayNames, _, hname, _, hproperties, _, hresources, h⟩ := h
      cases h
      exact .cons (Row.readAs_of_readId hid) (.cons (Row.readAs_of_readText htoken)
        (.cons (Row.readAs_of_readText hdescription) (.cons (Row.readAs_of_readText hdescriptions)
        (.cons (Row.readAs_of_readText hdisplayName) (.cons (Row.readAs_of_readText hdisplayNames)
        (.cons (Row.readAs_of_readText hname) (.cons (Row.readAs_of_readText hproperties)
        (.cons (Row.readAs_of_readText hresources) .nil))))))))
  ofRow_toRow s := by
    change Scope.ofRow s.toRow = .ok s
    simp [Scope.ofRow_eq, Scope.toRow, Row.readId_eq, Row.readText_eq, Row.cell_ofList,
      List.lookup_cons]
  exists_ofRow_iff row := by
    change (∃ r, Scope.ofRow row = .ok r) ↔ _
    rw [Scope.ofRow_eq]
    simp only [Record.kind, EntityKind.columns, List.forall_mem_cons]
    refine exists_bind_ok_iff Row.exists_readId_iff fun _ => ?_
    repeat refine exists_bind_ok_iff Row.exists_readText_iff fun _ => ?_
    exact iff_of_true ⟨_, rfl⟩ (List.forall_mem_nil _)
  ofRow_congr row row' h := by
    simp only [Record.kind, EntityKind.columns, List.forall_mem_cons] at h
    change Scope.ofRow row = Scope.ofRow row'
    simp only [Scope.ofRow_eq, Row.readId_eq, Row.readText_eq, h]

instance : MirroredRecord (Token key.type) where
  exists_cells t := by
    refine ⟨_, rfl, rfl, ?_, ?_⟩
    · simp [Record.kind, EntityKind.columns]
    · intro row h
      change Token.ofRow row = .ok t at h
      simp only [Token.ofRow_eq, bind_eq_ok_iff] at h
      obtain ⟨_, hid, _, happlication, _, hauthorization, _, htoken, _, hcreation, _, hexpiration,
        _, hpayload, _, hproperties, _, hredemption, _, hreference, _, hstatus, _, hsubject, _,
        htype, h⟩ := h
      cases h
      exact .cons (Row.readAs_of_readId hid) (.cons (Row.readAs_of_readId happlication)
        (.cons (Row.readAs_of_readId hauthorization) (.cons (Row.readAs_of_readText htoken)
        (.cons (Row.readAs_of_readTimestamp hcreation)
        (.cons (Row.readAs_of_readTimestamp hexpiration) (.cons (Row.readAs_of_readText hpayload)
        (.cons (Row.readAs_of_readText hproperties)
        (.cons (Row.readAs_of_readTimestamp hredemption)
        (.cons (Row.readAs_of_readText hreference) (.cons (Row.readAs_of_readText hstatus)
        (.cons (Row.readAs_of_readText hsubject)
        (.cons (Row.readAs_of_readText htype) .nil))))))))))))
  ofRow_toRow t := by
    change Token.ofRow t.toRow = .ok t
    simp [Token.ofRow_eq, Token.toRow, Row.readId_eq, Row.readText_eq, Row.readTimestamp_eq,
      Row.cell_ofList, List.lookup_cons]
  exists_ofRow_iff row := by
    change (∃ r, Token.ofRow row = .ok r) ↔ _
    rw [Token.ofRow_eq]
    simp only [Record.kind, EntityKind.columns, List.forall_mem_cons]
    refine exists_bind_ok_iff Row.exists_readId_iff fun _ => ?_
    repeat refine exists_bind_ok_iff Row.exists_readReference_iff fun _ => ?_
    repeat first
      | refine exists_bind_ok_iff Row.exists_readText_iff fun _ => ?_
      | refine exists_bind_ok_iff Row.exists_readTimestamp_iff fun _ => ?_
    exact iff_of_true ⟨_, rfl⟩ (List.forall_mem_nil _)
  ofRow_congr row row' h := by
    simp only [Record.kind, EntityKind.columns, List.forall_mem_cons] at h
    change Token.ofRow row = Token.ofRow row'
    simp only [Token.ofRow_eq, Row.readId_eq, Row.readText_eq, Row.readTimestamp_eq, h]

end

instance (m : ModelType) : MirroredRecord m.Base := by
  cases m
  case application k => exact inferInstanceAs (MirroredRecord (Application k.type))
  case authorization k => exact inferInstanceAs (MirroredRecord (Authorization k.type))
  case scope k => exact inferInstanceAs (MirroredRecord (Scope k.type))
  case token k => exact inferInstanceAs (MirroredRecord (Token k.type))
  case labelledScope => exact inferInstanceAs (MirroredRecord (Scope KeyType.string.type))
  case taggedScope => exact inferInstanceAs (MirroredRecord (Scope KeyType.string.type))
  case auditedToken => exact inferInstanceAs (MirroredRecord (Token KeyType.string.type))

/-- **Records and rows are inverse to each other,** for the four record types over the four key
types. -/
theorem records_mirror_rows (m : ModelType) : Record.Mirrors m.Base := MirroredRecord.mirrors m.Base

/-- A scope of which the row has a column that is not declared, and a number for an identifier. -/
example : (Scope.ofRow (.ofList [("id", .key (.text "7")), ("name", .text "api"),
    ("colour", .text "red")]) : Except StoreError (Scope Int64)) =
      .ok { id := some 7, name := some "api" } := by
  decide +kernel

end GrantLedger
