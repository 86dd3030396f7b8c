import GrantLedger.Proofs.LawfulModel

/-!
# Rows of declared types

Tables store whatever row they are given.  A row that a record can be read from holds, in every
column that the kind declares, no value or a value of the column's type: `Row.Typed`.  The record
types with this law (`TypedRecord`) are all four of them, over every key type.
-/

namespace GrantLedger

/-! ## 1. Columns and their values -/

/-- Whether a cell holds no value or a value of a type. -/
def Cell.Fits : Cell → ColumnType → Prop
  | .null, _ => True
  | .key _, .key | .key _, .reference _ => True
  | .text _, .text _ => True
  | .timestamp _, .timestamp => True
  | _, _ => False

/-- Whether the cells of a row are of the types that a kind declares. -/
def Row.Typed (kind : EntityKind) (row : Row) : Prop :=
  ∀ column ∈ kind.columns, (row.cell column.name).Fits column.type

instance : (c : Cell) → (type : ColumnType) → Decidable (c.Fits type)
  | .null, _ | .key _, .key | .key _, .reference _ | .text _, .text _
  | .timestamp _, .timestamp => .isTrue trivial
  | .key _, .text _ | .key _, .timestamp | .text _, .key | .text _, .reference _
  | .text _, .timestamp | .timestamp _, .key | .timestamp _, .reference _
  | .timestamp _, .text _ => .isFalse id

instance (kind : EntityKind) (row : Row) : Decidable (row.Typed kind) :=
  inferInstanceAs (Decidable (∀ column ∈ kind.columns, _))

/-- Whether a cell holds no key, or one of a form. -/
def Cell.KeyOf (key : KeyKind) (c : Cell) : Prop := ∀ k, c = .key k → k.kind = key

/-- Whether a cell holds no value, or a value of a type, where keys are of a form. -/
structure Cell.FitsIn (key : KeyKind) (type : ColumnType) (c : Cell) : Prop where
  fits : c.Fits type
  keyOf : c.KeyOf key

/-- Whether the cells of a row are of the types that a kind declares, with keys of a form. -/
def Row.TypedIn (key : KeyKind) (kind : EntityKind) (row : Row) : Prop :=
  ∀ column ∈ kind.columns, (row.cell column.name).FitsIn key column.type

instance (key : KeyKind) (type : ColumnType) (c : Cell) : Decidable (c.FitsIn key type) :=
  decidable_of_iff (c.Fits type ∧ ∀ k ∈ c.key?, k.kind = key)
    ⟨fun ⟨hfits, hkey⟩ => ⟨hfits, fun k hk => hkey k (hk ▸ rfl)⟩, fun h => ⟨h.fits, fun k hk =>
      h.keyOf k (by cases c <;> cases hk; rfl)⟩⟩

instance (key : KeyKind) (kind : EntityKind) (row : Row) : Decidable (row.TypedIn key kind) :=
  inferInstanceAs (Decidable (∀ column ∈ kind.columns, _))

theorem Row.TypedIn.typed {key : KeyKind} {kind : EntityKind} {row : Row}
    (h : row.TypedIn key kind) : row.Typed kind :=
  fun column hmem => (h column hmem).fits

/-- Whether a kind declares a column. -/
def EntityKind.Declares (kind : EntityKind) (name : String) : Prop :=
  ∃ column ∈ kind.columns, column.name = name

instance (kind : EntityKind) (name : String) : Decidable (kind.Declares name) :=
  inferInstanceAs (Decidable (∃ column ∈ kind.columns, column.name = name))

theorem EntityKind.declares_id (kind : EntityKind) : kind.Declares "id" := by
  cases kind <;> exact ⟨⟨"id", .key⟩, List.mem_cons_self, rfl⟩

/-- A column with unique texts is declared. -/
theorem EntityKind.declares_of_uniqueColumn? {kind : EntityKind} {name : String}
    (h : kind.uniqueColumn? = some name) : kind.Declares name := by
  cases kind <;> cases h <;> decide

/-! ## 2. Reading a column -/

section Reading

variable {K : Type} [EntityKey K] {row : Row} {column : String}

theorem Row.fits_of_readText {s : Option String} {limit : Option Nat}
    (h : row.readText column = .ok s) : (row.cell column).Fits (.text limit) := by
  rw [readText_eq] at h
  cases hcell : row.cell column <;> rw [hcell] at h <;> first | exact trivial | cases h

theorem Row.fits_of_readTimestamp {x : Option Timestamp}
    (h : row.readTimestamp column = .ok x) : (row.cell column).Fits .timestamp := by
  rw [readTimestamp_eq] at h
  cases hcell : row.cell column <;> rw [hcell] at h <;> first | exact trivial | cases h

/-- What is read as an identifier may stand in the identifier column and in every reference. -/
theorem Row.fits_of_readId {k : Option K} (h : row.readId column = .ok k) :
    (row.cell column).Fits .key ∧ ∀ kind, (row.cell column).Fits (.reference kind) := by
  rw [readId_eq] at h
  cases hcell : row.cell column <;> rw [hcell] at h <;>
    first | exact ⟨trivial, fun _ => trivial⟩ | cases h

end Reading

/-! ## 3. Record types -/

/-- A record type whose records are read from typed rows only. -/
class TypedRecord (R : Type) {K : Type} [Record R K] : Prop where
  typed_of_ofRow : ∀ {row : Row} {r : R}, Record.ofRow row = .ok r →
    row.Typed (Record.kind R)

section

variable {K : Type} [EntityKey K]

instance : TypedRecord (Application K) where
  typed_of_ofRow {row r} h := by
    change Application.ofRow row = .ok r at h
    simp only [Application.ofRow_eq, bind_eq_ok_iff] at h
    obtain ⟨_, hid, _, hclientId, _, hclientSecret, _, htoken, _, hconsentType, _, hdisplayName, _,
      hdisplayNames, _, hpermissions, _, hpostLogout, _, hproperties, _, hredirect, _,
      hrequirements, _, htype, -⟩ := h
    simp only [Row.Typed, Record.kind, EntityKind.columns, List.forall_mem_cons]
    exact ⟨(Row.fits_of_readId hid).1, Row.fits_of_readText hclientId,
      Row.fits_of_readText hclientSecret, Row.fits_of_readText htoken,
      Row.fits_of_readText hconsentType, Row.fits_of_readText hdisplayName,
      Row.fits_of_readText hdisplayNames, Row.fits_of_readText hpermissions,
      Row.fits_of_readText hpostLogout, Row.fits_of_readText hproperties,
      Row.fits_of_readText hredirect, Row.fits_of_readText hrequirements,
      Row.fits_of_readText htype, List.forall_mem_nil _⟩

instance : TypedRecord (Authorization K) where
  typed_of_ofRow {row r} h := by
    change Authorization.ofRow row = .ok r at h
    simp only [Authorization.ofRow_eq, bind_eq_ok_iff] at h
    obtain ⟨_, hid, _, happlication, _, htoken, _, hcreation, _, hproperties, _, hscopes, _,
      hstatus, _, hsubject, _, htype, -⟩ := h
    simp only [Row.Typed, Record.kind, EntityKind.columns, List.forall_mem_cons]
    exact ⟨(Row.fits_of_readId hid).1, (Row.fits_of_readId happlication).2 _,
      Row.fits_of_readText htoken, Row.fits_of_readTimestamp hcreation,
      Row.fits_of_readText hproperties, Row.fits_of_readText hscopes,
      Row.fits_of_readText hstatus, Row.fits_of_readText hsubject,
      Row.fits_of_readText htype, List.forall_mem_nil _⟩

instance : TypedRecord (Scope K) where
  typed_of_ofRow {row r} h := by
    change Scope.ofRow row = .ok r at h
    simp only [Scope.ofRow_eq, bind_eq_ok_iff] at h
    obtain ⟨_, hid, _, htoken, _, hdescription, _, hdescriptions, _, hdisplayName, _,
      hdisplayNames, _, hname, _, hproperties, _, hresources, -⟩ := h
    simp only [Row.Typed, Record.kind, EntityKind.columns, List.forall_mem_cons]
    exact ⟨(Row.fits_of_readId hid).1, Row.fits_of_readText htoken,
      Row.fits_of_readText hdescription, Row.fits_of_readText hdescriptions,
      Row.fits_of_readText hdisplayName, Row.fits_of_readText hdisplayNames,
      Row.fits_of_readText hname, Row.fits_of_readText hproperties,
      Row.fits_of_readText hresources, List.forall_mem_nil _⟩

instance : TypedRecord (Token K) where
  typed_of_ofRow {row r} h := by
    change Token.ofRow row = .ok r at h
    simp only [Token.ofRow_eq, bind_eq_ok_iff] at h
    obtain ⟨_, hid, _, happlication, _, hauthorization, _, htoken, _, hcreation, _, hexpiration, _,
      hpayload, _, hproperties, _, hredemption, _, hreference, _, hstatus, _, hsubject, _, htype,
      -⟩ := h
    simp only [Row.Typed, Record.kind, EntityKind.columns, List.forall_mem_cons]
    exact ⟨(Row.fits_of_readId hid).1, (Row.fits_of_readId happlication).2 _,
      (Row.fits_of_readId hauthorization).2 _, Row.fits_of_readText htoken,
      Row.fits_of_readTimestamp hcreation, Row.fits_of_readTimestamp hexpiration,
      Row.fits_of_readText hpayload, Row.fits_of_readText hproperties,
      Row.fits_of_readTimestamp hredemption, Row.fits_of_readText hreference,
      Row.fits_of_readText hstatus, Row.fits_of_readText hsubject,
      Row.fits_of_readText htype, List.forall_mem_nil _⟩

end

instance (m : ModelType) : TypedRecord m.Base := by
  cases m
  case application k => exact inferInstanceAs (TypedRecord (Application k.type))
  case authorization k => exact inferInstanceAs (TypedRecord (Authorization k.type))
  case scope k => exact inferInstanceAs (TypedRecord (Scope k.type))
  case token k => exact inferInstanceAs (TypedRecord (Token k.type))
  case labelledScope => exact inferInstanceAs (TypedRecord (Scope String))
  case taggedScope => exact inferInstanceAs (TypedRecord (Scope String))
  case auditedToken => exact inferInstanceAs (TypedRecord (Token String))

end GrantLedger
