import GrantLedger.Proofs.RecordRows
import GrantLedger.Proofs.SqlRemoval

/-!
# Statements that write a record

The row of a record can be bound to a statement, whatever the record and its key type, because its
cells fit the columns (`Record.Mirrors.typed`).  Each parameter is then exactly the value of its
column, and NULL keeps the type of the column (`Param.exactly`).

* `insert_of_typed`, `update_of_typed`: the statements of a row of declared types.
* `text_insert`, `text_update`: their texts, in which the columns and the placeholders go along with
  each other.
* `eq_of_cells`, `eq_of_map_exactly`: a record is determined by the columns of its row, and so by
  their parameters.
* `written_exactly`: the main result.
-/

namespace GrantLedger

open Sql

namespace Sql

variable {key : KeyKind} {kind : EntityKind} {type : ColumnType} {c : Cell} {row : Row}

/-! ## 1. Exact parameters -/

/-- The null of a column, of the type that the column has. -/
def Param.nullOf (key : KeyKind) : ColumnType → Param
  | .key | .reference _ => nullKey key
  | .text _ => .text none
  | .timestamp => .timestamp none

/-- The parameter that is exactly the value of a cell. -/
def Param.exactly (key : KeyKind) (type : ColumnType) : Cell → Param
  | .null => nullOf key type
  | .key k => keyParam k
  | .text s => .text (some s)
  | .timestamp t => .timestamp (some t)

/-- A cell that fits a column is bound to it as it is. -/
theorem Param.ofCell_eq_exactly (h : c.FitsIn key type) :
    Param.ofCell key type c = .ok (exactly key type c) := by
  obtain ⟨hfits, hkey⟩ := h
  cases type with
  | key | reference _ =>
    cases c with
    | null => rfl
    | key k =>
      obtain rfl := hkey k rfl
      exact ofKey_eq_keyParam k
    | text | timestamp => cases hfits
  | text limit =>
    cases c with
    | null | text => rfl
    | key | timestamp => cases hfits
  | timestamp =>
    cases c with
    | null | timestamp => rfl
    | key | text => cases hfits

/-- The cell of a column that a parameter was made of. -/
def Param.cell : ColumnType → Param → Cell
  | .key, .text s | .reference _, .text s => Cell.ofKey? (s.map .text)
  | .key, .int n | .reference _, .int n => Cell.ofKey? (n.map .int)
  | .key, .uuid u | .reference _, .uuid u => Cell.ofKey? (u.map .uuid)
  | .text _, .text s => Cell.ofText? s
  | .timestamp, .timestamp t => Cell.ofTimestamp? t
  | _, _ => .null

/-- **Nothing is lost** of a cell that fits a column. -/
theorem Param.cell_exactly (h : c.FitsIn key type) : (exactly key type c).cell type = c := by
  obtain ⟨hfits, -⟩ := h
  cases type with
  | key | reference _ =>
    cases c with
    | null => cases key <;> rfl
    | key k => cases k <;> rfl
    | text | timestamp => cases hfits
  | text limit =>
    cases c with
    | null | text => rfl
    | key | timestamp => cases hfits
  | timestamp =>
    cases c with
    | null | timestamp => rfl
    | key | text => cases hfits

/-- The columns of a row of declared types are bound as they are. -/
theorem bindColumns_of_typed {columns : List Column} (hsub : columns ⊆ kind.columns)
    (h : row.TypedIn key kind) : bindColumns key columns row =
      .ok (columns.map fun c => Param.exactly key c.type (row.cell c.name)) := by
  rw [bindColumns, mapM_eq_ok_iff, List.forall₂_map_right_iff, List.forall₂_same]
  intro c hc
  exact Param.ofCell_eq_exactly (h c (hsub hc))

/-! ## 2. Statements and their texts -/

/-- The columns that a row is stored with: all of them, but the identifier only if there is one. -/
def storedColumns (kind : EntityKind) (hasId : Bool) : List Column :=
  kind.columns.filter fun c => c.name != "id" || hasId

theorem valueColumns_eq (kind : EntityKind) : valueColumns kind = storedColumns kind false := by
  simp [valueColumns, storedColumns]

theorem storedColumns_subset (kind : EntityKind) (hasId : Bool) :
    storedColumns kind hasId ⊆ kind.columns :=
  fun _ => List.mem_of_mem_filter

theorem id_mem_storedColumns {hasId : Bool} :
    "id" ∈ (storedColumns kind hasId).map (·.name) ↔ hasId = true := by
  cases kind <;> cases hasId <;> decide

theorem insert_of_typed {hasId : Bool} (hid : (row.cell "id").isNull = !hasId)
    (h : row.TypedIn key kind) : insert kind key row =
      .ok ⟨.insert kind ((storedColumns kind hasId).map (·.name)),
        (storedColumns kind hasId).map fun c => Param.exactly key c.type (row.cell c.name)⟩ := by
  have hcolumns : (if (row.cell "id").isNull then valueColumns kind else kind.columns) =
      storedColumns kind hasId := by
    cases hasId with
    | false => rw [hid, Bool.not_false, if_pos rfl, valueColumns_eq]
    | true => simp [hid, storedColumns]
  rw [insert, hcolumns, bindColumns_of_typed (storedColumns_subset kind hasId) h]
  rfl

theorem update_of_typed {id : Key} (expected : String) (hid : id.kind = key)
    (h : row.TypedIn key kind) : update kind key id expected row =
      .ok ⟨.update kind ((storedColumns kind false).map (·.name))
          (tokenMatch ((storedColumns kind false).length + 1)),
        ((storedColumns kind false).map fun c => Param.exactly key c.type (row.cell c.name)) ++
          [keyParam id, .text (some expected)]⟩ := by
  subst hid
  rw [update, valueColumns_eq, bindColumns_of_typed (storedColumns_subset kind false) h, ok_bind,
    bindTokenMatch, ofKey_eq_keyParam]
  rfl

/-- The text of a placeholder. -/
def placeholder (number : Nat) : String := renderTokens [.slot number]

section Rendering

variable (tokens others : List Token)

theorem renderTokens_append :
    renderTokens (tokens ++ others) = renderTokens tokens ++ renderTokens others := by
  rw [renderTokens, List.flatMap_append, String.ofList_append]
  rfl

@[simp] theorem renderTokens_nil : renderTokens [] = "" := rfl

@[simp] theorem renderTokens_plain (text : String) :
    renderTokens (.plain text :: tokens) = text ++ renderTokens tokens := by
  simp [renderTokens, Token.chars, String.ofList_append]

@[simp] theorem renderTokens_name (name : String) :
    renderTokens (.name name :: tokens) = identifier name ++ renderTokens tokens :=
  renderTokens_append [.name name] tokens

@[simp] theorem renderTokens_slot (number : Nat) :
    renderTokens (.slot number :: tokens) = placeholder number ++ renderTokens tokens :=
  renderTokens_append [.slot number] tokens

theorem renderTokens_separated (separator : String) (lists : List (List Token)) :
    renderTokens (separated separator lists) = separator.intercalate (lists.map renderTokens) := by
  induction lists with
  | nil => rfl
  | cons l rest ih =>
    cases rest with
    | nil => rw [separated, List.map_singleton, String.intercalate_singleton]
    | cons l' rest =>
      rw [separated, renderTokens_append, renderTokens_plain, ih, List.map_cons, List.map_cons,
        List.map_cons, String.intercalate_cons_cons, String.append_assoc]
      exact fun h => by cases h

theorem renderTokens_commas :
    renderTokens (commas tokens) = ", ".intercalate (tokens.map fun t => renderTokens [t]) := by
  rw [commas, renderTokens_separated, List.map_map]
  rfl

end Rendering

/-- Counting from one instead of zero. -/
theorem map_zipIdx_one {α β : Type} (f : α × Nat → β) (l : List α) :
    (l.zipIdx 1).map f = l.zipIdx.map fun e => f (e.1, e.2 + 1) := by
  rw [List.zipIdx_succ, List.map_map]
  rfl

/-- The text that stores a row: the named columns receive the parameters in turn. -/
def insertText (kind : EntityKind) (names : List String) : String :=
  "INSERT INTO " ++ identifier kind.table ++ " (" ++ ", ".intercalate (names.map identifier) ++
    ") VALUES (" ++ ", ".intercalate ((names.zipIdx 1).map fun c => placeholder c.2) ++
    ") RETURNING " ++ ", ".intercalate (kind.columns.map fun c => identifier c.name)

/-- The text that replaces the values of a row: the named columns receive the parameters in turn,
and the next two tell which row it is. -/
def updateText (kind : EntityKind) (names : List String) : String :=
  "UPDATE " ++ identifier kind.table ++ " SET " ++
    ", ".intercalate ((names.zipIdx 1).map fun c => identifier c.1 ++ " = " ++ placeholder c.2) ++
    " WHERE " ++ identifier "id" ++ " = " ++ placeholder (names.length + 1) ++
    " AND " ++ identifier "concurrency_token" ++ " = " ++ placeholder (names.length + 2)

theorem text_insert (kind : EntityKind) (names : List String) :
    (Command.insert kind names).text = insertText kind names := by
  have hslots : (names.zipIdx 1).map (fun c => placeholder c.2) =
      names.zipIdx.map fun c => placeholder (c.2 + 1) := map_zipIdx_one _ _
  unfold insertText
  rw [hslots, Command.text, Command.tokens, columnTokens]
  simp only [renderTokens_append, renderTokens_commas, renderTokens_plain, renderTokens_name,
    List.map_map, List.cons_append, List.nil_append, String.append_assoc]
  rfl

theorem tokens_tokenMatch (number : Nat) : (tokenMatch number).tokens =
    [.name "id", .plain " = ", .slot number, .plain " AND ", .name "concurrency_token",
      .plain " = ", .slot (number + 1)] := by
  simp [tokenMatch, columnIs, column, Clause.tokens, parenthesized, Clause.isOr, Operand.tokens,
    ColumnRef.tokens, Comparison.operator]

theorem text_update (kind : EntityKind) (names : List String) :
    (Command.update kind names (tokenMatch (names.length + 1))).text = updateText kind names := by
  have hassignments :
      (names.zipIdx 1).map (fun c => identifier c.1 ++ " = " ++ placeholder c.2) =
        (names.zipIdx.map fun c => [.name c.1, .plain " = ", .slot (c.2 + 1)]).map
          renderTokens := by
    rw [map_zipIdx_one, List.map_map]
    refine List.map_congr_left fun c _ => ?_
    simp [String.append_assoc]
  unfold updateText
  rw [hassignments, Command.text, Command.tokens, tokens_tokenMatch]
  simp only [renderTokens_append, renderTokens_separated, renderTokens_plain, renderTokens_name,
    renderTokens_slot, renderTokens_nil, List.cons_append, List.nil_append, String.append_assoc,
    String.append_empty]

/-! ## 3. Records -/

theorem isNull_cell_id {R K : Type} [EntityKey K] [Record R K] [LawfulRecord R] (r : R) :
    ((Record.toRow r).cell "id").isNull = !(Record.id r).isSome := by
  rw [LawfulRecord.cell_id]
  cases Record.id r <;> rfl

section Records

variable {R K : Type} [EntityKey K] [Record R K] [MirroredRecord R] {r r' : R}

/-- A record is determined by the columns of its row. -/
theorem eq_of_cells (h : ∀ column ∈ (Record.kind R).columns,
    (Record.toRow r).cell column.name = (Record.toRow r').cell column.name) : r = r' := by
  have hread := (MirroredRecord.mirrors R).declaredOnly _ _ h
  rw [(MirroredRecord.mirrors R).ofRow_toRow, (MirroredRecord.mirrors R).ofRow_toRow] at hread
  exact Except.ok.inj hread

/-- A record is determined by its identifier and the parameters of the columns that are stored,
which may tell the identifier themselves. -/
theorem eq_of_map_exactly [LawfulRecord R] {hasId : Bool}
    (hid : hasId = true ∨ Record.id r' = Record.id r)
    (h : ((storedColumns (Record.kind R) hasId).map fun c =>
        Param.exactly (EntityKey.kind K) c.type ((Record.toRow r').cell c.name)) =
      (storedColumns (Record.kind R) hasId).map fun c =>
        Param.exactly (EntityKey.kind K) c.type ((Record.toRow r).cell c.name)) : r' = r := by
  refine eq_of_cells fun column hmem => ?_
  by_cases hstored : column ∈ storedColumns (Record.kind R) hasId
  · have htyped := fun r : R => (MirroredRecord.mirrors R).typed r column hmem
    rw [← Param.cell_exactly (htyped r'), List.map_inj_left.mp h column hstored,
      Param.cell_exactly (htyped r)]
  · -- only the identifier can be left out
    have hleft : column.name = "id" ∧ hasId = false := by
      simpa [storedColumns, hmem] using hstored
    obtain ⟨hname, rfl⟩ := hleft
    have hids : Record.id r' = Record.id r := hid.resolve_left Bool.false_ne_true
    rw [hname, LawfulRecord.cell_id, LawfulRecord.cell_id, hids]

end Records

/-- **Writing accepts every record and loses nothing.**  For the four record types over the four key
types, any record can be stored, and any row replaced by it.

* The statement that stores it names every column, except for the identifier of a record without
  one; the one that replaces a row assigns every column except for the identifier.  The columns and
  the placeholders go along with each other.
* Each parameter is exactly the value of its column.  When a row is replaced, its identifier and
  the expected token are the last two.
* No other record has the same statement; what a statement that replaces a row leaves open is the
  identifier of the record, as the row keeps its own. -/
theorem written_exactly (m : ModelType) (r : m.Base) (id : m.Key) (expected : String) :
    let kind := Record.kind m.Base
    let form := EntityKey.kind m.Key
    let stored := storedColumns kind (Record.id r).isSome
    let replaced := storedColumns kind false
    let value := fun c : Column => Param.exactly form c.type ((Record.toRow r).cell c.name)
    (∃ s, insert kind form (Record.toRow r) = .ok s ∧
      s.text = insertText kind (stored.map (·.name)) ∧ s.params = stored.map value) ∧
    (∃ s, update kind form (EntityKey.toKey id) expected (Record.toRow r) = .ok s ∧
      s.text = updateText kind (replaced.map (·.name)) ∧
      s.params = replaced.map value ++ [keyParam (EntityKey.toKey id), .text (some expected)]) ∧
    (∀ r' : m.Base, insert kind form (Record.toRow r') = insert kind form (Record.toRow r) →
      r' = r) ∧
    (∀ r' : m.Base, Record.id r' = Record.id r →
      update kind form (EntityKey.toKey id) expected (Record.toRow r') =
        update kind form (EntityKey.toKey id) expected (Record.toRow r) → r' = r) := by
  intro kind form stored replaced value
  have htyped := (MirroredRecord.mirrors m.Base).typed
  have hinsert := fun r : m.Base => insert_of_typed (isNull_cell_id r) (htyped r)
  have hupdate := fun r : m.Base =>
    update_of_typed expected (KeyType.kind_toKey id) (htyped r)
  refine ⟨⟨_, hinsert r, text_insert _ _, rfl⟩, ⟨_, hupdate r, ?_, rfl⟩, ?_, ?_⟩
  · rw [← text_update, List.length_map]
    rfl
  · intro r' h
    rw [hinsert, hinsert, Except.ok.injEq, Statement.mk.injEq, Command.insert.injEq] at h
    obtain ⟨⟨-, hnames⟩, hvalues⟩ := h
    -- The columns tell whether the record has an identifier, and with it the values tell the record.
    have hsome : (Record.id r').isSome = (Record.id r).isSome := by
      rw [Bool.eq_iff_iff, ← id_mem_storedColumns, hnames, id_mem_storedColumns]
    rw [hsome] at hvalues
    refine eq_of_map_exactly ?_ hvalues
    cases hid : Record.id r with
    | none => exact .inr (by simpa [hid] using hsome)
    | some k => exact .inl rfl
  · intro r' hid h
    rw [hupdate, hupdate, Except.ok.injEq, Statement.mk.injEq] at h
    exact eq_of_map_exactly (.inr hid) (List.append_inj_left' h.2 rfl)

end Sql

end GrantLedger
