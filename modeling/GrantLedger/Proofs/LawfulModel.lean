import GrantLedger.Model.ModelType
import Mathlib.Data.List.Forall2

/-!
# Laws of keys, records and models

The classes `EntityKey`, `Record` and `Model` only name operations.  What a store relies on is said
here, once for every type that a store may be asked for:

* `LawfulEntityKey`: an identifier is read back from its stored form;
* `LawfulRecord`: the row of a record shows its identifier and its token, and the row that is stored
  under a key is read back as the record with this key as its identifier;
* `LawfulModel`: the record of a model can be replaced.

The four key types, the four record types over every lawful key type, and all models that the
library brings along are lawful.
-/

namespace GrantLedger

/-! ## 1. The laws -/

/-- A key type whose identifiers are read back from their stored forms. -/
class LawfulEntityKey (K : Type) [EntityKey K] : Prop where
  ofKey_toKey : ∀ k : K, EntityKey.ofKey (EntityKey.toKey k) = .ok k
  /-- A stored form that is none of the type is reported as malformed. -/
  isValidation_of_ofKey : ∀ {key : Key} {e : StoreError},
    (EntityKey.ofKey key : Except StoreError K) = .error e → e.isValidation = true

/-- A record type with a fixed layout. -/
class LawfulRecord (R : Type) {K : Type} [EntityKey K] [Record R K] : Prop where
  id_withId : ∀ (r : R) (k : K), Record.id (Record.withId r k) = some k
  id_withToken : ∀ (r : R) (token : Option String),
    Record.id (Record.withToken r token) = Record.id r
  token_withToken : ∀ (r : R) (token : Option String),
    Record.token (Record.withToken r token) = token
  cell_id : ∀ r : R, (Record.toRow r).cell "id" = Cell.ofId? (Record.id r)
  cell_token : ∀ r : R, (Record.toRow r).cell "concurrency_token" = Cell.ofText? (Record.token r)
  /-- Nothing but the key can keep a stored row from being read back. -/
  ofRow_set_id : ∀ (r : R) (key : Key), (Record.ofRow ((Record.toRow r).set "id" (.key key)) :
    Except StoreError R) = (EntityKey.ofKey key).map (Record.withId r)
  /-- A row that cannot be read is reported as malformed. -/
  isValidation_of_ofRow : ∀ {row : Row} {e : StoreError},
    (Record.ofRow row : Except StoreError R) = .error e → e.isValidation = true

/-- A model whose record can be replaced. -/
class LawfulModel (M : Type) {R K : Type} [Model M R K] : Prop where
  base_withBase : ∀ (m : M) (r : R), Model.base (Model.withBase m r) = r

/-! ## 2. Reading that fails on malformed values only -/

/-- A computation in two stages succeeds if both do. -/
theorem bind_eq_ok_iff {ε α β : Type} {x : Except ε α} {f : α → Except ε β} {b : β} :
    (x >>= f) = .ok b ↔ ∃ a, x = .ok a ∧ f a = .ok b := by
  cases x with
  | error e => exact iff_of_false (fun h => by cases h) fun ⟨a, h, _⟩ => by cases h
  | ok a => exact ⟨fun h => ⟨a, rfl, h⟩, fun ⟨a', h, h'⟩ => by cases h; exact h'⟩

theorem map_eq_ok_iff {ε α β : Type} {x : Except ε α} {f : α → β} {b : β} :
    x.map f = .ok b ↔ ∃ a, x = .ok a ∧ f a = b := by
  cases x with
  | error e => exact iff_of_false (fun h => by cases h) fun ⟨a, h, _⟩ => by cases h
  | ok a => simp [Except.map]

/-- A computation for each element of a list succeeds if all of them do. -/
theorem mapM_eq_ok_iff {ε α β : Type} {f : α → Except ε β} {l : List α} {r : List β} :
    l.mapM f = .ok r ↔ List.Forall₂ (fun a b => f a = .ok b) l r := by
  induction l generalizing r with
  | nil =>
    rw [List.mapM_nil, List.forall₂_nil_left_iff]
    exact ⟨fun h => by cases h; rfl, fun h => by rw [h]; rfl⟩
  | cons a l ih =>
    simp only [List.mapM_cons, bind_eq_ok_iff, ih, List.forall₂_cons_left_iff]
    constructor
    · rintro ⟨b, hb, s, hs, hr⟩
      cases hr
      exact ⟨b, s, hb, hs, rfl⟩
    · rintro ⟨b, s, hb, hs, rfl⟩
      exact ⟨b, hb, s, hs, rfl⟩

section

variable {α β : Type}

@[simp] theorem ok_bind (a : α) (f : α → Except StoreError β) :
    (Except.ok a >>= f) = f a := rfl

@[simp] theorem error_bind (e : StoreError) (f : α → Except StoreError β) :
    (Except.error e >>= f) = .error e := rfl

@[simp] theorem map_ok (f : α → β) (a : α) :
    (f <$> Except.ok a : Except StoreError β) = .ok (f a) := rfl

/-- A computation that fails by reporting something malformed, if at all. -/
def MalformedOnly (x : Except StoreError α) : Prop :=
  ∀ e, x = .error e → e.isValidation = true

theorem malformedOnly_ok (a : α) : MalformedOnly (.ok a) := fun _ h => by cases h

theorem malformedOnly_error (cause : Malformation) :
    MalformedOnly (.error (.validation cause) : Except StoreError α) := fun _ h => by
  cases h
  rfl

theorem MalformedOnly.bind {x : Except StoreError α} {f : α → Except StoreError β}
    (hx : MalformedOnly x) (hf : ∀ a, MalformedOnly (f a)) : MalformedOnly (x >>= f) := by
  cases x with
  | error e =>
    intro e' h
    cases h
    exact hx e rfl
  | ok a => exact hf a

end

/-! ## 3. Key types -/

instance : LawfulEntityKey String where
  ofKey_toKey _ := rfl
  isValidation_of_ofKey h := by cases h

instance : LawfulEntityKey Uuid where
  ofKey_toKey _ := rfl
  isValidation_of_ofKey {key e} h := by
    revert e
    change MalformedOnly (EntityKey.readUuid key)
    cases key with
    | int n => exact malformedOnly_error _
    | uuid u => exact malformedOnly_ok u
    | text s =>
      simp only [EntityKey.readUuid]
      split
      · exact malformedOnly_ok _
      · exact malformedOnly_error _

theorem readInt64_malformedOnly (key : Key) : MalformedOnly (EntityKey.readInt64 key) := by
  cases key with
  | int n => exact malformedOnly_ok n
  | uuid u => exact malformedOnly_error _
  | text s =>
    simp only [EntityKey.readInt64]
    split
    · exact malformedOnly_ok _
    · exact malformedOnly_error _

theorem narrow_malformedOnly (n : Int64) : MalformedOnly (EntityKey.narrow n) := by
  rw [EntityKey.narrow]
  split
  · exact malformedOnly_error _
  · split
    · exact malformedOnly_error _
    · exact malformedOnly_ok _

/-- An integer is a 32-bit identifier exactly if it is in range. -/
theorem narrow_eq_error_iff (n : Int64) :
    (∃ e, EntityKey.narrow n = .error e) ↔ n.toInt < -2_147_483_648 ∨ 2_147_483_648 ≤ n.toInt := by
  rw [EntityKey.narrow]
  split
  · next h => exact iff_of_true ⟨_, rfl⟩ (Or.inl h)
  · next h =>
    split
    · next h' => exact iff_of_true ⟨_, rfl⟩ (Or.inr h')
    · next h' => exact iff_of_false (fun ⟨_, he⟩ => by cases he) (not_or.mpr ⟨h, h'⟩)

instance : LawfulEntityKey Int64 where
  ofKey_toKey _ := rfl
  isValidation_of_ofKey h := readInt64_malformedOnly _ _ h

instance : LawfulEntityKey Int32 where
  ofKey_toKey k := by
    change EntityKey.narrow k.toInt64 = .ok k
    have hlow := k.le_toInt
    have hhigh := k.toInt_lt
    rw [EntityKey.narrow, Int32.toInt_toInt64, if_neg (by omega), if_neg (by omega),
      Int32.toInt32_toInt64]
  isValidation_of_ofKey h := (readInt64_malformedOnly _).bind narrow_malformedOnly _ h

instance (key : KeyType) : LawfulEntityKey key.type := by
  cases key
  · exact inferInstanceAs (LawfulEntityKey String)
  · exact inferInstanceAs (LawfulEntityKey Uuid)
  · exact inferInstanceAs (LawfulEntityKey Int64)
  · exact inferInstanceAs (LawfulEntityKey Int32)

/-! ## 4. The columns of a written row -/

/-- The last value of a column is the one that counts. -/
theorem OrdMap.get?_ofList (l : List (String × Cell)) (column : String) :
    (ofList l).get? column = l.reverse.lookup column := by
  suffices h : ∀ (l : List (String × Cell)) (m : OrdMap String Cell),
      (l.foldl (fun m e => m.insert e.1 e.2) m).get? column =
        (l.reverse.lookup column).or (m.get? column) by
    rw [ofList, h]
    simp
  intro l
  induction l with
  | nil => exact fun m => rfl
  | cons e l ih =>
    intro m
    obtain ⟨c, v⟩ := e
    rw [List.foldl_cons, ih, List.reverse_cons, List.lookup_append, OrdMap.get?_insert]
    by_cases h : column = c
    · simp [h]
    · simp [h, List.lookup_cons, beq_eq_false_iff_ne.mpr h]

/-- The last value of a column is the one that a row of a list of columns shows. -/
theorem Row.cell_ofList (l : List (String × Cell)) (column : String) :
    (ofList l).cell column = (l.reverse.lookup column).getD .null := by
  rw [cell, ofList, OrdMap.get?_ofList]

/-- A row of a list of columns with another value in one of them. -/
theorem Row.set_ofList {l l' : List (String × Cell)} {column : String} {value : Cell}
    (hself : l'.reverse.lookup column = some value)
    (hother : ∀ c, (c == column) = false → l'.reverse.lookup c = l.reverse.lookup c) :
    (ofList l).set column value = ofList l' := by
  refine congrArg Row.mk (OrdMap.ext_get? fun c => ?_)
  rw [OrdMap.get?_insert, ofList, OrdMap.get?_ofList, OrdMap.get?_ofList]
  split
  · next h => rw [h, hself]
  · next h => exact (hother c (beq_eq_false_iff_ne.mpr h)).symm

/-- Reads a cell as a text. -/
def Cell.asText (column : String) : Cell → Except StoreError (Option String)
  | .null => .ok none
  | .text s => .ok (some s)
  | other => .error (.validation (.columnType column "text" other))

/-- Reads a cell as a point in time. -/
def Cell.asTimestamp (column : String) : Cell → Except StoreError (Option Timestamp)
  | .null => .ok none
  | .timestamp t => .ok (some t)
  | other => .error (.validation (.columnType column "timestamp" other))

/-- Reads a cell as a key. -/
def Cell.asKey (column : String) : Cell → Except StoreError (Option Key)
  | .null => .ok none
  | .key k => .ok (some k)
  | other => .error (.validation (.columnType column "key" other))

theorem Row.readText_eq (row : Row) (column : String) :
    row.readText column = (row.cell column).asText column := by
  unfold readText Cell.asText
  rfl

theorem Row.readTimestamp_eq (row : Row) (column : String) :
    row.readTimestamp column = (row.cell column).asTimestamp column := by
  unfold readTimestamp Cell.asTimestamp
  rfl

theorem Row.readKey_eq (row : Row) (column : String) :
    row.readKey column = (row.cell column).asKey column := by
  unfold readKey Cell.asKey
  rfl

@[simp] theorem Cell.asText_ofText? (column : String) (s : Option String) :
    (Cell.ofText? s).asText column = .ok s := by
  cases s <;> rfl

@[simp] theorem Cell.asTimestamp_ofTimestamp? (column : String) (t : Option Timestamp) :
    (Cell.ofTimestamp? t).asTimestamp column = .ok t := by
  cases t <;> rfl

section

variable {K : Type} [EntityKey K] [LawfulEntityKey K]

/-- Reads a cell as an identifier. -/
def Cell.asId {K : Type} [EntityKey K] (column : String) (c : Cell) :
    Except StoreError (Option K) := do
  match ← c.asKey column with
  | none => return none
  | some k => return some (← EntityKey.ofKey k)

omit [LawfulEntityKey K] in
theorem Row.readId_eq (row : Row) (column : String) :
    (row.readId column : Except StoreError (Option K)) = (row.cell column).asId column := by
  rw [Row.readId, readKey_eq]
  rfl

omit [LawfulEntityKey K] in
theorem Cell.asId_key (column : String) (key : Key) :
    (Cell.key key).asId column =
      (EntityKey.ofKey key : Except StoreError K).map some := by
  change (EntityKey.ofKey key >>= fun k => pure (some k)) = _
  cases (EntityKey.ofKey key : Except StoreError K) <;> rfl

@[simp] theorem Cell.asId_ofId? (column : String) (k : Option K) :
    (Cell.ofId? k).asId column = .ok k := by
  cases k with
  | none => rfl
  | some k =>
    change (Cell.key (EntityKey.toKey k)).asId column = _
    rw [asId_key, LawfulEntityKey.ofKey_toKey]
    rfl

theorem Row.readText_malformedOnly (row : Row) (column : String) :
    MalformedOnly (row.readText column) := by
  rw [readText_eq]
  cases row.cell column <;> first | exact malformedOnly_ok _ | exact malformedOnly_error _

theorem Row.readTimestamp_malformedOnly (row : Row) (column : String) :
    MalformedOnly (row.readTimestamp column) := by
  rw [readTimestamp_eq]
  cases row.cell column <;> first | exact malformedOnly_ok _ | exact malformedOnly_error _

theorem Row.readKey_malformedOnly (row : Row) (column : String) :
    MalformedOnly (row.readKey column) := by
  rw [readKey_eq]
  cases row.cell column <;> first | exact malformedOnly_ok _ | exact malformedOnly_error _

theorem Row.readId_malformedOnly (row : Row) (column : String) :
    MalformedOnly (row.readId column : Except StoreError (Option K)) := by
  refine (row.readKey_malformedOnly column).bind fun key => ?_
  cases key with
  | none => exact malformedOnly_ok _
  | some key =>
    exact MalformedOnly.bind (fun _ h => LawfulEntityKey.isValidation_of_ofKey h)
      fun _ => malformedOnly_ok _

/-! ## 5. Record types -/

instance : LawfulRecord (Application K) where
  id_withId _ _ := rfl
  id_withToken _ _ := rfl
  token_withToken _ _ := rfl
  cell_id a := by
    change a.toRow.cell "id" = Cell.ofId? a.id
    simp [Application.toRow, Row.cell_ofList, List.lookup_cons]
  cell_token a := by
    change a.toRow.cell "concurrency_token" = Cell.ofText? a.concurrencyToken
    simp [Application.toRow, Row.cell_ofList, List.lookup_cons]
  ofRow_set_id a key := by
    change Application.ofRow (a.toRow.set "id" (.key key)) =
      (EntityKey.ofKey key).map fun k => { a with id := some k }
    cases h : (EntityKey.ofKey key : Except StoreError K) <;>
      simp [Application.ofRow_eq, Application.toRow, Row.readId_eq, Row.readText_eq, Cell.asId_key,
        Row.cell_set, Row.cell_ofList, List.lookup_cons, h, Except.map]
  isValidation_of_ofRow {row} {e} h := by
    revert e
    change MalformedOnly (Application.ofRow row)
    rw [Application.ofRow_eq]
    refine (row.readId_malformedOnly "id").bind fun _ => ?_
    repeat refine (row.readText_malformedOnly _).bind fun _ => ?_
    exact malformedOnly_ok _

instance : LawfulRecord (Authorization K) where
  id_withId _ _ := rfl
  id_withToken _ _ := rfl
  token_withToken _ _ := rfl
  cell_id a := by
    change a.toRow.cell "id" = Cell.ofId? a.id
    simp [Authorization.toRow, Row.cell_ofList, List.lookup_cons]
  cell_token a := by
    change a.toRow.cell "concurrency_token" = Cell.ofText? a.concurrencyToken
    simp [Authorization.toRow, Row.cell_ofList, List.lookup_cons]
  ofRow_set_id a key := by
    change Authorization.ofRow (a.toRow.set "id" (.key key)) =
      (EntityKey.ofKey key).map fun k => { a with id := some k }
    cases h : (EntityKey.ofKey key : Except StoreError K) <;>
      simp [Authorization.ofRow_eq, Authorization.toRow, Row.readId_eq, Row.readText_eq,
        Row.readTimestamp_eq, Cell.asId_key, Row.cell_set, Row.cell_ofList, List.lookup_cons, h,
        Except.map]
  isValidation_of_ofRow {row} {e} h := by
    revert e
    change MalformedOnly (Authorization.ofRow row)
    rw [Authorization.ofRow_eq]
    repeat first
      | refine (row.readId_malformedOnly _).bind fun _ => ?_
      | refine (row.readText_malformedOnly _).bind fun _ => ?_
      | refine (row.readTimestamp_malformedOnly _).bind fun _ => ?_
    exact malformedOnly_ok _

instance : LawfulRecord (Scope K) where
  id_withId _ _ := rfl
  id_withToken _ _ := rfl
  token_withToken _ _ := rfl
  cell_id s := by
    change s.toRow.cell "id" = Cell.ofId? s.id
    simp [Scope.toRow, Row.cell_ofList, List.lookup_cons]
  cell_token s := by
    change s.toRow.cell "concurrency_token" = Cell.ofText? s.concurrencyToken
    simp [Scope.toRow, Row.cell_ofList, List.lookup_cons]
  ofRow_set_id s key := by
    change Scope.ofRow (s.toRow.set "id" (.key key)) =
      (EntityKey.ofKey key).map fun k => { s with id := some k }
    cases h : (EntityKey.ofKey key : Except StoreError K) <;>
      simp [Scope.ofRow_eq, Scope.toRow, Row.readId_eq, Row.readText_eq, Cell.asId_key, Row.cell_set,
        Row.cell_ofList, List.lookup_cons, h, Except.map]
  isValidation_of_ofRow {row} {e} h := by
    revert e
    change MalformedOnly (Scope.ofRow row)
    rw [Scope.ofRow_eq]
    refine (row.readId_malformedOnly "id").bind fun _ => ?_
    repeat refine (row.readText_malformedOnly _).bind fun _ => ?_
    exact malformedOnly_ok _

instance : LawfulRecord (Token K) where
  id_withId _ _ := rfl
  id_withToken _ _ := rfl
  token_withToken _ _ := rfl
  cell_id t := by
    change t.toRow.cell "id" = Cell.ofId? t.id
    simp [Token.toRow, Row.cell_ofList, List.lookup_cons]
  cell_token t := by
    change t.toRow.cell "concurrency_token" = Cell.ofText? t.concurrencyToken
    simp [Token.toRow, Row.cell_ofList, List.lookup_cons]
  ofRow_set_id t key := by
    change Token.ofRow (t.toRow.set "id" (.key key)) =
      (EntityKey.ofKey key).map fun k => { t with id := some k }
    cases h : (EntityKey.ofKey key : Except StoreError K) <;>
      simp [Token.ofRow_eq, Token.toRow, Row.readId_eq, Row.readText_eq, Row.readTimestamp_eq,
        Cell.asId_key, Row.cell_set, Row.cell_ofList, List.lookup_cons, h, Except.map]
  isValidation_of_ofRow {row} {e} h := by
    revert e
    change MalformedOnly (Token.ofRow row)
    rw [Token.ofRow_eq]
    repeat first
      | refine (row.readId_malformedOnly _).bind fun _ => ?_
      | refine (row.readText_malformedOnly _).bind fun _ => ?_
      | refine (row.readTimestamp_malformedOnly _).bind fun _ => ?_
    exact malformedOnly_ok _

end

instance (m : ModelType) : LawfulRecord m.Base := by
  cases m
  case application k => exact inferInstanceAs (LawfulRecord (Application k.type))
  case authorization k => exact inferInstanceAs (LawfulRecord (Authorization k.type))
  case scope k => exact inferInstanceAs (LawfulRecord (Scope k.type))
  case token k => exact inferInstanceAs (LawfulRecord (Token k.type))
  case labelledScope => exact inferInstanceAs (LawfulRecord (Scope String))
  case taggedScope => exact inferInstanceAs (LawfulRecord (Scope String))
  case auditedToken => exact inferInstanceAs (LawfulRecord (Token String))

/-! ## 6. Models -/

/-- A record is a lawful model of itself. -/
instance {R K : Type} [Record R K] : LawfulModel R where
  base_withBase _ _ := rfl

instance : LawfulModel LabelledScope where
  base_withBase _ _ := rfl

instance : LawfulModel TaggedScope where
  base_withBase _ _ := rfl

instance : LawfulModel AuditedToken where
  base_withBase _ _ := rfl

instance (m : ModelType) : LawfulModel m.Entity := by
  cases m
  case application k => exact inferInstanceAs (LawfulModel (Application k.type))
  case authorization k => exact inferInstanceAs (LawfulModel (Authorization k.type))
  case scope k => exact inferInstanceAs (LawfulModel (Scope k.type))
  case token k => exact inferInstanceAs (LawfulModel (Token k.type))
  case labelledScope => exact inferInstanceAs (LawfulModel LabelledScope)
  case taggedScope => exact inferInstanceAs (LawfulModel TaggedScope)
  case auditedToken => exact inferInstanceAs (LawfulModel AuditedToken)

end GrantLedger
