import GrantLedger.Tables

/-!
# What the operations do to the rows

One law for each operation says what it answers and what it does to `Tables.row?`, at every kind
and every key: `insert_cases`, `update_cases`, `delete_cases` and `row?_purge`.  Invariants of
the tables, histories of rows and sweeps are argued from these laws; nothing after this module
opens an operation again.

Two tables have the same rows (`SameRows`) if they differ in identity counters at most.  That is
what a refused insert leaves behind: the identifier that it was refused under counts as used.
-/

namespace GrantLedger

/-! ## 1. Maps -/

theorem OrdMap.mem_values {α β : Type} [Ord α] [Std.TransOrd α] [Std.LawfulEqOrd α]
    {m : OrdMap α β} {v : β} : v ∈ m.values ↔ ∃ k, m.get? k = some v := by
  rw [OrdMap.values, List.mem_map]
  constructor
  · rintro ⟨⟨k, v⟩, he, rfl⟩
    exact ⟨k, OrdMap.get?_eq_some_iff.mpr he⟩
  · rintro ⟨k, hk⟩
    exact ⟨(k, v), OrdMap.get?_eq_some_iff.mp hk, rfl⟩

theorem OrdMap.values_filter {α β : Type} [Ord α] (m : OrdMap α β) (q : β → Bool) :
    (m.filter fun _ v => q v).values = m.values.filter q := by
  rw [values, values, List.filter_map]
  rfl

theorem OrdMap.filter_congr {α β : Type} [Ord α] [Std.TransOrd α] [Std.LawfulEqOrd α]
    {m : OrdMap α β} {p q : α → β → Bool} (h : ∀ k v, m.get? k = some v → p k v = q k v) :
    m.filter p = m.filter q :=
  OrdMap.ext_entries (List.filter_congr fun _ he => h _ _ (OrdMap.get?_eq_some_iff.mpr he))

/-- A test that every entry passes leaves the map as it is. -/
theorem OrdMap.filter_of_forall {α β : Type} [Ord α] {m : OrdMap α β} {p : α → β → Bool}
    (h : ∀ k v, p k v = true) : m.filter p = m :=
  OrdMap.ext_entries (List.filter_eq_self.mpr fun e _ => h e.1 e.2)

/-- Two tests one after the other are one test. -/
theorem OrdMap.filter_filter {α β : Type} [Ord α] (m : OrdMap α β) (p q : α → β → Bool) :
    (m.filter p).filter q = m.filter fun k v => p k v && q k v :=
  OrdMap.ext_entries (by simp only [OrdMap.filter, List.filter_filter, Bool.and_comm])

namespace Tables

variable {t u : Tables} {kind other : EntityKind} {id : Key} {row : Row}

/-! ## 2. Rows of changed tables -/

/-- Two tables with the same row at every kind and key. -/
def SameRows (t u : Tables) : Prop := ∀ kind, (t.get kind).rows = (u.get kind).rows

theorem SameRows.refl (t : Tables) : SameRows t t := fun _ => rfl

theorem sameRows_iff : SameRows t u ↔ ∀ kind id, t.row? kind id = u.row? kind id := by
  constructor
  · intro h kind id
    rw [row?, row?, h kind]
  · intro h kind
    exact OrdMap.ext_get? (h kind)

theorem SameRows.row? (h : SameRows t u) (kind : EntityKind) (id : Key) :
    t.row? kind id = u.row? kind id := sameRows_iff.mp h kind id

theorem SameRows.rows (h : SameRows t u) (kind : EntityKind) : t.rows kind = u.rows kind := by
  rw [Tables.rows, Tables.rows, h kind]

/-- One row is written, and the others stay. -/
def Writes (t u : Tables) (kind : EntityKind) (id : Key) (row : Row) : Prop :=
  ∀ other i, u.row? other i = if other = kind ∧ i = id then some row else t.row? other i

/-- Some rows go, and the others stay. -/
def Drops (t u : Tables) : Prop :=
  ∀ kind id, u.row? kind id = none ∨ u.row? kind id = t.row? kind id

theorem SameRows.drops (h : SameRows u t) : Drops t u := fun kind id => Or.inr (h.row? kind id)

theorem drops_of_gone {gone : EntityKind → Key → Prop}
    (h : ∀ kind id, (gone kind id → u.row? kind id = none) ∧
      (¬ gone kind id → u.row? kind id = t.row? kind id)) : Drops t u := fun kind id =>
  (Classical.em (gone kind id)).imp (h kind id).1 (h kind id).2

theorem mem_rows {r : Row} : r ∈ t.rows kind ↔ ∃ id, t.row? kind id = some r :=
  OrdMap.mem_values

@[simp] theorem row?_empty (kind : EntityKind) (id : Key) : empty.row? kind id = none := by
  cases kind <;> rfl

theorem row?_setRows (t : Tables) (kind other : EntityKind) (rows : OrdMap Key Row) (id : Key) :
    (t.setRows kind rows).row? other id =
      if other = kind then rows.get? id else t.row? other id := by
  by_cases h : other = kind
  · subst h
    rw [if_pos rfl, row?, setRows, get_set_self]
  · rw [if_neg h, row?, row?, setRows, get_set_of_ne t h]

theorem row?_removeRows (t : Tables) (kind other : EntityKind) (ids : List Key) (id : Key) :
    (t.removeRows kind ids).row? other id =
      if other = kind ∧ id ∈ ids then none else t.row? other id := by
  rw [removeRows, row?_setRows]
  by_cases h : other = kind
  · subst h
    rw [if_pos rfl, OrdMap.get?_filter, row?]
    by_cases hid : id ∈ ids <;> cases (t.get other).rows.get? id <;> simp [hid]
  · simp [h]

theorem row?_erase (t : Tables) (kind other : EntityKind) (id i : Key) :
    (t.setRows kind ((t.get kind).rows.erase id)).row? other i =
      if other = kind ∧ i = id then none else t.row? other i := by
  rw [row?_setRows]
  by_cases h : other = kind
  · subst h
    by_cases hi : i = id
    · subst hi
      simp
    · rw [if_pos rfl, OrdMap.get?_erase_of_ne _ hi, if_neg fun h => hi h.2, row?]
  · rw [if_neg h, if_neg fun h' => h h'.1]

/-! ## 3. The unique text of a row -/

/-- The text of a row in the unique column of a kind, where the kind has one and the row a text in
it. -/
def uniqueText? (kind : EntityKind) (row : Row) : Option String :=
  kind.uniqueColumn?.bind fun column => (row.cell column).text?

/-- The identifier is no unique column, so writing it keeps the unique text. -/
theorem uniqueText?_set_id (kind : EntityKind) (row : Row) (c : Cell) :
    uniqueText? kind (row.set "id" c) = uniqueText? kind row := by
  cases kind <;>
    simp only [uniqueText?, EntityKind.uniqueColumn?, Option.bind_some, Option.bind_none] <;>
    rw [Row.cell_set_of_ne _ (by decide)]

/-- A row's unique text is taken exactly if a row holds it whose identifier is not the one that is
being updated. -/
theorem takenText?_isSome_iff {updating : Option Key} :
    (t.takenText? kind row updating).isSome ↔
      ∃ text, uniqueText? kind row = some text ∧
        ∃ r ∈ t.rows kind, uniqueText? kind r = some text ∧ (r.cell "id").key? ≠ updating := by
  simp only [takenText?, uniqueText?]
  cases kind.uniqueColumn? with
  | none => simp
  | some column =>
    cases htext : (row.cell column).text? with
    | none => simp [htext]
    | some text =>
      simp [htext]

/-- Only the rows decide whether a unique text is taken. -/
theorem takenText?_congr (h : SameRows t u) (kind : EntityKind) (row : Row)
    (updating : Option Key) : t.takenText? kind row updating = u.takenText? kind row updating := by
  simp only [takenText?, h.rows kind]

/-! ## 4. What each operation does -/

/-- The tables after an identifier has been counted as used. -/
def reserve? (t : Tables) (kind : EntityKind) (id : Key) : Option Tables :=
  (Table.advance? (t.get kind) id).map (t.set kind)

/-- Every identifier but the largest integer can be counted as used. -/
theorem reserve?_eq_none_iff : t.reserve? kind id = none ↔ id = .int Int64.maxValue := by
  rw [reserve?, Option.map_eq_none_iff]
  cases id <;> simp [Table.advance?, successor?]

theorem rows_of_advance? {table table' : Table} (h : Table.advance? table id = some table') :
    table'.rows = table.rows := by
  cases id with
  | int n =>
    obtain ⟨next, -, rfl⟩ := Option.map_eq_some_iff.mp h
    rfl
  | text | uuid =>
    cases h
    rfl

/-- Counting an identifier as used changes no row. -/
theorem sameRows_of_reserve? (h : t.reserve? kind id = some u) : SameRows u t := by
  obtain ⟨table, htable, rfl⟩ := Option.map_eq_some_iff.mp h
  intro other
  by_cases hother : other = kind
  · subst hother
    rw [get_set_self, rows_of_advance? htable]
  · rw [get_set_of_ne t hother]

/-- The identifier under which a row would be inserted. -/
def insertedKey (t : Tables) (kind : EntityKind) (row : Row) : Key :=
  Table.identify (t.get kind) row

/-- The row that would be inserted: the given one with its identifier. -/
def insertedRow (t : Tables) (kind : EntityKind) (row : Row) : Row :=
  row.set "id" (.key (t.insertedKey kind row))

/-- **An insertion under the largest integer** panics, and changes nothing. -/
theorem insert_last (h : t.insertedKey kind row = .int Int64.maxValue) :
    t.insert kind row = (.panic, t) := by
  have hnone : Table.advance? (t.get kind) (Table.identify (t.get kind) row) = none :=
    Option.map_eq_none_iff.mp (reserve?_eq_none_iff.mpr h)
  simp only [insert, hnone]

/-- Any other insertion counts its identifier as used.  Then it looks for the identifier and for the
unique text among the rows, which are still the old ones. -/
theorem insert_eq (hu : t.reserve? kind (t.insertedKey kind row) = some u) :
    t.insert kind row =
      if (t.row? kind (t.insertedKey kind row)).isSome then
        (.error (.backend (.duplicateKey (t.insertedKey kind row) kind.table)), u)
      else
        match t.takenText? kind (t.insertedRow kind row) none with
        | some fault => (.error (.backend fault), u)
        | none => (.ok (t.insertedRow kind row), u.setRows kind
            ((u.get kind).rows.insert (t.insertedKey kind row) (t.insertedRow kind row))) := by
  have hsame := sameRows_of_reserve? hu
  have hcontains : (u.get kind).rows.contains (t.insertedKey kind row) =
      (t.row? kind (t.insertedKey kind row)).isSome := by
    rw [← hsame.row? kind (t.insertedKey kind row)]
    rfl
  have htaken := takenText?_congr hsame kind (t.insertedRow kind row) none
  have hkey : Table.identify (t.get kind) row = t.insertedKey kind row := rfl
  have hrow : row.set "id" (.key (t.insertedKey kind row)) = t.insertedRow kind row := rfl
  obtain ⟨table, htable, rfl⟩ := Option.map_eq_some_iff.mp hu
  cases hfault : t.takenText? kind (t.insertedRow kind row) none <;>
    simp only [insert, hkey, hrow, htable, hcontains, htaken, hfault]

/-- **Insertion.**  Under the largest integer it panics and nothing changes.  Otherwise a row is
refused if its identifier is stored or its unique text is taken, and then no row changes; or else it
is stored under its identifier. -/
theorem insert_cases (t : Tables) (kind : EntityKind) (row : Row) :
    (t.insertedKey kind row = .int Int64.maxValue ∧ t.insert kind row = (.panic, t)) ∨
      (∃ fault u, t.insert kind row = (.error (.backend fault), u) ∧ SameRows u t ∧
        ((t.row? kind (t.insertedKey kind row)).isSome ∨
          (t.takenText? kind (t.insertedRow kind row) none).isSome) ∧
        t.insertedKey kind row ≠ .int Int64.maxValue) ∨
      (∃ u, t.insert kind row = (.ok (t.insertedRow kind row), u) ∧
        t.row? kind (t.insertedKey kind row) = none ∧
        t.takenText? kind (t.insertedRow kind row) none = none ∧
        Writes t u kind (t.insertedKey kind row) (t.insertedRow kind row)) := by
  by_cases hlast : t.insertedKey kind row = .int Int64.maxValue
  · exact Or.inl ⟨hlast, insert_last hlast⟩
  obtain ⟨u, hu⟩ := Option.ne_none_iff_exists'.mp (mt reserve?_eq_none_iff.mp hlast)
  have hsame := sameRows_of_reserve? hu
  rw [insert_eq hu]
  by_cases hstored : (t.row? kind (t.insertedKey kind row)).isSome
  · rw [if_pos hstored]
    exact Or.inr (Or.inl ⟨_, _, rfl, hsame, Or.inl hstored, hlast⟩)
  · rw [if_neg hstored]
    cases htext : t.takenText? kind (t.insertedRow kind row) none with
    | some fault => exact Or.inr (Or.inl ⟨fault, _, rfl, hsame, Or.inr rfl, hlast⟩)
    | none =>
      refine Or.inr (Or.inr ⟨_, rfl, by simpa using hstored, rfl, fun other id => ?_⟩)
      rw [row?_setRows, OrdMap.get?_insert]
      by_cases hk : other = kind
      · subst hk
        rw [if_pos rfl, ← hsame.row? other id, Tables.row?]
        simp only [true_and]
      · rw [if_neg hk, hsame.row?, if_neg fun h => hk h.1]

/-- **Update.**  Nothing changes unless the row holds the expected token and its new unique text is
free; then the row is replaced, and its identifier stays. -/
theorem update_cases (t : Tables) (kind : EntityKind) (id : Key) (expected : String) (row : Row) :
    (t.tokenMatches kind id expected = false ∧ t.update kind id expected row = (.ok 0, t)) ∨
      (∃ fault, t.update kind id expected row = (.error (.backend fault), t) ∧
        t.tokenMatches kind id expected = true ∧
        (t.takenText? kind row (some id)).isSome) ∨
      (∃ u, t.update kind id expected row = (.ok 1, u) ∧
        t.tokenMatches kind id expected = true ∧
        t.takenText? kind row (some id) = none ∧
        Writes t u kind id (row.set "id" (.key id))) := by
  rw [update]
  by_cases h : t.tokenMatches kind id expected = true
  · rw [if_pos h]
    cases htaken : t.takenText? kind row (some id) with
    | some fault => exact Or.inr (Or.inl ⟨fault, rfl, h, rfl⟩)
    | none =>
      refine Or.inr (Or.inr ⟨_, rfl, h, rfl, fun other i => ?_⟩)
      rw [row?_setRows, OrdMap.get?_insert]
      by_cases hk : other = kind
      · subst hk
        rw [if_pos rfl, Tables.row?]
        simp only [true_and]
      · rw [if_neg hk, if_neg fun h => hk h.1]
  · rw [if_neg h]
    exact Or.inl ⟨by simpa using h, rfl⟩

/-- Whether the deletion of a row takes another row with it. -/
def IsDependent (t : Tables) (kind : EntityKind) (id : Key) (other : EntityKind) (i : Key) : Prop :=
  (other = .authorization ∧ i ∈ t.dependentAuthorizations kind id) ∨
    (other = .token ∧ i ∈ t.dependentTokens kind id)

/-- **Deletion.**  Nothing changes unless the row holds the expected token and the policy lets its
dependents go; then the row and its dependents are removed. -/
theorem delete_cases (t : Tables) (kind : EntityKind) (id : Key) (expected : String)
    (policy : DeletePolicy) :
    (t.delete kind id expected policy = (.conflict, t) ∧
        t.tokenMatches kind id expected = false) ∨
      (∃ n, t.delete kind id expected policy = (.referenced n, t) ∧
        t.tokenMatches kind id expected = true) ∨
      (∃ n u, t.delete kind id expected policy = (.deleted n, u) ∧
        t.tokenMatches kind id expected = true ∧
        ∀ other i,
          (other = kind ∧ i = id ∨ t.IsDependent kind id other i → u.row? other i = none) ∧
          (¬ (other = kind ∧ i = id ∨ t.IsDependent kind id other i) →
            u.row? other i = t.row? other i)) := by
  simp only [delete]
  by_cases h : t.tokenMatches kind id expected = true
  · rw [if_pos h]
    split
    · exact Or.inr (Or.inl ⟨_, rfl, h⟩)
    · refine Or.inr (Or.inr ⟨_, _, rfl, h, fun other i => ?_⟩)
      rw [row?_erase, row?_removeRows, row?_removeRows, IsDependent]
      constructor
      · rintro (h | h | h) <;> simp [h]
      · intro hne
        rw [not_or, not_or] at hne
        rw [if_neg hne.1, if_neg hne.2.2, if_neg hne.2.1]
  · rw [if_neg h]
    exact Or.inl ⟨rfl, by simpa using h⟩

/-- Whether pruning rows of a kind takes a row with it: it is one of them, or a token that is
attached to a pruned authorization. -/
def isPurged (kind : EntityKind) (ids : List Key) (other : EntityKind) (i : Key) (row : Row) :
    Bool :=
  (decide (other = kind) && ids.contains i) ||
    (decide (kind = .authorization ∧ other = .token) &&
      ((row.cell "authorization_id").key?).any ids.contains)

/-- The tables without some rows of a kind and without the tokens attached to them. -/
def purge (t : Tables) (kind : EntityKind) (ids : List Key) : Tables :=
  (match kind with
    | .authorization => t.setRows .token ((t.get .token).rows.filter fun _ r =>
        !((r.cell "authorization_id").key?).any ids.contains)
    | _ => t).removeRows kind ids

/-- The identifiers of the rows that a batch removes. -/
def batch (t : Tables) (kind : EntityKind) (criteria : PruneCriteria) : List Key :=
  (t.idsWhere kind (t.isPrunable kind criteria)).take criteria.batchSize

theorem pruneBatch_eq (t : Tables) (kind : EntityKind) (criteria : PruneCriteria) :
    t.pruneBatch kind criteria =
      ((t.batch kind criteria).length, t.purge kind (t.batch kind criteria)) := rfl

/-- Purging filters the rows of every kind and touches nothing else. -/
theorem get_purge (t : Tables) (kind other : EntityKind) (ids : List Key) :
    (t.purge kind ids).get other =
      { t.get other with
        rows := (t.get other).rows.filter fun i r => !isPurged kind ids other i r } := by
  cases kind <;> cases other <;>
    simp [purge, removeRows, setRows, isPurged, get, set, OrdMap.filter_of_forall]

/-- **Pruning.**  A row stays exactly if it is not purged. -/
theorem row?_purge (t : Tables) (kind other : EntityKind) (ids : List Key) (i : Key) :
    (t.purge kind ids).row? other i =
      (t.row? other i).filter fun r => !isPurged kind ids other i r := by
  rw [row?, get_purge, OrdMap.get?_filter, row?]

@[simp] theorem purge_nil (t : Tables) (kind : EntityKind) : t.purge kind [] = t := by
  apply ext_get
  intro other
  have hkept : ∀ i r, (!isPurged kind [] other i r) = true := by
    intro i r
    cases h : (r.cell "authorization_id").key? <;> simp [isPurged, h]
  rw [get_purge, OrdMap.filter_of_forall hkept]

theorem drops_purge (t : Tables) (kind : EntityKind) (ids : List Key) :
    Drops t (t.purge kind ids) := by
  intro other i
  rw [row?_purge]
  cases t.row? other i with
  | none => exact Or.inl rfl
  | some row =>
    rw [Option.filter_some]
    split
    · exact Or.inr rfl
    · exact Or.inl rfl

/-- Purging touches the rows of the kind and, with authorizations, the tokens. -/
theorem row?_purge_of_ne (t : Tables) {kind other : EntityKind} (h : other ≠ kind)
    (hne : ¬ (kind = .authorization ∧ other = .token)) (ids : List Key) (i : Key) :
    (t.purge kind ids).row? other i = t.row? other i := by
  rw [row?_purge]
  cases t.row? other i <;> simp [isPurged, h, hne]

theorem isPurged_append (kind other : EntityKind) (xs ys : List Key) (i : Key) (row : Row) :
    isPurged kind (xs ++ ys) other i row =
      (isPurged kind xs other i row || isPurged kind ys other i row) := by
  have hattached : ((row.cell "authorization_id").key?).any (xs ++ ys).contains =
      (((row.cell "authorization_id").key?).any xs.contains ||
        ((row.cell "authorization_id").key?).any ys.contains) := by
    cases (row.cell "authorization_id").key? <;> simp
  rw [Bool.eq_iff_iff]
  simp only [isPurged, hattached, Bool.or_eq_true, Bool.and_eq_true, decide_eq_true_eq,
    List.contains_iff_mem, List.mem_append, and_or_left]
  exact or_or_or_comm

/-- Purging twice is purging once. -/
theorem purge_purge (t : Tables) (kind : EntityKind) (xs ys : List Key) :
    (t.purge kind xs).purge kind ys = t.purge kind (xs ++ ys) := by
  apply ext_get
  intro other
  simp only [get_purge, OrdMap.filter_filter, isPurged_append, Bool.not_or]

end Tables

end GrantLedger
