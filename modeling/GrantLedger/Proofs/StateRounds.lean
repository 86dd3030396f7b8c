import GrantLedger.Proofs.ExtendedModels

/-!
# Stored states survive rounds of finding and updating

An entity of a model with a state of its own is written with this state in its property bag, and
what is found holds the state twice: beside the record, and in the bag of the record.  A round finds
an entity and updates it as it was found.  It writes the state into a bag that holds it already, so
nothing changes but the concurrency token, however often this is repeated.

* `storedAs_of_cells`: a write takes over the record of the entity in all columns but the bag, and
  stores there its own bag with the state under its name.
* `Shown.found` and `Shown.updated`: a stored record whose bag holds the state is found with this
  state, and updating what is found leaves such a record again.  The update is never refused, since
  the token has just been read and the unique text stays the same.
* `Shown.rounds_run`: so do any number of rounds.

`state_survives_rounds` puts them together.  An entity whose bag cannot be read is not written.
-/

namespace GrantLedger

/-! ## 1. Columns that are set one at a time -/

/-- A record type whose fields are set one at a time, and so are their columns. -/
class SettableColumns (R : Type) {K : Type} [EntityKey K] [Record R K] [PropertyColumn R K] :
    Prop where
  toRow_withId : ∀ (r : R) (k : K),
    Record.toRow (Record.withId r k) = (Record.toRow r).set "id" (.key (EntityKey.toKey k))
  toRow_withToken : ∀ (r : R) (token : Option String),
    Record.toRow (Record.withToken r token) =
      (Record.toRow r).set "concurrency_token" (Cell.ofText? token)
  set_get : ∀ r : R, PropertyColumn.field.set r (PropertyColumn.field.get r) = r

section

variable {K : Type} [EntityKey K]

instance : SettableColumns (Application K) where
  toRow_withId r k := by
    refine (Row.set_ofList ?_ fun c hc => ?_).symm
    · simp [Record.withId, List.lookup_cons, Cell.ofId?, Cell.ofKey?]
    · simp [Record.withId, List.lookup_cons, hc]
  toRow_withToken r token := by
    refine (Row.set_ofList ?_ fun c hc => ?_).symm
    · simp [Record.withToken, List.lookup_cons]
    · simp [Record.withToken, List.lookup_cons, hc]
  set_get _ := rfl

instance : SettableColumns (Authorization K) where
  toRow_withId r k := by
    refine (Row.set_ofList ?_ fun c hc => ?_).symm
    · simp [Record.withId, List.lookup_cons, Cell.ofId?, Cell.ofKey?]
    · simp [Record.withId, List.lookup_cons, hc]
  toRow_withToken r token := by
    refine (Row.set_ofList ?_ fun c hc => ?_).symm
    · simp [Record.withToken, List.lookup_cons]
    · simp [Record.withToken, List.lookup_cons, hc]
  set_get _ := rfl

instance : SettableColumns (Scope K) where
  toRow_withId r k := by
    refine (Row.set_ofList ?_ fun c hc => ?_).symm
    · simp [Record.withId, List.lookup_cons, Cell.ofId?, Cell.ofKey?]
    · simp [Record.withId, List.lookup_cons, hc]
  toRow_withToken r token := by
    refine (Row.set_ofList ?_ fun c hc => ?_).symm
    · simp [Record.withToken, List.lookup_cons]
    · simp [Record.withToken, List.lookup_cons, hc]
  set_get _ := rfl

instance : SettableColumns (Token K) where
  toRow_withId r k := by
    refine (Row.set_ofList ?_ fun c hc => ?_).symm
    · simp [Record.withId, List.lookup_cons, Cell.ofId?, Cell.ofKey?]
    · simp [Record.withId, List.lookup_cons, hc]
  toRow_withToken r token := by
    refine (Row.set_ofList ?_ fun c hc => ?_).symm
    · simp [Record.withToken, List.lookup_cons]
    · simp [Record.withToken, List.lookup_cons, hc]
  set_get _ := rfl

end

/-! ## 2. Tables that differ in a token -/

/-- Rows that differ in the concurrency token only hold the same unique text. -/
theorem Tables.uniqueText?_congr {kind : EntityKind} {row row' : Row}
    (h : ∀ column, column ≠ "concurrency_token" → row'.cell column = row.cell column) :
    uniqueText? kind row' = uniqueText? kind row := by
  cases kind <;>
    simp only [uniqueText?, EntityKind.uniqueColumn?, Option.bind_some, Option.bind_none] <;>
    rw [h _ (by decide)]

/-- Tables that differ at most in the concurrency token of one row. -/
structure Tables.Restamped (t u : Tables) (kind : EntityKind) (key : Key) : Prop where
  row : ∃ held stamped, t.row? kind key = some held ∧ u.row? kind key = some stamped ∧
    ∀ column, column ≠ "concurrency_token" → stamped.cell column = held.cell column
  others : ∀ other i, ¬ (other = kind ∧ i = key) → u.row? other i = t.row? other i

theorem Tables.Restamped.trans {t u v : Tables} {kind : EntityKind} {key : Key}
    (h : t.Restamped u kind key) (h' : u.Restamped v kind key) : t.Restamped v kind key where
  row := by
    obtain ⟨held, stamped, hheld, hstamped, hcells⟩ := h.row
    obtain ⟨held', stamped', hheld', hstamped', hcells'⟩ := h'.row
    rw [hstamped] at hheld'
    cases hheld'
    exact ⟨held, stamped', hheld, hstamped', fun column hc =>
      (hcells' column hc).trans (hcells column hc)⟩
  others other i hne := (h'.others other i hne).trans (h.others other i hne)

namespace Store

variable {M R K : Type} [EntityKey K] [Record R K] [Model M R K]
variable {t u : Tables} {name : String} {m e : M} {k : K} {b : R} {bag : Properties}

/-! ## 3. Rounds -/

/-- Finds an entity and updates it as it was found, as often as there are tokens.  Answers with what
the updates answered. -/
def rounds (M : Type) {R K : Type} [EntityKey K] [Record R K] [Model M R K] (k : K) :
    List Uuid → Request (List M)
  | [] => pure []
  | token :: tokens => do
    match ← findById M k with
    | none => pure []
    | some m =>
      let written ← update token m
      return written :: (← rounds M k tokens)

/-- A round whose update goes through is followed by the others. -/
theorem rounds_cons_run {v : Tables} {token : Uuid} {tokens : List Uuid} {m written : M}
    {answers : List M} (hfind : (findById M k).run t = (.ok (some m), t))
    (hupdate : (update token m).run t = (.ok written, u))
    (hrest : (rounds M k tokens).run u = (.ok answers, v)) :
    (rounds M k (token :: tokens)).run t = (.ok (written :: answers), v) := by
  simp only [rounds, Request.run_bind, hfind, hupdate, hrest, Request.run_pure]

/-! ## 4. Writes in well-formed tables -/

theorem wellFormed_create (ht : t.WellFormed) (id token : Uuid) (m : M) :
    ((create id token m).run t).2.WellFormed := by
  simp only [create, Request.run]
  split
  · exact ht
  · next row _ =>
    have hinsert := ht.insert (kindOf M) row
    split <;> next heq => rwa [heq] at hinsert

theorem wellFormed_update (ht : t.WellFormed) (token : Uuid) (m : M) :
    ((update token m).run t).2.WellFormed := by
  unfold update
  split
  · exact ht
  · next id expected _ =>
    dsimp only
    split
    · exact ht
    · next row _ =>
      have hupdate := ht.update (kindOf M) (EntityKey.toKey id) expected row
      simp only [Request.run]
      split <;> next heq => rwa [heq] at hupdate

/-- **An update of the row that is stored is never refused,** if it names the token of the row and
leaves its unique text. -/
theorem exists_update_run (ht : t.WellFormed) {token : Uuid} {expected : String} {held row : Row}
    (hid : Record.id (Model.base m) = some k) (htoken : Record.token (Model.base m) = some expected)
    (hencode : encode (renewed token m) = .ok row)
    (hheld : t.row? (kindOf M) (EntityKey.toKey k) = some held)
    (hexpected : held.cell "concurrency_token" = .text expected)
    (hunique : Tables.uniqueText? (kindOf M) row = Tables.uniqueText? (kindOf M) held) :
    ∃ u, (update token m).run t = (.ok (renewed token m), u) ∧
      Tables.Writes t u (kindOf M) (EntityKey.toKey k)
        (row.set "id" (.key (EntityKey.toKey k))) := by
  have hmatch : t.tokenMatches (kindOf M) (EntityKey.toKey k) expected = true := by
    rw [Tables.tokenMatches, hheld, Option.any_some, hexpected]
    exact beq_self_eq_true _
  have haddressed : addressed "update" m = .ok (k, expected) :=
    addressed_eq_ok_iff.mpr ⟨hid, htoken⟩
  rw [renewed] at hencode
  rcases t.update_cases (kindOf M) (EntityKey.toKey k) expected row with
    ⟨hno, -⟩ | ⟨fault, hrun, -, -⟩ | ⟨u, hrun, -, -, hu⟩
  · rw [hmatch] at hno
    cases hno
  -- Another row would hold the unique text, but the stored row holds it already.
  · obtain ⟨text, i, hne, htext, hi⟩ :=
      (ht.update_refused_iff (kindOf M) _ expected row hmatch).mp ⟨_, by rw [hrun]⟩
    exact absurd (ht.distinct _ text i _ hi ⟨held, hheld, hunique ▸ htext⟩) hne
  · refine ⟨u, ?_, hu⟩
    simp only [update, haddressed, hencode, hrun, Request.run, renewed]

/-! ## 5. The row that is written -/

/-- How an entity is stored: under a key and with a fresh token, in all other columns but the bag as
its record says, and in the bag with its state, which is put in place of any value that its own bag
has under this name. -/
structure StoredAs (name : String) (bag : Properties) (m : M) (token : Uuid) (key : Key)
    (row : Row) : Prop where
  id : row.cell "id" = .key key
  token : row.cell "concurrency_token" = .text token.toText
  properties : ∃ stored : Properties,
    row.cell "properties" = Cell.ofText? (Codec.encodeProperties stored) ∧
    Codec.decodeProperties (row.cell "properties").text? = .ok stored ∧
    ∀ n, stored.get? n = if n = name then some (Model.extension m) else bag.get? n
  others : ∀ column, column ≠ "id" → column ≠ "concurrency_token" → column ≠ "properties" →
    row.cell column = (Record.toRow (Model.base m)).cell column

section

variable [PropertyColumn R K]

omit [EntityKey K] in
theorem cell_storedBase {column : String} (h : column ≠ "properties") :
    (Record.toRow (storedBase name bag m)).cell column =
      (Record.toRow (Model.base m)).cell column := by
  rw [storedBase, ← PropertyColumn.toRow_set, Row.cell_set_of_ne _ h]

section

variable [SettableColumns R] [LawfulModel M]

theorem cell_base_drafted {id token : Uuid} {column : String} (hid : column ≠ "id")
    (htoken : column ≠ "concurrency_token") :
    (Record.toRow (Model.base (drafted id token m))).cell column =
      (Record.toRow (Model.base m)).cell column := by
  rw [drafted, LawfulModel.base_withBase, SettableColumns.toRow_withToken,
    Row.cell_set_of_ne _ htoken]
  split
  · rw [SettableColumns.toRow_withId, Row.cell_set_of_ne _ hid]
  · rfl

theorem cell_base_renewed {token : Uuid} {column : String} (h : column ≠ "concurrency_token") :
    (Record.toRow (Model.base (renewed token m))).cell column =
      (Record.toRow (Model.base m)).cell column := by
  rw [renewed, LawfulModel.base_withBase, SettableColumns.toRow_withToken, Row.cell_set_of_ne _ h]

end

variable [LawfulRecord R]

/-- **The record that is stored for a draft or a renewed entity holds what the entity holds,** with
the state in the bag and the fresh token. -/
theorem storedAs_of_cells {d : M} {token : Uuid}
    (hbag : storedBag name bag d = storedBag name bag m)
    (hstored : Codec.decodeProperties (Codec.encodeProperties (storedBag name bag m)) =
      .ok (storedBag name bag m))
    (htoken : Record.token (Model.base d) = some token.toText)
    (hcells : ∀ column, column ≠ "id" → column ≠ "concurrency_token" →
      (Record.toRow (Model.base d)).cell column = (Record.toRow (Model.base m)).cell column)
    (key : Key) :
    StoredAs name bag m token key
      ((Record.toRow (storedBase name bag d)).set "id" (.key key)) where
  id := Row.cell_set_self _ _ _
  token := by
    rw [Row.cell_set_of_ne _ (by decide), cell_storedBase (by decide), LawfulRecord.cell_token,
      htoken]
    rfl
  properties := by
    refine ⟨storedBag name bag m, ?_, ?_, fun n => ?_⟩
    · rw [Row.cell_set_of_ne _ (by decide), PropertyColumn.cell_properties, storedBase,
        PropertyColumn.get_set, hbag]
    · rw [Row.cell_set_of_ne _ (by decide), PropertyColumn.cell_properties, storedBase,
        PropertyColumn.get_set, hbag, Cell.text?_ofText?, hstored]
    · rw [storedBag, OrdMap.get?_insert]
  others column hid htoken hproperties := by
    rw [Row.cell_set_of_ne _ hid, cell_storedBase hproperties, hcells column hid htoken]

end

/-! ## 6. Rounds change nothing but the token -/

/-- What rounds keep of an entity.  However often it is found and updated as it was found, all of
the updates go through, its state stays the same, and nothing is changed but its token. -/
def SurvivesRounds (t : Tables) (k : K) (m : M) : Prop :=
  ∀ tokens : List Uuid, ∃ (answers : List M) (u : Tables) (found : M),
    (rounds M k tokens).run t = (.ok answers, u) ∧ answers.length = tokens.length ∧
    (∀ answer ∈ answers, Model.extension answer = Model.extension m) ∧
    t.Restamped u (kindOf M) (EntityKey.toKey k) ∧
    (findById M k).run u = (.ok (some found), u) ∧ Model.extension found = Model.extension m

/-- A record is stored with its identifier, a token and a bag that holds the state of an entity. -/
structure Shown [PropertyColumn R K] (name : String) (e : M) (t : Tables) (k : K) (b : R) :
    Prop where
  row : t.row? (kindOf M) (EntityKey.toKey k) = some (Record.toRow b)
  id : Record.id b = some k
  token : ∃ token, Record.token b = some token
  bag : ∃ bag, PropertyColumn.field.get b = Codec.encodeProperties bag ∧
    Codec.decodeProperties (Codec.encodeProperties bag) = .ok bag ∧
    bag.get? name = some (Model.extension e)

section

variable [PropertyColumn R K] [SeparateColumns R] [SettableColumns R]

/-- A record that has an identifier is stored under it as it is. -/
theorem rowUnder_of_id (h : Record.id b = some k) : rowUnder b k = Record.toRow b := by
  rw [rowUnder, ← SettableColumns.toRow_withId, SeparateColumns.withId_of_id h]

variable [LawfulRecord R] [LawfulEntityKey K] [StatefulModel M R K]

/-- **A record whose bag holds the state of an entity is found as an entity with this state.** -/
theorem Shown.found (h : Shown name e t k b) (ht : t.Keyed)
    (hname : Model.extensionProperty M = some name) :
    ∃ found : M, decode (Record.toRow b) = .ok found ∧ Model.base found = b ∧
      Model.extension found = Model.extension e ∧
      (findById M k).run t = (.ok (some found), t) := by
  obtain ⟨bag, hget, hstored, hstate⟩ := h.bag
  have hextension : storedExtension M (Record.toRow b) = .ok (some (Model.extension e)) := by
    simp only [storedExtension, hname, PropertyColumn.cell_properties, Cell.text?_ofText?, hget,
      hstored, ok_bind]
    rw [hstate]
    rfl
  have hbase : Record.ofRow (Record.toRow b) = .ok b := by
    rw [← rowUnder_of_id h.id, ofRow_rowUnder, SeparateColumns.withId_of_id h.id]
  obtain ⟨found, hdecode, hb, hstate'⟩ := exists_decode_of_row hextension hbase
  refine ⟨found, hdecode, hb, hstate', ?_⟩
  rw [findById_run ht, Store.found, h.row, Option.elim_some, hdecode]
  rfl

omit [SeparateColumns R] [LawfulRecord R] [LawfulEntityKey K] in
/-- What was found is encoded as it is stored, but for its fresh token: its bag holds the state
already. -/
theorem Shown.encode_renewed (h : Shown name e t k b)
    (hname : Model.extensionProperty M = some name) (hbase : Model.base m = b)
    (hextension : Model.extension m = Model.extension e) (token : Uuid) :
    encode (renewed token m) =
      .ok (Record.toRow (Record.withToken b (some token.toText))) := by
  obtain ⟨bag, hget, hstored, hstate⟩ := h.bag
  have hbag : bag? (renewed token m) = .ok bag := by
    rw [bag?_renewed, bag?, properties, hbase, hget, hstored]
  have hsame : storedBag name bag (renewed token m) = bag := by
    rw [storedBag_renewed, storedBag, OrdMap.insert_eq_self_iff, hstate, hextension]
  rw [encode_of_bag hname hbag, storedBase, hsame, renewed, LawfulModel.base_withBase, hbase,
    ← hget, ← PropertyColumn.get_withToken b (some token.toText), SettableColumns.set_get]

omit [LawfulEntityKey K] in
/-- **An update of what was found goes through and changes nothing but the token.** -/
theorem Shown.updated (h : Shown name e t k b) (ht : t.WellFormed)
    (hname : Model.extensionProperty M = some name) (hbase : Model.base m = b)
    (hextension : Model.extension m = Model.extension e) (token : Uuid) :
    ∃ u, (update token m).run t = (.ok (renewed token m), u) ∧ u.WellFormed ∧
      Shown name e u k (Record.withToken b (some token.toText)) ∧
      t.Restamped u (kindOf M) (EntityKey.toKey k) := by
  have hencode := h.encode_renewed hname hbase hextension token
  subst hbase
  obtain ⟨expected, hexpected⟩ := h.token
  have hheld : (Record.toRow (Model.base m)).cell "concurrency_token" = .text expected := by
    rw [LawfulRecord.cell_token, hexpected]
    rfl
  have hcells : ∀ column, column ≠ "concurrency_token" →
      (Record.toRow (Record.withToken (Model.base m) (some token.toText))).cell column =
        (Record.toRow (Model.base m)).cell column := by
    intro column hc
    rw [SettableColumns.toRow_withToken, Row.cell_set_of_ne _ hc]
  have hid : Record.id (Record.withToken (Model.base m) (some token.toText)) = some k := by
    rw [LawfulRecord.id_withToken, h.id]
  obtain ⟨u, hrun, hu⟩ := exists_update_run ht h.id hexpected hencode h.row hheld
    (Tables.uniqueText?_congr hcells)
  -- What is written is the row of a record again, since its identifier is the key.
  rw [← rowUnder, rowUnder_of_id hid] at hu
  have hrow : u.row? (kindOf M) (EntityKey.toKey k) =
      some (Record.toRow (Record.withToken (Model.base m) (some token.toText))) := by
    rw [hu, if_pos ⟨rfl, rfl⟩]
  have hwf := wellFormed_update ht token m
  rw [hrun] at hwf
  refine ⟨u, hrun, hwf, ⟨hrow, hid, ⟨_, LawfulRecord.token_withToken _ _⟩, ?_⟩, ?_⟩
  · rw [PropertyColumn.get_withToken]
    exact h.bag
  · exact ⟨⟨_, _, h.row, hrow, hcells⟩, fun other i hne => by rw [hu, if_neg hne]⟩

/-- **Rounds.**  By induction on the tokens, where each update leaves a record that shows its state
again. -/
theorem Shown.rounds_run (h : Shown name e t k b) (ht : t.WellFormed)
    (hname : Model.extensionProperty M = some name) (tokens : List Uuid) :
    ∃ (answers : List M) (u : Tables) (b' : R),
      (rounds M k tokens).run t = (.ok answers, u) ∧ answers.length = tokens.length ∧
      (∀ answer ∈ answers, Model.extension answer = Model.extension e) ∧
      t.Restamped u (kindOf M) (EntityKey.toKey k) ∧ u.WellFormed ∧ Shown name e u k b' := by
  induction tokens generalizing t b with
  | nil =>
    refine ⟨[], t, b, rfl, rfl, List.forall_mem_nil _, ?_, ht, h⟩
    exact ⟨⟨_, _, h.row, h.row, fun _ _ => rfl⟩, fun _ _ _ => rfl⟩
  | cons token tokens ih =>
    obtain ⟨m, -, hbase, hextension, hfind⟩ := h.found ht.keyed hname
    obtain ⟨u, hupdate, hu, hshown, hstamped⟩ := h.updated ht hname hbase hextension token
    obtain ⟨answers, v, b', hrest, hlength, hanswers, hstamped', hv, hshown'⟩ := ih hshown hu
    have hextension' : Model.extension (renewed token m) = Model.extension e := by
      rw [renewed, StatefulModel.extension_withBase, hextension]
    -- This round and the others restamp the same row, so together they only change its token.
    refine ⟨renewed token m :: answers, v, b', rounds_cons_run hfind hupdate hrest, ?_, ?_,
      hstamped.trans hstamped', hv, hshown'⟩
    · rw [List.length_cons, List.length_cons, hlength]
    · exact List.forall_mem_cons.mpr ⟨hextension', hanswers⟩

theorem Shown.survives (h : Shown name e t k b) (ht : t.WellFormed)
    (hname : Model.extensionProperty M = some name) : SurvivesRounds t k e := by
  intro tokens
  obtain ⟨answers, u, b', hrun, hlength, hanswers, hstamped, hu, hshown⟩ :=
    h.rounds_run ht hname tokens
  obtain ⟨found, -, -, hextension, hfind⟩ := hshown.found hu.keyed hname
  exact ⟨answers, u, found, hrun, hlength, hanswers, hstamped, hfind, hextension⟩

/-! ## 7. Writes -/

/-- **What a write keeps of an entity.**  Its row holds what the entity holds and is read as an entity
with the same state, and it survives rounds. -/
def Keeps (name : String) (bag : Properties) (m : M) (token : Uuid) (k : K) (t u : Tables) : Prop :=
  ∃ row, Tables.Writes t u (kindOf M) (EntityKey.toKey k) row ∧
    StoredAs name bag m token (EntityKey.toKey k) row ∧
    (∃ restored : M, decode row = .ok restored ∧ Record.toRow (Model.base restored) = row ∧
      Model.extension restored = Model.extension m) ∧
    SurvivesRounds u k m

/-- A write of what is stored for a draft or a renewed entity keeps the entity. -/
theorem keeps_of_writes (hu : u.WellFormed) (hname : Model.extensionProperty M = some name)
    (hstored : Codec.decodeProperties (Codec.encodeProperties (storedBag name bag e)) =
      .ok (storedBag name bag e))
    {token : Uuid} (hbag : storedBag name bag m = storedBag name bag e)
    (hrow : StoredAs name bag e token (EntityKey.toKey k) (rowUnder (storedBase name bag m) k))
    (hwrites : Tables.Writes t u (kindOf M) (EntityKey.toKey k)
      (rowUnder (storedBase name bag m) k)) : Keeps name bag e token k t u := by
  have hbase : rowUnder (storedBase name bag m) k =
      Record.toRow (Record.withId (storedBase name bag m) k) := by
    rw [rowUnder, SettableColumns.toRow_withId]
  have htoken : ∃ held, Record.token (Record.withId (storedBase name bag m) k) = some held := by
    have hcell := hrow.token
    rw [hbase, LawfulRecord.cell_token] at hcell
    cases hheld : Record.token (Record.withId (storedBase name bag m) k) with
    | none =>
      rw [hheld] at hcell
      cases hcell
    | some held => exact ⟨held, rfl⟩
  -- With its identifier in place the stored record shows the state, so rounds keep it.
  have hshown : Shown name e u k (Record.withId (storedBase name bag m) k) := by
    refine ⟨?_, LawfulRecord.id_withId _ _, htoken, storedBag name bag e, ?_, hstored, ?_⟩
    · rw [hwrites, if_pos ⟨rfl, rfl⟩, hbase]
    · rw [PropertyColumn.get_withId, storedBase, PropertyColumn.get_set, hbag]
    · rw [storedBag, OrdMap.get?_insert_self]
  obtain ⟨restored, hdecode, hrestored, hextension, -⟩ := hshown.found hu.keyed hname
  refine ⟨_, hwrites, hrow, ⟨restored, ?_, ?_, hextension⟩, hshown.survives hu hname⟩
  · rw [hbase, hdecode]
  · rw [hbase, hrestored]

/-- A create that goes through keeps the entity, under its identifier if it has one. -/
theorem keeps_of_create [AssignedKey K] (ht : t.WellFormed)
    (hname : Model.extensionProperty M = some name) (hbag : bag? e = .ok bag)
    (hstored : Codec.decodeProperties (Codec.encodeProperties (storedBag name bag e)) =
      .ok (storedBag name bag e))
    {id token : Uuid} (hrun : (create id token e).run t = (.ok m, u)) :
    ∃ k, (∀ i, Record.id (Model.base e) = some i → k = i) ∧ Keeps name bag e token k t u := by
  have hdrafted : storedBag name bag (drafted id token e) = storedBag name bag e :=
    storedBag_drafted id token e
  have hencode := encode_of_bag hname ((bag?_drafted id token e).trans hbag)
  obtain ⟨k, -, hid, -, hwrites⟩ := create_ok hencode (PropertyColumn.id_set _ _) hrun
  have hu := wellFormed_create ht id token e
  rw [hrun] at hu
  refine ⟨k, fun i hi => hid i ?_, keeps_of_writes hu hname hstored hdrafted ?_ hwrites⟩
  · rw [storedBase, PropertyColumn.id_set, id_drafted, hi, Option.some_or]
  · exact storedAs_of_cells hdrafted hstored (token_drafted id token e)
      (fun _ => cell_base_drafted) _

omit [SeparateColumns R] [LawfulEntityKey K] in
/-- A create that fails leaves no row, or one that holds what the entity holds. -/
theorem storedAs_of_failed_create (hname : Model.extensionProperty M = some name)
    (hbag : bag? e = .ok bag)
    (hstored : Codec.decodeProperties (Codec.encodeProperties (storedBag name bag e)) =
      .ok (storedBag name bag e))
    {id token : Uuid} {answer : Outcome M} (hrun : (create id token e).run t = (answer, u))
    (hfailed : answer.ok? = none) :
    Tables.SameRows u t ∨ ∃ key row, Tables.Writes t u (kindOf M) key row ∧
      StoredAs name bag e token key row := by
  have hdrafted : storedBag name bag (drafted id token e) = storedBag name bag e :=
    storedBag_drafted id token e
  have hencode := encode_of_bag hname ((bag?_drafted id token e).trans hbag)
  rcases create_cases id token e t with
    hrun' | ⟨err', u', hrun', hsame, -⟩ | ⟨row, u', hencode', hrun', -, hwrites⟩
  · rw [hrun] at hrun'
    cases hrun'
    exact Or.inl (.refl t)
  · rw [hrun] at hrun'
    cases hrun'
    exact Or.inl hsame
  -- The row is inserted, and cannot be read back.
  · rw [hencode] at hencode'
    cases hencode'
    rw [hrun] at hrun'
    obtain ⟨-, rfl⟩ := Prod.mk.inj hrun'
    exact Or.inr ⟨_, _, hwrites, storedAs_of_cells hdrafted hstored (token_drafted id token e)
      (fun _ => cell_base_drafted) _⟩

/-- An update that goes through keeps the entity under its identifier. -/
theorem keeps_of_update (ht : t.WellFormed) (hname : Model.extensionProperty M = some name)
    (hbag : bag? e = .ok bag)
    (hstored : Codec.decodeProperties (Codec.encodeProperties (storedBag name bag e)) =
      .ok (storedBag name bag e))
    {token : Uuid} (hrun : (update token e).run t = (.ok m, u)) :
    ∃ k, Record.id (Model.base e) = some k ∧ Keeps name bag e token k t u := by
  have hrenewed : storedBag name bag (renewed token e) = storedBag name bag e :=
    storedBag_renewed token e
  have hencode := encode_of_bag hname ((bag?_renewed token e).trans hbag)
  obtain ⟨k, hid, -, hwrites⟩ := update_ok hencode hrun
  have hu := wellFormed_update ht token e
  rw [hrun] at hu
  refine ⟨k, hid, keeps_of_writes hu hname hstored hrenewed ?_ hwrites⟩
  exact storedAs_of_cells hrenewed hstored (token_renewed token e)
    (fun _ _ => cell_base_renewed) _

end

section

variable [PropertyColumn R K] {err : StoreError}

omit [EntityKey K] in
/-- An entity whose bag cannot be read has no row. -/
theorem encode_of_bag_error (hname : Model.extensionProperty M = some name)
    (hbag : bag? m = .error err) : encode m = .error err := by
  have hdecoded : Codec.decodeProperties (PropertyColumn.field.get (Model.base m)) = .error err :=
    hbag
  simp only [encode, hname, PropertyColumn.cell_properties, Cell.text?_ofText?, hdecoded,
    error_bind]

variable [LawfulModel M]

theorem create_of_bag_error (hname : Model.extensionProperty M = some name)
    (hbag : bag? m = .error err) (id token : Uuid) :
    (create id token m).run t = (.error err, t) := by
  have hencode := encode_of_bag_error hname ((bag?_drafted id token m).trans hbag)
  simp only [create, Request.run, hencode]

theorem update_of_bag_error (hname : Model.extensionProperty M = some name)
    (hbag : bag? m = .error err) {expected : String} (hid : Record.id (Model.base m) = some k)
    (htoken : Record.token (Model.base m) = some expected) (token : Uuid) :
    (update token m).run t = (.error err, t) := by
  have haddressed : addressed "update" m = .ok (k, expected) :=
    addressed_eq_ok_iff.mpr ⟨hid, htoken⟩
  have hencode := encode_of_bag_error hname ((bag?_renewed token m).trans hbag)
  rw [renewed] at hencode
  simp only [update, haddressed, hencode, Request.run_refused]

end

/-- **The state of an entity survives writes and rounds.**  A write that goes through stores the
entity with its state in the bag and all else as it is, its row is read as an entity with this
state, and finding and updating it, however often, changes nothing but the token.  A create that
fails changes no row or leaves one of the same form, and an update that fails changes nothing.  An
entity whose bag cannot be read is malformed, and it is not written. -/
theorem state_survives_rounds [PropertyColumn R K] [LawfulRecord R] [LawfulEntityKey K]
    [AssignedKey K] [SeparateColumns R] [SettableColumns R] [StatefulModel M R K]
    (h : Tables.Reachable t) (hname : Model.extensionProperty M = some name) (e : M) :
    (∀ bag, bag? e = .ok bag → (Codec.propertiesJson (storedBag name bag e)).FloatFree →
      (Codec.propertiesJson (storedBag name bag e)).depth ≤ Json.nestingLimit →
      (∀ id token m u, (create id token e).run t = (.ok m, u) →
        ∃ k, (∀ i, Record.id (Model.base e) = some i → k = i) ∧ Keeps name bag e token k t u) ∧
      (∀ id token answer u, (create id token e).run t = (answer, u) → answer.ok? = none →
        Tables.SameRows u t ∨ ∃ key row, Tables.Writes t u (kindOf M) key row ∧
          StoredAs name bag e token key row) ∧
      (∀ token m u, (update token e).run t = (.ok m, u) →
        ∃ k, Record.id (Model.base e) = some k ∧ Keeps name bag e token k t u) ∧
      ∀ token err u, (update token e).run t = (.error err, u) → u = t) ∧
    ∀ err, bag? e = .error err → err.isValidation = true ∧
      (∀ id token, (create id token e).run t = (.error err, t)) ∧
      ∀ k expected token, Record.id (Model.base e) = some k →
        Record.token (Model.base e) = some expected →
        (update token e).run t = (.error err, t) := by
  have ht := h.wellFormed
  refine ⟨fun bag hbag hfloat hdepth => ?_, fun err hbag => ⟨?_, ?_, ?_⟩⟩
  · have hstored := storedBag_decoded hbag hfloat hdepth
    exact ⟨fun _ _ _ _ => keeps_of_create ht hname hbag hstored,
      fun _ _ _ _ => storedAs_of_failed_create hname hbag hstored,
      fun _ _ _ => keeps_of_update ht hname hbag hstored, fun _ _ _ => update_failed⟩
  · exact decodeProperties_malformedOnly _ err hbag
  · exact create_of_bag_error hname hbag
  · exact fun _ _ token hid htoken => update_of_bag_error hname hbag hid htoken token

/-- A scope with a label whose bag cannot be read, for examples. -/
def unreadable : LabelledScope :=
  { base := { id := some "s", concurrencyToken := some "t", properties := some "[" } }

/-- A scope with a label and a nested property is created and goes through two rounds.  The stored
scope is updated, but not by one whose bag cannot be read. -/
theorem state_survives_rounds_labelled :
    Tables.Reachable oneScope ∧
      (∃ m u k answers v, (create ⟨1⟩ ⟨2⟩ (labelled none nestedBag)).run oneScope = (.ok m, u) ∧
        Keeps "label" nestedBag (labelled none nestedBag) ⟨2⟩ k oneScope u ∧
        (rounds LabelledScope k [⟨3⟩, ⟨4⟩]).run u = (.ok answers, v) ∧ answers.length = 2) ∧
      (∃ m u, (update ⟨3⟩ (labelled (some "s") nestedBag)).run oneScope = (.ok m, u) ∧
        Keeps "label" nestedBag (labelled (some "s") nestedBag) ⟨3⟩ "s" oneScope u) ∧
      (update ⟨3⟩ unreadable).run oneScope = (.error (Codec.malformed "property" "["), oneScope) := by
  have hreach : Tables.Reachable oneScope := .step _ .empty
  have hrounds := fun id => (state_survives_rounds hreach rfl (labelled id nestedBag)).1 _
    (bag?_labelled id) (exact_storedBag_labelled id).1 (exact_storedBag_labelled id).2
  refine ⟨hreach, ?_, ?_, ?_⟩
  · obtain ⟨m, u, hrun⟩ := exists_of_isOk
      (r := (create ⟨1⟩ ⟨2⟩ (labelled none nestedBag)).run oneScope) (by decide +kernel)
    obtain ⟨k, -, hkeeps⟩ := (hrounds none).1 _ _ _ _ hrun
    have ⟨_, _, _, _, hsurvives⟩ := hkeeps
    obtain ⟨answers, v, -, hrun', hlength, -⟩ := hsurvives [⟨3⟩, ⟨4⟩]
    exact ⟨m, u, k, answers, v, hrun, hkeeps, hrun', hlength⟩
  · obtain ⟨m, u, hrun⟩ := exists_of_isOk
      (r := (update ⟨3⟩ (labelled (some "s") nestedBag)).run oneScope) (by decide +kernel)
    obtain ⟨k, hid, hkeeps⟩ := (hrounds (some "s")).2.2.1 _ _ _ hrun
    cases hid
    exact ⟨m, u, hrun, hkeeps⟩
  · exact ((state_survives_rounds hreach rfl unreadable).2 _ rfl).2.2 "s" "t" _ rfl rfl

end Store

end GrantLedger
