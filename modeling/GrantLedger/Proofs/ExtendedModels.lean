import GrantLedger.Proofs.Finding
import GrantLedger.Proofs.PropertyBags
import GrantLedger.Proofs.ReadYourWrites
import GrantLedger.Store.Finders

/-!
# Models that store state of their own

An entity of an extended model is its record and its state (`ExtendedModel`).  The state is stored in
the property bag of the record, so what is stored is the record with another bag (`encode_of_bag`),
and reading gives back exactly this record together with the state (`decode_of_bag`).

The state is thus held twice, beside the record and in its bag, and a write has to bring the two
together.  A create does: it answers with the record that it reads back from the stored row
(`findById_created`).  An update answers with the record that it was given, whose bag does not hold
the state yet or holds an older one (`findById_updated`).  So entities that were created are found
as they were shown, but of those that were updated only the ones whose bag was right to begin with
(`extended_read_back`, `update_shows_stale_bag`).
-/

namespace GrantLedger

/-! ## 1. The laws -/

/-- A record type with a column for properties. -/
class PropertyColumn (R : Type) (K : outParam Type) [Record R K] where
  field : TextField R
  get_set : ∀ (r : R) (text : Option String), field.get (field.set r text) = text
  id_set : ∀ (r : R) (text : Option String), Record.id (field.set r text) = Record.id r
  get_withId : ∀ (r : R) (k : K), field.get (Record.withId r k) = field.get r
  get_withToken : ∀ (r : R) (token : Option String),
    field.get (Record.withToken r token) = field.get r
  /-- The column of the row is the field of the record. -/
  cell_properties : ∀ r : R, (Record.toRow r).cell "properties" = Cell.ofText? (field.get r)
  toRow_set : ∀ (r : R) (text : Option String),
    (Record.toRow r).set "properties" (Cell.ofText? text) = Record.toRow (field.set r text)

/-- A model whose entities hold a state beside their record, which is given back by the value that it
is stored as.  There may be more to an entity than the two, which is then not stored. -/
class StatefulModel (M : Type) (R K : outParam Type) [Model M R K] : Prop extends
    LawfulModel M where
  base_ofBase : ∀ r : R, Model.base (Model.ofBase r : M) = r
  extension_withBase : ∀ (m : M) (r : R), Model.extension (Model.withBase m r) = Model.extension m
  restore_extension : ∀ (r : R) (m : M), ∃ restored,
    Model.restore (Model.ofBase r : M) (Model.extension m) = .ok restored ∧
      Model.base restored = r ∧ Model.extension restored = Model.extension m
  regular_extension : ∀ m : M, (Model.extension m).Regular

/-- A model whose entities are their record and a state of their own, which is given back by the
value that it is stored as. -/
class ExtendedModel (M : Type) (R K : outParam Type) [Model M R K] : Prop extends
    LawfulModel M where
  base_ofBase : ∀ r : R, Model.base (Model.ofBase r : M) = r
  extension_withBase : ∀ (m : M) (r : R), Model.extension (Model.withBase m r) = Model.extension m
  /-- There is nothing else to an entity. -/
  ext : ∀ {m m' : M}, Model.base m = Model.base m' → Model.extension m = Model.extension m' → m = m'
  restore_extension : ∀ m m' : M, ∃ restored, Model.restore m (Model.extension m') = .ok restored ∧
    Model.base restored = Model.base m ∧ Model.extension restored = Model.extension m'
  regular_extension : ∀ m : M, (Model.extension m).Regular

instance {M R K : Type} [Model M R K] [ExtendedModel M R K] : StatefulModel M R K where
  base_ofBase := ExtendedModel.base_ofBase
  extension_withBase := ExtendedModel.extension_withBase
  restore_extension r m := by
    obtain ⟨restored, hrestored, hbase, hextension⟩ :=
      ExtendedModel.restore_extension (Model.ofBase r) m
    exact ⟨restored, hrestored, hbase.trans (ExtendedModel.base_ofBase r), hextension⟩
  regular_extension := ExtendedModel.regular_extension

section

variable {K : Type} [EntityKey K]

instance : PropertyColumn (Scope K) K where
  field := Scope.propertiesField
  get_set _ _ := rfl
  id_set _ _ := rfl
  get_withId _ _ := rfl
  get_withToken _ _ := rfl
  cell_properties s := by
    change s.toRow.cell "properties" = Cell.ofText? s.properties
    simp [Scope.toRow, Row.cell_ofList, List.lookup_cons]
  toRow_set s text := by
    refine Row.set_ofList ?_ fun c hc => ?_
    · simp [Scope.propertiesField, List.lookup_cons]
    · simp [Scope.propertiesField, List.lookup_cons, hc]

instance : PropertyColumn (Application K) K where
  field := Application.propertiesField
  get_set _ _ := rfl
  id_set _ _ := rfl
  get_withId _ _ := rfl
  get_withToken _ _ := rfl
  cell_properties a := by
    change a.toRow.cell "properties" = Cell.ofText? a.properties
    simp [Application.toRow, Row.cell_ofList, List.lookup_cons]
  toRow_set a text := by
    refine Row.set_ofList ?_ fun c hc => ?_
    · simp [Application.propertiesField, List.lookup_cons]
    · simp [Application.propertiesField, List.lookup_cons, hc]

instance : PropertyColumn (Authorization K) K where
  field := Authorization.propertiesField
  get_set _ _ := rfl
  id_set _ _ := rfl
  get_withId _ _ := rfl
  get_withToken _ _ := rfl
  cell_properties a := by
    change a.toRow.cell "properties" = Cell.ofText? a.properties
    simp [Authorization.toRow, Row.cell_ofList, List.lookup_cons]
  toRow_set a text := by
    refine Row.set_ofList ?_ fun c hc => ?_
    · simp [Authorization.propertiesField, List.lookup_cons]
    · simp [Authorization.propertiesField, List.lookup_cons, hc]

instance : PropertyColumn (Token K) K where
  field := Token.propertiesField
  get_set _ _ := rfl
  id_set _ _ := rfl
  get_withId _ _ := rfl
  get_withToken _ _ := rfl
  cell_properties t := by
    change t.toRow.cell "properties" = Cell.ofText? t.properties
    simp [Token.toRow, Row.cell_ofList, List.lookup_cons]
  toRow_set t text := by
    refine Row.set_ofList ?_ fun c hc => ?_
    · simp [Token.propertiesField, List.lookup_cons]
    · simp [Token.propertiesField, List.lookup_cons, hc]

end

theorem Json.ofText?_injective {s s' : Option String} (h : Json.ofText? s = Json.ofText? s') :
    s = s' := by
  cases s <;> cases s' <;> cases h <;> rfl

instance : ExtendedModel LabelledScope (Scope String) String where
  base_ofBase _ := rfl
  extension_withBase _ _ := rfl
  ext {m m'} hbase hextension := by
    obtain ⟨base, label⟩ := m
    obtain ⟨base', label'⟩ := m'
    cases (hbase : base = base')
    cases Json.ofText?_injective (hextension : Json.ofText? label = Json.ofText? label')
    rfl
  restore_extension m m' := by
    obtain ⟨base, label⟩ := m'
    cases label <;> exact ⟨_, rfl, rfl, rfl⟩
  regular_extension m := by
    obtain ⟨base, label⟩ := m
    cases label <;> exact ⟨trivial, trivial⟩

instance : ExtendedModel TaggedScope (Scope String) String where
  base_ofBase _ := rfl
  extension_withBase _ _ := rfl
  ext {m m'} hbase _ := by
    obtain ⟨base⟩ := m
    obtain ⟨base'⟩ := m'
    cases (hbase : base = base')
    rfl
  restore_extension m m' := ⟨m, rfl, rfl, rfl⟩
  regular_extension _ := ⟨trivial, trivial⟩

namespace Store

variable {M R K : Type} [EntityKey K] [Record R K] [Model M R K] [PropertyColumn R K]
variable {t u : Tables} {name : String} {m : M} {bag : Properties}

/-! ## 2. What is stored of an entity -/

/-- The property bag of an entity, as its accessor shows it. -/
def bag? (m : M) : Except StoreError Properties := properties (PropertyColumn.field : TextField R) m

/-- The bag that is stored for an entity: its own, with its state under a name. -/
def storedBag (name : String) (bag : Properties) (m : M) : Properties :=
  bag.insert name (Model.extension m)

/-- The record that is stored for an entity: its base with another bag. -/
def storedBase (name : String) (bag : Properties) (m : M) : R :=
  PropertyColumn.field.set (Model.base m) (Codec.encodeProperties (storedBag name bag m))

omit [EntityKey K] in
theorem encode_of_bag (hname : Model.extensionProperty M = some name)
    (hbag : bag? m = .ok bag) : encode m = .ok (Record.toRow (storedBase name bag m)) := by
  have hdecoded : Codec.decodeProperties (PropertyColumn.field.get (Model.base m)) = .ok bag := hbag
  simp only [encode, hname, PropertyColumn.cell_properties, Cell.text?_ofText?, hdecoded, ok_bind]
  rw [PropertyColumn.toRow_set]
  rfl

/-- The bag of a stored row is the one that was encoded. -/
theorem storedExtension_rowUnder (hname : Model.extensionProperty M = some name)
    (hstored : Codec.decodeProperties (Codec.encodeProperties (storedBag name bag m)) =
      .ok (storedBag name bag m)) (k : K) :
    storedExtension M (rowUnder (storedBase name bag m) k) = .ok (some (Model.extension m)) := by
  have hcell : (rowUnder (storedBase name bag m) k).cell "properties" =
      Cell.ofText? (Codec.encodeProperties (storedBag name bag m)) := by
    rw [rowUnder, Row.cell_set_of_ne _ (by decide), PropertyColumn.cell_properties, storedBase,
      PropertyColumn.get_set]
  simp only [storedExtension, hname, hcell, Cell.text?_ofText?, hstored, ok_bind]
  rw [storedBag, OrdMap.get?_insert_self]
  rfl

omit [EntityKey K] [PropertyColumn R K] in
/-- **Reading a row gives back its record together with the state in its bag.** -/
theorem exists_decode_of_row [StatefulModel M R K] {row : Row} {b : R}
    (hextension : storedExtension M row = .ok (some (Model.extension m)))
    (hbase : Record.ofRow row = .ok b) :
    ∃ restored : M, decode row = .ok restored ∧ Model.base restored = b ∧
      Model.extension restored = Model.extension m := by
  obtain ⟨restored, hrestored, hb, hstate⟩ := StatefulModel.restore_extension b m
  refine ⟨restored, ?_, hb, hstate⟩
  rw [← hrestored, decode, hextension, ok_bind, hbase, ok_bind]

/-! ## 3. The bag of an entity that is written -/

section LawfulModel

variable [LawfulModel M]

theorem bag?_drafted (id token : Uuid) (m : M) : bag? (drafted id token m) = bag? m := by
  have hget : PropertyColumn.field.get (Model.base (drafted id token m)) =
      PropertyColumn.field.get (Model.base m) := by
    rw [drafted, LawfulModel.base_withBase, PropertyColumn.get_withToken]
    split
    · rw [PropertyColumn.get_withId]
    · rfl
  exact congrArg Codec.decodeProperties hget

omit [EntityKey K] in
theorem bag?_renewed (token : Uuid) (m : M) : bag? (renewed token m) = bag? m := by
  have hget : PropertyColumn.field.get (Model.base (renewed token m)) =
      PropertyColumn.field.get (Model.base m) := by
    rw [renewed, LawfulModel.base_withBase, PropertyColumn.get_withToken]
  exact congrArg Codec.decodeProperties hget

omit [EntityKey K] in
theorem bag?_setProperties (m : M) (values : Properties) :
    bag? (setProperties PropertyColumn.field m values) =
      Codec.decodeProperties (Codec.encodeProperties values) := by
  rw [bag?, properties, setProperties, setText, LawfulModel.base_withBase, PropertyColumn.get_set]

end LawfulModel

omit [PropertyColumn R K] in
theorem storedBag_drafted [StatefulModel M R K] (id token : Uuid) (m : M) :
    storedBag name bag (drafted id token m) = storedBag name bag m := by
  rw [storedBag, drafted, StatefulModel.extension_withBase]
  rfl

omit [EntityKey K] [PropertyColumn R K] in
theorem storedBag_renewed [StatefulModel M R K] (token : Uuid) (m : M) :
    storedBag name bag (renewed token m) = storedBag name bag m := by
  rw [storedBag, renewed, StatefulModel.extension_withBase]
  rfl

omit [EntityKey K] in
/-- The bag that is stored for an entity is read as it was written, if it is neither inexact nor
nested too deeply. -/
theorem storedBag_decoded [StatefulModel M R K] (hbag : bag? m = .ok bag)
    (hfloat : (Codec.propertiesJson (storedBag name bag m)).FloatFree)
    (hdepth : (Codec.propertiesJson (storedBag name bag m)).depth ≤ Json.nestingLimit) :
    Codec.decodeProperties (Codec.encodeProperties (storedBag name bag m)) =
      .ok (storedBag name bag m) :=
  Codec.decodeProperties_encodeProperties
    (Codec.regular_insert (Codec.regular_of_decodeProperties hbag)
      (StatefulModel.regular_extension m)) hfloat hdepth

section Lawful

variable [LawfulRecord R] [LawfulEntityKey K] [ExtendedModel M R K]

/-- There is nothing to the entity that is read but the stored record and the state. -/
theorem decode_of_bag (hname : Model.extensionProperty M = some name)
    (hstored : Codec.decodeProperties (Codec.encodeProperties (storedBag name bag m)) =
      .ok (storedBag name bag m)) (k : K) :
    decode (rowUnder (storedBase name bag m) k) =
      .ok (Model.withBase m (Record.withId (storedBase name bag m) k)) := by
  obtain ⟨restored, hdecode, hbase, hextension⟩ :=
    exists_decode_of_row (storedExtension_rowUnder hname hstored k) (ofRow_rowUnder _ k)
  have heq : restored = Model.withBase m (Record.withId (storedBase name bag m) k) := by
    refine ExtendedModel.ext ?_ ?_
    · rw [hbase, LawfulModel.base_withBase]
    · rw [hextension, ExtendedModel.extension_withBase]
  rw [hdecode, heq]

/-! ## 4. What a write answers with -/

/-- **A create answers with what is found.** -/
theorem findById_created [AssignedKey K] (ht : t.Keyed)
    (hname : Model.extensionProperty M = some name) (hbag : bag? m = .ok bag)
    (hstored : Codec.decodeProperties (Codec.encodeProperties (storedBag name bag m)) =
      .ok (storedBag name bag m))
    {id token : Uuid} {r : M} (h : (create id token m).run t = (.ok r, u)) :
    ∃ k, Record.id (Model.base r) = some k ∧ (findById M k).run u = (.ok (some r), u) := by
  have hrow := encode_of_bag hname ((bag?_drafted id token m).trans hbag)
  rw [← storedBag_drafted id token m] at hstored
  obtain ⟨k, rfl, -, -, hu⟩ := create_ok hrow (PropertyColumn.id_set _ _) h
  refine ⟨k, ?_, ?_⟩
  · rw [LawfulModel.base_withBase, LawfulRecord.id_withId]
  · rw [findById_written ht hu, decode_of_bag hname hstored]
    rfl

/-- **An update answers with what is found but for the bag,** which is still that of the given
entity. -/
theorem findById_updated [SeparateColumns R] (ht : t.Keyed)
    (hname : Model.extensionProperty M = some name) (hbag : bag? m = .ok bag)
    (hstored : Codec.decodeProperties (Codec.encodeProperties (storedBag name bag m)) =
      .ok (storedBag name bag m))
    {token : Uuid} {r : M} (h : (update token m).run t = (.ok r, u)) :
    ∃ k, Record.id (Model.base r) = some k ∧ bag? r = .ok bag ∧ (findById M k).run u =
      (.ok (some (setProperties PropertyColumn.field r (storedBag name bag m))), u) := by
  have hbag' := (bag?_renewed token m).trans hbag
  have hrow := encode_of_bag hname hbag'
  rw [← storedBag_renewed token m] at hstored ⊢
  obtain ⟨k, hid, rfl, hu⟩ := update_ok hrow h
  have hid' : Record.id (Model.base (renewed token m)) = some k := by
    rw [renewed, LawfulModel.base_withBase, LawfulRecord.id_withToken, hid]
  have hbase : Record.withId (storedBase name bag (renewed token m)) k =
      storedBase name bag (renewed token m) :=
    SeparateColumns.withId_of_id ((PropertyColumn.id_set _ _).trans hid')
  refine ⟨k, hid', hbag', ?_⟩
  rw [findById_written ht hu, decode_of_bag hname hstored, hbase]
  rfl

/-- **What is found of an extended model after a write, exactly.**  After a create it is the answer.
After an update it is the answer with the state put into the bag; the two show the same bag exactly
if the given entity held its state there already. -/
theorem extended_read_back [AssignedKey K] [SeparateColumns R] (h : Tables.Reachable t)
    (hname : Model.extensionProperty M = some name) {e : M} (hbag : bag? e = .ok bag)
    (hfloat : (Codec.propertiesJson (storedBag name bag e)).FloatFree)
    (hdepth : (Codec.propertiesJson (storedBag name bag e)).depth ≤ Json.nestingLimit) :
    (∀ id token r u, (create id token e).run t = (.ok r, u) →
      ∃ k, Record.id (Model.base r) = some k ∧ (findById M k).run u = (.ok (some r), u)) ∧
    ∀ token r u, (update token e).run t = (.ok r, u) →
      ∃ k found, Record.id (Model.base r) = some k ∧
        (findById M k).run u = (.ok (some found), u) ∧
        found = setProperties PropertyColumn.field r (storedBag name bag e) ∧
        bag? r = .ok bag ∧ bag? found = .ok (storedBag name bag e) ∧
        (bag? found = bag? r ↔ bag.get? name = some (Model.extension e)) := by
  have ht := h.wellFormed.keyed
  have hstored := storedBag_decoded hbag hfloat hdepth
  refine ⟨fun id token r u hrun => findById_created ht hname hbag hstored hrun,
    fun token r u hrun => ?_⟩
  obtain ⟨k, hid, hr, hfound⟩ := findById_updated ht hname hbag hstored hrun
  have hfoundBag : bag? (setProperties PropertyColumn.field r (storedBag name bag e)) =
      .ok (storedBag name bag e) := (bag?_setProperties r _).trans hstored
  refine ⟨k, _, hid, hfound, rfl, hr, hfoundBag, ?_⟩
  rw [hfoundBag, hr, Except.ok.injEq, storedBag, OrdMap.insert_eq_self_iff]

end Lawful

/-- Tables with one scope, for examples. -/
def oneScope : Tables :=
  (Tables.Operation.insert .scope (Record.toRow ({ id := some "s", concurrencyToken := some "t" } :
    Scope String))).apply .empty

/-- A scope with a label and another property, for examples. -/
def labelled (id : Option String) (bag : Properties) : LabelledScope :=
  { base := { id, concurrencyToken := some "t", properties := Codec.encodeProperties bag }
    label := some "y" }

/-- A bag with a nested value, for examples. -/
def nestedBag : Properties := OrdMap.empty.insert "env" (.arr [.int 1, .null])

theorem regular_nestedBag : (Codec.propertiesJson nestedBag).Regular :=
  Codec.regular_insert Codec.regular_empty
    ⟨⟨trivial, trivial⟩, ⟨⟨by decide, by decide⟩, trivial⟩, ⟨trivial, trivial⟩, trivial⟩

theorem floatFree_nestedBag : (Codec.propertiesJson nestedBag).FloatFree :=
  Codec.floatFree_insert Codec.floatFree_empty ⟨trivial, trivial, trivial, trivial⟩

theorem bag?_labelled (id : Option String) : bag? (labelled id nestedBag) = .ok nestedBag :=
  Codec.decodeProperties_encodeProperties regular_nestedBag floatFree_nestedBag (by decide +kernel)

theorem exact_storedBag_labelled (id : Option String) :
    (Codec.propertiesJson (storedBag "label" nestedBag (labelled id nestedBag))).FloatFree ∧
      (Codec.propertiesJson (storedBag "label" nestedBag (labelled id nestedBag))).depth ≤
        Json.nestingLimit := by
  refine ⟨Codec.floatFree_insert floatFree_nestedBag trivial, ?_⟩
  change (Codec.propertiesJson (nestedBag.insert "label" (.str "y"))).depth ≤ 127
  decide +kernel

/-- A scope with a label and a nested property is created, and the stored one is updated. -/
theorem extended_read_back_labelled :
    Tables.Reachable oneScope ∧
      (∃ r u k, (create ⟨1⟩ ⟨2⟩ (labelled none nestedBag)).run oneScope = (.ok r, u) ∧
        (findById LabelledScope k).run u = (.ok (some r), u)) ∧
      ∃ r u k, (update ⟨3⟩ (labelled (some "s") nestedBag)).run oneScope = (.ok r, u) ∧
        (findById LabelledScope k).run u = (.ok (some (setProperties Scope.propertiesField r
          (nestedBag.insert "label" (.str "y")))), u) := by
  have hreach : Tables.Reachable oneScope := .step _ .empty
  have hread := fun id => extended_read_back hreach (e := labelled id nestedBag) rfl
    (bag?_labelled id) (exact_storedBag_labelled id).1 (exact_storedBag_labelled id).2
  refine ⟨hreach, ?_, ?_⟩
  · obtain ⟨r, u, hrun⟩ := exists_of_isOk
      (r := (create ⟨1⟩ ⟨2⟩ (labelled none nestedBag)).run oneScope) (by decide +kernel)
    obtain ⟨k, -, hfound⟩ := (hread none).1 _ _ _ _ hrun
    exact ⟨r, u, k, hrun, hfound⟩
  · obtain ⟨r, u, hrun⟩ := exists_of_isOk
      (r := (update ⟨3⟩ (labelled (some "s") nestedBag)).run oneScope) (by decide +kernel)
    obtain ⟨k, found, -, hfound, rfl, -⟩ := (hread (some "s")).2 _ _ _ hrun
    exact ⟨r, u, k, hrun, hfound⟩

/-- An update of the label answers with an empty bag, where the bag that is found has the label. -/
theorem update_shows_stale_bag :
    let r := (update ⟨3⟩ (labelled (some "s") .empty)).run oneScope
    let found := (findById LabelledScope "s").run r.2
    r.1.ok?.map (fun m => (m.base.properties, m.label)) = some (none, some "y") ∧
      found.1.ok?.map (fun m => m.map fun m => (m.base.properties, m.label)) =
        some (some (some "\x7b\"label\":\"y\"\x7d", some "y")) ∧
      (r.1.ok?.bind fun m => (bag? m).toOption).map OrdMap.size = some 0 ∧
      (found.1.ok?.bind fun m => (m.elim (.ok .empty) bag?).toOption).map OrdMap.size =
        some 1 := by
  decide +kernel

end Store

end GrantLedger
