import GrantLedger.Proofs.SqlMeaning
import GrantLedger.Proofs.TypedRows

/-!
# Filters as conditions

A filter that is bound to a statement becomes a condition whose values are parameters.  The database
accepts it, and on rows whose columns hold no value or a value of their type it holds exactly if the
filter does.

* `compare?_ofCell`: comparing cells is comparing their values, where keys are of one form.
* `likes_containsPattern`: an escaped text is matched as a part.
* `binds_of_fitsIn` and `bindConditions_says`: what one test and a list of conditions say.
-/

namespace GrantLedger

open Sql

/-! ## 1. Cells as values -/

/-- The value of a key. -/
def Sql.Value.ofKey : Key → Value
  | .int n => .int n
  | .text s => .text s
  | .uuid u => .uuid u

/-- The value of a cell. -/
def Sql.Value.ofCell : Cell → Value
  | .null => .null
  | .key k => .ofKey k
  | .text s => .text s
  | .timestamp t => .timestamp t.instant

/-- Whether the values that a test names fit a column.  Parts are looked for in texts only. -/
def Predicate.FitsIn (key : KeyKind) (type : ColumnType) : Predicate → Prop
  | .eq v | .ne v | .lt v | .le v | .gt v | .ge v => v.FitsIn key type
  | .isNull | .isNotNull => True
  | .contains needle => (Cell.text needle).Fits type
  | .oneOf values => ∀ v ∈ values, v.FitsIn key type

/-- Whether the tests of a condition fit the column that it names. -/
def Condition.FitsIn (key : KeyKind) (kind : EntityKind) (c : Condition) : Prop :=
  ∀ column ∈ kind.column? c.column, c.predicate.FitsIn key column.type

/-- Whether the conditions of a filter fit the columns that they name. -/
def Filter.FitsIn (key : KeyKind) (kind : EntityKind) (f : Filter) : Prop :=
  ∀ c ∈ f.conditions, c.FitsIn key kind

instance (key : KeyKind) (type : ColumnType) : (p : Predicate) → Decidable (p.FitsIn key type)
  | .eq v | .ne v | .lt v | .le v | .gt v | .ge v =>
    inferInstanceAs (Decidable (v.FitsIn key type))
  | .isNull | .isNotNull => .isTrue trivial
  | .contains needle => inferInstanceAs (Decidable ((Cell.text needle).Fits type))
  | .oneOf values => inferInstanceAs (Decidable (∀ v ∈ values, v.FitsIn key type))

instance (key : KeyKind) (kind : EntityKind) (f : Filter) : Decidable (f.FitsIn key kind) :=
  inferInstanceAs (Decidable (∀ c ∈ f.conditions, ∀ column ∈ kind.column? c.column,
    c.predicate.FitsIn key column.type))

/-- A row as a tuple. -/
def Row.tuple (row : Row) : Tuple := fun name => .ofCell (row.cell name)

section

variable {key : KeyKind} {type : ColumnType} {kind : EntityKind} {a b c : Cell} {row : Row}

/-- A column that a text fits is a column of texts. -/
theorem Cell.exists_limit {s : String} (h : (Cell.text s).Fits type) :
    ∃ limit, type = .text limit := by
  cases type <;> first | exact ⟨_, rfl⟩ | cases h

/-- What may stand in a reference may stand in an identifier column. -/
theorem Cell.FitsIn.of_reference {target : EntityKind} (h : c.FitsIn key (.reference target)) :
    c.FitsIn key .key := by
  obtain ⟨hfits, hkey⟩ := h
  cases c with
  | null | key => exact ⟨trivial, hkey⟩
  | text | timestamp => cases hfits

theorem Row.TypedIn.reference {name : String} (h : row.TypedIn key kind) (target : EntityKind)
    (hcolumn : ⟨name, .reference target⟩ ∈ kind.columns) : (row.cell name).FitsIn key .key :=
  (h _ hcolumn).of_reference

theorem Row.TypedIn.id (h : row.TypedIn key kind) : (row.cell "id").FitsIn key .key :=
  h ⟨"id", .key⟩ (by cases kind <;> exact List.mem_cons_self)

/-- A declared column is found by its name. -/
theorem EntityKind.Declares.exists_column? {name : String} (h : kind.Declares name) :
    ∃ column ∈ kind.columns, kind.column? name = some column ∧ column.name = name := by
  obtain ⟨column, hmem, hname⟩ := h
  have hfound : (kind.column? name).isSome := by
    rw [EntityKind.column?, List.find?_isSome]
    exact ⟨column, hmem, by simp [hname]⟩
  obtain ⟨found, hfound⟩ := Option.isSome_iff_exists.mp hfound
  exact ⟨found, List.mem_of_find?_eq_some hfound, hfound, by simpa using List.find?_some hfound⟩

namespace Sql.Value

theorem ofKey_inj {j k : Key} : ofKey j = ofKey k ↔ j = k := by
  cases j <;> cases k <;> simp [ofKey]

@[simp] theorem ofKey_ne_null (k : Key) : ofKey k ≠ .null := by
  cases k <;> simp [ofKey]

@[simp] theorem ofCell_eq_null : ofCell c = .null ↔ c = .null := by
  cases c <;> simp [ofCell]

theorem compare?_ofKey {j k : Key} (h : j.kind = k.kind) :
    (ofKey j).compare? (ofKey k) = some (compare j k) := by
  cases j <;> cases k <;> first | rfl | cases h

/-- **Comparing cells is comparing values,** where keys are of one form. -/
theorem compare?_ofCell (ha : a.KeyOf key) (hb : b.KeyOf key) :
    (ofCell a).compare? (ofCell b) = a.compare? b := by
  cases a with
  | key j =>
    cases b with
    | key k => exact compare?_ofKey ((ha j rfl).trans (hb k rfl).symm)
    | _ => cases j <;> rfl
  | _ =>
    cases b with
    | key k => cases k <;> rfl
    | _ => rfl

/-- Cells are sorted as their values are. -/
theorem order_ofCell (ha : a.KeyOf key) (hb : b.KeyOf key) :
    (ofCell a).order (ofCell b) = a.compareNullsLast b := by
  have hcompare := compare?_ofCell ha hb
  rw [Cell.compareNullsLast, ← hcompare]
  cases a with
  | key j =>
    cases b with
    | key k => cases j <;> cases k <;> rfl
    | _ => cases j <;> rfl
  | _ =>
    cases b with
    | key k => cases k <;> rfl
    | _ => rfl

end Sql.Value

/-- **A cell that fits a column can be bound to it,** and keeps its value. -/
theorem Sql.Param.exists_ofCell (h : c.FitsIn key type) :
    ∃ p, Param.ofCell key type c = .ok p ∧ p.value = .ofCell c ∧
      p.type = columnType key type := by
  obtain ⟨hfits, hkey⟩ := h
  cases type with
  | key | reference _ =>
    cases c with
    | null => cases key <;> exact ⟨_, rfl, rfl, rfl⟩
    | key k =>
      obtain rfl := hkey k rfl
      cases k <;> exact ⟨_, rfl, rfl, rfl⟩
    | text | timestamp => cases hfits
  | text limit =>
    cases c with
    | null | text => exact ⟨_, rfl, rfl, rfl⟩
    | key | timestamp => cases hfits
  | timestamp =>
    cases c with
    | null | timestamp => exact ⟨_, rfl, rfl, rfl⟩
    | key | text => cases hfits

theorem Sql.Param.exists_mapM_ofCell {values : List Cell}
    (h : ∀ v ∈ values, v.FitsIn key type) :
    ∃ params, values.mapM (Param.ofCell key type) = .ok params ∧
      params.map Param.value = values.map Value.ofCell ∧
      ∀ p ∈ params, p.type = columnType key type := by
  induction values with
  | nil => exact ⟨[], rfl, rfl, List.forall_mem_nil _⟩
  | cons v rest ih =>
    rw [List.forall_mem_cons] at h
    obtain ⟨p, hp, hvalue, htype⟩ := Param.exists_ofCell h.1
    obtain ⟨params, hparams, hvalues, htypes⟩ := ih h.2
    refine ⟨p :: params, ?_, by simp [hvalue, hvalues], List.forall_mem_cons.mpr ⟨htype, htypes⟩⟩
    rw [List.mapM_cons, hp, hparams]
    rfl

end

/-! ## 2. Patterns -/

namespace Sql

theorem likes_percent (pattern text : List Char) :
    likes ('%' :: pattern) text = true ↔ ∃ rest, rest <:+ text ∧ likes pattern rest = true := by
  simp [likes, List.any_eq_true]

/-- An escaped text matches itself. -/
theorem likes_escapeLike_append (needle pattern text : List Char) :
    likes (escapeLike needle ++ pattern) text = true ↔
      ∃ rest, text = needle ++ rest ∧ likes pattern rest = true := by
  induction needle generalizing text with
  | nil => simp [escapeLike]
  | cons c needle ih =>
    have hstep : likes (escapeLike (c :: needle) ++ pattern) text = true ↔
        ∃ rest, c :: rest = text ∧ likes (escapeLike needle ++ pattern) rest = true := by
      rw [escapeLike]
      split
      · cases text with
        | nil => simp [likes]
        | cons d rest => simp [likes]
      · next hplain =>
        rw [not_or, not_or] at hplain
        cases text with
        | nil => simp [likes, hplain]
        | cons d rest => simp [likes, hplain]
    rw [hstep]
    simp only [ih]
    constructor
    · rintro ⟨_, rfl, rest, rfl, hrest⟩
      exact ⟨rest, rfl, hrest⟩
    · rintro ⟨rest, rfl, hrest⟩
      exact ⟨_, rfl, rest, rfl, hrest⟩

/-- **The pattern of a text matches the texts that have it as a part.** -/
theorem likes_containsPattern (needle text : String) :
    likes (containsPattern needle).toList text.toList = containsText needle text := by
  have hrest : ∀ rest, likes ['%'] rest = true := fun rest =>
    (likes_percent _ _).mpr ⟨[], List.nil_suffix, rfl⟩
  rw [Bool.eq_iff_iff, containsPattern, String.toList_ofList, List.cons_append, likes_percent,
    containsText_iff]
  simp only [likes_escapeLike_append, hrest, and_true]
  constructor
  · rintro ⟨_, ⟨before, hsuffix⟩, after, rfl⟩
    exact ⟨before, after, by rw [List.append_assoc, hsuffix]⟩
  · rintro ⟨before, after, htext⟩
    exact ⟨_, ⟨before, by rw [← htext, List.append_assoc]⟩, after, rfl⟩

/-- A percent sign in the text stands for itself. -/
example : likes (containsPattern "5%").toList "150".toList = false := by decide

/-! ## 3. What a condition says -/

section Frames

variable {f : Frame} {n : Names} {kind : EntityKind} {owner : Option String} {r : Tuple}
variable {name : String}

@[simp] theorem Frame.bind_db : (f.bind owner r).db = f.db := rfl

@[simp] theorem Frame.bind_params : (f.bind owner r).params = f.params := rfl

@[simp] theorem Frame.bind_batch : (f.bind owner r).batch = f.batch := rfl

@[simp] theorem Frame.param_bind (slot : Nat) : (f.bind owner r).param slot = f.param slot := rfl

@[simp] theorem Frame.column_bind_self : (f.bind owner r).column ⟨owner, name⟩ = r name := by
  simp [Frame.column, Frame.bind]

theorem Frame.column_bind_of_ne {other : Option String} (h : other ≠ owner) :
    (f.bind owner r).column ⟨other, name⟩ = f.column ⟨other, name⟩ := by
  simp [Frame.column, Frame.bind, h]

theorem Frame.column_bind_bind {other : Option String} {s : Tuple} (h : owner ≠ other) :
    ((f.bind owner r).bind other s).column ⟨owner, name⟩ = r name := by
  rw [Frame.column_bind_of_ne h, Frame.column_bind_self]

@[simp] theorem Names.bind_key : (n.bind owner kind).key = n.key := rfl

@[simp] theorem Names.bind_params : (n.bind owner kind).params = n.params := rfl

@[simp] theorem Names.param?_bind (slot : Nat) :
    (n.bind owner kind).param? slot = n.param? slot := rfl

@[simp] theorem Names.column?_bind_self : (n.bind owner kind).column? ⟨owner, name⟩ =
    (kind.column? name).map fun c => columnType n.key c.type := by
  simp [Names.column?, Names.bind, Option.bind_eq_bind, Option.map_eq_bind]

end Frames

/-- What a condition on the rows of a kind says, whatever else the database holds: it is accepted,
and it holds of the rows that pass a test. -/
structure Says (key : KeyKind) (kind : EntityKind) (params : List Param)
    (condition : Option Clause) (test : Row → Bool) : Prop where
  accepted : condition.all (·.accepted (Names.bind { key, params } none kind)) = true
  satisfied : ∀ db row, row.TypedIn key kind →
    satisfied condition (Frame.bind { db, params } none row.tuple) = test row

section Says

variable {key : KeyKind} {kind : EntityKind} {params before own after : List Param}
variable {clause : Clause} {column : Column} {test : Row → Bool}

theorem Says.none : Says key kind params none fun _ => true where
  accepted := rfl
  satisfied _ _ _ := rfl

/-- A condition that may be followed by another one. -/
theorem Says.and {others : Option Clause} {otherTest : Row → Bool}
    (h : Says key kind params (some clause) test)
    (hothers : Says key kind params others otherTest) :
    Says key kind params (some (others.elim clause (.and clause))) fun row =>
      test row && otherTest row := by
  cases others with
  | none =>
    refine ⟨h.accepted, fun db row hrow => ?_⟩
    rw [← hothers.satisfied db row hrow, ← h.satisfied db row hrow]
    exact (Bool.and_true _).symm
  | some other =>
    refine ⟨?_, fun db row hrow => ?_⟩
    · have hclause := h.accepted
      have hother := hothers.accepted
      rw [Option.all_some] at hclause hother
      simp [Clause.accepted, hclause, hother]
    · rw [← h.satisfied db row hrow, ← hothers.satisfied db row hrow]
      simp [Sql.satisfied, Clause.truth]

/-- The parameters of a condition stand between those before it and those after it. -/
theorem map_param?_slots (before own after : List Param) :
    ((List.range own.length).map (before.length + 1 + ·)).map (param? (before ++ own ++ after)) =
      own.map some := by
  refine List.ext_getElem (by simp) fun i h _ => ?_
  have hi : i < own.length := by simpa using h
  have hslot : before.length + 1 + i = before.length + i + 1 := by omega
  simp [hslot, param?, List.getElem?_append_right, List.getElem?_append_left hi]

theorem values_of_slots (before own after : List Param) :
    ((List.range own.length).map (before.length + 1 + ·)).map (fun n =>
      (param? (before ++ own ++ after) n).elim .null Param.value) = own.map Param.value := by
  have := congrArg (List.map fun p => p.elim Value.null Param.value)
    (map_param?_slots before own after)
  simpa only [List.map_map, Function.comp_def, Option.elim_some] using this

theorem types_of_slots (before after : List Param) {type : ValueType}
    (h : ∀ p ∈ own, p.type = type) :
    ∀ n ∈ (List.range own.length).map (before.length + 1 + ·),
      (param? (before ++ own ++ after) n).map Param.type = some type := by
  intro n hn
  have hmem := List.mem_map_of_mem (f := param? (before ++ own ++ after)) hn
  rw [map_param?_slots, List.mem_map] at hmem
  obtain ⟨p, hp, hslot⟩ := hmem
  rw [← hslot, Option.map_some, h p hp]

@[simp] theorem param?_slot (before : List Param) (p : Param) (after : List Param) :
    param? (before ++ p :: after) (before.length + 1) = some p := by
  simp [param?]

end Says

/-! ## 4. Filters -/

section Filters

variable {key : KeyKind} {kind : EntityKind} {before : List Param} {column : Column}
variable {c v : Cell} {p : Predicate}

/-- A comparison holds if it accepts the result of comparing the cells. -/
theorem Comparison.truth_ofCell (op : Comparison) (hc : c.KeyOf key) (hv : v.KeyOf key) :
    op.truth (.ofCell c) (.ofCell v) = .holds ↔ (c.compare? v).any op.accepts = true := by
  rw [Comparison.truth, Value.compare?_ofCell hc hv]
  cases c.compare? v <;> simp

/-- The test that a comparison makes. -/
def Comparison.predicate : Comparison → Cell → Predicate
  | .eq => .eq
  | .ne => .ne
  | .lt => .lt
  | .le => .le
  | .gt => .gt
  | .ge => .ge

theorem Comparison.holds_predicate (op : Comparison) :
    (op.predicate v).holds c = (c.compare? v).any op.accepts := by
  cases op <;> rw [predicate, Predicate.holds] <;> cases c.compare? v <;> rfl

/-- A test of a column can be bound behind other parameters, and says what the test does. -/
def Binds (key : KeyKind) (kind : EntityKind) (column : Column) (before : List Param)
    (p : Predicate) : Prop :=
  ∃ clause own, bindPredicate key column (before.length + 1) p = .ok (clause, own) ∧
    ∀ after, Says key kind (before ++ own ++ after) (some clause) fun row =>
      p.holds (row.cell column.name)

theorem binds_comparison (op : Comparison) (hcolumn : column ∈ kind.columns)
    (hfound : kind.column? column.name = some column) (hv : v.FitsIn key column.type) :
    Binds key kind column before (op.predicate v) := by
  obtain ⟨p, hp, hvalue, htype⟩ := Param.exists_ofCell hv
  refine ⟨.compare op (.column (Sql.column column.name)) (.slot (before.length + 1)), [p], ?_,
    fun after => ⟨?_, fun db row hrow => ?_⟩⟩
  · cases op <;> simp [Comparison.predicate, bindPredicate, hp]
  · simp [Clause.accepted, Names.operand?, Sql.column, Names.param?, hfound, htype]
  · have htruth := op.truth_ofCell (hrow column hcolumn).keyOf hv.keyOf
    simp [Sql.satisfied, Clause.truth, Frame.operand, Sql.column, Frame.param, hvalue, Row.tuple,
      htruth, Comparison.holds_predicate]

/-- A part of a text is looked for with an escaped pattern. -/
theorem likeTruth_ofCell {limit : Option Nat} (hc : c.Fits (.text limit)) (needle : String) :
    likeTruth (.ofCell c) (.text (containsPattern needle)) = .holds ↔
      (Predicate.contains needle).holds c = true := by
  cases c with
  | null => simp [likeTruth, Value.ofCell, Predicate.holds, Cell.text?]
  | text s => simp [likeTruth, Value.ofCell, Predicate.holds, Cell.text?, likes_containsPattern]
  | key | timestamp => cases hc

/-- One of several values is looked for among the values of their parameters. -/
theorem any_truth_ofCell {values : List Cell} (hc : c.KeyOf key)
    (hvalues : ∀ v ∈ values, v.KeyOf key) :
    Truth.any ((values.map Value.ofCell).map (Comparison.eq.truth (.ofCell c)) : List Truth) =
      .holds ↔ (Predicate.oneOf values).holds c = true := by
  rw [Truth.any_eq_holds, Multiset.mem_coe, List.map_map, List.mem_map, Predicate.holds,
    List.any_eq_true]
  refine exists_congr fun v => and_congr_right fun hv => ?_
  rw [Function.comp_apply, Comparison.truth_ofCell _ hc (hvalues v hv)]
  cases c.compare? v <;> simp [Comparison.accepts]

theorem binds_contains {needle : String} (hcolumn : column ∈ kind.columns)
    (hfound : kind.column? column.name = some column)
    (hneedle : (Cell.text needle).Fits column.type) :
    Binds key kind column before (.contains needle) := by
  obtain ⟨limit, htype⟩ := Cell.exists_limit hneedle
  refine ⟨_, _, rfl, fun after => ⟨?_, fun db row hrow => ?_⟩⟩
  · simp [Clause.accepted, Sql.column, Names.param?, hfound, htype, columnType, Param.type]
  · have htruth := likeTruth_ofCell (htype ▸ (hrow column hcolumn).fits) needle
    simp [Sql.satisfied, Clause.truth, Sql.column, Frame.param, Param.value, Row.tuple, htruth]

theorem binds_oneOf {values : List Cell} (hcolumn : column ∈ kind.columns)
    (hfound : kind.column? column.name = some column)
    (hvalues : ∀ v ∈ values, v.FitsIn key column.type) :
    Binds key kind column before (.oneOf values) := by
  cases values with
  | nil => exact ⟨.never, [], rfl, fun after => ⟨rfl, fun db row _ => rfl⟩⟩
  | cons v rest =>
    obtain ⟨own, hown, hparams, htypes⟩ := Param.exists_mapM_ofCell hvalues
    have hne : own ≠ [] := fun h => by simp [h] at hparams
    refine ⟨.oneOf (Sql.column column.name)
      ((List.range own.length).map (before.length + 1 + ·)), own, ?_, fun after =>
        ⟨?_, fun db row hrow => ?_⟩⟩
    · rw [bindPredicate, hown]
      · rfl
      · simp
    · have hslots := types_of_slots before after htypes
      simpa [Clause.accepted, Sql.column, Names.param?, hfound, hne] using hslots
    · have htruth := any_truth_ofCell (hrow column hcolumn).keyOf fun v hv => (hvalues v hv).keyOf
      rw [← hparams, ← values_of_slots before own after, List.map_map] at htruth
      rw [Bool.eq_iff_iff]
      simpa [Sql.satisfied, Clause.truth, Sql.column, Frame.param, Row.tuple] using htruth

/-- **A test that is bound says what the test does.** -/
theorem binds_of_fitsIn (before : List Param) (hcolumn : column ∈ kind.columns)
    (hfound : kind.column? column.name = some column) (hp : p.FitsIn key column.type) :
    Binds key kind column before p := by
  cases p with
  | eq v => exact binds_comparison .eq hcolumn hfound hp
  | ne v => exact binds_comparison .ne hcolumn hfound hp
  | lt v => exact binds_comparison .lt hcolumn hfound hp
  | le v => exact binds_comparison .le hcolumn hfound hp
  | gt v => exact binds_comparison .gt hcolumn hfound hp
  | ge v => exact binds_comparison .ge hcolumn hfound hp
  | isNull =>
    refine ⟨_, [], rfl, fun after => ⟨?_, fun db row _ => ?_⟩⟩
    · simp [Clause.accepted, Sql.column, hfound]
    · cases h : row.cell column.name <;>
        simp [Sql.satisfied, Clause.truth, Sql.column, Row.tuple, Predicate.holds, Cell.isNull, h]
  | isNotNull =>
    refine ⟨_, [], rfl, fun after => ⟨?_, fun db row _ => ?_⟩⟩
    · simp [Clause.accepted, Sql.column, hfound]
    · cases h : row.cell column.name <;>
        simp [Sql.satisfied, Clause.truth, Sql.column, Row.tuple, Predicate.holds, Cell.isNull, h]
  | contains needle => exact binds_contains hcolumn hfound hp
  | oneOf values => exact binds_oneOf hcolumn hfound hp

/-- **Conditions that are bound say what the conditions do,** wherever their parameters stand. -/
theorem bindConditions_says {conditions : List Condition}
    (hcolumns : ∀ c ∈ conditions, kind.Declares c.column)
    (hfits : ∀ c ∈ conditions, c.FitsIn key kind) (before : List Param) :
    ∃ condition own, bindConditions kind key (before.length + 1) conditions =
        .ok (condition, own) ∧
      ∀ after, Says key kind (before ++ own ++ after) condition fun row =>
        conditions.all (·.holds row) := by
  induction conditions generalizing before with
  | nil => exact ⟨none, [], rfl, fun after => .none⟩
  | cons c rest ih =>
    rw [List.forall_mem_cons] at hcolumns hfits
    obtain ⟨column, hmem, hfound, hname⟩ := hcolumns.1.exists_column?
    obtain ⟨clause, own, hbind, hmeans⟩ :=
      binds_of_fitsIn before hmem (hname ▸ hfound) (hfits.1 column hfound)
    obtain ⟨others, more, hrest, hmore⟩ := ih hcolumns.2 hfits.2 (before ++ own)
    have hslot : before.length + 1 + own.length = (before ++ own).length + 1 := by
      rw [List.length_append]
      omega
    refine ⟨some (others.elim clause (.and clause)), own ++ more, ?_, fun after => ?_⟩
    · rw [bindConditions, hfound]
      simp only [hbind, ok_bind, hslot, hrest]
      rfl
    · have hclause := hmeans (more ++ after)
      have hothers := hmore after
      rw [← List.append_assoc] at hclause
      rw [hname] at hclause
      rw [← List.append_assoc]
      exact hclause.and hothers

end Filters

end Sql

end GrantLedger
