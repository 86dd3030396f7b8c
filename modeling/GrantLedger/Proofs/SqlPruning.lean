import GrantLedger.Proofs.References
import GrantLedger.Proofs.SqlQueries

/-!
# Pruning as a statement

The statement that prunes a batch reads its condition in a join or with a sub-select and takes the
first identifiers.  Its deletions see the tables as they were.  In memory the same rows go.

* `truth_prunableTokens` and `truth_prunableAuthorizations`: the conditions say what may be pruned,
  also where a status, a date or a reference is missing, or a reference names no row.
* `takes_iff`: the database may take one batch only.
* `without_eq_purge` and `card_inBatch`: what goes with a batch, and the number in the answer.
* `pruneBatch_runs_iff`: the main result.
-/

namespace GrantLedger

/-! ## 1. Typed tables -/

/-- Tables whose rows stand under their own keys and are of declared types.  There are no more of
them than a parameter can stand for. -/
structure Tables.StoredIn (key : KeyKind) (t : Tables) : Prop where
  keyed : t.Keyed
  typed : ∀ kind, ∀ row ∈ t.rows kind, row.TypedIn key kind
  countable : t.total ≤ Sql.maxCount

namespace Tables

variable {key : KeyKind} {t : Tables} {row : Row} {id : Key}

/-- In keyed tables the identifiers of rows stand in their identifier columns. -/
theorem Keyed.map_id (h : t.Keyed) (kind : EntityKind) (p : Row → Bool) :
    ((t.rows kind).filter p).map (·.cell "id") = (t.idsWhere kind p).map .key := by
  rw [h.idsWhere_eq, rows, OrdMap.values, List.filter_map, List.map_map, List.map_map]
  refine List.map_congr_left fun e he => h kind e.1 e.2 (OrdMap.get?_eq_some_iff.mpr ?_)
  exact List.mem_of_mem_filter he

/-- The tuples of keyed tables hold their identifiers as well. -/
theorem Keyed.map_id_tuple (h : t.Keyed) (kind : EntityKind) (p : Row → Bool) :
    (((t.rows kind).filter p).map Row.tuple).map (· "id") =
      (t.idsWhere kind p).map Sql.Value.ofKey := by
  have hcells := congrArg (List.map Sql.Value.ofCell) (h.map_id kind p)
  rw [List.map_map, List.map_map] at hcells
  rw [List.map_map]
  exact hcells

theorem Keyed.length_idsWhere (h : t.Keyed) (kind : EntityKind) (p : Row → Bool) :
    (t.idsWhere kind p).length = ((t.rows kind).filter p).length := by
  have hlength := congrArg List.length (h.map_id kind p)
  rw [List.length_map, List.length_map] at hlength
  exact hlength.symm

/-- In keyed tables rows stand in the order of their identifiers. -/
theorem Keyed.ascending_rows (h : t.Keyed) (kind : EntityKind) :
    (t.rows kind).Pairwise fun a b => (a.cell "id").order (b.cell "id") = .lt := by
  rw [rows, OrdMap.values, List.pairwise_map]
  refine (t.get kind).rows.ascending.imp_of_mem fun {x y} hx hy hlt => ?_
  rw [h kind x.1 x.2 (OrdMap.get?_eq_some_iff.mpr hx),
    h kind y.1 y.2 (OrdMap.get?_eq_some_iff.mpr hy)]
  exact hlt

theorem size_le_total (t : Tables) (kind : EntityKind) : t.size kind ≤ t.total := by
  rw [total]
  cases kind <;> simp [EntityKind.all] <;> omega

/-- Typed tables hold typed rows with distinct identifiers. -/
theorem StoredIn.rows (h : t.StoredIn key) (kind : EntityKind) :
    Sql.StoredRows key kind (t.rows kind) where
  typed := h.typed kind
  distinct := by
    have hids := h.keyed.map_id kind fun _ => true
    rw [List.filter_true] at hids
    rw [hids]
    exact (h.keyed.nodup_idsWhere kind _).map fun _ _ heq => Cell.key.inj heq
  countable := by
    have hlength : (t.rows kind).length = t.size kind := by
      rw [Tables.rows, OrdMap.values, List.length_map]
      rfl
    exact hlength ▸ (t.size_le_total kind).trans h.countable

theorem StoredIn.typedIn (h : t.StoredIn key) {kind : EntityKind}
    (hrow : t.row? kind id = some row) : row.TypedIn key kind :=
  h.typed kind row (mem_rows.mpr ⟨id, hrow⟩)

theorem StoredIn.kind_eq (h : t.StoredIn key) {kind : EntityKind}
    (hrow : t.row? kind id = some row) : id.kind = key :=
  (h.typedIn hrow).id.keyOf id (h.keyed kind id row hrow)

end Tables

namespace Sql

variable {key : KeyKind} {kind other : EntityKind} {t u : Tables} {row : Row} {i id : Key}
variable {c : Cell} {criteria : PruneCriteria} {params : List Param}

/-! ## 2. Keys and comparisons -/

theorem Value.ofCell_key (k : Key) : Value.ofCell (.key k) = .ofKey k := rfl

/-- A reference equals a key exactly if it holds it. -/
theorem eq_truth_ofKey (hc : c.FitsIn key .key) {k : Key} (hk : k.kind = key) :
    Comparison.eq.truth (.ofCell c) (.ofKey k) = .holds ↔ c = .key k := by
  have hkey : (Cell.key k).KeyOf key := fun j hj => by cases hj; exact hk
  rw [← Value.ofCell_key, Comparison.truth_ofCell _ hc.keyOf hkey]
  cases c with
  | null => simp [Cell.compare?]
  | key j => simp [Cell.compare?, Comparison.accepts]
  | text | timestamp => cases hc.fits

theorem eq_truth_comm {a b : Value} :
    Comparison.eq.truth a b = .holds ↔ Comparison.eq.truth b a = .holds := by
  cases a <;> cases b <;> simp [Comparison.truth, Value.compare?, Comparison.accepts] <;>
    exact eq_comm

theorem lt_truth_timestamp (c : Cell) (bound : Timestamp) :
    Comparison.lt.truth (.ofCell c) (.timestamp bound.instant) = .holds ↔
      Tables.Earlier c bound := by
  cases c with
  | timestamp x =>
    simp [Comparison.truth, Value.ofCell, Value.compare?, Comparison.accepts, Tables.Earlier,
      compare_lt_iff_lt]
  | key k =>
    cases k <;>
      simp [Comparison.truth, Value.ofCell, Value.ofKey, Value.compare?, Tables.Earlier]
  | null | text => simp [Comparison.truth, Value.ofCell, Value.compare?, Tables.Earlier]

theorem ne_truth_text {limit : Option Nat} (hc : c.Fits (.text limit)) (s : String) :
    Comparison.ne.truth (.ofCell c) (.text s) = .holds ↔ Tables.OtherText c [s] := by
  cases c with
  | null => simp [Comparison.truth, Value.ofCell, Value.compare?, Tables.OtherText]
  | text x =>
    simp [Comparison.truth, Value.ofCell, Value.compare?, Tables.OtherText, Comparison.accepts]
  | key | timestamp => cases hc

theorem eq_truth_text {limit : Option Nat} (hc : c.Fits (.text limit)) (s : String) :
    Comparison.eq.truth (.ofCell c) (.text s) = .holds ↔ c = .text s := by
  cases c with
  | null => simp [Comparison.truth, Value.ofCell, Value.compare?]
  | text x => simp [Comparison.truth, Value.ofCell, Value.compare?, Comparison.accepts]
  | key | timestamp => cases hc

/-! ## 3. What a deletion leaves -/

theorem mem_ofTables {r : Tuple} :
    r ∈ Database.ofTables t kind ↔ ∃ i row, t.row? kind i = some row ∧ row.tuple = r := by
  rw [Database.ofTables, Multiset.mem_coe, List.mem_map]
  constructor
  · rintro ⟨row, hrow, rfl⟩
    obtain ⟨i, hi⟩ := Tables.mem_rows.mp hrow
    exact ⟨i, row, hi, rfl⟩
  · rintro ⟨i, row, hi, rfl⟩
    exact ⟨row, Tables.mem_rows.mpr ⟨i, hi⟩, rfl⟩

/-- Keyed tables have no two rows of the same values. -/
theorem nodup_ofTables (h : t.Keyed) (kind : EntityKind) : (Database.ofTables t kind).Nodup := by
  have hids := h.map_id_tuple kind fun _ => true
  rw [List.filter_true] at hids
  rw [Database.ofTables, Multiset.coe_nodup]
  refine List.Nodup.of_map (· "id") ?_
  rw [hids]
  exact (h.nodup_idsWhere kind _).map fun _ _ => Value.ofKey_inj.mp

/-- As many tuples pass a test as rows with identifiers. -/
theorem card_filter_ofTables (h : t.Keyed) {p : Tuple → Bool} {ids : List Key}
    (hnodup : ids.Nodup)
    (hids : ∀ i, i ∈ ids ↔ ∃ row, t.row? kind i = some row ∧ p row.tuple = true) :
    ((Database.ofTables t kind).filter fun r => p r).card = ids.length := by
  have hperm : (t.idsWhere kind fun row => p row.tuple).Perm ids :=
    (List.perm_ext_iff_of_nodup (h.nodup_idsWhere kind _) hnodup).mpr fun i =>
      h.mem_idsWhere.trans (hids i).symm
  rw [Database.ofTables, Multiset.filter_coe, List.filter_map, Multiset.coe_card, List.length_map,
    ← hperm.length_eq, h.length_idsWhere]
  simp only [Function.comp_def, Bool.decide_eq_true]

/-- At most one row of a kind has a value as its identifier. -/
theorem filter_id_ofTables (h : t.StoredIn key) (hc : c.FitsIn key .key) :
    (Database.ofTables t kind).filter (fun s =>
        Comparison.eq.truth (s "id") (.ofCell c) = .holds) =
      ((c.key?.bind (t.row? kind)).map Row.tuple).toList := by
  have hid : ∀ i row, t.row? kind i = some row →
      (Comparison.eq.truth (row.tuple "id") (.ofCell c) = .holds ↔ c.key? = some i) := by
    intro i row hrow
    rw [Row.tuple, h.keyed kind i row hrow, Value.ofCell_key, eq_truth_comm,
      eq_truth_ofKey hc (h.kind_eq hrow), Tables.key?_eq_some_iff]
  refine (Multiset.Nodup.ext ((nodup_ofTables h.keyed kind).filter _) ?_).mpr fun s => ?_
  · cases c.key?.bind (t.row? kind) <;> simp
  · rw [Multiset.mem_filter, mem_ofTables, Multiset.mem_coe, Option.mem_toList,
      Option.map_eq_some_iff]
    constructor
    · rintro ⟨⟨i, row, hrow, rfl⟩, htruth⟩
      exact ⟨row, Option.bind_eq_some_iff.mpr ⟨i, (hid i row hrow).mp htruth, hrow⟩, rfl⟩
    · rintro ⟨row, hfound, rfl⟩
      obtain ⟨i, hkey, hrow⟩ := Option.bind_eq_some_iff.mp hfound
      exact ⟨⟨i, row, hrow, rfl⟩, (hid i row hrow).mpr hkey⟩

/-- Removing tuples from the database of tables is filtering the rows. -/
theorem ofTables_without {gone : EntityKind → Tuple → Bool}
    (hu : ∀ other, (u.get other).rows = (t.get other).rows.filter fun _ r =>
      !gone other r.tuple) :
    (Database.ofTables t).without gone = .ofTables u := by
  funext other
  rw [Database.without, Database.ofTables, Database.ofTables, Tables.rows, Tables.rows, hu,
    OrdMap.values_filter, Multiset.filter_coe, List.filter_map]
  simp only [Function.comp_def, Bool.decide_eq_false]

/-- The identifiers of a batch, looked for in a column of keys. -/
theorem inBatch_eq {name : String} {db : Database} {ids : List Key}
    (hcell : (row.cell name).FitsIn key .key) (hids : ∀ k ∈ ids, k.kind = key) :
    db.inBatch params (ids.map Value.ofKey : List Value) name row.tuple =
      (row.cell name).key?.any ids.contains := by
  have htruth : ∀ k ∈ ids,
      (Comparison.eq.truth (.ofCell (row.cell name)) (.ofKey k) = .holds ↔
        (row.cell name).key? = some k) := fun k hk => by
    rw [eq_truth_ofKey hcell (hids k hk), Tables.key?_eq_some_iff]
  rw [Bool.eq_iff_iff, Option.any_eq_true]
  simp only [Database.inBatch, satisfied, Option.all_some, Clause.truth, decide_eq_true_eq,
    Truth.any_eq_holds, Multiset.map_coe, Multiset.mem_coe, List.map_map, List.mem_map,
    Function.comp_apply, Sql.column, Frame.column_bind_self, Row.tuple, Frame.bind_batch]
  constructor
  · rintro ⟨k, hk, hholds⟩
    exact ⟨k, (htruth k hk).mp hholds, List.contains_iff_mem.mpr hk⟩
  · rintro ⟨k, hcell, hk⟩
    have hk := List.contains_iff_mem.mp hk
    exact ⟨k, hk, (htruth k hk).mpr hcell⟩

/-! ## 4. Batches -/

section Batches

variable {b : Batch} {p : Row → Bool}

/-- A batch is taken from the rows that pass a test, if each row is read in one frame and the
condition says there what the test does. -/
theorem candidates_ofTables (h : ∀ row ∈ t.rows b.kind, ∃ f,
      b.frames (.ofTables t) params row.tuple = {f} ∧
        (b.condition.truth f = .holds ↔ p row = true)) :
    b.candidates (.ofTables t) params = (((t.rows b.kind).filter p).map Row.tuple : List _) := by
  rw [Batch.candidates, Database.ofTables]
  generalize t.rows b.kind = rows at h ⊢
  induction rows with
  | nil => rfl
  | cons row rest ih =>
    rw [List.forall_mem_cons] at h
    obtain ⟨⟨f, hf, hp⟩, hrest⟩ := h
    rw [List.map_cons, ← Multiset.cons_coe, Multiset.cons_bind, ih hrest, hf,
      Multiset.filter_singleton, List.filter_cons]
    by_cases hrow : p row = true
    · simp [hp, hrow]
    · simp [hp, hrow]

/-- The rows that pass a test stand in the order of their identifiers. -/
theorem sorts_filter_iff (h : t.StoredIn key) {sorted : List Tuple} :
    Sorts [⟨"id", .asc⟩] (((t.rows kind).filter p).map Row.tuple : List _) sorted ↔
      sorted = ((t.rows kind).filter p).map Row.tuple := by
  have hrows := h.rows kind
  have hterms : ∀ term ∈ [OrderTerm.mk "id" .asc], kind.Declares term.column :=
    List.forall_mem_singleton.mpr kind.declares_id
  have htyped : ∀ row ∈ (t.rows kind).filter p, row.TypedIn key kind := fun row hrow =>
    hrows.typed row (List.mem_of_mem_filter hrow)
  have hordered : ((t.rows kind).filter p).Pairwise fun a b =>
      (orderBy [⟨"id", .asc⟩] a b).isLE := by
    refine ((h.keyed.ascending_rows kind).filter _).imp fun {x y} hlt => ?_
    simp [orderBy, compareLex, OrderTerm.order, hlt]
  exact sorts_iff hterms ⟨_, List.mem_singleton_self _, rfl⟩ htyped
    (hrows.distinct.sublist (List.filter_sublist.map _)) hordered

/-- **A batch takes the first identifiers in memory as well.** -/
theorem takes_iff (h : t.StoredIn key)
    (hcandidates : b.candidates (.ofTables t) params =
      (((t.rows b.kind).filter p).map Row.tuple : List _))
    {n : Nat} (hlimit : countAt? params b.limit = some (min n maxCount))
    {ids : Multiset Value} :
    b.Takes (.ofTables t) params ids ↔
      ids = (((t.idsWhere b.kind p).take n).map Value.ofKey : List Value) := by
  have hlength : (t.idsWhere b.kind p).length ≤ maxCount := by
    rw [h.keyed.length_idsWhere]
    exact (List.length_filter_le _ _).trans (h.rows b.kind).countable
  have htake : ((((t.rows b.kind).filter p).map Row.tuple).take (min n maxCount)).map (· "id") =
      ((t.idsWhere b.kind p).take n).map Value.ofKey := by
    rw [List.map_take, h.keyed.map_id_tuple, ← List.map_take, take_min hlength]
  constructor
  · rintro ⟨sorted, m, hsorts, hm, rfl⟩
    rw [hcandidates, sorts_filter_iff h] at hsorts
    rw [hlimit, Option.some_inj] at hm
    rw [hsorts, ← hm, htake]
  · rintro rfl
    exact ⟨_, _, hcandidates ▸ (sorts_filter_iff h).mpr rfl, hlimit, by rw [htake]⟩

/-- Whether the identifier of a row is one of several. -/
def idIn (ids : List Key) (row : Row) : Bool := (row.cell "id").key?.any ids.contains

theorem idIn_iff (h : t.Keyed) {ids : List Key} (hrow : t.row? kind i = some row) :
    idIn ids row = true ↔ i ∈ ids := by
  rw [idIn, h kind i row hrow]
  exact List.contains_iff_mem

/-- Among the rows of a kind there is one for each identifier of a batch. -/
theorem card_inBatch (h : t.StoredIn key) (params : List Param) {ids : List Key}
    (hnodup : ids.Nodup) (hstored : ∀ i ∈ ids, (t.row? kind i).isSome) :
    ((Database.ofTables t kind).filter fun r =>
      (Database.ofTables t).inBatch params (ids.map Value.ofKey : List Value) "id" r).card =
        ids.length := by
  have hkinds : ∀ i ∈ ids, i.kind = key := fun i hi =>
    let ⟨_, hrow⟩ := Option.isSome_iff_exists.mp (hstored i hi)
    h.kind_eq hrow
  have hbatch : ∀ i row, t.row? kind i = some row →
      ((Database.ofTables t).inBatch params (ids.map Value.ofKey : List Value) "id" row.tuple =
        true ↔ i ∈ ids) := fun i row hrow => by
    rw [inBatch_eq (h.typedIn hrow).id hkinds, ← idIn,
      idIn_iff h.keyed hrow]
  refine card_filter_ofTables h.keyed hnodup fun i => ⟨fun hi => ?_, ?_⟩
  · obtain ⟨row, hrow⟩ := Option.isSome_iff_exists.mp (hstored i hi)
    exact ⟨row, hrow, (hbatch i row hrow).mpr hi⟩
  · rintro ⟨row, hrow, hin⟩
    exact (hbatch i row hrow).mp hin

/-- What references of the rows of a kind a removed batch takes along. -/
def attachedTo : EntityKind → Option (EntityKind × String)
  | .authorization => some (.token, "authorization_id")
  | _ => none

/-- The tuples that a batch and its attached deletion remove are the rows that are purged. -/
theorem without_eq_purge (h : t.StoredIn key) (kind : EntityKind) (params : List Param)
    {ids : List Key} (hids : ∀ i ∈ ids, i.kind = key) :
    ((Database.ofTables t).without fun other r =>
      (other = kind && (Database.ofTables t).inBatch params (ids.map Value.ofKey : List Value)
        "id" r) || (attachedTo kind).any fun a => other = a.1 &&
          (Database.ofTables t).inBatch params (ids.map Value.ofKey : List Value) a.2 r) =
      .ofTables (t.purge kind ids) := by
  refine ofTables_without fun other => ?_
  rw [Tables.get_purge]
  dsimp only
  refine OrdMap.filter_congr fun i row hrow => ?_
  have htyped := h.typedIn hrow
  have hid : idIn ids row = ids.contains i := by
    rw [Bool.eq_iff_iff, idIn_iff h.keyed hrow, List.contains_iff_mem]
  rw [inBatch_eq htyped.id hids, ← idIn, hid, Tables.isPurged]
  congr 2
  -- only the tokens of a removed authorization go along
  by_cases hattached : kind = .authorization ∧ other = .token
  · obtain ⟨rfl, rfl⟩ := hattached
    have hcell : (row.cell "authorization_id").FitsIn key .key :=
      htyped.reference .authorization (by decide)
    simp [attachedTo, inBatch_eq hcell hids]
  · cases kind <;> cases other <;> simp_all [attachedTo]

/-- **A batch is removed as in memory,** if it is taken from the prunable rows. -/
theorem deleteBatch_runs_iff (h : t.StoredIn key)
    (hcandidates : b.candidates (.ofTables t) params =
      (((t.rows b.kind).filter (t.isPrunable b.kind criteria)).map Row.tuple : List _))
    (hlimit : countAt? params b.limit = some (min criteria.batchSize maxCount)) {answer : Answer}
    {after : Database} :
    (Command.deleteBatch b (attachedTo b.kind)).Runs (.ofTables t) params answer after ↔
      answer = .removed (t.pruneBatch b.kind criteria).1 ∧
        after = .ofTables (t.pruneBatch b.kind criteria).2 := by
  -- The condition of the batch and its limit leave no choice of identifiers.
  have hids : ∀ ids, b.Takes (.ofTables t) params ids ↔
      ids = ((t.batch b.kind criteria).map Value.ofKey : List Value) := fun ids =>
    takes_iff h hcandidates hlimit
  have hnodup : (t.batch b.kind criteria).Nodup :=
    (h.keyed.nodup_idsWhere b.kind _).sublist (List.take_sublist _ _)
  have hstored : ∀ i ∈ t.batch b.kind criteria, (t.row? b.kind i).isSome := by
    intro i hi
    obtain ⟨row, hrow, -⟩ := h.keyed.mem_idsWhere.mp (List.mem_of_mem_take hi)
    rw [hrow, Option.isSome_some]
  have hkinds : ∀ i ∈ t.batch b.kind criteria, i.kind = key := fun i hi =>
    let ⟨_, hrow⟩ := Option.isSome_iff_exists.mp (hstored i hi)
    h.kind_eq hrow
  have hcard := card_inBatch h params hnodup hstored
  have hafter := without_eq_purge h b.kind params hkinds
  rw [Tables.pruneBatch_eq]
  constructor
  · intro hrun
    cases hrun with
    | deleteBatch htakes =>
      rw [(hids _).mp htakes]
      exact ⟨congrArg Answer.removed hcard, hafter⟩
  · rintro ⟨rfl, rfl⟩
    rw [← hafter, ← hcard]
    exact .deleteBatch ((hids _).mpr rfl)

end Batches

/-! ## 5. What may be pruned -/

section Prunable

variable {f : Frame} {cutoff now : Timestamp}

/-- A comparison of a column of the table that goes by a letter. -/
theorem truth_ownedCompare (op : Comparison) (owner name : String) (other : Operand) :
    (ownedCompare op owner name other).truth f =
      op.truth (f.column ⟨some owner, name⟩) (f.operand other) := rfl

/-- The sub-select finds no token exactly if none references the authorization. -/
theorem truth_unreferenced (h : t.StoredIn key) (hrow : t.row? .authorization i = some row)
    (hdb : f.db = .ofTables t) :
    (Clause.notExists .token "t" (ownedCompare .eq "t" "authorization_id"
        (.column ⟨some "a", "id"⟩))).truth (f.bind (some "a") row.tuple) = .holds ↔
      ∀ j token, t.row? .token j = some token → token.cell "authorization_id" ≠ .key i := by
  have hid : ∀ s, ((f.bind (some "a") row.tuple).bind (some "t") s).column ⟨some "a", "id"⟩ =
      .ofKey i := fun s => by
    rw [Frame.column_bind_bind (by decide), Row.tuple, h.keyed .authorization i row hrow]
    rfl
  have href : ∀ j token, t.row? .token j = some token →
      (Comparison.eq.truth (token.tuple "authorization_id") (.ofKey i) = .holds ↔
        token.cell "authorization_id" = .key i) := fun j token htoken =>
    eq_truth_ofKey ((h.typedIn htoken).reference .authorization (by decide)) (h.kind_eq hrow)
  simp only [Clause.truth, truth_ownedCompare, Frame.operand, Frame.column_bind_self, hid,
    Truth.ofBool_eq_holds, decide_eq_true_eq, Multiset.card_eq_zero, Multiset.filter_eq_nil,
    Frame.bind_db, hdb]
  constructor
  · intro hnone j token htoken hcell
    exact hnone token.tuple (mem_ofTables.mpr ⟨j, token, htoken, rfl⟩)
      ((href j token htoken).mpr hcell)
  · intro hnone r hr
    obtain ⟨j, token, htoken, rfl⟩ := mem_ofTables.mp hr
    exact fun hholds => hnone j token htoken ((href j token htoken).mp hholds)

theorem truth_prunableAuthorizations (h : t.StoredIn key)
    (hrow : t.row? .authorization i = some row) (hdb : f.db = .ofTables t)
    (hcutoff : f.param 1 = .timestamp cutoff.instant) :
    prunableAuthorizations.truth (f.bind (some "a") row.tuple) = .holds ↔
      t.Eligible cutoff now .authorization i row := by
  have hstatus := (h.typedIn hrow ⟨"status", .text (some 50)⟩ (by decide)).fits
  have htype := (h.typedIn hrow ⟨"type", .text (some 50)⟩ (by decide)).fits
  rw [prunableAuthorizations, Clause.truth, Clause.truth, Clause.truth, Truth.and_eq_holds,
    Truth.or_eq_holds, Truth.and_eq_holds, truth_unreferenced h hrow hdb]
  simp only [truth_ownedCompare, Frame.operand, Frame.column_bind_self, Frame.param_bind, hcutoff,
    Row.tuple, lt_truth_timestamp, ne_truth_text hstatus, eq_truth_text htype, Tables.Eligible]

/-- The tuple that a token is joined to: its authorization, or NULLs if none is stored. -/
def partner (t : Tables) (row : Row) : Tuple :=
  ((row.cell "authorization_id").key?.bind (t.row? .authorization)).elim (fun _ => .null) Row.tuple

theorem partners_eq (h : t.StoredIn key) (hrow : t.row? .token i = some row)
    (hdb : f.db = .ofTables t) :
    Join.partners ⟨.authorization, "a", ⟨some "t", "authorization_id"⟩⟩
        (f.bind (some "t") row.tuple) = {partner t row} := by
  have hcell : (row.cell "authorization_id").FitsIn key .key :=
    (h.typedIn hrow).reference .authorization (by decide)
  have howner : ∀ r, ((f.bind (some "t") row.tuple).bind (some "a") r).column
      ⟨some "t", "authorization_id"⟩ = .ofCell (row.cell "authorization_id") := fun _ =>
    Frame.column_bind_bind (by decide)
  simp only [Join.partners, Clause.truth, Frame.operand, Frame.column_bind_self, howner,
    Frame.bind_db, hdb, filter_id_ofTables h hcell, partner]
  cases (row.cell "authorization_id").key?.bind (t.row? .authorization) with
  | none => rfl
  | some authorization => rfl

/-- The status of the authorization that a token is joined to. -/
theorem ne_truth_partner (h : t.StoredIn key) :
    Comparison.ne.truth (partner t row "status") (.text "valid") = .holds ↔
      ∃ a authorization, row.cell "authorization_id" = .key a ∧
        t.row? .authorization a = some authorization ∧
        Tables.OtherText (authorization.cell "status") ["valid"] := by
  have hvalid : ∀ s : String, (s != "valid") = true ↔ s ∉ ["valid"] := by simp
  rw [← Tables.any_authorization_iff hvalid, partner]
  -- without an authorization the status is NULL, and nothing differs from a text by it
  cases hfound : (row.cell "authorization_id").key?.bind (t.row? .authorization) with
  | none => simp [Comparison.truth, Value.compare?]
  | some authorization =>
    obtain ⟨a, -, ha⟩ := Option.bind_eq_some_iff.mp hfound
    have hstatus := (h.typedIn ha ⟨"status", .text (some 50)⟩ (by decide)).fits
    rw [Option.elim_some, Row.tuple, ne_truth_text hstatus, Option.bind_some,
      Tables.any_text_iff hvalid]

theorem truth_prunableTokens (h : t.StoredIn key) (hrow : t.row? .token i = some row)
    (hcutoff : f.param 1 = .timestamp cutoff.instant)
    (hnow : f.param 2 = .timestamp now.instant) :
    prunableTokens.truth ((f.bind (some "t") row.tuple).bind (some "a") (partner t row)) =
      .holds ↔ t.Eligible cutoff now .token i row := by
  have hstatus := (h.typedIn hrow ⟨"status", .text (some 50)⟩ (by decide)).fits
  have howner : ∀ name s, ((f.bind (some "t") row.tuple).bind (some "a") s).column
      ⟨some "t", name⟩ = .ofCell (row.cell name) := fun _ _ =>
    Frame.column_bind_bind (by decide)
  have hother : Tables.OtherText (row.cell "status") ["inactive"] ∧
      Tables.OtherText (row.cell "status") ["valid"] ↔
        Tables.OtherText (row.cell "status") ["valid", "inactive"] := by
    cases row.cell "status" <;> simp [Tables.OtherText, and_comm]
  simp only [prunableTokens, Clause.truth, truth_ownedCompare, Truth.and_eq_holds,
    Truth.or_eq_holds, Frame.operand, Frame.column_bind_self, howner, Frame.param_bind, hcutoff,
    hnow, lt_truth_timestamp, ne_truth_text hstatus, ne_truth_partner h, Tables.Eligible, hother]

/-- The batch of tokens. -/
def tokenBatch : Batch :=
  ⟨.token, "t", some ⟨.authorization, "a", ⟨some "t", "authorization_id"⟩⟩, prunableTokens, 3⟩

/-- The batch of authorizations. -/
def authorizationBatch : Batch := ⟨.authorization, "a", none, prunableAuthorizations, 2⟩

theorem candidates_tokenBatch (h : t.StoredIn key) (limit : Param) :
    tokenBatch.candidates (.ofTables t)
        [.timestamp (some criteria.cutoff), .timestamp (some criteria.now), limit] =
      (((t.rows .token).filter (t.isPrunable .token criteria)).map Row.tuple : List _) := by
  refine candidates_ofTables fun row hrow => ?_
  obtain ⟨i, hi⟩ := Tables.mem_rows.mp hrow
  let f : Frame := ⟨.ofTables t, [.timestamp (some criteria.cutoff),
    .timestamp (some criteria.now), limit], 0, fun _ _ => .null⟩
  have htruth := truth_prunableTokens (f := f) h hi rfl rfl
  refine ⟨_, ?_, htruth.trans (Tables.isPrunable_iff h.keyed hi).symm⟩
  change ((Join.partners _ (f.bind (some "t") row.tuple)).map _) = _
  rw [partners_eq h hi rfl, Multiset.map_singleton]
  rfl

theorem candidates_authorizationBatch (h : t.StoredIn key) (limit : Param) :
    authorizationBatch.candidates (.ofTables t) [.timestamp (some criteria.cutoff), limit] =
      (((t.rows .authorization).filter (t.isPrunable .authorization criteria)).map
        Row.tuple : List _) := by
  refine candidates_ofTables fun row hrow => ?_
  obtain ⟨i, hi⟩ := Tables.mem_rows.mp hrow
  exact ⟨_, rfl, (truth_prunableAuthorizations h hi rfl rfl).trans
    (Tables.isPrunable_iff h.keyed hi).symm⟩

/-- **Pruning is the same in both.** -/
theorem pruneBatch_runs_iff (h : t.StoredIn key) {s : Statement}
    (hs : pruneBatch kind criteria = some s) {answer : Answer} {after : Database} :
    s.Runs key (.ofTables t) answer after ↔
      answer = .removed (t.pruneBatch kind criteria).1 ∧
        after = .ofTables (t.pruneBatch kind criteria).2 := by
  have hops : (Operation.pruneBatch kind criteria).statements = .ok [s] := by
    rw [Operation.statements, hs]
    rfl
  rw [runs_iff _ hops List.mem_cons_self, Command.Executes]
  cases kind with
  | application | scope => cases hs
  | token =>
    cases hs
    rw [and_iff_right]
    · exact deleteBatch_runs_iff h (candidates_tokenBatch h _) (countAt?_ofCount [_, _] [] _)
    · have hlimit := countAt?_ofCount [.timestamp (some criteria.cutoff),
        .timestamp (some criteria.now)] [] criteria.batchSize
      simp only [Command.accepted, Bool.and_eq_true]
      refine ⟨⟨⟨?_, ?_⟩, ?_⟩, rfl⟩
      · cases key <;> rfl
      · cases key <;> rfl
      · exact Option.isSome_iff_exists.mpr ⟨_, hlimit⟩
  | authorization =>
    cases hs
    rw [and_iff_right]
    · exact deleteBatch_runs_iff h (candidates_authorizationBatch h _) (countAt?_ofCount [_] [] _)
    · have hlimit := countAt?_ofCount [.timestamp (some criteria.cutoff)] [] criteria.batchSize
      simp only [Command.accepted, Bool.and_eq_true]
      refine ⟨⟨⟨?_, rfl⟩, ?_⟩, ?_⟩
      · cases key <;> rfl
      · exact Option.isSome_iff_exists.mpr ⟨_, hlimit⟩
      · cases key <;> rfl

end Prunable

end Sql

end GrantLedger
