import GrantLedger.Proofs.SqlConditions
import GrantLedger.Proofs.SqlReading
import GrantLedger.Proofs.StrictOrder

/-!
# Queries as statements

The statements of a query and of a count answer what the tables in memory answer.  The rows have to
be of their declared types and must not share an identifier.

* `sorts_iff`: an order that ends with the identifier allows one sequence of rows only.
* `matching_ofTables`: a condition that says what a test does selects the rows that pass it.
* `queries_agree`: the main result.
-/

namespace GrantLedger

namespace Sql

variable {key : KeyKind} {kind : EntityKind} {t : Tables} {rows : List Row} {a b : Row}
variable {terms : List OrderTerm}

/-- The database that holds the rows of the tables. -/
def Database.ofTables (t : Tables) : Database := fun kind => ((t.rows kind).map Row.tuple : List _)

/-- The largest number of rows that a parameter can stand for; larger ones are cut.  No memory holds
as many rows. -/
def maxCount : Nat := 9_223_372_036_854_775_807

/-- What is asked of the rows of a kind: their cells are of the declared types, no two have the same
identifier, and there are no more of them than a parameter can stand for. -/
structure StoredRows (key : KeyKind) (kind : EntityKind) (rows : List Row) : Prop where
  typed : ∀ row ∈ rows, row.TypedIn key kind
  distinct : (rows.map (·.cell "id")).Nodup
  countable : rows.length ≤ maxCount

/-! ## 1. Order -/

/-- Typed rows are sorted as their tuples are. -/
theorem tupleOrder_tuple (hterms : ∀ term ∈ terms, kind.Declares term.column)
    (ha : a.TypedIn key kind) (hb : b.TypedIn key kind) :
    tupleOrder terms a.tuple b.tuple = orderBy terms a b := by
  rw [← compareBy_eq_orderBy hterms ha.typed hb.typed]
  induction terms with
  | nil => rfl
  | cons term rest ih =>
    rw [List.forall_mem_cons] at hterms
    obtain ⟨column, hmem, -, hname⟩ := hterms.1.exists_column?
    have hcells := Value.order_ofCell (ha column hmem).keyOf (hb column hmem).keyOf
    rw [hname] at hcells
    rw [tupleOrder, compareBy, ih hterms.2, termOrder, OrderTerm.compare, ← hcells]
    rfl

/-- **An order with the identifier allows one sequence only.** -/
theorem sorts_iff (hterms : ∀ term ∈ terms, kind.Declares term.column)
    (hid : ∃ term ∈ terms, term.column = "id") (htyped : ∀ row ∈ rows, row.TypedIn key kind)
    (hdistinct : (rows.map (·.cell "id")).Nodup)
    (hordered : rows.Pairwise fun a b => (orderBy terms a b).isLE) {sorted : List Tuple} :
    Sorts terms (rows.map Row.tuple : List _) sorted ↔ sorted = rows.map Row.tuple := by
  have hrows : (rows.map Row.tuple).Pairwise fun a b => (tupleOrder terms a b).isLE := by
    rw [List.pairwise_map]
    refine hordered.imp_of_mem fun ha hb hle => ?_
    rwa [tupleOrder_tuple hterms (htyped _ ha) (htyped _ hb)]
  constructor
  · rintro ⟨hsame, hsorted⟩
    -- tuples that compare equal have one identifier, so they come from the same row
    refine List.Perm.eq_of_pairwise ?_ hsorted hrows (Multiset.coe_eq_coe.mp hsame)
    intro x y hx hy hxy hyx
    rw [← Multiset.mem_coe, hsame, Multiset.mem_coe] at hx
    obtain ⟨a, ha, rfl⟩ := List.mem_map.mp hx
    obtain ⟨b, hb, rfl⟩ := List.mem_map.mp hy
    rw [tupleOrder_tuple hterms (htyped a ha) (htyped b hb)] at hxy
    rw [tupleOrder_tuple hterms (htyped b hb) (htyped a ha)] at hyx
    have heq := Std.OrientedCmp.isLE_antisymm hxy hyx
    have hcells := id_eq_of_orderBy hid (htyped a ha).typed (htyped b hb).typed heq
    rw [List.inj_on_of_nodup_map hdistinct ha hb hcells]
  · rintro rfl
    exact ⟨rfl, hrows⟩

/-! ## 2. Conditions and windows -/

/-- **A condition that says what a test does selects the rows that pass it.** -/
theorem matching_ofTables {params : List Param} {condition : Option Clause} {test : Row → Bool}
    (h : Says key kind params condition test) (htyped : ∀ row ∈ t.rows kind, row.TypedIn key kind) :
    (Database.ofTables t).matching params kind condition =
      (((t.rows kind).filter test).map Row.tuple : List _) := by
  rw [Database.matching, Database.ofTables, Multiset.filter_coe, List.filter_map]
  congr 2
  refine List.filter_congr fun row hrow => ?_
  have := h.satisfied (Database.ofTables t) row (htyped row hrow)
  rw [Function.comp_apply, Bool.decide_eq_true]
  exact this

/-- A number of rows is cut at the largest one that a parameter can stand for. -/
theorem count?_ofCount (n : Nat) :
    (Param.ofCount n).count? = some (min n maxCount) := by
  have hcast : min (n : Int) 9_223_372_036_854_775_807 = (min n maxCount : Nat) := by
    rw [maxCount]
    omega
  have hle : min n maxCount ≤ 9_223_372_036_854_775_807 := Nat.min_le_right _ _
  rw [Param.ofCount, Param.count?, hcast, Int64.toInt_ofInt_of_le (by omega) (by omega),
    if_pos (Int.natCast_nonneg _), Int.toNat_natCast]

theorem countAt?_ofCount (before after : List Param) (n : Nat) :
    countAt? (before ++ Param.ofCount n :: after) (before.length + 1) = some (min n maxCount) := by
  rw [countAt?, param?_slot, Option.bind_some, count?_ofCount]

/-- The window of a statement, by what is skipped and what is left. -/
theorem upToLimit_afterOffset {α : Type} (offset limit : Option Nat) (l : List α) :
    upToLimit limit (afterOffset offset l) = RowQuery.slice (offset.getD 0) limit l := by
  cases offset <;> cases limit <;> rfl

theorem slice_map {α β : Type} (f : α → β) (offset : Nat) (limit : Option Nat) (l : List α) :
    RowQuery.slice offset limit (l.map f) = (RowQuery.slice offset limit l).map f := by
  cases limit <;> simp [RowQuery.slice, List.map_drop, List.map_take]

/-- A list no longer than a number is cut as at the number or before. -/
theorem take_min {α : Type} {l : List α} {largest : Nat} (h : l.length ≤ largest) (n : Nat) :
    l.take (min n largest) = l.take n := by
  rw [List.take_eq_take_min, List.take_eq_take_min (i := n)]
  congr 1
  omega

/-- Cutting a window at the length of a list does not change what is inside. -/
theorem slice_min {α : Type} {l : List α} {largest : Nat} (h : l.length ≤ largest) (offset : Nat)
    (limit : Option Nat) :
    RowQuery.slice (min offset largest) (limit.map (min · largest)) l =
      RowQuery.slice offset limit l := by
  have hdrop : l.drop (min offset largest) = l.drop offset := by
    rcases Nat.le_total offset largest with hle | hle
    · rw [Nat.min_eq_left hle]
    · rw [Nat.min_eq_right hle, List.drop_eq_nil_of_le h, List.drop_eq_nil_of_le (h.trans hle)]
  cases limit with
  | none => exact hdrop
  | some n =>
    have hlength : (l.drop offset).length ≤ largest := by
      rw [List.length_drop]
      omega
    rw [Option.map_some, RowQuery.slice, RowQuery.slice, hdrop, take_min hlength]

/-! ## 3. Statements -/

section Statements

variable {filter : Filter} {order : List OrderTerm} {query : RowQuery} {condition : Option Clause}
variable {own : List Param}

/-- The parameters of the window of a query. -/
def windowParams (query : RowQuery) : List Param :=
  query.limit.toList.map Param.ofCount ++
    if query.offset = 0 then [] else [Param.ofCount query.offset]

/-- The numbers of the limit and the offset, behind a number of other parameters. -/
def windowSlots (query : RowQuery) (bound : Nat) : Option Nat × Option Nat :=
  (query.limit.map fun _ => bound + 1,
    if query.offset = 0 then none else some (bound + query.limit.toList.length + 1))

theorem select_of_bind (h : bindConditions kind key 1 query.filter.conditions =
    .ok (condition, own)) : select kind key query =
      .ok ⟨.select kind condition query.order (windowSlots query own.length).1
        (windowSlots query own.length).2, own ++ windowParams query⟩ := by
  simp [select, h, windowSlots, windowParams]

theorem countAt?_limit (query : RowQuery) (own : List Param) :
    (windowSlots query own.length).1.bind (countAt? (own ++ windowParams query)) =
      query.limit.map (min · maxCount) := by
  rw [windowSlots, windowParams]
  cases query.limit with
  | none => rfl
  | some n => exact countAt?_ofCount own _ n

theorem countAt?_offset (query : RowQuery) (own : List Param) :
    (windowSlots query own.length).2.bind (countAt? (own ++ windowParams query)) =
      if query.offset = 0 then none
      else some (min query.offset maxCount) := by
  rw [windowSlots, windowParams]
  split
  · rfl
  · have := countAt?_ofCount (own ++ query.limit.toList.map Param.ofCount) [] query.offset
    rwa [List.append_assoc, List.length_append, List.length_map] at this

theorem all_isSome_windowSlots (query : RowQuery) (own : List Param) :
    ((windowSlots query own.length).1.all fun n =>
        (countAt? (own ++ windowParams query) n).isSome) ∧
      (windowSlots query own.length).2.all fun n =>
        (countAt? (own ++ windowParams query) n).isSome := by
  have hlimit := countAt?_limit query own
  have hoffset := countAt?_offset query own
  constructor
  · cases h : query.limit <;> simp_all [windowSlots]
  · by_cases h : query.offset = 0 <;> simp_all [windowSlots]

/-- The window of a statement is the window of its query. -/
theorem upToLimit_windowSlots {α : Type} {l : List α} (h : l.length ≤ maxCount) :
    upToLimit ((windowSlots query own.length).1.bind (countAt? (own ++ windowParams query)))
        (afterOffset ((windowSlots query own.length).2.bind
          (countAt? (own ++ windowParams query))) l) =
      RowQuery.slice query.offset query.limit l := by
  rw [upToLimit_afterOffset, countAt?_limit, countAt?_offset,
    ← slice_min h query.offset query.limit]
  congr 1
  split
  · next hzero => rw [hzero]; rfl
  · rfl

/-- The filter of an accepted query says what it tests, wherever its parameters stand. -/
theorem says_of_make (hquery : RowQuery.make kind filter order = .ok query)
    (hfits : filter.FitsIn key kind) :
    ∃ condition own, bindConditions kind key 1 query.filter.conditions = .ok (condition, own) ∧
      ∀ after, Says key kind (own ++ after) condition query.filter.holds := by
  obtain ⟨hcheck, -, rfl⟩ := RowQuery.make_eq_ok_iff.mp hquery
  have hcolumns : ∀ c ∈ filter.conditions, kind.Declares c.column := by
    simpa only [Filter.check, forM_eq_ok_iff, EntityKind.checkColumn_eq_ok_iff] using hcheck
  exact bindConditions_says hcolumns hfits []

/-- The database may answer a query in one order only: in the order of the answers. -/
theorem sorts_matching_iff (hstored : StoredRows key kind (t.rows kind))
    (hquery : RowQuery.make kind filter order = .ok query) {params : List Param}
    (hmeans : Says key kind params condition query.filter.holds) (sorted : List Tuple) :
    Sorts query.order ((Database.ofTables t).matching params kind condition) sorted ↔
      sorted = (query.answers (t.rows kind)).map Row.tuple := by
  obtain ⟨hdeclared, hid, hordered⟩ :=
    ordered_answers hquery fun row hrow => (hstored.typed row hrow).typed
  have hperm := query.answers_perm (t.rows kind)
  have hsub : ∀ row ∈ query.answers (t.rows kind), row ∈ t.rows kind := fun row hrow =>
    List.mem_of_mem_filter (hperm.mem_iff.mp hrow)
  have hdistinct : ((query.answers (t.rows kind)).map (·.cell "id")).Nodup :=
    (hperm.map _).nodup_iff.mpr (hstored.distinct.sublist (List.filter_sublist.map _))
  rw [matching_ofTables hmeans hstored.typed, ← Multiset.coe_eq_coe.mpr (hperm.map Row.tuple)]
  exact sorts_iff hdeclared hid (fun row hrow => hstored.typed row (hsub row hrow)) hdistinct
    hordered

/-- What a statement takes from the tuples of the answers is what the query takes from them. -/
theorem window_rows (hstored : StoredRows key kind (t.rows kind)) (query : RowQuery)
    (own : List Param) :
    (upToLimit ((windowSlots query own.length).1.bind (countAt? (own ++ windowParams query)))
        (afterOffset ((windowSlots query own.length).2.bind
          (countAt? (own ++ windowParams query)))
          ((query.answers (t.rows kind)).map Row.tuple))).map (listed kind) =
      (t.select kind query).map fun row => listed kind row.tuple := by
  have hlength : (query.answers (t.rows kind)).length ≤ maxCount := by
    rw [(query.answers_perm _).length_eq]
    exact (List.length_filter_le _ _).trans hstored.countable
  rw [upToLimit_windowSlots (by rwa [List.length_map]), slice_map, List.map_map]
  rfl

/-- The statement of a query is accepted: its order is of columns of the kind, and the parameters of
its window are numbers of rows. -/
theorem accepted_select (query : RowQuery) (own : List Param)
    (hterms : ∀ term ∈ query.order, kind.Declares term.column)
    (hcondition : condition.all (·.accepted
      (Names.bind { key, params := own ++ windowParams query } none kind)) = true) :
    (Command.select kind condition query.order (windowSlots query own.length).1
      (windowSlots query own.length).2).accepted key (own ++ windowParams query) = true := by
  have horder : query.order.all fun term => (kind.column? term.column).isSome := by
    rw [List.all_eq_true]
    intro term hterm
    obtain ⟨column, -, hfound, -⟩ := (hterms term hterm).exists_column?
    rw [hfound, Option.isSome_some]
  obtain ⟨hlimit, hoffset⟩ := all_isSome_windowSlots query own
  rw [Command.accepted, hcondition, horder, hlimit, hoffset]
  rfl

/-- The command of a query answers with its rows. -/
theorem select_executes_iff (hstored : StoredRows key kind (t.rows kind))
    (hquery : RowQuery.make kind filter order = .ok query) {offset : Nat} {limit : Option Nat}
    (hmeans : Says key kind (own ++ windowParams (query.window offset limit)) condition
      query.filter.holds) {answer : Answer} {after : Database} :
    (Command.select kind condition query.order
        (windowSlots (query.window offset limit) own.length).1
        (windowSlots (query.window offset limit) own.length).2).Executes key
        (own ++ windowParams (query.window offset limit)) (.ofTables t) answer after ↔
      answer = .rows ((t.select kind (query.window offset limit)).map fun row =>
        listed kind row.tuple) ∧ after = .ofTables t := by
  have hdeclared := (ordered_answers hquery fun row hrow => (hstored.typed row hrow).typed).1
  have hsorts := sorts_matching_iff hstored hquery hmeans
  have hrows := window_rows hstored (query.window offset limit) own
  constructor
  · rintro ⟨-, hrun⟩
    cases hrun with
    | select hsort =>
      obtain rfl := (hsorts _).mp hsort
      exact ⟨congrArg Answer.rows hrows, rfl⟩
  · rintro ⟨rfl, rfl⟩
    rw [← hrows]
    exact ⟨accepted_select _ own hdeclared hmeans.accepted, .select ((hsorts _).mpr rfl)⟩

/-- The command of a count answers with the number of rows that pass the filter. -/
theorem count_executes_iff (htyped : ∀ row ∈ t.rows kind, row.TypedIn key kind)
    (hmeans : Says key kind own condition filter.holds) {answer : Answer} {after : Database} :
    (Command.count kind condition).Executes key own (.ofTables t) answer after ↔
      answer = .number (t.count kind filter) ∧ after = .ofTables t := by
  have hcard : ((Database.ofTables t).matching own kind condition).card =
      t.count kind filter := by
    rw [matching_ofTables hmeans htyped, Multiset.coe_card, List.length_map, Tables.count,
      List.countP_eq_length_filter]
  constructor
  · rintro ⟨-, hrun⟩
    cases hrun
    exact ⟨congrArg Answer.number hcard, rfl⟩
  · rintro ⟨rfl, rfl⟩
    rw [← hcard]
    exact ⟨hmeans.accepted, .count⟩

/-- **The two backends answer queries alike.**  Every window of an accepted query has a statement,
and so has the count of its filter.  The database accepts them, leaves everything as it is, and may
answer in one way only: with the values of the rows that memory answers, in the same order, and with
the same number. -/
theorem queries_agree (hstored : StoredRows key kind (t.rows kind))
    (hquery : RowQuery.make kind filter order = .ok query) (hfits : filter.FitsIn key kind) :
    (∀ offset limit, ∃ s, select kind key (query.window offset limit) = .ok s ∧
      ∀ answer after, s.Runs key (.ofTables t) answer after ↔
        answer = .rows ((t.select kind (query.window offset limit)).map fun row =>
          listed kind row.tuple) ∧ after = .ofTables t) ∧
      ∃ s, count kind key query.filter = .ok s ∧
        ∀ answer after, s.Runs key (.ofTables t) answer after ↔
          answer = .number (t.count kind query.filter) ∧ after = .ofTables t := by
  obtain ⟨condition, own, hbind, hmeans⟩ := says_of_make hquery hfits
  have hown := hmeans []
  rw [List.append_nil] at hown
  have hcount : count kind key query.filter = .ok ⟨.count kind condition, own⟩ := by
    simp [count, hbind]
  refine ⟨fun offset limit => ⟨_, select_of_bind hbind, fun answer after => ?_⟩,
    _, hcount, fun answer after => ?_⟩
  · exact (runs_iff_of_builder (.select kind key (query.window offset limit)) rfl
      (select_of_bind hbind)).trans (select_executes_iff hstored hquery (hmeans _))
  · exact (runs_iff_of_builder (.count kind key query.filter) rfl hcount).trans
      (count_executes_iff hstored.typed hown)

/-- Four applications.  The first has no name, the second no percent sign, the last no type. -/
def fourClients : Tables where
  applications := { rows := .ofList [
    (.int 1, .ofList [("id", .key (.int 1)), ("client_id", .text "5%"), ("type", .text "web")]),
    (.int 2, .ofList [("id", .key (.int 2)), ("client_id", .text "5x"), ("type", .text "web")]),
    (.int 3, .ofList [("id", .key (.int 3)), ("client_id", .text "%"), ("type", .text "app"),
      ("display_name", .text "Three")]),
    (.int 4, .ofList [("id", .key (.int 4)), ("client_id", .text "%4")])] }

/-- Those with a percent sign and one of two types, if there were a NULL type. -/
def percentClients : Filter :=
  (Filter.all.and "client_id" (.contains "%")).and "type" (.oneOf [.null, .text "web", .text "app"])

/-- A row without a type is not found by NULL, and a row without a name is the first when names
fall. -/
theorem queries_agree_fourClients :
    StoredRows .bigint .application (fourClients.rows .application) ∧
      percentClients.FitsIn .bigint .application ∧
      ∃ query, RowQuery.make .application percentClients [⟨"display_name", .desc⟩] = .ok query ∧
        ∃ s, select .application .bigint (query.window 1 (some 5)) = .ok s ∧
          s.Runs .bigint (.ofTables fourClients) (.rows [[.int 3, .text "%", .null, .null, .null,
            .text "Three", .null, .null, .null, .null, .null, .null, .text "app"]])
            (.ofTables fourClients) := by
  have hstored : StoredRows .bigint .application (fourClients.rows .application) :=
    ⟨by decide, by decide, by decide⟩
  have hfits : percentClients.FitsIn .bigint .application := by decide
  have hquery : RowQuery.make .application percentClients [⟨"display_name", .desc⟩] =
      .ok ⟨percentClients, [⟨"display_name", .desc⟩, ⟨"id", .asc⟩], 0, none⟩ := by decide +kernel
  refine ⟨hstored, hfits, _, hquery, ?_⟩
  obtain ⟨s, hs, hruns⟩ := (queries_agree hstored hquery hfits).1 1 (some 5)
  exact ⟨s, hs, (hruns _ _).mpr ⟨by decide, rfl⟩⟩

end Statements

end Sql

end GrantLedger
