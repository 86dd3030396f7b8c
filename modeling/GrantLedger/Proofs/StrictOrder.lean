import GrantLedger.Proofs.Ordering
import GrantLedger.Tables

/-!
# Queries order rows strictly

An accepted query ends with the identifier, so that rows with different identifiers never compare
equal.  Its comparison is then a strict total order of these rows, and there is one way only to list
them in it, however they are stored.

The rows have to be of their declared types.  Cells of different types have no common order and
count as equal, so that without the types the comparison is not transitive.  Where cells do have a
common order, it is a part of one order of all cells (`Cell.order_keyed`).

* `strictOn_compare`: the comparison of an accepted query is strict on typed rows.
* `StrictOn.eq_of_perm`: a strict order allows one sequence.
* `order_exact`: the main result.
-/

namespace GrantLedger

/-! ## 1. Cells with a common order -/

/-- A cell with a text as a textual key, which is what keys compare it as. -/
def Cell.keyed : Cell → Cell
  | .text s => .key (.text s)
  | c => c

/-- Cells that have a common order are compared by one order of all cells. -/
theorem Cell.order_keyed {x y : Cell} {o : Ordering} (h : x.compare? y = some o) :
    x.keyed.order y.keyed = o := by
  cases x with
  | null => cases h
  | key j =>
    cases y with
    | key k => exact Option.some.inj h
    | text s => cases j <;> first | exact Option.some.inj h | cases h
    | null | timestamp => cases j <;> cases h
  | text s =>
    cases y with
    | key k => cases k <;> first | exact Option.some.inj h | cases h
    | text r => exact Option.some.inj h
    | null | timestamp => cases h
  | timestamp t =>
    cases y with
    | timestamp u => exact Option.some.inj h
    | null | key | text => cases h

/-- The other way round, cells compare the other way round or not at all. -/
theorem Cell.compare?_swap (x y : Cell) : y.compare? x = (x.compare? y).map Ordering.swap := by
  have hsome : (y.compare? x).isSome = (x.compare? y).isSome := by
    cases x with
    | key j => cases y <;> cases j <;> rfl
    | text s =>
      cases y with
      | key k => cases k <;> rfl
      | null | text | timestamp => rfl
    | null | timestamp =>
      cases y with
      | key k => cases k <;> rfl
      | null | text | timestamp => rfl
  cases hxy : x.compare? y with
  | none =>
    rw [hxy, Option.isSome_none, Option.isSome_eq_false_iff, Option.isNone_iff_eq_none] at hsome
    rw [hsome, Option.map_none]
  | some o =>
    rw [hxy, Option.isSome_some, Option.isSome_iff_exists] at hsome
    obtain ⟨p, hyx⟩ := hsome
    rw [hyx, Option.map_some, ← order_keyed hxy, ← order_keyed hyx]
    exact congrArg some Std.OrientedCmp.eq_swap

/-- Smaller than a smaller cell is smaller, if there is a common order. -/
theorem Cell.compare?_trans {x y z : Cell} (hxy : x.compare? y = some .lt)
    (hyz : y.compare? z = some .lt) (hxz : (x.compare? z).isSome) : x.compare? z = some .lt := by
  obtain ⟨o, ho⟩ := Option.isSome_iff_exists.mp hxz
  have hlt : x.keyed.order z.keyed = .lt :=
    Std.TransCmp.lt_trans (order_keyed hxy) (order_keyed hyz)
  rw [ho, ← order_keyed ho, hlt]

/-! ## 2. Strict orders -/

section Strict

variable {α : Type} {cmp : α → α → Ordering} {l r : List α}

/-- Whether a comparison puts the elements of a list into a strict total order. -/
structure StrictOn (cmp : α → α → Ordering) (l : List α) : Prop where
  swap : ∀ a ∈ l, ∀ b ∈ l, cmp b a = (cmp a b).swap
  trans : ∀ a ∈ l, ∀ b ∈ l, ∀ c ∈ l, cmp a b = .lt → cmp b c = .lt → cmp a c = .lt
  eq_iff : ∀ a ∈ l, ∀ b ∈ l, cmp a b = .eq ↔ a = b

theorem StrictOn.mono (h : StrictOn cmp l) (hsub : r ⊆ l) : StrictOn cmp r where
  swap a ha b hb := h.swap a (hsub ha) b (hsub hb)
  trans a ha b hb c hc := h.trans a (hsub ha) b (hsub hb) c (hsub hc)
  eq_iff a ha b hb := h.eq_iff a (hsub ha) b (hsub hb)

/-- **A strict order allows one sequence** of the elements of a list. -/
theorem StrictOn.eq_of_perm (h : StrictOn cmp l) (hperm : r.Perm l)
    (hr : r.Pairwise fun a b => cmp a b ≠ .gt) (hl : l.Pairwise fun a b => cmp a b ≠ .gt) :
    r = l := by
  refine List.Perm.eq_of_pairwise ?_ hr hl hperm
  intro a b ha hb hab hba
  have ha := hperm.mem_iff.mp ha
  rw [h.swap a ha b hb] at hba
  refine (h.eq_iff a ha b hb).mp ?_
  cases hcmp : cmp a b with
  | eq => rfl
  | lt => rw [hcmp] at hba; exact absurd rfl hba
  | gt => exact absurd hcmp hab

end Strict

/-! ## 3. The identifier decides -/

variable {kind : EntityKind} {a b : Row} {terms : List OrderTerm}

/-- Cells of an identifier column are equal if neither stands before the other. -/
theorem Cell.eq_of_order {a b : Cell} (ha : a.Fits .key) (hb : b.Fits .key)
    (h : a.order b = .eq) : a = b := by
  cases a with
  | null => cases b <;> first | rfl | cases h
  | key j =>
    cases b with
    | key k => rw [Std.LawfulEqOrd.eq_of_compare h]
    | _ => cases h
  | text | timestamp => cases ha

theorem Row.Typed.id {row : Row} (h : row.Typed kind) : (row.cell "id").Fits .key :=
  h ⟨"id", .key⟩ (by cases kind <;> exact List.mem_cons_self)

theorem RowQuery.exists_id_withTieBreak (order : List OrderTerm) :
    ∃ term ∈ withTieBreak order, term.column = "id" := by
  rw [withTieBreak]
  split
  · next h =>
    obtain ⟨term, hlast, hname⟩ := Option.map_eq_some_iff.mp h
    exact ⟨term, List.mem_of_getLast? hlast, hname⟩
  · exact ⟨⟨"id", .asc⟩, by simp, rfl⟩

/-- Rows that compare equal by an order with the identifier have the same identifier. -/
theorem id_eq_of_orderBy (hid : ∃ term ∈ terms, term.column = "id") (ha : a.Typed kind)
    (hb : b.Typed kind) (h : orderBy terms a b = .eq) : a.cell "id" = b.cell "id" := by
  obtain ⟨term, hmem, hname⟩ := hid
  have hterm : term.order a b = .eq := by
    clear hname
    induction terms with
    | nil => cases hmem
    | cons first rest ih =>
      rw [orderBy, compareLex, Ordering.then_eq_eq] at h
      rcases List.mem_cons.mp hmem with rfl | hmem
      · exact h.1
      · exact ih h.2 hmem
  obtain ⟨column, direction⟩ := term
  obtain rfl : column = "id" := hname
  cases direction with
  | asc => exact Cell.eq_of_order ha.id hb.id hterm
  | desc => exact (Cell.eq_of_order hb.id ha.id hterm).symm

/-- The answers of an accepted query stand in its order, which has the identifier. -/
theorem ordered_answers {filter : Filter} {order : List OrderTerm} {query : RowQuery}
    {rows : List Row} (hquery : RowQuery.make kind filter order = .ok query)
    (htyped : ∀ row ∈ rows, row.Typed kind) :
    (∀ term ∈ query.order, kind.Declares term.column) ∧
      (∃ term ∈ query.order, term.column = "id") ∧
      (query.answers rows).Pairwise fun a b => (orderBy query.order a b).isLE := by
  obtain ⟨-, horder, rfl⟩ := RowQuery.make_eq_ok_iff.mp hquery
  have hdeclared := RowQuery.declares_withTieBreak horder
  refine ⟨hdeclared, RowQuery.exists_id_withTieBreak order, ?_⟩
  have hcompare : ∀ a ∈ rows.filter filter.holds, ∀ b ∈ rows.filter filter.holds,
      compareBy (RowQuery.withTieBreak order) a b = orderBy (RowQuery.withTieBreak order) a b :=
    fun a ha b hb => compareBy_eq_orderBy hdeclared (htyped a (List.mem_of_mem_filter ha))
      (htyped b (List.mem_of_mem_filter hb))
  simp only [RowQuery.answers, RowQuery.sort, RowQuery.compare]
  rw [RowQuery.sortBy_congr fun a ha b hb => by rw [hcompare a ha b hb]]
  exact RowQuery.pairwise_sortBy _

/-! ## 4. Where NULL stands -/

/-- An earlier part of an order decides unless it finds two rows equal. -/
theorem compareBy_append (before after : List OrderTerm) (a b : Row) :
    compareBy (before ++ after) a b = (compareBy before a b).then (compareBy after a b) := by
  induction before with
  | nil => rfl
  | cons term rest ih => rw [List.cons_append, compareBy, compareBy, ih, Ordering.then_assoc]

/-- How NULL compares with a value in a direction. -/
def Direction.ofNull : Direction → Ordering
  | .asc => .gt
  | .desc => .lt

theorem OrderTerm.compare_null {term : OrderTerm} (ha : a.cell term.column = .null)
    (hb : b.cell term.column ≠ .null) : term.compare a b = term.direction.ofNull := by
  have hcells : (a.cell term.column).compareNullsLast (b.cell term.column) = .gt := by
    rw [ha]
    cases hcell : b.cell term.column <;> first | rfl | exact absurd hcell hb
  rw [OrderTerm.compare, hcells]
  cases term.direction <;> rfl

namespace RowQuery

variable {filter : Filter} {order : List OrderTerm} {query : RowQuery} {rows : List Row}

/-- The first term by which two rows differ decides, also where one of them has no value. -/
theorem compare_null {before after : List OrderTerm} {term : OrderTerm}
    (horder : query.order = before ++ term :: after) (hbefore : compareBy before a b = .eq)
    (ha : a.cell term.column = .null) (hb : b.cell term.column ≠ .null) :
    query.compare a b = term.direction.ofNull := by
  rw [compare, horder, compareBy_append, hbefore, Ordering.eq_then, compareBy,
    OrderTerm.compare_null ha hb]
  cases term.direction <;> rfl

/-! ## 5. Accepted queries -/

/-- **The comparison of an accepted query is a strict total order** of typed rows with different
identifiers. -/
theorem strictOn_compare (hquery : make kind filter order = .ok query)
    (htyped : ∀ row ∈ rows, row.Typed kind) (hdistinct : (rows.map (·.cell "id")).Nodup) :
    StrictOn query.compare rows := by
  obtain ⟨hdeclared, hid, -⟩ := ordered_answers hquery htyped
  have hcompare : ∀ a ∈ rows, ∀ b ∈ rows, query.compare a b = orderBy query.order a b :=
    fun a ha b hb => compareBy_eq_orderBy hdeclared (htyped a ha) (htyped b hb)
  constructor
  case swap =>
    intro a ha b hb
    rw [hcompare a ha b hb, hcompare b hb a ha]
    exact Std.OrientedCmp.eq_swap
  case trans =>
    intro a ha b hb c hc
    rw [hcompare a ha b hb, hcompare b hb c hc, hcompare a ha c hc]
    exact Std.TransCmp.lt_trans
  case eq_iff =>
    intro a ha b hb
    rw [hcompare a ha b hb]
    constructor
    · intro heq
      have hcells := id_eq_of_orderBy hid (htyped a ha) (htyped b hb) heq
      exact List.inj_on_of_nodup_map hdistinct ha hb hcells
    · rintro rfl
      exact Std.ReflCmp.compare_self

/-- The answers stand in strictly rising order. -/
theorem pairwise_answers (hquery : make kind filter order = .ok query)
    (htyped : ∀ row ∈ rows, row.Typed kind) (hdistinct : (rows.map (·.cell "id")).Nodup) :
    (query.answers rows).Pairwise fun a b => query.compare a b = .lt := by
  obtain ⟨hdeclared, -, hordered⟩ := ordered_answers hquery htyped
  have hstrict := strictOn_compare hquery htyped hdistinct
  have hperm := query.answers_perm rows
  have hsub : query.answers rows ⊆ rows := fun row hrow =>
    List.mem_of_mem_filter (hperm.mem_iff.mp hrow)
  have hnodup : (query.answers rows).Nodup :=
    hperm.nodup_iff.mpr ((List.Nodup.of_map _ hdistinct).sublist List.filter_sublist)
  refine (hordered.and hnodup).imp_of_mem ?_
  rintro a b ha hb ⟨hle, hne⟩
  have ha := hsub ha
  have hb := hsub hb
  rw [← compareBy_eq_orderBy hdeclared (htyped a ha) (htyped b hb)] at hle
  have hne : query.compare a b ≠ .eq := mt (hstrict.eq_iff a ha b hb).mp hne
  exact Ordering.isLE_iff_eq_lt_or_eq_eq.mp hle |>.resolve_right hne

/-- **The answers are the one sorted list** of the rows that pass the filter. -/
theorem eq_answers (hquery : make kind filter order = .ok query)
    (htyped : ∀ row ∈ rows, row.Typed kind) (hdistinct : (rows.map (·.cell "id")).Nodup)
    {sorted : List Row} (hperm : sorted.Perm (rows.filter filter.holds))
    (hsorted : sorted.Pairwise fun a b => query.compare a b ≠ .gt) :
    sorted = query.answers rows := by
  rw [← filter_of_make hquery] at hperm
  have hanswers := query.answers_perm rows
  have hstrict : StrictOn query.compare (query.answers rows) :=
    (strictOn_compare hquery htyped hdistinct).mono fun row hrow =>
      List.mem_of_mem_filter (hanswers.mem_iff.mp hrow)
  refine hstrict.eq_of_perm (hperm.trans hanswers.symm) hsorted ?_
  refine (pairwise_answers hquery htyped hdistinct).imp fun hlt => ?_
  rw [hlt]
  exact Ordering.noConfusion

/-- Rows that are stored in another order are answered in the same one. -/
theorem answers_congr (hquery : make kind filter order = .ok query)
    (htyped : ∀ row ∈ rows, row.Typed kind) (hdistinct : (rows.map (·.cell "id")).Nodup)
    {stored : List Row} (hstored : stored.Perm rows) :
    query.answers stored = query.answers rows := by
  have htyped' : ∀ row ∈ stored, row.Typed kind := fun row hrow =>
    htyped row (hstored.mem_iff.mp hrow)
  have hdistinct' : (stored.map (·.cell "id")).Nodup :=
    (hstored.map _).nodup_iff.mpr hdistinct
  refine eq_answers hquery htyped hdistinct ?_ ?_
  · rw [← filter_of_make hquery]
    exact (query.answers_perm stored).trans (hstored.filter _)
  · refine (pairwise_answers hquery htyped' hdistinct').imp fun hlt => ?_
    rw [hlt]
    exact Ordering.noConfusion

/-- **The order of a query is a strict total order.**  Take an accepted query and rows of declared
types with different identifiers.

* Its comparison is antisymmetric and transitive on the rows, and only a row itself compares equal.
* By the first term that tells two rows apart, NULL stands behind all values if the term is
  ascending and before them if it is descending.
* There is one sorted list of the rows that pass the filter.  In whatever order the rows are stored,
  a query and a selection from tables answer with the window of this list.

Cells of any types compare antisymmetrically, and transitively where they have a common order. -/
theorem order_exact (hquery : make kind filter order = .ok query)
    (htyped : ∀ row ∈ rows, row.Typed kind) (hdistinct : (rows.map (·.cell "id")).Nodup) :
    StrictOn query.compare rows ∧
    (∀ before term after, query.order = before ++ term :: after → ∀ a ∈ rows, ∀ b ∈ rows,
      compareBy before a b = .eq → a.cell term.column = .null → b.cell term.column ≠ .null →
        query.compare a b = term.direction.ofNull) ∧
    (∃ sorted : List Row,
      (sorted.Perm (rows.filter filter.holds) ∧
        sorted.Pairwise fun a b => query.compare a b = .lt) ∧
      (∀ other : List Row, other.Perm (rows.filter filter.holds) →
        (other.Pairwise fun a b => query.compare a b ≠ .gt) → other = sorted) ∧
      ∀ stored : List Row, stored.Perm rows → ∀ offset limit,
        (query.window offset limit).run stored = slice offset limit sorted ∧
        ∀ t : Tables, t.rows kind = stored →
          t.select kind (query.window offset limit) = slice offset limit sorted) ∧
    (∀ x y : Cell, y.compare? x = (x.compare? y).map Ordering.swap) ∧
    ∀ x y z : Cell, x.compare? y = some .lt → y.compare? z = some .lt →
      (x.compare? z).isSome → x.compare? z = some .lt := by
  refine ⟨strictOn_compare hquery htyped hdistinct, ?_, ?_, Cell.compare?_swap,
    fun _ _ _ => Cell.compare?_trans⟩
  · intro before term after horder a _ b _ hbefore ha hb
    exact compare_null horder hbefore ha hb
  · refine ⟨query.answers rows, ⟨?_, pairwise_answers hquery htyped hdistinct⟩, ?_, ?_⟩
    · rw [← filter_of_make hquery]
      exact query.answers_perm rows
    · intro other hperm hother
      exact eq_answers hquery htyped hdistinct hperm hother
    · intro stored hstored offset limit
      have hrun : (query.window offset limit).run stored = slice offset limit
          (query.answers rows) :=
        congrArg (slice offset limit) (answers_congr hquery htyped hdistinct hstored)
      refine ⟨hrun, ?_⟩
      rintro t rfl
      exact hrun

/-- Three tokens, of which two were created at one instant by different clocks and one has no date.
-/
def datedTokens : List Row := [
  .ofList [("id", .key (.text "a")), ("creation_date", .timestamp ⟨3_600_000_000_000, 60⟩)],
  .ofList [("id", .key (.int 2)), ("creation_date", .timestamp ⟨0, 0⟩)],
  .ofList [("id", .key (.int 1))]]

/-- By falling date the token without one comes first, and of the two that were created at once the
one with the number; stored the other way round they are answered alike. -/
theorem order_exact_datedTokens :
    (∀ row ∈ datedTokens, row.Typed .token) ∧ (datedTokens.map (·.cell "id")).Nodup ∧
      ∃ query, make .token .all [⟨"creation_date", .desc⟩] = .ok query ∧
        StrictOn query.compare datedTokens ∧
        (query.window 0 (some 2)).run datedTokens.reverse =
          (query.window 0 (some 2)).run datedTokens ∧
        ((query.window 0 (some 2)).run datedTokens).map (·.cell "id") =
          [.key (.int 1), .key (.int 2)] := by
  have htyped : ∀ row ∈ datedTokens, row.Typed .token := by decide
  have hdistinct : (datedTokens.map (·.cell "id")).Nodup := by decide
  have hquery : make .token .all [⟨"creation_date", .desc⟩] =
      .ok ⟨.all, [⟨"creation_date", .desc⟩, ⟨"id", .asc⟩], 0, none⟩ := by decide +kernel
  obtain ⟨hstrict, -, ⟨sorted, -, -, hrun⟩, -⟩ := order_exact hquery htyped hdistinct
  refine ⟨htyped, hdistinct, _, hquery, hstrict, ?_, by decide +kernel⟩
  rw [(hrun _ (List.reverse_perm _) 0 (some 2)).1, (hrun _ (.refl _) 0 (some 2)).1]

end RowQuery

end GrantLedger
