import GrantLedger.Proofs.TypedRows
import GrantLedger.Query.RowQuery
import Mathlib.Data.List.Sort

/-!
# The order of a query

Cells of different types have no common order, and the comparison of a query counts them as equal.
That is no order: two texts are equal to one point in time and not to each other.  Rows of declared
types never meet this case.  On them the comparison agrees with `Cell.order`, which puts the types
one after another and is a total preorder on all cells.

* `compareBy_eq_orderBy`: typed rows are compared by a total preorder.
* `eq_of_pairwise_of_classes`: a sorted list is determined by the order of its elements within each
  class of equal ones, so sorting stably has one result only (`sortBy_eq_mergeSort`).
* `sort_eq_mergeSort`: hence a query that is accepted sorts typed rows stably by its comparison.
-/

namespace GrantLedger

/-! ## 1. A total preorder of rows -/

/-- Keys before texts before points in time before NULL; values of one type by their own order. -/
def Cell.order : Cell → Cell → Ordering
  | .null, .null => .eq
  | .null, _ => .gt
  | _, .null => .lt
  | .key a, .key b => compare a b
  | .key _, _ => .lt
  | _, .key _ => .gt
  | .text a, .text b => compare a b
  | .text _, .timestamp _ => .lt
  | .timestamp _, .text _ => .gt
  | .timestamp a, .timestamp b => a.compareInstant b

instance : Std.OrientedCmp Cell.order where
  eq_swap {a b} := by
    cases a <;> cases b <;> first | rfl | exact Std.OrientedOrd.eq_swap

instance : Std.TransCmp Cell.order where
  isLE_trans {a b c} := by
    cases a <;> cases b <;> cases c <;>
      first
        | exact Std.TransOrd.isLE_trans
        | simp [Cell.order]

/-- Cells of one type are compared in this order. -/
theorem Cell.compareNullsLast_of_fits {a b : Cell} {type : ColumnType} (ha : a.Fits type)
    (hb : b.Fits type) : a.compareNullsLast b = a.order b := by
  cases type <;> cases a <;> cases ha <;> cases b <;> cases hb <;> rfl

/-- Compares two rows by one term of an order, whatever the types of the cells. -/
def OrderTerm.order (term : OrderTerm) (a b : Row) : Ordering :=
  match term.direction with
  | .asc => (a.cell term.column).order (b.cell term.column)
  | .desc => (b.cell term.column).order (a.cell term.column)

instance (term : OrderTerm) : Std.TransCmp term.order := by
  obtain ⟨column, direction⟩ := term
  have hasc : Std.TransCmp fun a b : Row => (a.cell column).order (b.cell column) :=
    { eq_swap := Std.OrientedCmp.eq_swap
      isLE_trans := Std.TransCmp.isLE_trans }
  cases direction with
  | asc => exact hasc
  | desc => exact hasc.opposite

/-- Compares two rows by a list of terms, whatever the types of the cells. -/
def orderBy : List OrderTerm → Row → Row → Ordering
  | [], _, _ => .eq
  | term :: rest, a, b => compareLex term.order (orderBy rest) a b

instance (terms : List OrderTerm) : Std.TransCmp (orderBy terms) := by
  induction terms with
  | nil => exact { eq_swap := rfl, isLE_trans := fun _ _ => rfl }
  | cons term rest ih => exact inferInstanceAs (Std.TransCmp (compareLex term.order (orderBy rest)))

variable {kind : EntityKind} {a b : Row} {terms : List OrderTerm}

theorem OrderTerm.compare_eq_order {term : OrderTerm} (hterm : kind.Declares term.column)
    (ha : a.Typed kind) (hb : b.Typed kind) : term.compare a b = term.order a b := by
  obtain ⟨column, hmem, hname⟩ := hterm
  have hcells := Cell.compareNullsLast_of_fits (ha column hmem) (hb column hmem)
  rw [hname] at hcells
  rw [OrderTerm.compare, OrderTerm.order, hcells]
  cases term.direction with
  | asc => rfl
  | desc => exact Std.OrientedCmp.eq_swap.symm

/-- **Typed rows are compared by a total preorder.** -/
theorem compareBy_eq_orderBy (hterms : ∀ term ∈ terms, kind.Declares term.column)
    (ha : a.Typed kind) (hb : b.Typed kind) : compareBy terms a b = orderBy terms a b := by
  induction terms with
  | nil => rfl
  | cons term rest ih =>
    rw [List.forall_mem_cons] at hterms
    rw [compareBy, orderBy, compareLex, OrderTerm.compare_eq_order hterms.1 ha hb, ih hterms.2]

/-! ## 2. Stable sorting -/

section Sorting

variable {α : Type} {cmp : α → α → Ordering}

theorem isLE_total [Std.OrientedCmp cmp] (a b : α) :
    ((cmp a b).isLE || (cmp b a).isLE) = true := by
  have hswap : cmp a b = (cmp b a).swap := Std.OrientedCmp.eq_swap
  rw [hswap]
  cases cmp b a <;> rfl

/-- **A sorted list is determined by its classes of equal elements.** -/
theorem eq_of_pairwise_of_classes [Std.TransCmp cmp] {l r : List α}
    (hl : l.Pairwise fun a b => (cmp a b).isLE) (hr : r.Pairwise fun a b => (cmp a b).isLE)
    (h : ∀ x, l.filter (cmp x · == .eq) = r.filter (cmp x · == .eq)) : l = r := by
  have hself : ∀ x, cmp x x = .eq := fun _ => Std.ReflCmp.compare_self
  have hsub : ∀ {l r : List α}, (∀ x, l.filter (cmp x · == .eq) = r.filter (cmp x · == .eq)) →
      ∀ x ∈ l, x ∈ r := fun h x hx =>
    (List.mem_filter.mp (h x ▸ List.mem_filter.mpr ⟨hx, by simp [hself]⟩)).1
  induction l generalizing r with
  | nil =>
    cases r with
    | nil => rfl
    | cons b r => exact absurd (hsub (fun x => (h x).symm) b List.mem_cons_self) List.not_mem_nil
  | cons a l ih =>
    cases r with
    | nil => exact absurd (hsub h a List.mem_cons_self) List.not_mem_nil
    | cons b r =>
      rw [List.pairwise_cons] at hl hr
      have hab : (cmp a b).isLE := by
        rcases List.mem_cons.mp (hsub (fun x => (h x).symm) b List.mem_cons_self) with rfl | hb
        · simp [hself]
        · exact hl.1 b hb
      have hba : (cmp b a).isLE := by
        rcases List.mem_cons.mp (hsub h a List.mem_cons_self) with rfl | ha
        · simp [hself]
        · exact hr.1 a ha
      -- the heads are of one class, so they are the first elements of it in both lists
      have heq : cmp a b = .eq := Std.OrientedCmp.isLE_antisymm hab hba
      have hhead := h a
      simp only [List.filter_cons, hself, heq, beq_self_eq_true, if_true] at hhead
      obtain ⟨rfl, -⟩ := List.cons.inj hhead
      congr 1
      refine ih hl.2 hr.2 fun x => ?_
      have hx := h x
      simp only [List.filter_cons] at hx
      split at hx
      · exact (List.cons.inj hx).2
      · exact hx

namespace RowQuery

theorem place_perm (precedes : α → α → Bool) (x : α) (l : List α) :
    (place precedes x l).Perm (x :: l) := by
  induction l with
  | nil => exact .refl _
  | cons y rest ih =>
    rw [place]
    split
    · exact (ih.cons y).trans (.swap x y rest)
    · exact .refl _

theorem mem_place {precedes : α → α → Bool} {x y : α} {l : List α} :
    y ∈ place precedes x l ↔ y = x ∨ y ∈ l :=
  (place_perm precedes x l).mem_iff.trans List.mem_cons

/-- Sorting keeps the elements of a list, whatever the relation. -/
theorem sortBy_perm (precedes : α → α → Bool) (l : List α) : (sortBy precedes l).Perm l := by
  suffices hfold : ∀ acc : List α,
      (l.foldl (fun sorted x => place precedes x sorted) acc).Perm (l.reverse ++ acc) by
    refine (List.reverse_perm _).trans ((hfold []).trans ?_)
    rw [List.append_nil]
    exact List.reverse_perm l
  induction l with
  | nil => exact fun _ => .refl _
  | cons x rest ih =>
    intro acc
    rw [List.foldl_cons, List.reverse_cons, List.append_assoc]
    exact (ih _).trans ((place_perm precedes x acc).append_left _)

/-- Placing keeps a list in falling order. -/
theorem pairwise_place [Std.TransCmp cmp] {x : α} {l : List α}
    (h : l.Pairwise fun a b => (cmp b a).isLE) :
    (place (fun a b => cmp a b == .lt) x l).Pairwise fun a b => (cmp b a).isLE := by
  induction l with
  | nil => exact List.pairwise_singleton _ _
  | cons y rest ih =>
    rw [List.pairwise_cons] at h
    rw [place]
    split
    · next hlt =>
      refine List.pairwise_cons.mpr ⟨fun z hz => ?_, ih h.2⟩
      rcases mem_place.mp hz with rfl | hz
      · rw [beq_iff_eq] at hlt
        simp [hlt]
      · exact h.1 z hz
    · next hge =>
      have hyx : (cmp y x).isLE := by
        have hswap : cmp y x = (cmp x y).swap := Std.OrientedCmp.eq_swap
        rw [hswap]
        cases hxy : cmp x y <;> simp_all
      refine List.pairwise_cons.mpr ⟨fun z hz => ?_, List.pairwise_cons.mpr h⟩
      rcases List.mem_cons.mp hz with rfl | hz
      · exact hyx
      · exact Std.TransCmp.isLE_trans (h.1 z hz) hyx

/-- An element is placed in front of those that are equal to it. -/
theorem filter_place [Std.TransCmp cmp] (x y : α) (l : List α) :
    (place (fun a b => cmp a b == .lt) x l).filter (cmp y · == .eq) =
      (x :: l).filter (cmp y · == .eq) := by
  induction l with
  | nil => rfl
  | cons z rest ih =>
    rw [place]
    split
    · next hlt =>
      rw [List.filter_cons, ih]
      by_cases hx : cmp y x = .eq
      · have hz : cmp y z ≠ .eq := by
          rw [Std.TransCmp.congr_left hx]
          simp_all
        simp [hx, hz]
      · simp [List.filter_cons, hx]
    · rfl

/-- Only the elements of a list decide how they are sorted. -/
theorem sortBy_congr {p q : α → α → Bool} {l : List α} (h : ∀ a ∈ l, ∀ b ∈ l, p a b = q a b) :
    sortBy p l = sortBy q l := by
  have hplace : ∀ x ∈ l, ∀ s ⊆ l, place p x s = place q x s := by
    intro x hx s hs
    induction s with
    | nil => rfl
    | cons y rest ih =>
      rw [List.cons_subset] at hs
      rw [place, place, h x hx y hs.1, ih hs.2]
  suffices hfold : ∀ m ⊆ l, ∀ acc ⊆ l, m.foldl (fun sorted x => place p x sorted) acc =
      m.foldl (fun sorted x => place q x sorted) acc by
    rw [sortBy, sortBy, hfold l (List.Subset.refl l) [] (List.nil_subset l)]
  intro m hm
  induction m with
  | nil => exact fun _ _ => rfl
  | cons x rest ih =>
    rw [List.cons_subset] at hm
    intro acc hacc
    rw [List.foldl_cons, List.foldl_cons, hplace x hm.1 acc hacc]
    refine ih hm.2 _ fun y hy => ?_
    rcases mem_place.mp hy with rfl | hy
    · exact hm.1
    · exact hacc hy

theorem pairwise_sortBy [Std.TransCmp cmp] (l : List α) :
    (sortBy (fun a b => cmp a b == .lt) l).Pairwise fun a b => (cmp a b).isLE := by
  suffices hfold : ∀ acc : List α, (acc.Pairwise fun a b => (cmp b a).isLE) →
      (l.foldl (fun sorted x => place (fun a b => cmp a b == .lt) x sorted) acc).Pairwise
        fun a b => (cmp b a).isLE by
    rw [sortBy, List.pairwise_reverse]
    exact hfold [] .nil
  induction l with
  | nil => exact fun _ hacc => hacc
  | cons x rest ih => exact fun acc hacc => ih _ (pairwise_place hacc)

/-- Sorting keeps the order within each class of equal elements. -/
theorem filter_sortBy [Std.TransCmp cmp] (y : α) (l : List α) :
    (sortBy (fun a b => cmp a b == .lt) l).filter (cmp y · == .eq) =
      l.filter (cmp y · == .eq) := by
  suffices hfold : ∀ acc : List α,
      (l.foldl (fun sorted x => place (fun a b => cmp a b == .lt) x sorted) acc).filter
        (cmp y · == .eq) = (l.reverse ++ acc).filter (cmp y · == .eq) by
    rw [sortBy, List.filter_reverse, hfold [], List.append_nil, List.filter_reverse,
      List.reverse_reverse]
  induction l with
  | nil => exact fun _ => rfl
  | cons x rest ih =>
    intro acc
    rw [List.foldl_cons, ih, List.filter_append, filter_place, ← List.filter_append,
      List.reverse_cons, List.append_assoc, List.singleton_append]

/-- Merge sort keeps it, too. -/
theorem filter_mergeSort [Std.TransCmp cmp] (y : α) (l : List α) :
    (l.mergeSort fun a b => (cmp a b).isLE).filter (cmp y · == .eq) =
      l.filter (cmp y · == .eq) := by
  have hclass : (l.filter (cmp y · == .eq)).Pairwise fun a b => (cmp a b).isLE := by
    refine List.pairwise_of_forall_mem_list fun a ha b hb => ?_
    have hya : cmp y a = .eq := by simpa using (List.mem_filter.mp ha).2
    have hyb : cmp y b = .eq := by simpa using (List.mem_filter.mp hb).2
    rw [← Std.TransCmp.congr_left hya, hyb]
    rfl
  have hsub := List.sublist_mergeSort (fun _ _ _ => Std.TransCmp.isLE_trans)
    isLE_total hclass List.filter_sublist
  have hfilter := hsub.filter (cmp y · == .eq)
  rw [List.filter_filter] at hfilter
  simp only [Bool.and_self] at hfilter
  exact (hfilter.eq_of_length ((List.mergeSort_perm l _).filter _).length_eq.symm).symm

/-- **Sorting by a total preorder is stable sorting.** -/
theorem sortBy_eq_mergeSort [Std.TransCmp cmp] (l : List α) :
    sortBy (fun a b => cmp a b == .lt) l = l.mergeSort fun a b => (cmp a b).isLE := by
  refine eq_of_pairwise_of_classes (pairwise_sortBy l) ?_ fun y => ?_
  · exact List.pairwise_mergeSort (fun _ _ _ => Std.TransCmp.isLE_trans)
      isLE_total l
  · rw [filter_sortBy, filter_mergeSort]

end RowQuery

end Sorting

/-! ## 3. Accepted queries -/

/-- A column passes the check of a query exactly if it is declared. -/
theorem EntityKind.checkColumn_eq_ok_iff {name : String} :
    kind.checkColumn name = .ok () ↔ kind.Declares name := by
  rw [checkColumn, column?]
  cases h : kind.columns.find? (·.name == name) with
  | none =>
    rw [List.find?_eq_none] at h
    refine iff_of_false (fun hok => by cases hok) ?_
    rintro ⟨column, hmem, rfl⟩
    exact h column hmem (beq_self_eq_true _)
  | some column =>
    refine iff_of_true rfl ⟨column, List.mem_of_find?_eq_some h, ?_⟩
    simpa using List.find?_some h

/-- A list is checked element by element. -/
theorem forM_eq_ok_iff {ε α : Type} {f : α → Except ε Unit} {l : List α} :
    l.forM f = .ok () ↔ ∀ x ∈ l, f x = .ok () := by
  induction l with
  | nil => exact iff_of_true rfl fun x hx => by cases hx
  | cons x rest ih =>
    change (f x >>= fun _ => rest.forM f) = .ok () ↔ _
    rw [bind_eq_ok_iff, List.forall_mem_cons, ← ih]
    exact ⟨fun ⟨_, hx, hrest⟩ => ⟨hx, hrest⟩, fun ⟨hx, hrest⟩ => ⟨_, hx, hrest⟩⟩

namespace RowQuery

variable {filter : Filter} {order : List OrderTerm} {query : RowQuery} {rows : List Row}

/-- A query that is accepted has the given filter, orders by declared columns, the identifier being
the last of them, and has no window. -/
theorem make_eq_ok_iff : make kind filter order = .ok query ↔
    filter.check kind = .ok () ∧ (∀ term ∈ order, kind.Declares term.column) ∧
      query = { filter, order := withTieBreak order, offset := 0, limit := none } := by
  have hchecked : (order.forM fun term => kind.checkColumn term.column) = .ok () ↔
      ∀ term ∈ order, kind.Declares term.column := by
    simp only [forM_eq_ok_iff, EntityKind.checkColumn_eq_ok_iff]
  simp only [make, bind_eq_ok_iff, ← hchecked]
  constructor
  · rintro ⟨_, hfilter, _, horder, hquery⟩
    cases hquery
    exact ⟨hfilter, horder, rfl⟩
  · rintro ⟨hfilter, horder, rfl⟩
    exact ⟨(), hfilter, (), horder, rfl⟩

theorem filter_of_make (h : make kind filter order = .ok query) : query.filter = filter := by
  rw [(make_eq_ok_iff.mp h).2.2]

/-- A query answers with the rows that satisfy its filter. -/
theorem answers_perm (query : RowQuery) (rows : List Row) :
    (query.answers rows).Perm (rows.filter query.filter.holds) :=
  sortBy_perm _ _

theorem declares_withTieBreak (h : ∀ term ∈ order, kind.Declares term.column) :
    ∀ term ∈ withTieBreak order, kind.Declares term.column := by
  rw [withTieBreak]
  split
  · exact h
  · rw [List.forall_mem_append, List.forall_mem_singleton]
    exact ⟨h, kind.declares_id⟩

/-- **An accepted query sorts typed rows stably by its comparison.** -/
theorem sort_eq_mergeSort (hquery : make kind filter order = .ok query)
    (hrows : ∀ row ∈ rows, row.Typed kind) :
    query.sort rows = rows.mergeSort fun a b => (query.compare a b).isLE := by
  obtain ⟨-, horder, rfl⟩ := make_eq_ok_iff.mp hquery
  have hcompare : ∀ a ∈ rows, ∀ b ∈ rows,
      compareBy (withTieBreak order) a b = orderBy (withTieBreak order) a b := fun a ha b hb =>
    compareBy_eq_orderBy (declares_withTieBreak horder) (hrows a ha) (hrows b hb)
  have hmerge : rows.mergeSort (fun a b => (compareBy (withTieBreak order) a b).isLE) =
      rows.mergeSort fun a b => (orderBy (withTieBreak order) a b).isLE := by
    have := List.map_mergeSort (r := fun a b => (compareBy (withTieBreak order) a b).isLE)
      (s := fun a b => (orderBy (withTieBreak order) a b).isLE) (f := id)
      fun a ha b hb => congrArg Ordering.isLE (hcompare a ha b hb)
    rwa [List.map_id, List.map_id] at this
  simp only [sort, compare]
  rw [sortBy_congr fun a ha b hb => by rw [hcompare a ha b hb], sortBy_eq_mergeSort, hmerge]

end RowQuery

end GrantLedger
