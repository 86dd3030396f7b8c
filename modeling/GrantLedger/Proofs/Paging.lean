import GrantLedger.Proofs.Ordering
import GrantLedger.Record.Scope
import GrantLedger.Store.Paging
import Mathlib.Data.List.Forall2

/-!
# A query read page by page is a window of the answer

Three fields of a cursor work together: its place, how many rows are still wanted, and whether the
last page was short.  What they come to is `Cursor.rest`, the part of an answer that is left behind
the cursor.  A page is the beginning of it and leaves the rest of it (`Cursor.rest_eq_append`), so
the pages of a query, joined, are what is left at its beginning (`streamFrom_eq`).

`paging_eq_window` says this of whole queries, over every table whose rows can be decoded: the
answer is the stably sorted list of matching rows, decoded, inside the window, and the size of the
pages does not show in it.  `cursorAfter` follows the cursors of one query; they reach the end, and
their places stay within 64 bits if the offset and the size of the table do.
-/

namespace GrantLedger

/-! ## 1. Windows of a list -/

namespace RowQuery

variable {α : Type}

theorem slice_none (offset : Nat) (l : List α) : slice offset none l = l.drop offset := rfl

theorem slice_some (offset n : Nat) (l : List α) :
    slice offset (some n) l = (l.drop offset).take n := rfl

/-- A window is a smaller one with the same beginning and, if that one is full, the rows behind it.
-/
theorem slice_eq_append {n : Nat} {limit : Option Nat} (h : ∀ r, limit = some r → n ≤ r)
    (offset : Nat) (l : List α) :
    slice offset limit l = slice offset (some n) l ++
      if (slice offset (some n) l).length < n then []
      else slice (offset + n) (limit.map (· - n)) l := by
  split
  · next hshort =>
    have hlength : (l.drop offset).length < n := by
      rw [slice_some, List.length_take] at hshort
      omega
    rw [List.append_nil, slice_some, List.take_of_length_le (Nat.le_of_lt hlength)]
    cases limit with
    | none => rfl
    | some r => exact List.take_of_length_le (Nat.le_of_lt (Nat.lt_of_lt_of_le hlength (h r rfl)))
  · cases limit with
    | none =>
      rw [Option.map_none, slice_none, slice_none, slice_some, ← List.drop_drop,
        List.take_append_drop]
    | some r =>
      rw [Option.map_some, slice_some, slice_some, slice_some, ← List.drop_drop, ← List.take_add,
        Nat.add_sub_cancel' (h r rfl)]

/-- A window without a limit ends with the list. -/
theorem slice_eq_take (offset : Nat) (limit : Option Nat) (l : List α) :
    slice offset limit l = (l.drop offset).take (limit.getD l.length) := by
  cases limit with
  | none =>
    refine (List.take_of_length_le ?_).symm
    exact List.length_drop ▸ Nat.sub_le _ _
  | some n => rfl

end RowQuery

namespace Store

open RowQuery

/-! ## 2. What is left behind a cursor -/

namespace Cursor

variable {α : Type} {c : Cursor}

/-- The part of an answer that is left behind a cursor. -/
def rest (c : Cursor) (l : List α) : List α :=
  if c.exhausted then [] else slice c.offset c.remaining l

theorem rest_of_isDone (h : c.isDone = true) (l : List α) : c.rest l = [] := by
  rw [isDone, Bool.or_eq_true, beq_iff_eq] at h
  rw [rest]
  split
  · rfl
  · next hopen =>
    rw [h.resolve_left hopen, slice_some, List.take_zero]

/-- The cursor before the first page leaves the whole window. -/
theorem rest_start (skip : Nat) (take : Option Nat) (l : List α) :
    (start skip take).rest l = slice skip take l := rfl

theorem limit_le (c : Cursor) (pageSize : Nat) {r : Nat} (h : c.remaining = some r) :
    c.limit pageSize ≤ r := by
  rw [limit, h]
  exact Nat.min_le_left _ _

/-- **A page is the beginning of what is left, and the cursor after it leaves the rest of it.** -/
theorem rest_eq_append (h : c.isDone = false) (pageSize : Nat) (l : List α) :
    c.rest l = slice c.offset (some (c.limit pageSize)) l ++
      (c.next pageSize (slice c.offset (some (c.limit pageSize)) l).length).rest l := by
  have hopen : c.exhausted = false := (Bool.or_eq_false_iff.mp h).1
  rw [rest, hopen, if_neg Bool.false_ne_true,
    slice_eq_append (fun r => c.limit_le pageSize) c.offset l]
  congr 1
  rw [rest, next]
  simp only [decide_eq_true_eq]
  split
  · rfl
  · next hfull =>
    -- a page that is not short is as long as it may be
    have hlength : (slice c.offset (some (c.limit pageSize)) l).length = c.limit pageSize := by
      rw [length_slice_some] at hfull ⊢
      omega
    rw [hlength]

end Cursor

/-! ## 3. The cursors of a query -/

section Cursors

variable (q : RowQuery) (pageSize : Nat) (rows : List Row)

/-- The cursor of a query after a number of pages, or after its last page. -/
def cursorAfter (c : Cursor) : Nat → Cursor
  | 0 => c
  | n + 1 =>
    let last := cursorAfter c n
    if last.isDone then last else last.next pageSize (pageRows q pageSize last rows).length

variable {q pageSize rows} {c : Cursor}

/-- Each page brings the cursor closer to the end, until it is there. -/
theorem distance_cursorAfter (n : Nat) : (cursorAfter q pageSize rows c n).isDone = true ∨
    (cursorAfter q pageSize rows c n).distance (q.answers rows).length + n ≤
      c.distance (q.answers rows).length := by
  induction n with
  | zero => exact .inr (Nat.le_refl _)
  | succ n ih =>
    rw [cursorAfter]
    split
    · next hdone => exact .inl hdone
    · next hopen =>
      refine .inr ?_
      rw [Bool.not_eq_true] at hopen
      have hle := ih.resolve_left (by rw [hopen]; exact Bool.false_ne_true)
      have hlt := Cursor.distance_next_lt hopen pageSize (q.answers rows).length
      rw [← length_pageRows] at hlt
      omega

/-- A query has read its last page after as many pages as it may return rows, and one more. -/
theorem isDone_cursorAfter (skip : Nat) (take : Option Nat) :
    (cursorAfter q pageSize rows (.start skip take)
      ((q.answers rows).length - skip + 1)).isDone = true := by
  refine (distance_cursorAfter _).elim id fun hle => ?_
  have hstart : (Cursor.start skip take).distance (q.answers rows).length =
      (q.answers rows).length - skip + 1 := rfl
  rw [hstart] at hle
  -- no distance is left, and a cursor that still has a page to read has one
  rw [Cursor.isDone, Bool.or_eq_true]
  refine .inl ?_
  by_contra hopen
  rw [Cursor.distance, if_neg hopen] at hle
  omega

/-- No cursor stands farther than the first one and the end of the answer. -/
theorem offset_cursorAfter_le (n : Nat) : (cursorAfter q pageSize rows c n).offset ≤
    max c.offset (q.answers rows).length := by
  induction n with
  | zero => exact Nat.le_max_left _ _
  | succ n ih =>
    rw [cursorAfter]
    split
    · exact ih
    · simp only [Cursor.next, length_pageRows]
      omega

end Cursors

/-! ## 4. Pages of entities -/

section Entities

variable {M R K : Type} [Record R K] [Model M R K]
variable {q : RowQuery} {rows : List Row} {all : List M}

/-- Each row that is decoded with others has its entity among theirs. -/
theorem exists_mem_of_mapM {ε α β : Type} {f : α → Except ε β} {l : List α} {r : List β}
    (h : l.mapM f = .ok r) {a : α} (ha : a ∈ l) : ∃ b ∈ r, f a = .ok b := by
  rw [mapM_eq_ok_iff] at h
  induction h with
  | nil => cases ha
  | @cons a' b' l r hab _ ih =>
    rcases List.mem_cons.mp ha with rfl | ha
    · exact ⟨b', List.mem_cons_self, hab⟩
    · obtain ⟨b, hb, hf⟩ := ih ha
      exact ⟨b, List.mem_cons_of_mem _ hb, hf⟩

/-- Rows can be decoded together if they can be one by one. -/
theorem exists_mapM_eq_ok_iff {ε α β : Type} {f : α → Except ε β} {l : List α} :
    (∃ r, l.mapM f = .ok r) ↔ ∀ a ∈ l, ∃ b, f a = .ok b := by
  induction l with
  | nil => exact iff_of_true ⟨[], rfl⟩ (List.forall_mem_nil _)
  | cons a l ih =>
    simp only [mapM_eq_ok_iff, List.forall₂_cons_left_iff] at ih ⊢
    rw [List.forall_mem_cons, ← ih]
    exact ⟨fun ⟨_, b, r, hb, hr, _⟩ => ⟨⟨b, hb⟩, r, hr⟩,
      fun ⟨⟨b, hb⟩, r, hr⟩ => ⟨_, b, r, hb, hr, rfl⟩⟩

/-- Decoding goes with windows. -/
theorem mapM_slice {ε α β : Type} {f : α → Except ε β} {l : List α} {r : List β}
    (h : l.mapM f = .ok r) (offset : Nat) (limit : Option Nat) :
    (slice offset limit l).mapM f = .ok (slice offset limit r) := by
  rw [mapM_eq_ok_iff] at h ⊢
  cases limit with
  | none => exact List.forall₂_drop offset h
  | some n => exact List.forall₂_take n (List.forall₂_drop offset h)

theorem mapM_pageRows (h : (q.answers rows).mapM decode = .ok all) (pageSize : Nat) (c : Cursor) :
    (pageRows q pageSize c rows).mapM decode =
      .ok (slice c.offset (some (c.limit pageSize)) all) :=
  mapM_slice h c.offset (some (c.limit pageSize))

/-- **Reading on from a cursor yields what is left behind it.** -/
theorem streamFrom_eq (h : (q.answers rows).mapM decode = .ok all) (pageSize : Nat) (c : Cursor) :
    streamFrom M q pageSize rows c = { entities := c.rest all } := by
  fun_induction streamFrom M q pageSize rows c with
  | case1 c hdone => rw [Cursor.rest_of_isDone hdone]
  | case2 c hopen e hpage =>
    rw [mapM_pageRows h] at hpage
    cases hpage
  | case3 c hopen entities hpage ih =>
    rw [mapM_pageRows h] at hpage
    cases hpage
    have hlength : (pageRows q pageSize c rows).length =
        (slice c.offset (some (c.limit pageSize)) all).length :=
      (mapM_eq_ok_iff.mp (mapM_pageRows h pageSize c)).length_eq
    rw [ih, hlength, Cursor.rest_eq_append (Bool.eq_false_iff.mpr hopen) pageSize all]
    rfl

theorem Streamed.prepend_prepend (l m : List M) (s : Streamed M) :
    (s.prepend m).prepend l = s.prepend (l ++ m) := by
  rw [prepend, prepend, prepend, List.append_assoc]

/-- Whatever the cursor has come to, the query goes on from there. -/
theorem streamFrom_cursorAfter (h : (q.answers rows).mapM decode = .ok all) (pageSize : Nat)
    (c : Cursor) (n : Nat) : ∃ read, streamFrom M q pageSize rows c =
      (streamFrom M q pageSize rows (cursorAfter q pageSize rows c n)).prepend read := by
  induction n with
  | zero => exact ⟨[], rfl⟩
  | succ n ih =>
    obtain ⟨read, hread⟩ := ih
    rw [cursorAfter]
    split
    · exact ⟨read, hread⟩
    · next hopen =>
      rw [hread, streamFrom, if_neg hopen, mapM_pageRows h]
      exact ⟨_, Streamed.prepend_prepend ..⟩

/-- A row that can be decoded is of the declared types. -/
theorem typed_of_decode [TypedRecord R] {row : Row} {m : M} (h : decode row = .ok m) :
    row.Typed (kindOf M) := by
  obtain ⟨_, -, h⟩ := bind_eq_ok_iff.mp h
  obtain ⟨_, hbase, -⟩ := bind_eq_ok_iff.mp h
  exact TypedRecord.typed_of_ofRow hbase

end Entities

/-! ## 5. Whole queries -/

/-- A query in consecutive windows of given sizes, from a place on.  The last window is open. -/
def windows (q : EntityQuery) (skip : Nat) : List Nat → List EntityQuery
  | [] => [{ q with skip, take := none }]
  | n :: sizes => { q with skip, take := some n } :: windows q (skip + n) sizes

section Queries

variable {M R K : Type} [Record R K] [Model M R K]
variable {q : EntityQuery} {query : RowQuery} {t : Tables} {all : List M}

theorem run_stream (hquery : RowQuery.make (kindOf M) q.filter q.order = .ok query)
    (h : (query.answers (t.rows (kindOf M))).mapM decode = .ok all) (pageSize skip : Nat)
    (take : Option Nat) : (stream M pageSize { q with skip, take }).run t =
      (.ok { entities := slice skip take all }, t) := by
  simp only [stream, hquery]
  split
  · next hdone =>
    rw [← Cursor.rest_start, Cursor.rest_of_isDone hdone]
    rfl
  · rw [Request.reading, Request.run, streamFrom_eq h, Cursor.rest_start, Outcome.answered_ok]

theorem run_list (hquery : RowQuery.make (kindOf M) q.filter q.order = .ok query)
    (h : (query.answers (t.rows (kindOf M))).mapM decode = .ok all) (pageSize skip : Nat)
    (take : Option Nat) : (list M pageSize { q with skip, take }).run t =
      (.ok (slice skip take all), t) := by
  rw [list, Request.run_bind, run_stream hquery h]
  rfl

/-- The answers of consecutive windows, joined, are everything from the first one on. -/
theorem run_windows (hquery : RowQuery.make (kindOf M) q.filter q.order = .ok query)
    (h : (query.answers (t.rows (kindOf M))).mapM decode = .ok all) (pageSize : Nat)
    (sizes : List Nat) (skip : Nat) : ∃ parts,
      List.Forall₂ (fun w part => (list M pageSize w).run t = (.ok part, t))
        (windows q skip sizes) parts ∧ parts.flatten = all.drop skip := by
  induction sizes generalizing skip with
  | nil =>
    refine ⟨[all.drop skip], .cons (run_list hquery h pageSize skip none) .nil, ?_⟩
    rw [List.flatten_singleton]
  | cons n sizes ih =>
    obtain ⟨parts, hparts, hflatten⟩ := ih (skip + n)
    refine ⟨(all.drop skip).take n :: parts,
      .cons (run_list hquery h pageSize skip (some n)) hparts, ?_⟩
    rw [List.flatten_cons, hflatten, ← List.drop_drop, List.take_append_drop]

/-- A query that is accepted has a filter that can be counted. -/
theorem run_count (hquery : RowQuery.make (kindOf M) q.filter q.order = .ok query)
    (h : (query.answers (t.rows (kindOf M))).mapM decode = .ok all) :
    (count M q.filter).run t = (.ok all.length, t) := by
  have hlength : (query.answers (t.rows (kindOf M))).length = all.length :=
    (mapM_eq_ok_iff.mp h).length_eq
  rw [(answers_perm _ _).length_eq, filter_of_make hquery, ← List.countP_eq_length_filter]
    at hlength
  rw [count, (make_eq_ok_iff.mp hquery).1, ← hlength]
  rfl

/-- **Paging is a window of the ordered answer.**  All rows of the table can be decoded, and the
query is accepted.  Then every read of it, whatever its window and the size of its pages, yields the
matching rows in the stable order of the query, decoded and inside the window; consecutive windows,
joined, are everything; and the count of the filter is the length of it all.  The cursors of every
such read reach the end, the read goes on from each of them, and none leaves 64 bits. -/
theorem paging_eq_window [TypedRecord R]
    (hquery : RowQuery.make (kindOf M) q.filter q.order = .ok query)
    (hrows : ∀ row ∈ t.rows (kindOf M), ∃ m : M, decode row = .ok m) :
    ∃ all : List M,
      (((t.rows (kindOf M)).filter q.filter.holds).mergeSort
        fun a b => (query.compare a b).isLE).mapM decode = .ok all ∧
      (∀ pageSize skip take, (stream M pageSize { q with skip, take }).run t =
        (.ok { entities := (all.drop skip).take (take.getD all.length), fault := none }, t)) ∧
      (∀ pageSize sizes, ∃ parts,
        List.Forall₂ (fun w part => (list M pageSize w).run t = (.ok part, t))
          (windows q 0 sizes) parts ∧ parts.flatten = all) ∧
      (count M q.filter).run t = (.ok all.length, t) ∧
      ∀ pageSize skip take,
        let cursor := cursorAfter query pageSize (t.rows (kindOf M)) (.start skip take)
        (cursor (all.length - skip + 1)).isDone = true ∧
        (∀ n, ∃ read, streamFrom M query pageSize (t.rows (kindOf M)) (.start skip take) =
          (streamFrom M query pageSize (t.rows (kindOf M)) (cursor n)).prepend read) ∧
        (skip < UInt64.size → t.size (kindOf M) < UInt64.size → ∀ n, (cursor n).offset +
          (pageRows query pageSize (cursor n) (t.rows (kindOf M))).length < UInt64.size) := by
  obtain ⟨all, hsorted⟩ : ∃ all : List M,
      (((t.rows (kindOf M)).filter q.filter.holds).mergeSort
        fun a b => (query.compare a b).isLE).mapM decode = .ok all :=
    exists_mapM_eq_ok_iff.mpr fun row hrow =>
      hrows row (List.mem_of_mem_filter (List.mem_mergeSort.mp hrow))
  -- rows that are decoded are typed, and typed rows are sorted alike by both orders
  have htyped : ∀ row ∈ (t.rows (kindOf M)).filter q.filter.holds, row.Typed (kindOf M) := by
    intro row hrow
    obtain ⟨m, hm⟩ := hrows row (List.mem_of_mem_filter hrow)
    exact typed_of_decode hm
  have h : (query.answers (t.rows (kindOf M))).mapM decode = .ok all := by
    rw [answers, filter_of_make hquery, sort_eq_mergeSort hquery htyped]
    exact hsorted
  have hlength : (query.answers (t.rows (kindOf M))).length = all.length :=
    (mapM_eq_ok_iff.mp h).length_eq
  refine ⟨all, hsorted, fun pageSize skip take => ?_, fun pageSize sizes => ?_,
    run_count hquery h, fun pageSize skip take => ⟨?_, fun n => ?_, fun hskip hsize n => ?_⟩⟩
  · rw [run_stream hquery h, slice_eq_take]
  · exact run_windows hquery h pageSize sizes 0
  · exact hlength ▸ isDone_cursorAfter skip take
  · exact streamFrom_cursorAfter h pageSize _ n
  · have hplace : (cursorAfter query pageSize (t.rows (kindOf M)) (.start skip take) n).offset ≤
        max skip (query.answers (t.rows (kindOf M))).length := offset_cursorAfter_le n
    have htotal : (query.answers (t.rows (kindOf M))).length ≤ t.size (kindOf M) := by
      rw [(answers_perm _ _).length_eq, Tables.size, OrdMap.size]
      exact (List.length_filter_le _ _).trans (Nat.le_of_eq (List.length_map _))
    rw [length_pageRows]
    omega

/-- A scope with an identifier and the name that is shown for it. -/
def shownScope (id : String) (shown : Option String) : Scope String :=
  { id := some id, displayName := shown }

/-- Four scopes; two show the same name and one shows none. -/
def shownScopes : Tables :=
  [shownScope "a" (some "Mail"), shownScope "b" none, shownScope "c" (some "Files"),
    shownScope "d" (some "Mail")].foldl (fun t s => (t.insert .scope s.toRow).2) {}

/-- All scopes, by falling names. -/
def byShownName : EntityQuery := { order := [⟨"display_name", .desc⟩] }

/-- Two of these scopes are wanted, after the first one and in pages of one. -/
theorem paging_eq_window_shownScopes :
    (∃ query, RowQuery.make (kindOf (Scope String)) byShownName.filter byShownName.order =
      .ok query) ∧
    (∀ row ∈ shownScopes.rows (kindOf (Scope String)), ∃ s : Scope String, decode row = .ok s) ∧
    (stream (Scope String) 1 { byShownName with skip := 1, take := some 2 }).run shownScopes =
      (.ok { entities := [shownScope "a" (some "Mail"), shownScope "d" (some "Mail")] },
        shownScopes) := by
  have hquery : RowQuery.make (kindOf (Scope String)) byShownName.filter byShownName.order =
      .ok { filter := .all, order := [⟨"display_name", .desc⟩, ⟨"id", .asc⟩],
            offset := 0, limit := none } := rfl
  have hdecoded : (shownScopes.rows (kindOf (Scope String))).mapM decode =
      .ok [shownScope "a" (some "Mail"), shownScope "b" none, shownScope "c" (some "Files"),
        shownScope "d" (some "Mail")] := rfl
  have hrows := exists_mapM_eq_ok_iff.mp ⟨_, hdecoded⟩
  obtain ⟨all, hsorted, hstream, -⟩ := paging_eq_window hquery hrows
  refine ⟨⟨_, hquery⟩, hrows, ?_⟩
  rw [← sort_eq_mergeSort hquery fun row hrow => ?_] at hsorted
  · have hall : all = [shownScope "b" none, shownScope "a" (some "Mail"),
        shownScope "d" (some "Mail"), shownScope "c" (some "Files")] :=
      Except.ok.inj (hsorted.symm.trans rfl)
    rw [hstream 1 1 (some 2), hall]
    rfl
  · obtain ⟨s, hs⟩ := hrows row (List.mem_of_mem_filter hrow)
    exact typed_of_decode hs

end Queries

end Store

end GrantLedger
