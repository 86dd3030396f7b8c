import GrantLedger.Proofs.LawfulModel
import GrantLedger.Sql.Statement

/-!
# Texts of statements do not depend on values

Values reach the database as parameters only.  So two operations that differ in values alone have
statements with the same text and as many parameters: `texts_eq_of_alike`, over every builder of
statements.

What else an operation says does show in a text, and `Operation.Alike` lists it: the kind, the form
of keys, whether a row brings an identifier, the columns and tests of a filter in their order, the
lengths of the lists that are searched, the order of the rows, and whether there are a limit and an
offset.  Each builder is looked at once, and filters by induction (`bindConditions_alike`).
-/

namespace GrantLedger

namespace Sql

/-! ## 1. Operations that differ in values alone -/

/-- An operation for which statements are built, with its arguments. -/
inductive Operation where
  | insert (kind : EntityKind) (key : KeyKind) (row : Row)
  | update (kind : EntityKind) (key : KeyKind) (id : Key) (expected : String) (row : Row)
  | lockRow (kind : EntityKind) (key : KeyKind) (id : Key) (expected : String)
  | deleteRow (kind : EntityKind) (key : KeyKind) (id : Key)
  | countDependents (kind : EntityKind) (key : KeyKind) (id : Key)
  | deleteDependents (kind : EntityKind) (key : KeyKind) (id : Key)
  | select (kind : EntityKind) (key : KeyKind) (query : RowQuery)
  | count (kind : EntityKind) (key : KeyKind) (filter : Filter)
  | pruneBatch (kind : EntityKind) (criteria : PruneCriteria)

/-- The statements of an operation, in their order. -/
def Operation.statements : Operation → Except StoreError (List Statement)
  | .insert kind key row => return [← Sql.insert kind key row]
  | .update kind key id expected row => return [← Sql.update kind key id expected row]
  | .lockRow kind key id expected => return [← Sql.lockRow kind key id expected]
  | .deleteRow kind key id => return [← Sql.deleteRow kind key id]
  | .countDependents kind key id => return (← Sql.countDependents kind key id).toList
  | .deleteDependents kind key id => Sql.deleteDependents kind key id
  | .select kind key query => return [← Sql.select kind key query]
  | .count kind key filter => return [← Sql.count kind key filter]
  | .pruneBatch kind criteria => return (Sql.pruneBatch kind criteria).toList

end Sql

/-- Tests that differ in values alone. -/
inductive Predicate.Alike : Predicate → Predicate → Prop
  | eq (a b : Cell) : Alike (.eq a) (.eq b)
  | ne (a b : Cell) : Alike (.ne a) (.ne b)
  | lt (a b : Cell) : Alike (.lt a) (.lt b)
  | le (a b : Cell) : Alike (.le a) (.le b)
  | gt (a b : Cell) : Alike (.gt a) (.gt b)
  | ge (a b : Cell) : Alike (.ge a) (.ge b)
  | isNull : Alike .isNull .isNull
  | isNotNull : Alike .isNotNull .isNotNull
  | contains (a b : String) : Alike (.contains a) (.contains b)
  | oneOf (as bs : List Cell) (length : as.length = bs.length) : Alike (.oneOf as) (.oneOf bs)

/-- Conditions on one column that differ in values alone. -/
structure Condition.Alike (c d : Condition) : Prop where
  column : c.column = d.column
  predicate : c.predicate.Alike d.predicate

/-- Filters with like conditions in the same order. -/
def Filter.Alike (f g : Filter) : Prop := List.Forall₂ Condition.Alike f.conditions g.conditions

/-- Queries with like filters and the same order, of which both or none have a limit, and both or
none an offset. -/
structure RowQuery.Alike (p q : RowQuery) : Prop where
  filter : p.filter.Alike q.filter
  order : p.order = q.order
  limit : p.limit.isSome = q.limit.isSome
  offset : p.offset = 0 ↔ q.offset = 0

namespace Sql

/-- Operations that differ in values alone. -/
inductive Operation.Alike : Operation → Operation → Prop
  | insert (kind : EntityKind) (key : KeyKind) (row row' : Row)
      (hasId : (row.cell "id").isNull = (row'.cell "id").isNull) :
      Alike (.insert kind key row) (.insert kind key row')
  | update (kind : EntityKind) (key : KeyKind) (id id' : Key) (expected expected' : String)
      (row row' : Row) :
      Alike (.update kind key id expected row) (.update kind key id' expected' row')
  | lockRow (kind : EntityKind) (key : KeyKind) (id id' : Key) (expected expected' : String) :
      Alike (.lockRow kind key id expected) (.lockRow kind key id' expected')
  | deleteRow (kind : EntityKind) (key : KeyKind) (id id' : Key) :
      Alike (.deleteRow kind key id) (.deleteRow kind key id')
  | countDependents (kind : EntityKind) (key : KeyKind) (id id' : Key) :
      Alike (.countDependents kind key id) (.countDependents kind key id')
  | deleteDependents (kind : EntityKind) (key : KeyKind) (id id' : Key) :
      Alike (.deleteDependents kind key id) (.deleteDependents kind key id')
  | select (kind : EntityKind) (key : KeyKind) (p q : RowQuery) (query : p.Alike q) :
      Alike (.select kind key p) (.select kind key q)
  | count (kind : EntityKind) (key : KeyKind) (f g : Filter) (filter : f.Alike g) :
      Alike (.count kind key f) (.count kind key g)
  | pruneBatch (kind : EntityKind) (criteria criteria' : PruneCriteria) :
      Alike (.pruneBatch kind criteria) (.pruneBatch kind criteria')

/-- One command with as many parameters. -/
structure Statement.Alike (s s' : Statement) : Prop where
  command : s.command = s'.command
  params : s.params.length = s'.params.length

/-! ## 2. Parameters -/

variable {kind : EntityKind} {key : KeyKind}

theorem length_of_mapM {ε α β : Type} {f : α → Except ε β} {l : List α} {r : List β}
    (h : l.mapM f = .ok r) : r.length = l.length :=
  (mapM_eq_ok_iff.mp h).length_eq.symm

theorem length_bindColumns {columns : List Column} {row : Row} {params : List Param}
    (h : bindColumns key columns row = .ok params) : params.length = columns.length :=
  length_of_mapM h

theorem length_bindTokenMatch {id : Key} {expected : String} {params : List Param}
    (h : bindTokenMatch key id expected = .ok params) : params.length = 2 := by
  obtain ⟨p, -, hp⟩ := bind_eq_ok_iff.mp h
  cases hp
  rfl

/-! ## 3. Filters -/

/-- Two comparisons of a column with a parameter. -/
theorem compare_alike {c : Column} {slot : Nat} {op : Comparison} {x y : Cell} {a b : Clause}
    {as bs : List Param}
    (hx : (do return ((.compare op (.column (column c.name)) (.slot slot) : Clause),
      [← Param.ofCell key c.type x])) = (.ok (a, as) : Except StoreError (Clause × List Param)))
    (hy : (do return ((.compare op (.column (column c.name)) (.slot slot) : Clause),
      [← Param.ofCell key c.type y])) = (.ok (b, bs) : Except StoreError (Clause × List Param))) :
    a = b ∧ as.length = bs.length := by
  obtain ⟨u, -, hu⟩ := bind_eq_ok_iff.mp hx
  obtain ⟨v, -, hv⟩ := bind_eq_ok_iff.mp hy
  cases hu
  cases hv
  exact ⟨rfl, rfl⟩

/-- Like tests of one column become one condition with as many parameters. -/
theorem bindPredicate_alike {c : Column} {slot : Nat} {p q : Predicate} (h : p.Alike q)
    {a b : Clause} {as bs : List Param} (hp : bindPredicate key c slot p = .ok (a, as))
    (hq : bindPredicate key c slot q = .ok (b, bs)) : a = b ∧ as.length = bs.length := by
  cases h with
  | eq | ne | lt | le | gt | ge => exact compare_alike hp hq
  | isNull | isNotNull | contains =>
    cases hp
    cases hq
    exact ⟨rfl, rfl⟩
  | oneOf xs ys hlength =>
    match xs, ys with
    | [], [] =>
      cases hp
      cases hq
      exact ⟨rfl, rfl⟩
    | x :: xs, y :: ys =>
      obtain ⟨us, hus, hu⟩ := bind_eq_ok_iff.mp hp
      obtain ⟨vs, hvs, hv⟩ := bind_eq_ok_iff.mp hq
      have hsame : us.length = vs.length := by
        rw [length_of_mapM hus, length_of_mapM hvs, hlength]
      cases hu
      cases hv
      exact ⟨by rw [hsame], hsame⟩

/-- **Filters.**  Like conditions become one condition with as many parameters, wherever their
numbers begin. -/
theorem bindConditions_alike {cs ds : List Condition} (h : List.Forall₂ Condition.Alike cs ds)
    {slot : Nat} {a b : Option Clause} {as bs : List Param}
    (hc : bindConditions kind key slot cs = .ok (a, as))
    (hd : bindConditions kind key slot ds = .ok (b, bs)) : a = b ∧ as.length = bs.length := by
  induction h generalizing slot a b as bs with
  | nil =>
    cases hc
    cases hd
    exact ⟨rfl, rfl⟩
  | @cons c d cs ds hhead _ ih =>
    rw [bindConditions] at hc hd
    rw [← hhead.column] at hd
    cases hcolumn : kind.column? c.column with
    | none =>
      rw [hcolumn] at hc
      cases hc
    | some column =>
      rw [hcolumn] at hc hd
      obtain ⟨⟨x, xs⟩, hx, hc⟩ := bind_eq_ok_iff.mp hc
      obtain ⟨⟨y, ys⟩, hy, hd⟩ := bind_eq_ok_iff.mp hd
      obtain ⟨rfl, hlength⟩ := bindPredicate_alike hhead.predicate hx hy
      obtain ⟨⟨u, us⟩, hu, hc⟩ := bind_eq_ok_iff.mp hc
      obtain ⟨⟨v, vs⟩, hv, hd⟩ := bind_eq_ok_iff.mp hd
      -- the numbers of the other conditions begin at one place, as the first ones take as many
      rw [← hlength] at hv
      obtain ⟨rfl, hrest⟩ := ih hu hv
      cases hc
      cases hd
      exact ⟨rfl, by rw [List.length_append, List.length_append, hlength, hrest]⟩

/-! ## 4. Builders -/

/-- Lists of statements that are alike one by one. -/
def AllAlike : List Statement → List Statement → Prop := List.Forall₂ Statement.Alike

theorem allAlike_singleton {s s' : Statement} (h : s.Alike s') : AllAlike [s] [s'] :=
  .cons h .nil

theorem AllAlike.map_eq {β : Type} {f : Statement → β} {ss ss' : List Statement}
    (h : AllAlike ss ss') (hf : ∀ s s', s.Alike s' → f s = f s') : ss.map f = ss'.map f := by
  induction h with
  | nil => rfl
  | cons hhead _ ih => rw [List.map_cons, List.map_cons, hf _ _ hhead, ih]

/-- Builders of one statement whose results are alike. -/
theorem one_alike {x x' : Except StoreError Statement}
    (h : ∀ {s s'}, x = .ok s → x' = .ok s' → s.Alike s') {ss ss' : List Statement}
    (hss : (do return [← x]) = (.ok ss : Except StoreError (List Statement)))
    (hss' : (do return [← x']) = (.ok ss' : Except StoreError (List Statement))) :
    AllAlike ss ss' := by
  obtain ⟨s, hs, hss⟩ := bind_eq_ok_iff.mp hss
  obtain ⟨s', hs', hss'⟩ := bind_eq_ok_iff.mp hss'
  cases hss
  cases hss'
  exact allAlike_singleton (h hs hs')

theorem insert_alike {row row' : Row} (hasId : (row.cell "id").isNull = (row'.cell "id").isNull)
    {s s' : Statement} (h : insert kind key row = .ok s) (h' : insert kind key row' = .ok s') :
    s.Alike s' := by
  obtain ⟨ps, hps, hs⟩ := bind_eq_ok_iff.mp h
  obtain ⟨qs, hqs, hs'⟩ := bind_eq_ok_iff.mp h'
  cases hs
  cases hs'
  rw [← hasId] at hqs
  refine ⟨?_, ?_⟩
  · rw [hasId]
  · rw [length_bindColumns hps, length_bindColumns hqs]

theorem update_alike {id id' : Key} {expected expected' : String} {row row' : Row}
    {s s' : Statement} (h : update kind key id expected row = .ok s)
    (h' : update kind key id' expected' row' = .ok s') : s.Alike s' := by
  obtain ⟨ps, hps, h⟩ := bind_eq_ok_iff.mp h
  obtain ⟨ks, hks, hs⟩ := bind_eq_ok_iff.mp h
  obtain ⟨qs, hqs, h'⟩ := bind_eq_ok_iff.mp h'
  obtain ⟨ls, hls, hs'⟩ := bind_eq_ok_iff.mp h'
  cases hs
  cases hs'
  refine ⟨rfl, ?_⟩
  rw [List.length_append, List.length_append, length_bindColumns hps, length_bindColumns hqs,
    length_bindTokenMatch hks, length_bindTokenMatch hls]

theorem lockRow_alike {id id' : Key} {expected expected' : String} {s s' : Statement}
    (h : lockRow kind key id expected = .ok s) (h' : lockRow kind key id' expected' = .ok s') :
    s.Alike s' := by
  obtain ⟨ks, hks, hs⟩ := bind_eq_ok_iff.mp h
  obtain ⟨ls, hls, hs'⟩ := bind_eq_ok_iff.mp h'
  cases hs
  cases hs'
  exact ⟨rfl, by rw [length_bindTokenMatch hks, length_bindTokenMatch hls]⟩

theorem deleteRow_alike {id id' : Key} {s s' : Statement} (h : deleteRow kind key id = .ok s)
    (h' : deleteRow kind key id' = .ok s') : s.Alike s' := by
  obtain ⟨p, -, hs⟩ := bind_eq_ok_iff.mp h
  obtain ⟨q, -, hs'⟩ := bind_eq_ok_iff.mp h'
  cases hs
  cases hs'
  exact ⟨rfl, rfl⟩

/-- The dependents of a row are counted by one statement or by none, whatever the row is. -/
theorem countDependents_alike {id id' : Key} {o o' : Option Statement}
    (h : countDependents kind key id = .ok o) (h' : countDependents kind key id' = .ok o') :
    AllAlike o.toList o'.toList := by
  rw [countDependents] at h h'
  cases hdependents : dependents kind with
  | nil =>
    rw [hdependents] at h h'
    cases h
    cases h'
    exact .nil
  | cons d ds =>
    rw [hdependents] at h h'
    obtain ⟨p, -, rfl⟩ := map_eq_ok_iff.mp h
    obtain ⟨q, -, rfl⟩ := map_eq_ok_iff.mp h'
    exact allAlike_singleton ⟨rfl, rfl⟩

theorem deleteDependents_alike {id id' : Key} {ss ss' : List Statement}
    (h : deleteDependents kind key id = .ok ss) (h' : deleteDependents kind key id' = .ok ss') :
    AllAlike ss ss' := by
  unfold deleteDependents at h h'
  rw [mapM_eq_ok_iff] at h h'
  generalize dependents kind = ds at h h'
  induction h generalizing ss' with
  | nil =>
    cases h'
    exact .nil
  | cons hhead _ ih =>
    cases h' with
    | cons hhead' htail' =>
      obtain ⟨p, -, rfl⟩ := map_eq_ok_iff.mp hhead
      obtain ⟨q, -, rfl⟩ := map_eq_ok_iff.mp hhead'
      exact .cons ⟨rfl, rfl⟩ (ih htail')

theorem map_const_eq {α β : Type} {o o' : Option α} (h : o.isSome = o'.isSome) (b : β) :
    (o.map fun _ => b) = o'.map fun _ => b := by
  cases o <;> cases o' <;> simp_all

theorem select_alike {p q : RowQuery} (hquery : p.Alike q) {s s' : Statement}
    (h : select kind key p = .ok s) (h' : select kind key q = .ok s') : s.Alike s' := by
  obtain ⟨⟨c, ps⟩, hps, hs⟩ := bind_eq_ok_iff.mp h
  obtain ⟨⟨d, qs⟩, hqs, hs'⟩ := bind_eq_ok_iff.mp h'
  obtain ⟨rfl, hlength⟩ := bindConditions_alike hquery.filter hps hqs
  cases hs
  cases hs'
  have hlimit : (p.limit.map fun _ => ps.length + 1) = q.limit.map fun _ => qs.length + 1 := by
    rw [hlength]
    exact map_const_eq hquery.limit _
  have hlimits : (p.limit.toList.map Param.ofCount).length
      = (q.limit.toList.map Param.ofCount).length := by
    rw [List.length_map, List.length_map, Option.length_toList, Option.length_toList, hquery.limit]
  -- with or without an offset, its number follows those of the other parameters
  by_cases hoffset : p.offset = 0
  · have hoffset' := hquery.offset.mp hoffset
    refine ⟨?_, ?_⟩
    · rw [hlimit, hquery.order, if_pos hoffset, if_pos hoffset']
    · simp only [hoffset, hoffset', if_pos, List.length_append, List.length_nil, hlength, hlimits]
  · have hoffset' := mt hquery.offset.mpr hoffset
    refine ⟨?_, ?_⟩
    · rw [hlimit, hquery.order, if_neg hoffset, if_neg hoffset', hlength, hlimits]
    · simp only [if_neg hoffset, if_neg hoffset', List.length_append, List.length_singleton,
        hlength, hlimits]

theorem count_alike {f g : Filter} (hfilter : f.Alike g) {s s' : Statement}
    (h : count kind key f = .ok s) (h' : count kind key g = .ok s') : s.Alike s' := by
  obtain ⟨⟨c, ps⟩, hps, hs⟩ := bind_eq_ok_iff.mp h
  obtain ⟨⟨d, qs⟩, hqs, hs'⟩ := bind_eq_ok_iff.mp h'
  obtain ⟨rfl, hlength⟩ := bindConditions_alike hfilter hps hqs
  cases hs
  cases hs'
  exact ⟨rfl, hlength⟩

/-- The statement of a batch has the instants and the size as parameters. -/
theorem pruneBatch_alike (criteria criteria' : PruneCriteria) :
    AllAlike (pruneBatch kind criteria).toList (pruneBatch kind criteria').toList := by
  cases kind with
  | application => exact .nil
  | authorization => exact allAlike_singleton ⟨rfl, rfl⟩
  | scope => exact .nil
  | token => exact allAlike_singleton ⟨rfl, rfl⟩

/-! ## 5. Every builder -/

theorem statements_alike {op op' : Operation} (h : op.Alike op') {ss ss' : List Statement}
    (hss : op.statements = .ok ss) (hss' : op'.statements = .ok ss') : AllAlike ss ss' := by
  cases h with
  | insert _ _ _ _ hasId => exact one_alike (insert_alike hasId) hss hss'
  | update => exact one_alike update_alike hss hss'
  | lockRow => exact one_alike lockRow_alike hss hss'
  | deleteRow => exact one_alike deleteRow_alike hss hss'
  | countDependents =>
    obtain ⟨o, ho, hss⟩ := bind_eq_ok_iff.mp hss
    obtain ⟨o', ho', hss'⟩ := bind_eq_ok_iff.mp hss'
    cases hss
    cases hss'
    exact countDependents_alike ho ho'
  | deleteDependents => exact deleteDependents_alike hss hss'
  | select _ _ _ _ query => exact one_alike (select_alike query) hss hss'
  | count _ _ _ _ filter => exact one_alike (count_alike filter) hss hss'
  | pruneBatch _ criteria criteria' =>
    cases hss
    cases hss'
    exact pruneBatch_alike criteria criteria'

/-- **Values.**  Operations that differ in values alone have statements with the same texts and as
many parameters. -/
theorem texts_eq_of_alike {op op' : Operation} (h : op.Alike op') {ss ss' : List Statement}
    (hss : op.statements = .ok ss) (hss' : op'.statements = .ok ss') :
    ss.map Statement.text = ss'.map Statement.text ∧
      ss.map (·.params.length) = ss'.map (·.params.length) := by
  have halike := statements_alike h hss hss'
  exact ⟨halike.map_eq fun s s' hs => congrArg Command.text hs.command,
    halike.map_eq fun s s' hs => hs.params⟩

/-- Two searches for tokens, of which one looks for texts that are statements themselves. -/
theorem texts_eq_of_alike_hostile :
    let search (status needle : String) (key : Key) (limit : Nat) : Operation :=
      .select .token .text ⟨⟨[⟨"status", .oneOf [.text status, .null]⟩,
        ⟨"subject", .contains needle⟩, ⟨"application_id", .eq (.key key)⟩]⟩,
        [⟨"id", .asc⟩], 10, some limit⟩
    let plain := search "valid" "bob" (.int 7) 50
    let hostile := search "'; DROP TABLE authstore_tokens; --" "%' OR '1'='1"
      (.text "$1) OR (1=1") 1
    plain.Alike hostile ∧ ∃ ss ss', plain.statements = .ok ss ∧ hostile.statements = .ok ss' ∧
      ss ≠ ss' ∧ ss.map Statement.text = ss'.map Statement.text ∧
      ss.map (·.params.length) = ss'.map (·.params.length) := by
  intro search plain hostile
  have halike : plain.Alike hostile :=
    .select _ _ _ _ ⟨.cons ⟨rfl, .oneOf _ _ rfl⟩ (.cons ⟨rfl, .contains _ _⟩
      (.cons ⟨rfl, .eq _ _⟩ .nil)), rfl, rfl, by decide⟩
  exact ⟨halike, _, _, rfl, rfl, by decide, texts_eq_of_alike halike rfl rfl⟩

end Sql

end GrantLedger
