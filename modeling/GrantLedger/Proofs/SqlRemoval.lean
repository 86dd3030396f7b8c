import GrantLedger.Proofs.SqlPruning

/-!
# Removals as statements

The statements that count and delete the dependents of a row do to a database what a cascade does to
the tables in memory.  The conditions are read while the rows go, so the order of the deletions
matters: the tokens go while the authorizations that they depend through are still there.

* `truth_dependents`: the conditions say what depends on a row.
* `tally_executes_iff` and `runsAll_dependents_iff`: what the statements answer and leave.
* `removals_agree`: the main result, for pruning as well.
-/

namespace GrantLedger

/-! ## 1. Tables without dependents -/

namespace Tables

variable {t : Tables} {id : Key}

@[simp] theorem removeRows_nil (t : Tables) (kind : EntityKind) : t.removeRows kind [] = t := by
  have hkept : ((t.get kind).rows.filter fun id _ => !([] : List Key).contains id) =
      (t.get kind).rows := OrdMap.filter_of_forall fun _ _ => rfl
  rw [removeRows, hkept, setRows]
  cases kind <;> rfl

theorem removeRows_comm (t : Tables) {kind other : EntityKind} (h : kind ≠ other)
    (ids others : List Key) : (t.removeRows kind ids).removeRows other others =
      (t.removeRows other others).removeRows kind ids := by
  cases kind <;> cases other <;> first | rfl | exact absurd rfl h

/-- The tables without the rows that depend on a row. -/
def withoutDependents (t : Tables) (kind : EntityKind) (id : Key) : Tables :=
  (t.removeRows .authorization (t.dependentAuthorizations kind id)).removeRows .token
    (t.dependentTokens kind id)

/-- Cascading removes the dependents and the row. -/
theorem Keyed.delete_cascade (h : t.Keyed) {kind : EntityKind} {expected : String}
    (hrow : t.StoredWith kind id expected) :
    t.delete kind id expected .cascade = (.deleted (t.dependents kind id).ncard,
      (t.withoutDependents kind id).setRows kind
        (((t.withoutDependents kind id).get kind).rows.erase id)) := by
  rw [← tokenMatches_iff] at hrow
  rw [h.ncard_dependents]
  simp only [delete, if_pos hrow, reduceCtorEq, and_false, if_false]
  rfl

end Tables

namespace Sql

variable {key : KeyKind} {kind other : EntityKind} {t u : Tables} {row : Row} {i id : Key}

/-! ## 2. Conditions on dependents -/

variable {f : Frame} {clause : Clause} {ids : List Key} {answer : Answer} {after : Database}

/-- A key as a parameter. -/
def keyParam : Key → Param
  | .int n => .int (some n)
  | .text s => .text (some s)
  | .uuid u => .uuid (some u)

@[simp] theorem value_keyParam (id : Key) : (keyParam id).value = .ofKey id := by
  cases id <;> rfl

theorem ofKey_eq_keyParam (id : Key) : Param.ofKey id.kind id = .ok (keyParam id) := by
  cases id <;> rfl

theorem truth_columnIs {name : String} (hcell : (row.cell name).FitsIn key .key)
    (hid : id.kind = key) (hparam : f.param 1 = .ofKey id) :
    (columnIs name 1).truth (f.bind none row.tuple) = .holds ↔ row.cell name = .key id := by
  rw [columnIs, Clause.truth, Frame.operand, Frame.operand, Sql.column, Frame.column_bind_self,
    Frame.param_bind, hparam]
  exact eq_truth_ofKey hcell hid

/-- The identifiers of the authorizations of an application, looked for in the reference of a token.
-/
theorem truth_inTable (h : t.StoredIn key) (hid : id.kind = key)
    (hdb : f.db .authorization = Database.ofTables t .authorization)
    (hparam : f.param 1 = .ofKey id) (hrow : t.row? .token i = some row) :
    (Clause.inTable (column "authorization_id") .authorization
        (columnIs "application_id" 1)).truth (f.bind none row.tuple) = .holds ↔
      ∃ a authorization, row.cell "authorization_id" = .key a ∧
        t.row? .authorization a = some authorization ∧
        authorization.cell "application_id" = .key id := by
  have hcell : (row.cell "authorization_id").FitsIn key .key :=
    (h.typedIn hrow).reference .authorization (by decide)
  have hstored : ∀ a authorization, t.row? .authorization a = some authorization →
      ((columnIs "application_id" 1).truth ((f.bind none row.tuple).bind none
          authorization.tuple) = .holds ↔ authorization.cell "application_id" = .key id) ∧
        (Comparison.eq.truth (.ofCell (row.cell "authorization_id"))
          (authorization.tuple "id") = .holds ↔ row.cell "authorization_id" = .key a) := by
    intro a authorization ha
    refine ⟨truth_columnIs ((h.typedIn ha).reference .application (by decide)) hid hparam, ?_⟩
    rw [Row.tuple, h.keyed .authorization a authorization ha, Value.ofCell_key,
      eq_truth_ofKey hcell (h.kind_eq ha)]
  rw [Clause.truth, Truth.any_eq_holds, Multiset.mem_map, Frame.bind_db, hdb, Sql.column,
    Frame.column_bind_self, Row.tuple]
  constructor
  · rintro ⟨r, hr, htruth⟩
    rw [Multiset.mem_filter, mem_ofTables] at hr
    obtain ⟨⟨a, authorization, ha, rfl⟩, happlication⟩ := hr
    exact ⟨a, authorization, (hstored a authorization ha).2.mp htruth, ha,
      (hstored a authorization ha).1.mp happlication⟩
  · rintro ⟨a, authorization, hkey, ha, happlication⟩
    exact ⟨authorization.tuple, Multiset.mem_filter.mpr ⟨mem_ofTables.mpr
      ⟨a, authorization, ha, rfl⟩, (hstored a authorization ha).1.mpr happlication⟩,
        (hstored a authorization ha).2.mpr hkey⟩

/-- **The conditions on dependents say what depends on a row.** -/
theorem truth_dependents (h : t.StoredIn key) (hid : id.kind = key)
    (hdb : f.db .authorization = Database.ofTables t .authorization)
    (hparam : f.param 1 = .ofKey id) (hclause : (other, clause) ∈ dependents kind)
    (hrow : t.row? other i = some row) :
    clause.truth (f.bind none row.tuple) = .holds ↔ t.DependsOn kind id other row := by
  have htyped := h.typedIn hrow
  cases kind with
  | scope | token => cases hclause
  | authorization =>
    obtain ⟨rfl, rfl⟩ : other = .token ∧ clause = columnIs "authorization_id" 1 := by
      simpa [dependents] using hclause
    exact truth_columnIs (htyped.reference .authorization (by decide)) hid hparam
  | application =>
    have hcases : other = .token ∧ clause = .or (columnIs "application_id" 1)
          (.inTable (column "authorization_id") .authorization (columnIs "application_id" 1)) ∨
        other = .authorization ∧ clause = columnIs "application_id" 1 := by
      simpa [dependents] using hclause
    rcases hcases with ⟨rfl, rfl⟩ | ⟨rfl, rfl⟩
    · rw [Clause.truth, Truth.or_eq_holds, truth_inTable h hid hdb hparam hrow,
        truth_columnIs (htyped.reference .application (by decide)) hid hparam]
      rfl
    · exact truth_columnIs (htyped.reference .application (by decide)) hid hparam

/-! ## 3. Counting -/

/-- The number of dependents of a kind is the number of tuples that satisfy their condition. -/
theorem card_matching (h : t.StoredIn key) (hid : id.kind = key)
    (hclause : (other, clause) ∈ dependents kind) :
    ((Database.ofTables t).matching [keyParam id] other (some clause)).card =
      (t.dependentIds kind id other).length := by
  refine card_filter_ofTables h.keyed (h.keyed.nodup_dependentIds kind id other) fun i => ?_
  rw [h.keyed.mem_dependentIds]
  refine exists_congr fun row => and_congr_right fun hrow => ?_
  rw [satisfied, Option.all_some, decide_eq_true_eq]
  exact (truth_dependents (f := { db := .ofTables t, params := [keyParam id] }) h hid rfl
    (value_keyParam id) hclause hrow).symm

theorem accepted_dependents (kind : EntityKind) (hid : id.kind = key) :
    (dependents kind).all fun d =>
      d.2.accepted (Names.bind { key, params := [keyParam id] } none d.1) := by
  obtain rfl := hid
  cases kind <;> cases id <;> rfl

theorem tally_dependents (h : t.StoredIn key) (kind : EntityKind) (hid : id.kind = key) :
    (Database.ofTables t).tally [keyParam id] (dependents kind) =
      (t.dependents kind id).ncard := by
  have hcard : ∀ d ∈ dependents kind,
      ((Database.ofTables t).matching [keyParam id] d.1 (some d.2)).card =
        (t.dependentIds kind id d.1).length := fun d hd => card_matching h hid hd
  rw [h.keyed.ncard_dependents]
  cases kind with
  | scope | token => rfl
  | authorization =>
    rw [dependents, List.forall_mem_singleton] at hcard
    rw [dependents, Database.tally, Database.tally, hcard, Nat.add_comm]
    rfl
  | application =>
    rw [dependents, List.forall_mem_cons, List.forall_mem_singleton] at hcard
    rw [dependents, Database.tally, Database.tally, Database.tally, hcard.1, hcard.2, Nat.add_zero,
      Nat.add_comm]
    rfl

theorem tally_executes_iff (h : t.StoredIn key) (hid : id.kind = key) :
    (Command.tally (dependents kind)).Executes key [keyParam id] (.ofTables t) answer after ↔
      answer = .number (t.dependents kind id).ncard ∧ after = .ofTables t := by
  constructor
  · rintro ⟨-, hrun⟩
    cases hrun
    exact ⟨congrArg Answer.number (tally_dependents h kind hid), rfl⟩
  · rintro ⟨rfl, rfl⟩
    rw [← tally_dependents h kind hid]
    exact ⟨accepted_dependents kind hid, .tally⟩

/-! ## 4. Deleting -/

/-- Deleting the tuples that satisfy a condition is removing rows. -/
theorem delete_runs_iff (htruth : ∀ i row, u.row? kind i = some row →
      (clause.truth (Frame.bind { db := .ofTables u, params } none row.tuple) = .holds ↔
        i ∈ ids)) :
    (∃ answer, (Command.delete kind clause).Runs (.ofTables u) params answer after) ↔
      after = .ofTables (u.removeRows kind ids) := by
  have hafter : ((Database.ofTables u).without fun other r => other = kind &&
      satisfied (some clause) (Frame.bind { db := .ofTables u, params } none r)) =
        .ofTables (u.removeRows kind ids) := by
    refine ofTables_without fun other => ?_
    by_cases hother : other = kind
    · subst hother
      rw [Tables.removeRows, Tables.setRows, Tables.get_set_self]
      dsimp only
      refine OrdMap.filter_congr fun i row hrow => ?_
      simp [satisfied, htruth i row hrow, List.contains_eq_mem]
    · rw [Tables.removeRows, Tables.setRows, Tables.get_set_of_ne _ hother]
      exact (OrdMap.filter_of_forall fun _ _ => by simp [hother]).symm
  constructor
  · rintro ⟨answer, hrun⟩
    cases hrun
    exact hafter
  · rintro rfl
    rw [← hafter]
    exact ⟨_, .delete⟩

theorem runsAll_nil_iff {db : Database} : RunsAll key [] db after ↔ after = db := by
  constructor
  · intro hrun
    cases hrun
    rfl
  · rintro rfl
    exact .nil

theorem runsAll_cons_iff {s : Statement} {rest : List Statement} {db between : Database}
    (hs : ∀ x, (∃ answer, s.Runs key db answer x) ↔ x = between) :
    RunsAll key (s :: rest) db after ↔ RunsAll key rest between after := by
  constructor
  · intro hrun
    cases hrun with
    | cons hfirst hrest =>
      rw [(hs _).mp ⟨_, hfirst⟩] at hrest
      exact hrest
  · intro hrest
    obtain ⟨answer, hfirst⟩ := (hs between).mpr rfl
    exact .cons hfirst hrest

theorem deleteDependents_eq (hid : id.kind = key) :
    deleteDependents kind key id =
      .ok ((dependents kind).map fun d => ⟨.delete d.1 d.2, [keyParam id]⟩) := by
  obtain rfl := hid
  rw [deleteDependents, ofKey_eq_keyParam]
  cases kind <;> rfl

/-- One of the deletions, when the rows of its kind and the authorizations are still there. -/
theorem deleteDependents_step (h : t.StoredIn key) (hid : id.kind = key)
    (hclause : (other, clause) ∈ dependents kind) (hrows : u.row? other = t.row? other)
    (hdb : Database.ofTables u .authorization = Database.ofTables t .authorization)
    (after : Database) :
    (∃ answer, Statement.Runs key ⟨.delete other clause, [keyParam id]⟩ (.ofTables u) answer
      after) ↔ after = .ofTables (u.removeRows other (t.dependentIds kind id other)) := by
  have haccepted := List.all_eq_true.mp (accepted_dependents kind hid) _ hclause
  have htruth : ∀ i row, u.row? other i = some row →
      (clause.truth (Frame.bind { db := .ofTables u, params := [keyParam id] } none row.tuple) =
        .holds ↔ i ∈ t.dependentIds kind id other) := by
    intro i row hrow
    rw [hrows] at hrow
    rw [truth_dependents (f := { db := .ofTables u, params := [keyParam id] }) h hid hdb
      (value_keyParam id) hclause hrow, h.keyed.mem_dependentIds]
    constructor
    · exact fun hdepends => ⟨row, hrow, hdepends⟩
    · rintro ⟨stored, hstored, hdepends⟩
      rw [hrow] at hstored
      rwa [Option.some.inj hstored]
  have hmem := List.mem_map_of_mem (f := fun d => (⟨.delete d.1 d.2, [keyParam id]⟩ : Statement))
    hclause
  rw [← delete_runs_iff htruth]
  refine exists_congr fun answer => ?_
  rw [runs_iff (.deleteDependents kind key id) (deleteDependents_eq hid) hmem]
  exact and_iff_right haccepted

/-- **The deletions leave the rows that do not depend on the row.** -/
theorem runsAll_dependents_iff (h : t.StoredIn key) (hid : id.kind = key) :
    RunsAll key ((dependents kind).map fun d => ⟨.delete d.1 d.2, [keyParam id]⟩) (.ofTables t)
      after ↔ after = .ofTables (t.withoutDependents kind id) := by
  have hfirst : ∀ clause, (.token, clause) ∈ dependents kind → ∀ between,
      (∃ answer, Statement.Runs key ⟨.delete .token clause, [keyParam id]⟩ (.ofTables t) answer
        between) ↔ between = .ofTables (t.removeRows .token (t.dependentTokens kind id)) :=
    fun clause hclause => deleteDependents_step h hid hclause rfl rfl
  cases kind with
  | scope | token =>
    change RunsAll key [] (.ofTables t) after ↔
      after = .ofTables ((t.removeRows .authorization []).removeRows .token [])
    rw [runsAll_nil_iff, Tables.removeRows_nil, Tables.removeRows_nil]
  | authorization =>
    rw [dependents, List.map_singleton, runsAll_cons_iff (hfirst _ (by simp [dependents])),
      runsAll_nil_iff]
    change _ ↔ after = .ofTables ((t.removeRows .authorization []).removeRows .token _)
    rw [Tables.removeRows_nil]
  | application =>
    have hclause : (.authorization, columnIs "application_id" 1) ∈ dependents .application := by
      simp [dependents]
    have hsecond := deleteDependents_step
      (u := t.removeRows .token (t.dependentTokens .application id)) h hid hclause rfl rfl
    -- the authorizations are still there for the sub-select when the tokens go
    rw [dependents, List.map_cons, List.map_singleton,
      runsAll_cons_iff (hfirst _ (by simp [dependents])), runsAll_cons_iff hsecond,
      runsAll_nil_iff, Tables.removeRows_comm _ (by simp)]
    rfl

/-! ## 5. Agreement -/

theorem countDependents_eq (hid : id.kind = key) :
    (countDependents kind key id = .ok none ∧ dependents kind = []) ∨
      countDependents kind key id = .ok (some ⟨.tally (dependents kind), [keyParam id]⟩) := by
  obtain rfl := hid
  cases kind with
  | scope | token => exact Or.inl ⟨rfl, rfl⟩
  | application | authorization =>
    right
    simp only [countDependents, dependents, ofKey_eq_keyParam, Except.map]

/-- **The two backends prune and cascade alike.**  The statement of a batch answers how many rows
are pruned in memory and leaves a database that holds what stays in memory; where there is no
statement, nothing is pruned.  The statement that counts the dependents of a row answers their
number, and the statements that delete them leave all other rows.  A cascade in memory answers the
same number and leaves the same rows, the row itself aside. -/
theorem removals_agree (h : t.StoredIn key) :
    (∀ kind criteria,
      (pruneBatch kind criteria = none → t.pruneBatch kind criteria = (0, t)) ∧
      ∀ s, pruneBatch kind criteria = some s → ∀ answer after,
        s.Runs key (.ofTables t) answer after ↔
          answer = .removed (t.pruneBatch kind criteria).1 ∧
            after = .ofTables (t.pruneBatch kind criteria).2) ∧
    ∀ kind id,
      (id.kind = key →
        (countDependents kind key id = .ok none ∧ (t.dependents kind id).ncard = 0 ∨
          ∃ s, countDependents kind key id = .ok (some s) ∧ ∀ answer after,
            s.Runs key (.ofTables t) answer after ↔
              answer = .number (t.dependents kind id).ncard ∧ after = .ofTables t) ∧
        ∃ statements, deleteDependents kind key id = .ok statements ∧ ∀ after,
          RunsAll key statements (.ofTables t) after ↔
            after = .ofTables (t.withoutDependents kind id)) ∧
      ∀ expected, t.StoredWith kind id expected → id.kind = key ∧ ∃ u,
        t.delete kind id expected .cascade = (.deleted (t.dependents kind id).ncard, u) ∧
        ∀ other i, u.row? other i =
          if other = kind ∧ i = id then none else (t.withoutDependents kind id).row? other i := by
  refine ⟨fun kind criteria => ⟨fun hnone => ?_, fun s hs answer after =>
    pruneBatch_runs_iff h hs⟩, fun kind id => ⟨fun hid => ⟨?_, ?_⟩, fun expected hrow => ?_⟩⟩
  · rw [Tables.pruneBatch_eq, Tables.batch_eq_nil (by cases kind <;> simp_all [pruneBatch]),
      Tables.purge_nil]
    rfl
  · rcases countDependents_eq hid with ⟨hcount, hnone⟩ | hcount
    · refine Or.inl ⟨hcount, ?_⟩
      rw [← tally_dependents h kind hid, hnone]
      rfl
    · have hops : (Operation.countDependents kind key id).statements =
          .ok [⟨.tally (dependents kind), [keyParam id]⟩] := by
        rw [Operation.statements, hcount]
        rfl
      exact Or.inr ⟨_, hcount, fun answer after =>
        (runs_iff _ hops List.mem_cons_self).trans (tally_executes_iff h hid)⟩
  · exact ⟨_, deleteDependents_eq hid, fun after => runsAll_dependents_iff h hid⟩
  · have hid : id.kind = key := by
      obtain ⟨row, hstored, -⟩ := hrow
      exact h.kind_eq hstored
    exact ⟨hid, _, h.keyed.delete_cascade hrow, fun other i => Tables.row?_erase _ kind other id i⟩

/-- An application with a revoked authorization and two tokens.  The first token depends on the
application in two ways, the second one only directly. -/
def agedGrants : Tables :=
  [(.application, .ofList [("concurrency_token", .text "t")]),
    (.authorization, .ofList [("application_id", .key (.int 1)),
      ("creation_date", .timestamp ⟨0, 0⟩), ("status", .text "revoked")]),
    (.token, .ofList [("application_id", .key (.int 1)), ("authorization_id", .key (.int 1))]),
    (.token, .ofList [("application_id", .key (.int 1)), ("status", .text "revoked")])].foldl
    (fun t r => (Tables.Operation.insert r.1 r.2).apply t) .empty

/-- Removes one row at a time, if it was created before the instant one. -/
def onePerBatch : PruneCriteria := ⟨⟨1, 0⟩, ⟨1, 0⟩, 1⟩

/-- The authorization is pruned, and a token without a creation date is not; each dependent of the
application is counted once. -/
theorem removals_agree_agedGrants :
    agedGrants.StoredIn .bigint ∧ agedGrants.StoredWith .application (.int 1) "t" ∧
      (∃ s, pruneBatch .authorization onePerBatch = some s ∧
        s.Runs .bigint (.ofTables agedGrants) (.removed 1)
          (.ofTables (agedGrants.pruneBatch .authorization onePerBatch).2)) ∧
      (∃ s, pruneBatch .token onePerBatch = some s ∧
        s.Runs .bigint (.ofTables agedGrants) (.removed 0) (.ofTables agedGrants)) ∧
      ∃ s, countDependents .application .bigint (.int 1) = .ok (some s) ∧
        s.Runs .bigint (.ofTables agedGrants) (.number 3) (.ofTables agedGrants) := by
  have hreach : Tables.Reachable agedGrants := Tables.reachable_foldl_insert _ .empty
  have hstored : agedGrants.StoredIn .bigint :=
    ⟨hreach.wellFormed.keyed, fun kind => by cases kind <;> decide +kernel, by decide +kernel⟩
  have hrow : agedGrants.StoredWith .application (.int 1) "t" :=
    Tables.tokenMatches_iff.mp (by decide +kernel)
  obtain ⟨hprune, hcascade⟩ := removals_agree hstored
  have hpruned : (agedGrants.pruneBatch .authorization onePerBatch).1 = 1 := by decide +kernel
  have hkept : agedGrants.pruneBatch .token onePerBatch = (0, agedGrants) := by
    decide +kernel
  have hremoved : (agedGrants.delete .application (.int 1) "t" .cascade).1 = .deleted 3 := by
    decide +kernel
  obtain ⟨hcount, hdelete⟩ := hcascade .application (.int 1)
  obtain ⟨-, u, heq, -⟩ := hdelete "t" hrow
  rw [heq] at hremoved
  have hthree := DeleteOutcome.deleted.inj hremoved
  refine ⟨hstored, hrow, ⟨_, rfl, ?_⟩, ⟨_, rfl, ?_⟩, ?_⟩
  · exact ((hprune .authorization _).2 _ rfl _ _).mpr ⟨by rw [hpruned], rfl⟩
  · exact ((hprune .token _).2 _ rfl _ _).mpr ⟨by rw [hkept], by rw [hkept]⟩
  · rcases (hcount rfl).1 with ⟨hnone, -⟩ | ⟨s, hs, hruns⟩
    · cases hnone
    · exact ⟨s, hs, (hruns _ _).mpr ⟨by rw [hthree], rfl⟩⟩

end Sql

end GrantLedger
