import GrantLedger.Proofs.WellFormed

/-!
# Identities that the tables assign

A row that is inserted without a key receives the next identity of its table.  Every insertion under
an integer, be it given or assigned, moves the next identity past this integer, also if the row is
then refused.  Nothing else touches it: deleting and pruning give no identity back.

* `nextIdentity_apply`: what one operation does to the next identity of a kind.
* `nextIdentity_run`: so the next identity after a run follows from the integers that the insertions
  of this kind used (`used`), in their order.
* `mem_used_of_stored`: an integer that is stored at any time of the run is one of these.
* `lt_foldl_past`: the next identity is beyond each of them.

`assigned_identities_fresh` puts this together for insertions below the largest integer.
`next_identity_exact` is about all insertions: the next identity is always the successor of the
largest integer used so far, because an insertion under the largest 64-bit integer, which has no
successor, panics and leaves the tables as they are.  `identities_run_out` shows two ways to get
there.
-/

namespace GrantLedger

/-- The integer of an integer key. -/
def Key.int? : Key → Option Int64
  | .int n => some n
  | .text _ | .uuid _ => none

namespace Tables

/-- The kind that an operation is about. -/
def Operation.kind : Operation → EntityKind
  | .insert kind _ | .update kind .. | .delete kind .. | .prune kind _ => kind

variable {t u : Tables} {kind other : EntityKind} {row : Row} {n next : Int64}

/-! ## 1. The successor of an identity -/

/-- An identity moved past an integer that has a successor. -/
def past (next n : Int64) : Int64 := max next (n + 1)

theorem toInt_max (a b : Int64) : (max a b).toInt = max a.toInt b.toInt := by
  have hmax : max a b = if a ≤ b then b else a := rfl
  rw [hmax]
  split
  · next h => rw [Int64.le_iff_toInt_le] at h; omega
  · next h => rw [Int64.le_iff_toInt_le] at h; omega

/-- Adding one is exact below the largest integer. -/
theorem toInt_add_one (h : n ≠ Int64.maxValue) : (n + 1).toInt = n.toInt + 1 := by
  have hlt := n.toInt_lt
  have hle := n.le_toInt
  have hne : n.toInt ≠ Int64.maxValue.toInt := fun e => h (Int64.toInt_inj.mp e)
  rw [Int64.toInt_maxValue] at hne
  have hone : (1 : Int64).toInt = 1 := rfl
  rw [Int64.toInt_add, hone]
  exact Int.bmod_eq_of_le (by omega) (by omega)

theorem toInt_past (h : n ≠ Int64.maxValue) :
    (past next n).toInt = max next.toInt (n.toInt + 1) := by
  rw [past, toInt_max, toInt_add_one h]

theorem le_past : next ≤ past next n := by
  rw [Int64.le_iff_toInt_le, past, toInt_max]
  omega

theorem lt_past (h : n ≠ Int64.maxValue) : n < past next n := by
  rw [Int64.lt_iff_toInt_lt, toInt_past h]
  omega

/-! ## 2. The next identity after one operation -/

/-- The identity that the next row of a kind without a key receives. -/
def nextIdentity (t : Tables) (kind : EntityKind) : Int64 := (t.get kind).nextIdentity

@[simp] theorem nextIdentity_empty (kind : EntityKind) : empty.nextIdentity kind = 1 := by
  cases kind <;> rfl

@[simp] theorem nextIdentity_setRows (t : Tables) (kind other : EntityKind)
    (rows : OrdMap Key Row) : (t.setRows kind rows).nextIdentity other = t.nextIdentity other := by
  by_cases h : other = kind
  · subst h
    simp only [nextIdentity, setRows, get_set_self]
  · simp only [nextIdentity, setRows, get_set_of_ne t h]

@[simp] theorem nextIdentity_removeRows (t : Tables) (kind other : EntityKind) (ids : List Key) :
    (t.removeRows kind ids).nextIdentity other = t.nextIdentity other :=
  nextIdentity_setRows t kind other _

/-- Counting a key as used moves the next identity past it, if it is an integer. -/
theorem nextIdentity_of_reserve? {id : Key} (h : t.reserve? kind id = some u)
    (other : EntityKind) : u.nextIdentity other =
      if other = kind then id.int?.elim (t.nextIdentity kind) (past (t.nextIdentity kind))
      else t.nextIdentity other := by
  obtain ⟨table, htable, rfl⟩ := Option.map_eq_some_iff.mp h
  by_cases hother : other = kind
  · subst hother
    rw [if_pos rfl, nextIdentity, get_set_self]
    cases id with
    | int n =>
      have hlast : n ≠ Int64.maxValue := fun e => by
        rw [e, reserve?_eq_none_iff.mpr rfl] at h
        cases h
      rw [Table.advance?, successor?, if_neg hlast] at htable
      cases htable
      rfl
    | text | uuid =>
      cases htable
      rfl
  · rw [if_neg hother, nextIdentity, get_set_of_ne t hother]
    rfl

/-- An insertion below the largest integer counts its key as used, whether it stores the row or
refuses it. -/
theorem nextIdentity_insert (hlast : t.insertedKey kind row ≠ .int Int64.maxValue)
    (other : EntityKind) : (t.insert kind row).2.nextIdentity other =
      if other = kind then
        (t.insertedKey kind row).int?.elim (t.nextIdentity kind) (past (t.nextIdentity kind))
      else t.nextIdentity other := by
  obtain ⟨u, hu⟩ := Option.ne_none_iff_exists'.mp (mt reserve?_eq_none_iff.mp hlast)
  rw [insert_eq hu, ← nextIdentity_of_reserve? hu other]
  split
  · rfl
  · split
    · rfl
    · exact nextIdentity_setRows _ kind other _

theorem nextIdentity_update (t : Tables) (kind other : EntityKind) (id : Key) (expected : String)
    (row : Row) : (t.update kind id expected row).2.nextIdentity other = t.nextIdentity other := by
  unfold update
  split
  · split
    · rfl
    · exact nextIdentity_setRows t kind other _
  · rfl

theorem nextIdentity_delete (t : Tables) (kind other : EntityKind) (id : Key) (expected : String)
    (policy : DeletePolicy) :
    (t.delete kind id expected policy).2.nextIdentity other = t.nextIdentity other := by
  unfold delete
  split
  · dsimp only
    split
    · rfl
    · simp only [nextIdentity_setRows, nextIdentity_removeRows]
  · rfl

theorem nextIdentity_purge (t : Tables) (kind other : EntityKind) (ids : List Key) :
    (t.purge kind ids).nextIdentity other = t.nextIdentity other := by
  rw [nextIdentity, get_purge]
  rfl

/-- The integer that an operation uses in the table of a kind: that of the key under which it
inserts a row, which is given or assigned.  It is used up even if the row is refused, but not if the
insertion panics. -/
def Operation.used? (kind : EntityKind) (t : Tables) : Operation → Option Int64
  | .insert other row =>
    if kind = other then (t.insertedKey kind row).int?.filter (· ≠ Int64.maxValue) else none
  | .update .. | .delete .. | .prune .. => none

theorem used?_insert (hlast : t.insertedKey kind row ≠ .int Int64.maxValue) :
    (Operation.insert kind row).used? kind t = (t.insertedKey kind row).int? := by
  rw [Operation.used?, if_pos rfl]
  cases hkey : t.insertedKey kind row with
  | int n =>
    have hn : n ≠ Int64.maxValue := fun e => hlast (e ▸ hkey)
    simp [Key.int?, hn]
  | text | uuid => rfl

theorem ne_maxValue_of_used? {op : Operation} (h : op.used? kind t = some n) :
    n ≠ Int64.maxValue := by
  cases op with
  | insert other row =>
    rw [Operation.used?] at h
    split at h
    · simpa using (Option.filter_eq_some_iff.mp h).2
    · cases h
  | update | delete | prune => cases h

/-- **The step.**  An operation moves the next identity of a kind past the integer that it uses, and
leaves it alone if it uses none. -/
theorem nextIdentity_apply (kind : EntityKind) (t : Tables) (op : Operation) :
    (op.apply t).nextIdentity kind =
      (op.used? kind t).elim (t.nextIdentity kind) (past (t.nextIdentity kind)) := by
  cases op with
  | insert other row =>
    rw [Operation.apply]
    by_cases hlast : t.insertedKey other row = .int Int64.maxValue
    · rw [insert_last hlast, Operation.used?]
      split
      · next h =>
        subst h
        rw [hlast]
        rfl
      · rfl
    · rw [nextIdentity_insert hlast]
      split
      · next h =>
        subst h
        rw [used?_insert hlast]
      · next h =>
        rw [Operation.used?, if_neg h]
        rfl
  | update other id expected row => exact nextIdentity_update t other kind id expected row
  | delete other id expected policy => exact nextIdentity_delete t other kind id expected policy
  | prune other criteria => exact nextIdentity_purge t other kind _

/-- An operation on another kind uses no identity of this one. -/
theorem used?_of_kind_ne {op : Operation} (h : op.kind ≠ kind) : op.used? kind t = none := by
  cases op with
  | insert other row => exact if_neg fun e => h e.symm
  | update | delete | prune => rfl

/-- Which integer is used depends on the next identity of the kind alone. -/
theorem used?_congr (h : t.nextIdentity kind = u.nextIdentity kind) (op : Operation) :
    op.used? kind t = op.used? kind u := by
  cases op with
  | insert other row =>
    have hkey : t.insertedKey kind row = u.insertedKey kind row := by
      rw [insertedKey, insertedKey, Table.identify, Table.identify]
      exact congrArg (fun next => (row.cell "id").key?.getD (.int next)) h
    rw [Operation.used?, Operation.used?, hkey]
  | update | delete | prune => rfl

/-- An integer that is stored after an operation was stored before it, or the operation used it. -/
theorem stored_of_apply {op : Operation} (h : ((op.apply t).row? kind (.int n)).isSome) :
    (t.row? kind (.int n)).isSome ∨ op.used? kind t = some n := by
  have hdrops : ∀ {u}, Drops t u → (u.row? kind (.int n)).isSome →
      (t.row? kind (.int n)).isSome := by
    intro u hu hrow
    obtain ⟨row, hrow⟩ := Option.isSome_iff_exists.mp hrow
    rw [row?_of_drops hu hrow]
    rfl
  cases op with
  | insert other row =>
    rcases insert_cases t other row with
      ⟨-, heq⟩ | ⟨fault, u, heq, hsame, -⟩ | ⟨u, heq, -, -, hu⟩
    · rw [Operation.apply, heq] at h
      exact .inl h
    · rw [Operation.apply, heq] at h
      exact .inl (hdrops hsame.drops h)
    · have hlast : t.insertedKey other row ≠ .int Int64.maxValue := fun hkey => by
        rw [insert_last hkey] at heq
        cases heq
      rw [Operation.apply, heq] at h
      -- the inserted row is the only one that can be new
      by_cases hat : kind = other ∧ Key.int n = t.insertedKey other row
      · obtain ⟨rfl, hkey⟩ := hat
        right
        rw [used?_insert hlast, ← hkey]
        rfl
      · rw [hu, if_neg hat] at h
        exact .inl h
  | update other id expected row =>
    rw [Operation.apply, isSome_row?_update] at h
    exact .inl h
  | delete other id expected policy =>
    rcases delete_cases t other id expected policy with ⟨heq, -⟩ | ⟨_, heq, -⟩ | ⟨_, u, heq, -, hu⟩
    · rw [Operation.apply, heq] at h
      exact .inl h
    · rw [Operation.apply, heq] at h
      exact .inl h
    · rw [Operation.apply, heq] at h
      exact .inl (hdrops (drops_of_gone hu) h)
  | prune other criteria => exact .inl (hdrops (t.drops_purge other _) h)

/-! ## 3. The next identity after a run -/

/-- The tables after a run of operations. -/
def run (t : Tables) (ops : List Operation) : Tables := ops.foldl Operation.apply t

/-- The integers that the operations of a run use in the table of a kind, in their order. -/
def used (kind : EntityKind) (t : Tables) : List Operation → List Int64
  | [] => []
  | op :: ops => (op.used? kind t).toList ++ used kind (op.apply t) ops

variable {ops before : List Operation}

theorem reachable_run (h : Reachable t) (ops : List Operation) : Reachable (run t ops) := by
  induction ops generalizing t with
  | nil => exact h
  | cons op ops ih => exact ih (h.step op)

theorem used_append (kind : EntityKind) (t : Tables) (before after : List Operation) :
    used kind t (before ++ after) = used kind t before ++ used kind (run t before) after := by
  induction before generalizing t with
  | nil => rfl
  | cons op before ih =>
    rw [List.cons_append, used, used, ih, List.append_assoc]
    rfl

/-- **The run.**  The next identity is moved past the integers that are used, one after the
other. -/
theorem nextIdentity_run (kind : EntityKind) (t : Tables) (ops : List Operation) :
    (run t ops).nextIdentity kind = (used kind t ops).foldl past (t.nextIdentity kind) := by
  induction ops generalizing t with
  | nil => rfl
  | cons op ops ih =>
    change (run (op.apply t) ops).nextIdentity kind = _
    rw [ih, nextIdentity_apply, used, List.foldl_append]
    cases op.used? kind t <;> rfl

theorem mem_used_of_stored (h : ((run t ops).row? kind (.int n)).isSome) :
    (t.row? kind (.int n)).isSome ∨ n ∈ used kind t ops := by
  induction ops generalizing t with
  | nil => exact .inl h
  | cons op ops ih =>
    rw [used, List.mem_append, Option.mem_toList]
    rcases ih h with hstored | hused
    · exact (stored_of_apply hstored).imp_right .inl
    · exact .inr (.inr hused)

/-- Operations on other kinds may be left out of a run. -/
theorem nextIdentity_run_filter (h : t.nextIdentity kind = u.nextIdentity kind)
    (ops : List Operation) : (run t ops).nextIdentity kind =
      (run u (ops.filter (·.kind = kind))).nextIdentity kind := by
  induction ops generalizing t u with
  | nil => exact h
  | cons op ops ih =>
    change (run (op.apply t) ops).nextIdentity kind = _
    by_cases hkind : op.kind = kind
    · rw [List.filter_cons_of_pos (by simpa using hkind)]
      refine ih ?_
      rw [nextIdentity_apply, nextIdentity_apply, used?_congr h, h]
    · rw [List.filter_cons_of_neg (by simpa using hkind)]
      refine ih ?_
      rw [nextIdentity_apply, used?_of_kind_ne hkind]
      exact h

/-! ## 4. Beyond all that is used -/

theorem le_foldl_past (l : List Int64) (next : Int64) : next ≤ l.foldl past next := by
  induction l generalizing next with
  | nil => exact Int64.le_refl next
  | cons n l ih => exact Int64.le_trans le_past (ih _)

/-- The next identity never goes back. -/
theorem nextIdentity_le_run (kind : EntityKind) (t : Tables) (ops : List Operation) :
    t.nextIdentity kind ≤ (run t ops).nextIdentity kind := by
  rw [nextIdentity_run]
  exact le_foldl_past _ _

/-- Every integer that has a successor is below the next identity once it is used. -/
theorem lt_foldl_past {l : List Int64} (hn : n ∈ l) (h : n ≠ Int64.maxValue) :
    n < l.foldl past next := by
  induction l generalizing next with
  | nil => cases hn
  | cons m l ih =>
    rcases List.mem_cons.mp hn with rfl | hn
    · exact Int64.lt_of_lt_of_le (lt_past h) (le_foldl_past l _)
    · exact ih hn

/-- The largest integer is never used. -/
theorem ne_maxValue_of_mem_used (h : n ∈ used kind t ops) : n ≠ Int64.maxValue := by
  induction ops generalizing t with
  | nil => cases h
  | cons op ops ih =>
    rw [used, List.mem_append, Option.mem_toList] at h
    rcases h with h | h
    · exact ne_maxValue_of_used? h
    · exact ih h

/-! ## 5. Fresh identities -/

theorem takenText?_ne_duplicateKey (t : Tables) (kind : EntityKind) (row : Row)
    (updating : Option Key) (id : Key) (table : String) :
    t.takenText? kind row updating ≠ some (.duplicateKey id table) := by
  intro h
  simp only [takenText?, Option.bind_eq_bind, Option.bind_eq_some_iff] at h
  obtain ⟨_, -, _, -, h⟩ := h
  split at h <;> cases h

/-- A row whose key is not stored is not refused for its key. -/
theorem insert_ne_duplicateKey (h : t.row? kind (t.insertedKey kind row) = none) (id : Key)
    (table : String) : (t.insert kind row).1 ≠ .error (.backend (.duplicateKey id table)) := by
  intro hrefused
  by_cases hlast : t.insertedKey kind row = .int Int64.maxValue
  · rw [insert_last hlast] at hrefused
    cases hrefused
  obtain ⟨u, hu⟩ := Option.ne_none_iff_exists'.mp (mt reserve?_eq_none_iff.mp hlast)
  rw [insert_eq hu, h, Option.isSome_none, if_neg Bool.false_ne_true] at hrefused
  split at hrefused
  · next hfault =>
    cases hrefused
    exact takenText?_ne_duplicateKey _ _ _ _ _ _ hfault
  · cases hrefused

/-- **Assigned identities are fresh.**  As long as the next identity is below the largest integer, a
row without a key is inserted under an integer beyond all that were ever stored in its table or used
by an insertion, whatever was deleted, pruned or refused since.  So its key is never a duplicate,
and only its unique text can keep it out.  Operations on other kinds might as well not have
happened. -/
theorem assigned_identities_fresh
    (hbelow : (run empty ops).nextIdentity kind < Int64.maxValue)
    (hrow : (row.cell "id").key? = none) :
    (∀ stored, ((run empty ops).insert kind row).1 = .ok stored →
        stored.cell "id" = .key (.int ((run empty ops).nextIdentity kind))) ∧
      (∀ before, before <+: ops → ∀ m, ((run empty before).row? kind (.int m)).isSome →
        m < (run empty ops).nextIdentity kind) ∧
      (∀ m ∈ used kind empty ops, m < (run empty ops).nextIdentity kind) ∧
      (∀ id table, ((run empty ops).insert kind row).1 ≠
        .error (.backend (.duplicateKey id table))) ∧
      ((run empty ops).insert kind row).1 ≠ .panic ∧
      ((∃ e, ((run empty ops).insert kind row).1 = .error e) ↔
        ∃ text i, uniqueText? kind row = some text ∧ (run empty ops).HoldsText kind i text) ∧
      (run empty ops).nextIdentity kind =
        (run empty (ops.filter (·.kind = kind))).nextIdentity kind := by
  have hused : ∀ m ∈ used kind empty ops, m < (run empty ops).nextIdentity kind := by
    intro m hm
    rw [nextIdentity_run]
    exact lt_foldl_past hm (ne_maxValue_of_mem_used hm)
  -- what is stored after a part of the run was used in this part or later
  have hstored : ∀ before, before <+: ops → ∀ m,
      ((run empty before).row? kind (.int m)).isSome → m < (run empty ops).nextIdentity kind := by
    rintro before ⟨after, rfl⟩ m hm
    refine hused m ?_
    rw [used_append, List.mem_append]
    exact .inl ((mem_used_of_stored hm).resolve_left (by simp))
  have hkey : (run empty ops).insertedKey kind row = .int ((run empty ops).nextIdentity kind) := by
    rw [insertedKey, Table.identify, hrow]
    rfl
  have hlast : (run empty ops).insertedKey kind row ≠ .int Int64.maxValue := by
    rw [hkey]
    intro h
    rw [Key.int.inj h] at hbelow
    exact Int64.lt_irrefl hbelow
  have hfree : (run empty ops).row? kind ((run empty ops).insertedKey kind row) = none := by
    rw [hkey, ← Option.not_isSome_iff_eq_none]
    exact fun h => Int64.lt_irrefl (hstored ops (List.prefix_refl ops) _ h)
  refine ⟨?_, hstored, hused, insert_ne_duplicateKey hfree, mt (insert_panics_iff _ _ _).mp hlast,
    ?_, nextIdentity_run_filter rfl ops⟩
  · intro stored hok
    rcases insert_cases (run empty ops) kind row with
      ⟨-, heq⟩ | ⟨fault, u, heq, -⟩ | ⟨u, heq, -⟩
    · rw [heq] at hok
      cases hok
    · rw [heq] at hok
      cases hok
    · rw [heq] at hok
      cases hok
      rw [insertedRow, Row.cell_set_self, hkey]
  · have hwf := (reachable_run .empty ops).wellFormed
    rw [hwf.insert_refused_iff hlast, hfree]
    simp

/-- A scope with a concurrency token, for examples. -/
def scopeRow (cells : List (String × Cell)) : Row :=
  .ofList (("concurrency_token", .text "t") :: cells)

/-- A run that gives keys in falling order, has one assigned and deletes it, and in which a row is
refused for its name. -/
def churn : List Operation := [
  .insert .scope (scopeRow [("id", .key (.int 5)), ("name", .text "api")]),
  .insert .scope (scopeRow [("id", .key (.int (-3)))]),
  .insert .scope (scopeRow []),
  .delete .scope (.int 6) "t" .restrict,
  .insert .scope (scopeRow [("name", .text "api")]),
  .insert .application (scopeRow [("id", .key (.int 100))])]

/-- The row that was deleted had the identity 6, and the one that was refused used up 7. -/
theorem assigned_identities_fresh_churn :
    ((run empty (churn.take 3)).row? .scope (.int 6)).isSome ∧
      (run empty churn).row? .scope (.int 6) = none ∧
      used .scope empty churn = [5, -3, 6, 7] ∧
      (run empty churn).nextIdentity .scope = 8 ∧
      (∀ before, before <+: churn → ∀ m, ((run empty before).row? .scope (.int m)).isSome →
        m < 8) ∧
      ((run empty churn).insert .scope (scopeRow [])).1.isOk = true := by
  obtain ⟨hsix, hgone, hused, hnext, hok⟩ :
      ((run empty (churn.take 3)).row? .scope (.int 6)).isSome ∧
      (run empty churn).row? .scope (.int 6) = none ∧
      used .scope empty churn = [5, -3, 6, 7] ∧
      (run empty churn).nextIdentity .scope = 8 ∧
      ((run empty churn).insert .scope (scopeRow [])).1.isOk = true := by decide +kernel
  have hbelow : (run empty churn).nextIdentity .scope < Int64.maxValue := by
    rw [hnext]
    decide
  have hkeyless : ((scopeRow []).cell "id").key? = none := by decide +kernel
  obtain ⟨-, hstored, -⟩ := assigned_identities_fresh hbelow hkeyless
  rw [hnext] at hstored
  exact ⟨hsix, hgone, hused, hnext, hstored, hok⟩

/-! ## 6. The end of the range -/

/-- The number after zero and all of some integers, where numbers have no end. -/
def firstAfter (used : List Int64) : Int := (used.map Int64.toInt).foldl max 0 + 1

theorem toInt_foldl_past {l : List Int64} (h : ∀ n ∈ l, n ≠ Int64.maxValue) {m : Int}
    (hnext : next.toInt = m + 1) :
    (l.foldl past next).toInt = (l.map Int64.toInt).foldl max m + 1 := by
  induction l generalizing next m with
  | nil => exact hnext
  | cons n l ih =>
    rw [List.forall_mem_cons] at h
    refine ih h.2 ?_
    rw [toInt_past h.1, hnext]
    omega

/-- **The arithmetic of identities, exactly.**  After every run, the next identity is what it would
be with unbounded integers: one more than the largest integer used.  A further insertion, of any row
under any key, given or assigned, panics exactly if the key is the largest 64-bit integer, and then
the tables are left as they were.  Under any other integer the next identity ends up beyond it,
without having wrapped. -/
theorem next_identity_exact (kind : EntityKind) (ops : List Operation) :
    ((run empty ops).nextIdentity kind).toInt = firstAfter (used kind empty ops) ∧
      (∀ row, ((run empty ops).insert kind row).1 = .panic ↔
        (run empty ops).insertedKey kind row = .int Int64.maxValue) ∧
      (∀ row, ((run empty ops).insert kind row).1 = .panic →
        ((run empty ops).insert kind row).2 = run empty ops) ∧
      ∀ row n, (run empty ops).insertedKey kind row = .int n → n ≠ Int64.maxValue →
        n < ((run empty ops).insert kind row).2.nextIdentity kind ∧
        (((run empty ops).insert kind row).2.nextIdentity kind).toInt =
          max ((run empty ops).nextIdentity kind).toInt (n.toInt + 1) := by
  refine ⟨?_, insert_panics_iff _ _, fun row h => ?_, fun row n hkey hn => ?_⟩
  · rw [nextIdentity_run, nextIdentity_empty]
    exact toInt_foldl_past (fun n => ne_maxValue_of_mem_used) rfl
  · rw [insert_last ((insert_panics_iff _ _ _).mp h)]
  · have hlast : (run empty ops).insertedKey kind row ≠ .int Int64.maxValue := by
      rw [hkey]
      exact fun h => hn (Key.int.inj h)
    have hnext : ((run empty ops).insert kind row).2.nextIdentity kind =
        past ((run empty ops).nextIdentity kind) n := by
      rw [nextIdentity_insert hlast, if_pos rfl, hkey]
      rfl
    rw [hnext]
    exact ⟨lt_past hn, toInt_past hn⟩

/-- The largest integer but one is given. -/
def brim : List Operation := [.insert .scope (scopeRow [("id", .key (.int (Int64.maxValue - 1)))])]

/-- After that the largest integer is next, and a row without a key cannot be inserted; a row with a
smaller integer still can. -/
theorem next_identity_exact_brim :
    ((run empty brim).nextIdentity .scope).toInt = firstAfter (used .scope empty brim) ∧
      (run empty brim).nextIdentity .scope = Int64.maxValue ∧
      (run empty brim).insertedKey .scope (scopeRow []) = .int Int64.maxValue ∧
      (run empty brim).insert .scope (scopeRow []) = (.panic, run empty brim) ∧
      (run empty brim).insertedKey .scope (scopeRow [("id", .key (.int 7))]) = .int 7 ∧
      7 < ((run empty brim).insert .scope (scopeRow [("id", .key (.int 7))])).2.nextIdentity
        .scope := by
  obtain ⟨hexact, hpanic, hkept, hbeyond⟩ := next_identity_exact .scope brim
  have hlast : (run empty brim).insertedKey .scope (scopeRow []) = .int Int64.maxValue := by
    decide +kernel
  have hseven : (run empty brim).insertedKey .scope (scopeRow [("id", .key (.int 7))]) =
      .int 7 := by decide +kernel
  have houtcome := (hpanic _).mpr hlast
  exact ⟨hexact, by decide +kernel, hlast, Prod.ext houtcome (hkept _ houtcome), hseven,
    (hbeyond _ _ hseven (by decide)).1⟩

/-- **The range can run out.**  An insertion under the largest integer panics; so does one without a
key after the largest integer but one has been used, although nobody gave the largest one. -/
theorem identities_run_out :
    empty.insert .scope (scopeRow [("id", .key (.int Int64.maxValue))]) = (.panic, empty) ∧
      (run empty brim).insert .scope (scopeRow []) = (.panic, run empty brim) :=
  ⟨insert_last (by decide +kernel), insert_last (by decide +kernel)⟩

end Tables

end GrantLedger
