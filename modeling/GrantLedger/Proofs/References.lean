import GrantLedger.Proofs.Sweeping

/-!
# References and what depends on a row

Authorizations reference applications, and tokens reference both; `RefersTo` reads this off the
declared columns.  A row is removed in four ways: it is deleted itself, it depends on a row that is
deleted, it is pruned, or it is a token of a pruned authorization.

* `removal_keeps_references`: in none of these ways does a remaining row lose a row that it
  references.  What goes is closed under references (`refers_gone_of_delete`,
  `refers_gone_of_purge`): whatever references a row that goes, goes as well.
* `restrict_agrees_with_cascade`: one policy refuses exactly what the other one takes along.  The
  number in the answer is the number of dependents as a set (`dependents`), so a token that depends
  on an application both directly and through an authorization counts once.
-/

namespace GrantLedger.Tables

variable {t u : Tables} {kind other target : EntityKind} {id key i : Key} {row : Row}
variable {expected : String} {policy : DeletePolicy}

/-! ## 1. References -/

/-- A row of a kind references a row of another kind: the key stands in a column that is declared
to hold such references. -/
def RefersTo (kind : EntityKind) (row : Row) (target : EntityKind) (key : Key) : Prop :=
  ∃ column, ⟨column, .reference target⟩ ∈ kind.columns ∧ row.cell column = .key key

/-- Three columns hold references. -/
theorem refersTo_iff : RefersTo kind row target key ↔
    (target = .application ∧ (kind = .authorization ∨ kind = .token) ∧
        row.cell "application_id" = .key key) ∨
      (target = .authorization ∧ kind = .token ∧ row.cell "authorization_id" = .key key) := by
  cases kind <;> cases target <;> simp [RefersTo, EntityKind.columns]

/-- Every reference of a remaining row that led to a stored row still does. -/
def KeepsReferences (t u : Tables) : Prop :=
  ∀ kind id row, u.row? kind id = some row → ∀ target key, RefersTo kind row target key →
    (t.row? target key).isSome → (u.row? target key).isSome

theorem KeepsReferences.refl (t : Tables) : KeepsReferences t t :=
  fun _ _ _ _ _ _ _ hstored => hstored

/-- References are kept if whatever references a row that goes, goes as well. -/
theorem keepsReferences_of_closed {gone : EntityKind → Key → Prop}
    (hu : ∀ kind id, (gone kind id → u.row? kind id = none) ∧
      (¬ gone kind id → u.row? kind id = t.row? kind id))
    (hclosed : ∀ kind id row, t.row? kind id = some row → ∀ target key,
      RefersTo kind row target key → gone target key → gone kind id) :
    KeepsReferences t u := by
  intro kind id row hrow target key hrefers hstored
  have hstays : ¬ gone kind id := by
    intro hgone
    rw [(hu kind id).1 hgone] at hrow
    cases hrow
  have hbefore : t.row? kind id = some row := by
    rw [← (hu kind id).2 hstays]
    exact hrow
  have htarget : ¬ gone target key := fun hgone =>
    hstays (hclosed kind id row hbefore target key hrefers hgone)
  rw [(hu target key).2 htarget]
  exact hstored

/-! ## 2. What depends on a row -/

/-- Whether a row of another kind depends on the row of a kind under a key.

Authorizations depend on their application.  Tokens depend on their authorization and on their
application, and also on the application of their authorization. -/
def DependsOn (t : Tables) (kind : EntityKind) (id : Key) (other : EntityKind) (row : Row) : Prop :=
  match kind, other with
  | .application, .authorization => row.cell "application_id" = .key id
  | .application, .token =>
    row.cell "application_id" = .key id ∨
      ∃ a authorization, row.cell "authorization_id" = .key a ∧
        t.row? .authorization a = some authorization ∧
        authorization.cell "application_id" = .key id
  | .authorization, .token => row.cell "authorization_id" = .key id
  | _, _ => False

/-- The stored rows that depend on a row. -/
def dependents (t : Tables) (kind : EntityKind) (id : Key) : Set (EntityKind × Key) :=
  {p | ∃ row, t.row? p.1 p.2 = some row ∧ t.DependsOn kind id p.1 row}

theorem references_iff {column : String} :
    references column id row = true ↔ row.cell column = .key id := by
  rw [references, beq_iff_eq, key?_eq_some_iff]

theorem Keyed.mem_dependentAuthorizations (h : t.Keyed) :
    i ∈ t.dependentAuthorizations kind id ↔
      ∃ row, t.row? .authorization i = some row ∧ t.DependsOn kind id .authorization row := by
  cases kind <;> simp [dependentAuthorizations, DependsOn, h.mem_idsWhere, references_iff]

theorem Keyed.mem_dependentTokens (h : t.Keyed) :
    i ∈ t.dependentTokens kind id ↔
      ∃ row, t.row? .token i = some row ∧ t.DependsOn kind id .token row := by
  cases kind with
  | scope | token => simp [dependentTokens, DependsOn]
  | authorization => simp [dependentTokens, DependsOn, h.mem_idsWhere, references_iff]
  | application =>
    simp only [dependentTokens, h.mem_idsWhere, Bool.or_eq_true, references_iff,
      Option.any_eq_true, key?_eq_some_iff, List.contains_iff_mem, h.mem_dependentAuthorizations]
    refine exists_congr fun row => and_congr_right fun _ => or_congr_right ?_
    exact exists_congr fun a => by rw [exists_and_left]; rfl

/-- The identifiers of the rows of a kind that depend on a row. -/
def dependentIds (t : Tables) (kind : EntityKind) (id : Key) : EntityKind → List Key
  | .authorization => t.dependentAuthorizations kind id
  | .token => t.dependentTokens kind id
  | .application | .scope => []

theorem Keyed.mem_dependentIds (h : t.Keyed) :
    i ∈ t.dependentIds kind id other ↔
      ∃ row, t.row? other i = some row ∧ t.DependsOn kind id other row := by
  cases other with
  | authorization => exact h.mem_dependentAuthorizations
  | token => exact h.mem_dependentTokens
  | application | scope => cases kind <;> simp [dependentIds, DependsOn]

theorem Keyed.nodup_dependentIds (h : t.Keyed) (kind : EntityKind) (id : Key)
    (other : EntityKind) : (t.dependentIds kind id other).Nodup := by
  cases other <;> cases kind <;> first | exact h.nodup_idsWhere _ _ | exact List.nodup_nil

/-- **The identifiers that a deletion looks up are those of the dependents.** -/
theorem Keyed.isDependent_iff (h : t.Keyed) :
    t.IsDependent kind id other i ↔ (other, i) ∈ t.dependents kind id := by
  rw [IsDependent, h.mem_dependentAuthorizations, h.mem_dependentTokens]
  constructor
  · rintro (⟨rfl, hrow⟩ | ⟨rfl, hrow⟩) <;> exact hrow
  · rintro ⟨row, hrow, hdep⟩
    cases other with
    | authorization => exact Or.inl ⟨rfl, row, hrow, hdep⟩
    | token => exact Or.inr ⟨rfl, row, hrow, hdep⟩
    | application | scope => cases kind <;> cases hdep

/-! ## 3. No reference is left dangling -/

/-- Whatever references a deleted row or one of its dependents is a dependent itself. -/
theorem Keyed.refers_gone_of_delete (h : t.Keyed) (hrow : t.row? other i = some row)
    (hrefers : RefersTo other row target key)
    (hgone : target = kind ∧ key = id ∨ t.IsDependent kind id target key) :
    t.IsDependent kind id other i := by
  rw [h.isDependent_iff]
  rw [h.isDependent_iff] at hgone
  refine ⟨row, hrow, ?_⟩
  rcases refersTo_iff.mp hrefers with ⟨rfl, hother, hcell⟩ | ⟨rfl, rfl, hcell⟩
  · rcases hgone with ⟨rfl, rfl⟩ | ⟨_, _, hdep⟩
    · rcases hother with rfl | rfl
      · exact hcell
      · exact Or.inl hcell
    · cases kind <;> cases hdep
  · rcases hgone with ⟨rfl, rfl⟩ | ⟨authorization, hstored, hdep⟩
    · exact hcell
    · cases kind with
      | application => exact Or.inr ⟨key, authorization, hcell, hstored, hdep⟩
      | authorization | scope | token => cases hdep

theorem Keyed.delete_keepsReferences (h : t.Keyed) (kind : EntityKind) (id : Key)
    (expected : String) (policy : DeletePolicy) :
    KeepsReferences t (t.delete kind id expected policy).2 := by
  rcases delete_cases t kind id expected policy with ⟨heq, -⟩ | ⟨n, heq, -⟩ | ⟨n, u, heq, -, hu⟩
  · rw [heq]
    exact .refl t
  · rw [heq]
    exact .refl t
  · rw [heq]
    refine keepsReferences_of_closed hu fun other i row hrow target key hrefers hgone => ?_
    exact Or.inr (h.refers_gone_of_delete hrow hrefers hgone)

/-- Batches take authorizations and tokens only. -/
theorem batch_eq_nil {criteria : PruneCriteria} (hkind : kind = .application ∨ kind = .scope) :
    t.batch kind criteria = [] := by
  rcases hkind with rfl | rfl <;> simp [batch, idsWhere, isPrunable]

/-- Whatever references a purged row is purged itself, unless applications are purged. -/
theorem refers_gone_of_purge {ids : List Key} (hids : kind = .application → ids = [])
    (hrefers : RefersTo other row target key) {r : Row}
    (hgone : isPurged kind ids target key r = true) : isPurged kind ids other i row = true := by
  simp only [isPurged, Bool.or_eq_true, Bool.and_eq_true, decide_eq_true_eq,
    List.contains_iff_mem] at hgone ⊢
  rcases refersTo_iff.mp hrefers with ⟨rfl, -, -⟩ | ⟨rfl, rfl, hcell⟩
  · rcases hgone with ⟨rfl, hmem⟩ | ⟨⟨-, htoken⟩, -⟩
    · rw [hids rfl] at hmem
      cases hmem
    · cases htoken
  · rcases hgone with ⟨rfl, hmem⟩ | ⟨⟨-, htoken⟩, -⟩
    · exact Or.inr ⟨⟨rfl, rfl⟩, by simpa [hcell, Cell.key?] using hmem⟩
    · cases htoken

theorem purge_keepsReferences {ids : List Key} (hids : kind = .application → ids = []) :
    KeepsReferences t (t.purge kind ids) := by
  intro other i row hrow target key hrefers hstored
  rw [row?_purge, Option.filter_eq_some_iff] at hrow
  obtain ⟨r, hr⟩ := Option.isSome_iff_exists.mp hstored
  rw [row?_purge, hr, Option.filter_some]
  have hkept : isPurged kind ids target key r = false := by
    by_contra hgone
    have := refers_gone_of_purge hids hrefers (i := i) (Bool.eq_true_of_not_eq_false hgone)
    simp [this] at hrow
  simp [hkept]

/-- **No removal leaves a reference dangling.**  From all tables that operations come to, deleting a
row by either policy and pruning a batch by any criteria keep every reference of a remaining row
that led to a stored row. -/
theorem removal_keeps_references (h : Reachable t) :
    (∀ kind id expected policy, KeepsReferences t (t.delete kind id expected policy).2) ∧
      ∀ kind criteria, KeepsReferences t (t.pruneBatch kind criteria).2 := by
  refine ⟨h.wellFormed.keyed.delete_keepsReferences, fun kind criteria => ?_⟩
  rw [pruneBatch_eq]
  exact purge_keepsReferences fun hkind => batch_eq_nil (Or.inl hkind)

/-- A row with the token `t` and references, for examples. -/
def linkedRow (links : List (String × Key)) : Row :=
  .ofList (("concurrency_token", .text "t") :: links.map fun r => (r.1, .key r.2))

/-- Two applications with an authorization each.  The token of the first authorization references
its application directly as well, the token of the second one does not. -/
def twoGrants : Tables :=
  [(.application, linkedRow []), (.application, linkedRow []),
    (.authorization, linkedRow [("application_id", .int 1)]),
    (.authorization, linkedRow [("application_id", .int 2)]),
    (.token, linkedRow [("application_id", .int 1), ("authorization_id", .int 1)]),
    (.token, linkedRow [("authorization_id", .int 2)])].foldl
    (fun t r => (Operation.insert r.1 r.2).apply t) empty

theorem reachable_twoGrants : Reachable twoGrants := reachable_foldl_insert _ .empty

/-- With the first application goes its authorization; the second authorization is still there for
the token that references it. -/
theorem removal_keeps_references_twoGrants :
    Reachable twoGrants ∧
      (twoGrants.delete .application (.int 1) "t" .cascade).1 = .deleted 2 ∧
      ((twoGrants.delete .application (.int 1) "t" .cascade).2.row? .authorization
        (.int 2)).isSome := by
  have hreach := reachable_twoGrants
  have hrefers : RefersTo .token (linkedRow [("authorization_id", .int 2)] |>.set "id"
      (.key (.int 2))) .authorization (.int 2) := ⟨"authorization_id", by decide, by decide +kernel⟩
  refine ⟨hreach, by decide +kernel, ?_⟩
  exact (removal_keeps_references hreach).1 .application (.int 1) "t" .cascade .token (.int 2) _
    (by decide +kernel) .authorization (.int 2) hrefers (by decide +kernel)

/-! ## 4. How many rows go -/

/-- The number of rows over all kinds. -/
def total (t : Tables) : Nat := (EntityKind.all.map t.size).sum

/-- Where rows are stored. -/
def stored (t : Tables) : Set (EntityKind × Key) := {p | (t.row? p.1 p.2).isSome}

/-- The places of `stored`, kind after kind. -/
def places (t : Tables) : List (EntityKind × Key) :=
  EntityKind.all.flatMap fun kind => (t.get kind).rows.keys.map (Prod.mk kind)

theorem mem_places (p : EntityKind × Key) : p ∈ t.places ↔ p ∈ t.stored := by
  obtain ⟨kind, id⟩ := p
  have hall : kind ∈ EntityKind.all := by cases kind <;> decide
  simp only [places, stored, List.mem_flatMap, List.mem_map, Prod.mk.injEq, OrdMap.keys,
    Set.mem_ofPred_eq, Option.isSome_iff_exists, row?, OrdMap.get?_eq_some_iff, Prod.exists]
  constructor
  · rintro ⟨k, -, i, ⟨j, r, hr, rfl⟩, rfl, rfl⟩
    exact ⟨r, hr⟩
  · rintro ⟨r, hr⟩
    exact ⟨kind, hall, id, ⟨id, r, hr, rfl⟩, rfl, rfl⟩

theorem nodup_places (t : Tables) : t.places.Nodup := by
  have hkeys : ∀ kind, (t.get kind).rows.keys.Nodup := fun kind =>
    List.pairwise_map.mpr ((t.get kind).rows.ascending.imp fun hlt heq => by
      rw [heq, Std.ReflOrd.compare_self] at hlt
      cases hlt)
  refine List.nodup_flatMap.mpr ⟨fun kind _ => (hkeys kind).map (Prod.mk_right_injective kind), ?_⟩
  have hall : EntityKind.all.Pairwise (· ≠ ·) := by decide
  refine hall.imp fun hne p hp hp' => ?_
  obtain ⟨_, -, rfl⟩ := List.mem_map.mp hp
  obtain ⟨_, -, heq⟩ := List.mem_map.mp hp'
  exact hne (congrArg Prod.fst heq).symm

theorem finite_stored (t : Tables) : t.stored.Finite :=
  t.places.toFinset.finite_toSet.subset fun p hp => by simpa using (mem_places p).mpr hp

theorem total_eq_ncard (t : Tables) : t.total = t.stored.ncard := by
  rw [ncard_eq_length (nodup_places t) mem_places, places, List.length_flatMap, total]
  simp only [List.length_map, OrdMap.keys]
  rfl

/-- No row depends on a row of its own kind. -/
theorem notMem_dependents_self : (kind, i) ∉ t.dependents kind id := by
  rintro ⟨row, -, hdep⟩
  cases kind <;> cases hdep

/-- **The deletion counts every dependent once.** -/
theorem Keyed.ncard_dependents (h : t.Keyed) (kind : EntityKind) (id : Key) :
    (t.dependents kind id).ncard =
      (t.dependentAuthorizations kind id).length + (t.dependentTokens kind id).length := by
  have hauthorizations := h.nodup_dependentIds kind id .authorization
  have htokens := h.nodup_dependentIds kind id .token
  have hnodup : ((t.dependentAuthorizations kind id).map (Prod.mk EntityKind.authorization) ++
      (t.dependentTokens kind id).map (Prod.mk EntityKind.token)).Nodup :=
    List.nodup_append'.mpr ⟨hauthorizations.map (Prod.mk_right_injective _),
      htokens.map (Prod.mk_right_injective _), by simp [List.Disjoint]⟩
  rw [ncard_eq_length hnodup, List.length_append, List.length_map, List.length_map]
  rintro ⟨other, i⟩
  rw [← h.isDependent_iff]
  simp [IsDependent, eq_comm, and_comm]

/-- The rows are those that stay and those that go. -/
theorem total_eq_of_gone {gone : Set (EntityKind × Key)} (hgone : gone ⊆ t.stored)
    (hu : ∀ kind id, ((kind, id) ∈ gone → u.row? kind id = none) ∧
      ((kind, id) ∉ gone → u.row? kind id = t.row? kind id)) :
    t.total = u.total + gone.ncard := by
  have hstored : u.stored = t.stored \ gone := by
    ext ⟨kind, id⟩
    by_cases hmem : (kind, id) ∈ gone
    · simp [stored, (hu kind id).1 hmem, hmem]
    · simp [stored, (hu kind id).2 hmem, hmem]
  rw [total_eq_ncard, total_eq_ncard, hstored,
    Set.ncard_sdiff_add_ncard_of_subset hgone t.finite_stored]

/-! ## 5. The two policies -/

/-- A row is stored under a key and holds a concurrency token. -/
def StoredWith (t : Tables) (kind : EntityKind) (id : Key) (expected : String) : Prop :=
  ∃ row, t.row? kind id = some row ∧ row.cell "concurrency_token" = .text expected

theorem tokenMatches_iff :
    t.tokenMatches kind id expected = true ↔ t.StoredWith kind id expected := by
  simp only [tokenMatches, StoredWith, Option.any_eq_true, beq_iff_eq, text?_eq_some_iff]

theorem delete_of_not_storedWith (h : ¬ t.StoredWith kind id expected) (policy : DeletePolicy) :
    t.delete kind id expected policy = (.conflict, t) := by
  rw [← tokenMatches_iff] at h
  rw [delete, if_neg h]

/-- A row and its dependents. -/
def family (t : Tables) (kind : EntityKind) (id : Key) : Set (EntityKind × Key) :=
  {p | p = (kind, id) ∨ p ∈ t.dependents kind id}

theorem family_subset_stored (hrow : t.StoredWith kind id expected) :
    t.family kind id ⊆ t.stored := by
  rintro ⟨other, i⟩ (heq | ⟨row, hr, -⟩)
  · cases heq
    obtain ⟨row, hr, -⟩ := hrow
    simp only [stored, Set.mem_ofPred_eq, hr, Option.isSome_some]
  · simp only [stored, Set.mem_ofPred_eq, hr, Option.isSome_some]

theorem ncard_family (hrow : t.StoredWith kind id expected) :
    (t.family kind id).ncard = (t.dependents kind id).ncard + 1 := by
  have hfinite : (t.dependents kind id).Finite :=
    t.finite_stored.subset fun p hp => family_subset_stored hrow (Or.inr hp)
  exact Set.ncard_insert_of_notMem notMem_dependents_self hfinite

/-- The answers of a deletion that finds its row, by the number of dependents. -/
theorem Keyed.delete_of_storedWith (h : t.Keyed) (hrow : t.StoredWith kind id expected) :
    ∃ u, t.delete kind id expected .cascade = (.deleted (t.dependents kind id).ncard, u) ∧
      t.delete kind id expected .restrict =
        if 0 < (t.dependents kind id).ncard then
          (.referenced (t.dependents kind id).ncard, t)
        else (.deleted (t.dependents kind id).ncard, u) := by
  rw [← tokenMatches_iff] at hrow
  rw [h.ncard_dependents]
  simp only [delete, if_pos hrow, reduceCtorEq, and_false, if_false, and_true]
  exact ⟨_, rfl, rfl⟩

/-- Cascading removes the family of the row. -/
theorem Keyed.row?_of_cascade (h : t.Keyed) {n : Nat}
    (hcascade : t.delete kind id expected .cascade = (.deleted n, u)) (other : EntityKind)
    (i : Key) : ((other, i) ∈ t.family kind id → u.row? other i = none) ∧
      ((other, i) ∉ t.family kind id → u.row? other i = t.row? other i) := by
  rcases delete_cases t kind id expected .cascade with
    ⟨heq, -⟩ | ⟨m, heq, -⟩ | ⟨m, v, heq, -, hv⟩ <;> rw [hcascade] at heq <;> cases heq
  simp only [family, Set.mem_ofPred_eq, Prod.mk.injEq, ← h.isDependent_iff]
  exact hv other i

/-- Restricting refuses with the number that cascading would remove. -/
theorem Keyed.restrict_referenced_iff (h : t.Keyed) {n : Nat} :
    t.delete kind id expected .restrict = (.referenced n, t) ↔
      0 < n ∧ (t.delete kind id expected .cascade).1 = .deleted n := by
  by_cases hrow : t.StoredWith kind id expected
  · obtain ⟨u, hcascade, hrestrict⟩ := h.delete_of_storedWith hrow
    rw [hcascade, hrestrict]
    split
    · next hpos =>
      constructor
      · intro heq
        cases heq
        exact ⟨hpos, rfl⟩
      · rintro ⟨-, heq⟩
        cases heq
        rfl
    · next hnone =>
      refine iff_of_false (fun heq => by cases heq) ?_
      rintro ⟨hpos, heq⟩
      cases heq
      exact hnone hpos
  · rw [delete_of_not_storedWith hrow, delete_of_not_storedWith hrow]
    exact iff_of_false (fun heq => by cases heq) fun heq => by cases heq.2

/-- **Restricting and cascading agree.**  Without a row under the key that holds the token, both
policies answer with a conflict and change nothing.  Otherwise cascading removes exactly the row and
its dependents, answers with their number, and that many rows and one more are missing afterwards.
Restricting refuses with a number of dependents, and changes nothing, exactly if cascading removes
that many and there are some; without dependents both do the same. -/
theorem restrict_agrees_with_cascade (h : t.Keyed) (kind : EntityKind) (id : Key)
    (expected : String) :
    (¬ t.StoredWith kind id expected →
      ∀ policy, t.delete kind id expected policy = (.conflict, t)) ∧
    (t.StoredWith kind id expected → ∃ n u,
      t.delete kind id expected .cascade = (.deleted n, u) ∧
      (∀ other i, ((other, i) ∈ t.family kind id → u.row? other i = none) ∧
        ((other, i) ∉ t.family kind id → u.row? other i = t.row? other i)) ∧
      n = (t.dependents kind id).ncard ∧ t.total = u.total + n + 1 ∧
      (n = 0 → t.delete kind id expected .restrict = t.delete kind id expected .cascade)) ∧
    ∀ n, t.delete kind id expected .restrict = (.referenced n, t) ↔
      0 < n ∧ (t.delete kind id expected .cascade).1 = .deleted n := by
  refine ⟨delete_of_not_storedWith, fun hrow => ?_, fun n => h.restrict_referenced_iff⟩
  obtain ⟨u, hcascade, hrestrict⟩ := h.delete_of_storedWith hrow
  have hrows := h.row?_of_cascade hcascade
  have htotal := total_eq_of_gone (family_subset_stored hrow) hrows
  rw [ncard_family hrow] at htotal
  refine ⟨_, u, hcascade, hrows, rfl, htotal, fun hnone => ?_⟩
  rw [hrestrict, hcascade, if_neg (by omega)]

/-- The first application has two dependents.  One of them is a token that depends on it in two
ways. -/
theorem restrict_agrees_with_cascade_twoGrants :
    twoGrants.Keyed ∧ twoGrants.StoredWith .application (.int 1) "t" ∧
      (twoGrants.dependents .application (.int 1)).ncard = 2 ∧
      twoGrants.delete .application (.int 1) "t" .restrict = (.referenced 2, twoGrants) := by
  have hkeyed := reachable_twoGrants.wellFormed.keyed
  have hrow : twoGrants.StoredWith .application (.int 1) "t" :=
    tokenMatches_iff.mp (by decide +kernel)
  have hremoved : (twoGrants.delete .application (.int 1) "t" .cascade).1 = .deleted 2 := by
    decide +kernel
  obtain ⟨-, hcascade, hrestrict⟩ := restrict_agrees_with_cascade hkeyed .application (.int 1) "t"
  obtain ⟨n, u, heq, -, hcount, -⟩ := hcascade hrow
  rw [heq] at hremoved
  cases hremoved
  exact ⟨hkeyed, hrow, hcount.symm, (hrestrict 2).mpr ⟨by decide, by rw [heq]⟩⟩

end GrantLedger.Tables
