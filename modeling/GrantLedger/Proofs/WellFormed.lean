import GrantLedger.Proofs.Operations

/-!
# The tables stay well formed

`WellFormed` says two things of the tables of a backing context: a row stands under the key in its
identifier column, and no two rows of a kind hold the same text in its unique column.  Neither
carries through a run alone.  An update looks for a taken text by the identifier columns of the
other rows and not by their keys, so the second needs the first; both are carried together.

* `WellFormed.write` and `WellFormed.restrict` are the only two ways in which an operation changes
  the rows: one row is written under its own key, or rows go.
* `Reachable.wellFormed` carries them through every run from empty tables, whatever the rows and
  arguments are.
* `reachable_exact` adds when a write is refused: exactly when it has to be.

No bound on integer identifiers is needed.  An insertion under the largest integer panics before it
has changed anything (`insert_panics_iff`), so no row ever stands under it.
-/

namespace GrantLedger.Tables

variable {t u : Tables} {kind : EntityKind} {id : Key} {row : Row} {text : String}

/-! ## 1. Well-formed tables -/

/-- Every row stands under the key in its identifier column. -/
def Keyed (t : Tables) : Prop :=
  ∀ kind id row, t.row? kind id = some row → row.cell "id" = .key id

/-- The row under a key holds a text in the unique column of its kind. -/
def HoldsText (t : Tables) (kind : EntityKind) (id : Key) (text : String) : Prop :=
  ∃ row, t.row? kind id = some row ∧ uniqueText? kind row = some text

/-- The rows stand under their own keys, and a text stands in a unique column once at most. -/
structure WellFormed (t : Tables) : Prop where
  keyed : t.Keyed
  distinct : ∀ kind text a b, t.HoldsText kind a text → t.HoldsText kind b text → a = b

theorem wellFormed_empty : empty.WellFormed where
  keyed kind id row h := by simp at h
  distinct kind text a b := by
    rintro ⟨row, h, -⟩
    simp at h

/-- In keyed tables a unique text is taken exactly if it stands under a key that is not being
updated. -/
theorem Keyed.takenText?_isSome_iff (h : t.Keyed) {updating : Option Key} :
    (t.takenText? kind row updating).isSome ↔
      ∃ text, uniqueText? kind row = some text ∧
        ∃ i, some i ≠ updating ∧ t.HoldsText kind i text := by
  rw [Tables.takenText?_isSome_iff]
  constructor
  · rintro ⟨text, htext, r, hr, hheld, hid⟩
    obtain ⟨i, hi⟩ := mem_rows.mp hr
    rw [h kind i r hi] at hid
    exact ⟨text, htext, i, hid, r, hi, hheld⟩
  · rintro ⟨text, htext, i, hid, r, hi, hheld⟩
    refine ⟨text, htext, r, mem_rows.mpr ⟨i, hi⟩, hheld, ?_⟩
    rw [h kind i r hi]
    exact hid

/-! ## 2. The two ways in which rows change -/

theorem row?_of_drops (hu : Drops t u) (h : u.row? kind id = some row) :
    t.row? kind id = some row := by
  rcases hu kind id with hnone | hsame
  · rw [hnone] at h
    cases h
  · rw [← hsame]
    exact h

theorem Keyed.restrict (h : t.Keyed) (hu : Drops t u) : u.Keyed :=
  fun kind id row hrow => h kind id row (row?_of_drops hu hrow)

theorem Keyed.write (h : t.Keyed) (hu : Writes t u kind id (row.set "id" (.key id))) :
    u.Keyed := by
  intro other i r hr
  rw [hu other i] at hr
  split at hr
  · next heq =>
    cases hr
    rw [Row.cell_set_self, heq.2]
  · exact h other i r hr

/-- **Rows may go.**  What remains is as well formed as it was. -/
theorem WellFormed.restrict (h : t.WellFormed) (hu : Drops t u) : u.WellFormed where
  keyed := h.keyed.restrict hu
  distinct := by
    rintro kind text a b ⟨r, hr, hrt⟩ ⟨s, hs, hst⟩
    exact h.distinct kind text a b ⟨r, row?_of_drops hu hr, hrt⟩ ⟨s, row?_of_drops hu hs, hst⟩

theorem WellFormed.sameRows (h : t.WellFormed) (hsame : SameRows u t) : u.WellFormed :=
  h.restrict hsame.drops

/-- **One row may be written under its own key,** if no row under another key holds its unique
text. -/
theorem WellFormed.write (h : t.WellFormed)
    (hu : Writes t u kind id (row.set "id" (.key id)))
    (hfree : ∀ i text, i ≠ id → uniqueText? kind row = some text → ¬ t.HoldsText kind i text) :
    u.WellFormed where
  keyed := h.keyed.write hu
  distinct other text a b := by
    rintro ⟨r, hr, hrt⟩ ⟨s, hs, hst⟩
    rw [hu other a] at hr
    rw [hu other b] at hs
    split at hr <;> split at hs
    · next ha hb => rw [ha.2, hb.2]
    · next ha hb =>
      cases hr
      rw [uniqueText?_set_id, ha.1] at hrt
      rw [ha.1] at hs hst hb
      exact absurd ⟨s, hs, hst⟩ (hfree b text (fun e => hb ⟨rfl, e⟩) hrt)
    · next ha hb =>
      cases hs
      rw [uniqueText?_set_id, hb.1] at hst
      rw [hb.1] at hr hrt ha
      exact absurd ⟨r, hr, hrt⟩ (hfree a text (fun e => ha ⟨rfl, e⟩) hst)
    · exact h.distinct other text a b ⟨r, hr, hrt⟩ ⟨s, hs, hst⟩

/-! ## 3. Operations and runs -/

/-- A writing operation of a session with its arguments. -/
inductive Operation where
  | insert (kind : EntityKind) (row : Row)
  | update (kind : EntityKind) (id : Key) (expected : String) (row : Row)
  | delete (kind : EntityKind) (id : Key) (expected : String) (policy : DeletePolicy)
  | prune (kind : EntityKind) (criteria : PruneCriteria)

/-- The tables after an operation. -/
def Operation.apply (t : Tables) : Operation → Tables
  | .insert kind row => (t.insert kind row).2
  | .update kind id expected row => (t.update kind id expected row).2
  | .delete kind id expected policy => (t.delete kind id expected policy).2
  | .prune kind criteria => (t.pruneBatch kind criteria).2

/-- The tables that operations come to from empty ones. -/
inductive Reachable : Tables → Prop
  | empty : Reachable empty
  | step {t : Tables} (op : Operation) : Reachable t → Reachable (op.apply t)

theorem WellFormed.insert (h : t.WellFormed) (kind : EntityKind) (row : Row) :
    (t.insert kind row).2.WellFormed := by
  rcases insert_cases t kind row with
    ⟨-, heq⟩ | ⟨fault, u, heq, hsame, -⟩ | ⟨u, heq, -, htaken, hu⟩
  · rw [heq]
    exact h
  · rw [heq]
    exact h.sameRows hsame
  · rw [heq]
    refine h.write hu fun i text _ htext hheld => ?_
    have : (t.takenText? kind (t.insertedRow kind row) none).isSome :=
      h.keyed.takenText?_isSome_iff.mpr
        ⟨text, by rw [insertedRow, uniqueText?_set_id, htext], i, by simp, hheld⟩
    simp [htaken] at this

theorem WellFormed.update (h : t.WellFormed) (kind : EntityKind) (id : Key) (expected : String)
    (row : Row) : (t.update kind id expected row).2.WellFormed := by
  rcases update_cases t kind id expected row with
    ⟨-, heq⟩ | ⟨fault, heq, -⟩ | ⟨u, heq, -, htaken, hu⟩
  · rw [heq]
    exact h
  · rw [heq]
    exact h
  · rw [heq]
    refine h.write hu fun i text hne htext hheld => ?_
    have : (t.takenText? kind row (some id)).isSome :=
      h.keyed.takenText?_isSome_iff.mpr ⟨text, htext, i, by simpa using hne, hheld⟩
    simp [htaken] at this

theorem WellFormed.delete (h : t.WellFormed) (kind : EntityKind) (id : Key) (expected : String)
    (policy : DeletePolicy) : (t.delete kind id expected policy).2.WellFormed := by
  rcases delete_cases t kind id expected policy with
    ⟨heq, -⟩ | ⟨n, heq, -⟩ | ⟨n, u, heq, -, hu⟩
  · rw [heq]
    exact h
  · rw [heq]
    exact h
  · rw [heq]
    exact h.restrict (drops_of_gone hu)

theorem WellFormed.purge (h : t.WellFormed) (kind : EntityKind) (ids : List Key) :
    (t.purge kind ids).WellFormed := h.restrict (t.drops_purge kind ids)

/-- **The step.**  Every operation keeps the tables well formed. -/
theorem WellFormed.apply (h : t.WellFormed) (op : Operation) : (op.apply t).WellFormed := by
  cases op with
  | insert kind row => exact h.insert kind row
  | update kind id expected row => exact h.update kind id expected row
  | delete kind id expected policy => exact h.delete kind id expected policy
  | prune kind criteria => exact h.purge kind (t.batch kind criteria)

/-- **The run.**  Tables that operations come to are well formed. -/
theorem Reachable.wellFormed (h : Reachable t) : t.WellFormed := by
  induction h with
  | empty => exact wellFormed_empty
  | step op _ ih => exact ih.apply op

/-- Rows that are inserted one after the other make tables that operations come to. -/
theorem reachable_foldl_insert (rows : List (EntityKind × Row)) (h : Reachable t) :
    Reachable (rows.foldl (fun t r => (Operation.insert r.1 r.2).apply t) t) := by
  induction rows generalizing t with
  | nil => exact h
  | cons r rows ih => exact ih (h.step (.insert r.1 r.2))

/-! ## 4. When a write is refused -/

/-- An insertion panics exactly if its identifier is the largest integer. -/
theorem insert_panics_iff (t : Tables) (kind : EntityKind) (row : Row) :
    (t.insert kind row).1 = .panic ↔ t.insertedKey kind row = .int Int64.maxValue := by
  refine ⟨fun h => ?_, fun h => by rw [insert_last h]⟩
  rcases insert_cases t kind row with ⟨hlast, -⟩ | ⟨fault, u, heq, -⟩ | ⟨u, heq, -⟩
  · exact hlast
  · rw [heq] at h
    cases h
  · rw [heq] at h
    cases h

/-- Any other insertion is refused exactly if its identifier is stored or another row holds its
unique text. -/
theorem WellFormed.insert_refused_iff (h : t.WellFormed) {kind : EntityKind} {row : Row}
    (hlast : t.insertedKey kind row ≠ .int Int64.maxValue) :
    (∃ e, (t.insert kind row).1 = .error e) ↔
      (t.row? kind (t.insertedKey kind row)).isSome ∨
        ∃ text i, uniqueText? kind row = some text ∧ t.HoldsText kind i text := by
  have htaken : (t.takenText? kind (t.insertedRow kind row) none).isSome ↔
      ∃ text i, uniqueText? kind row = some text ∧ t.HoldsText kind i text := by
    rw [h.keyed.takenText?_isSome_iff, insertedRow, uniqueText?_set_id]
    simp
  rw [← htaken]
  rcases insert_cases t kind row with
    ⟨hkey, -⟩ | ⟨fault, u, heq, -, hwhy, -⟩ | ⟨u, heq, hnew, hfree, -⟩
  · exact absurd hkey hlast
  · rw [heq]
    exact iff_of_true ⟨_, rfl⟩ hwhy
  · rw [heq]
    refine iff_of_false ?_ ?_
    · rintro ⟨e, he⟩
      cases he
    · simp [hnew, hfree]

/-- An update that names the current token is refused exactly if a row under another identifier
holds its unique text. -/
theorem WellFormed.update_refused_iff (h : t.WellFormed) (kind : EntityKind) (id : Key)
    (expected : String) (row : Row) (hmatch : t.tokenMatches kind id expected = true) :
    (∃ e, (t.update kind id expected row).1 = .error e) ↔
      ∃ text i, i ≠ id ∧ uniqueText? kind row = some text ∧ t.HoldsText kind i text := by
  have htaken : (t.takenText? kind row (some id)).isSome ↔
      ∃ text i, i ≠ id ∧ uniqueText? kind row = some text ∧ t.HoldsText kind i text := by
    rw [h.keyed.takenText?_isSome_iff]
    constructor
    · rintro ⟨text, htext, i, hne, hheld⟩
      exact ⟨text, i, by simpa using hne, htext, hheld⟩
    · rintro ⟨text, i, hne, htext, hheld⟩
      exact ⟨text, htext, i, by simpa using hne, hheld⟩
  rw [← htaken]
  rcases update_cases t kind id expected row with
    ⟨hno, -⟩ | ⟨fault, heq, -, hwhy⟩ | ⟨u, heq, -, hfree, -⟩
  · rw [hno] at hmatch
    cases hmatch
  · rw [heq]
    exact iff_of_true ⟨_, rfl⟩ hwhy
  · rw [heq]
    refine iff_of_false ?_ ?_
    · rintro ⟨e, he⟩
      cases he
    · simp [hfree]

/-- An update writes under stored keys only, so it neither adds an identifier nor removes one. -/
theorem isSome_row?_update (t : Tables) (kind : EntityKind) (id : Key) (expected : String)
    (row : Row) (other : EntityKind) (i : Key) :
    ((t.update kind id expected row).2.row? other i).isSome = (t.row? other i).isSome := by
  rcases update_cases t kind id expected row with
    ⟨-, heq⟩ | ⟨fault, heq, -⟩ | ⟨u, heq, hmatch, -, hu⟩
  · rw [heq]
  · rw [heq]
  · rw [heq, hu other i]
    split
    · next hat =>
      rw [tokenMatches, Option.any_eq_true] at hmatch
      obtain ⟨r, hr, -⟩ := hmatch
      rw [hat.1, hat.2, hr]
      rfl
    · rfl

/-! ## 5. Rows without a unique text -/

/-- The `n`-th of an endless supply of keys. -/
def supply (n : Nat) : Key := .text (String.ofList (List.replicate n 'k'))

theorem supply_injective {m n : Nat} (h : supply m = supply n) : m = n := by
  simp only [supply, Key.text.injEq, String.ofList_inj] at h
  simpa using congrArg List.length h

/-- **Any number of rows may hold no unique text.**  Rows that have nothing but an identifier go in
one after the other. -/
theorem exists_rows_without_text (kind : EntityKind) (n : Nat) :
    ∃ t, Reachable t ∧ ∀ i,
      (i < n → ∃ row, t.row? kind (supply i) = some row ∧ uniqueText? kind row = none) ∧
        (n ≤ i → t.row? kind (supply i) = none) := by
  induction n with
  | zero => exact ⟨empty, .empty, fun i => ⟨fun h => absurd h (Nat.not_lt_zero i), by simp⟩⟩
  | succ n ih =>
    obtain ⟨t, ht, hrows⟩ := ih
    let row := Row.empty.set "id" (.key (supply n))
    have hkey : t.insertedKey kind row = supply n := by
      simp [row, insertedKey, Table.identify, Cell.key?]
    have hnone : uniqueText? kind row = none := by
      rw [uniqueText?_set_id]
      cases kind <;> rfl
    have hstored : t.row? kind (supply n) = none := (hrows n).2 (Nat.le_refl n)
    rcases insert_cases t kind row with ⟨hlast, -⟩ | ⟨fault, u, heq, -, -, hlast⟩ | ⟨u, heq, -, -, hu⟩
    · rw [hkey] at hlast
      cases hlast
    -- The next key of the supply is free and there is no unique text, so nothing is refused.
    · have hrefused := (ht.wellFormed.insert_refused_iff hlast).mp ⟨_, by rw [heq]⟩
      simp [hkey, hnone, hstored] at hrefused
    · have hreach : Reachable u := by
        have := Reachable.step (.insert kind row) ht
        rwa [Operation.apply, heq] at this
      refine ⟨u, hreach, fun i => ⟨fun hi => ?_, fun hi => ?_⟩⟩
      · rw [hu kind (supply i), hkey]
        split
        · exact ⟨_, rfl, by rw [insertedRow, uniqueText?_set_id, hnone]⟩
        · next hne =>
          have : i ≠ n := fun e => hne ⟨rfl, e ▸ rfl⟩
          exact (hrows i).1 (by omega)
      · rw [hu kind (supply i), hkey, if_neg fun h => ?_]
        · exact (hrows i).2 (by omega)
        · have := supply_injective h.2
          omega

/-! ## 6. The tables as a whole -/

/-- **Keys and unique texts, exactly.**  In all tables that operations come to, rows stand under
their own keys and unique texts are unique, while any number of rows may hold none.  Below the largest
integer, under which an insertion panics, an insertion is refused exactly if its identifier is
stored or its unique text is held; an update that names the current token is refused exactly if
another row holds its unique text, and no update changes an identifier. -/
theorem reachable_exact (h : Reachable t) :
    t.WellFormed ∧
      (∀ kind n, ∃ u, Reachable u ∧ ∃ ids : List Key, ids.Nodup ∧ ids.length = n ∧
        ∀ id ∈ ids, ∃ row, u.row? kind id = some row ∧ uniqueText? kind row = none) ∧
      (∀ kind row,
        ((t.insert kind row).1 = .panic ↔ t.insertedKey kind row = .int Int64.maxValue) ∧
        (t.insertedKey kind row ≠ .int Int64.maxValue →
          ((∃ e, (t.insert kind row).1 = .error e) ↔
            (t.row? kind (t.insertedKey kind row)).isSome ∨
              ∃ text i, uniqueText? kind row = some text ∧ t.HoldsText kind i text))) ∧
      (∀ kind id expected row, t.tokenMatches kind id expected = true →
        ((∃ e, (t.update kind id expected row).1 = .error e) ↔
          ∃ text i, i ≠ id ∧ uniqueText? kind row = some text ∧ t.HoldsText kind i text)) ∧
      (∀ kind id expected row other i,
        ((t.update kind id expected row).2.row? other i).isSome = (t.row? other i).isSome ∧
          (t.update kind id expected row).2.Keyed) := by
  have hwf := h.wellFormed
  refine ⟨hwf, fun kind n => ?_,
    fun kind row => ⟨insert_panics_iff t kind row, fun hlast => hwf.insert_refused_iff hlast⟩,
    hwf.update_refused_iff,
    fun kind id expected row other i =>
      ⟨isSome_row?_update t kind id expected row other i, (hwf.update kind id expected row).keyed⟩⟩
  obtain ⟨u, hu, hrows⟩ := exists_rows_without_text kind n
  refine ⟨u, hu, (List.range n).map supply,
    List.pairwise_map.mpr (List.nodup_range.imp fun hne e => hne (supply_injective e)),
    by simp, fun id hid => ?_⟩
  obtain ⟨i, hi, rfl⟩ := List.mem_map.mp hid
  exact (hrows i).1 (List.mem_range.mp hi)

/-- A scope with a name, for examples. -/
def apiScope : Row := .ofList [("concurrency_token", .text "t"), ("name", .text "api")]

/-- Tables with a named scope under the first identity and a nameless one after it. -/
def twoScopes : Tables :=
  (Operation.insert .scope .empty).apply ((Operation.insert .scope apiScope).apply empty)

/-- The name of the first scope is taken for a third one, and free for the first one itself. -/
theorem twoScopes_exact :
    Reachable twoScopes ∧ twoScopes.size .scope = 2 ∧ twoScopes.WellFormed ∧
      twoScopes.tokenMatches .scope (.int 1) "t" = true ∧
      (∃ e, (twoScopes.insert .scope apiScope).1 = .error e) ∧
      ¬ ∃ e, (twoScopes.update .scope (.int 1) "t" apiScope).1 = .error e := by
  have hreach : Reachable twoScopes := .step _ (.step _ .empty)
  have hmatch : twoScopes.tokenMatches .scope (.int 1) "t" = true := by decide +kernel
  have hname : uniqueText? .scope apiScope = some "api" := by decide +kernel
  have hheld : twoScopes.HoldsText .scope (.int 1) "api" :=
    ⟨(twoScopes.row? .scope (.int 1)).getD .empty, by decide +kernel, by decide +kernel⟩
  obtain ⟨hwf, -, hinsert, hupdate, -⟩ := reachable_exact hreach
  refine ⟨hreach, by decide +kernel, hwf, hmatch, ?_, ?_⟩
  · exact ((hinsert .scope apiScope).2 (by decide +kernel)).mpr (Or.inr ⟨"api", .int 1, hname, hheld⟩)
  · rw [hupdate .scope (.int 1) "t" apiScope hmatch]
    rintro ⟨text, i, hne, htext, hi⟩
    rw [hname] at htext
    cases htext
    exact hne (hwf.distinct .scope "api" i (.int 1) hi hheld)

end GrantLedger.Tables
