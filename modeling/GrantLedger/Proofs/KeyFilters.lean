import GrantLedger.Proofs.Finding
import GrantLedger.Proofs.SqlRemoval

/-!
# Keys that a filter gives in another form

A value that is compared with a column of keys names a key: a key itself, or a text as a textual
key (`Cell.named`).  What becomes of it differs.  A statement reads it in the form in which keys are
stored, so that a numeral, a differently written UUID or a number is bound as the key that it stands
for.  A comparison of cells takes it as it is (`holds_eq_iff_named`).

* `key_filters_exact`: the comparison holds exactly if the parameters are equal *and* the value
  names a key of the stored form.  For values of another form, the filter that compares as the
  statement does is the one with the key that is bound.
* `numeral_not_matched`: without the stored form the two differ, so that one filter finds a row in a
  statement and none in memory.
-/

namespace GrantLedger

open Sql

/-! ## 1. The key that a value names -/

/-- The key that a value names as it is: a text is a textual key. -/
def Cell.named : Cell → Option Key
  | .key j => some j
  | .text s => some (.text s)
  | .null | .timestamp _ => none

/-- Whether a column holds identifiers or references. -/
def ColumnType.HoldsKeys : ColumnType → Prop
  | .key | .reference _ => True
  | .text _ | .timestamp => False

section

variable {kind : KeyKind} {type : ColumnType} {v : Cell} {j k : Key} {p : Param}

/-- **In memory** a value equals a stored key exactly if it names this very key. -/
theorem Predicate.holds_eq_iff_named :
    (Predicate.eq v).holds (.key k) = true ↔ v.named = some k := by
  cases v with
  | null => simp [holds, Cell.compare?, Cell.named]
  | timestamp t => simp [holds, Cell.compare?, Cell.named]
  | key j =>
    have hkey : (Predicate.eq (.key j)).holds (Cell.ofKey? (some k)) = true ↔ some k = some j :=
      holds_eq_key
    exact hkey.trans eq_comm
  | text s =>
    cases k with
    | int n => simp [holds, Cell.compare?, Cell.named]
    | uuid u => simp [holds, Cell.compare?, Cell.named]
    | text a =>
      simp only [holds, Cell.compare?, Cell.named, beq_iff_eq, Option.some.injEq,
        Std.compare_eq_iff_eq, Key.text.injEq]
      exact eq_comm

namespace Sql

theorem ofCell_of_holdsKeys (h : type.HoldsKeys) :
    Param.ofCell kind type v = Param.ofKeyCell kind v := by
  cases type <;> first | rfl | cases h

/-- **In a statement** the key that a value names is read in the stored form. -/
theorem ofKeyCell_of_named (h : v.named = some j) :
    Param.ofKeyCell kind v = Param.ofKey kind j := by
  cases v <;> cases h <;> rfl

/-- What is read has the stored form. -/
theorem exists_of_ofKey (h : Param.ofKey kind j = .ok p) :
    ∃ i : Key, i.kind = kind ∧ p = keyParam i := by
  cases kind with
  | text =>
    simp only [Param.ofKey, map_eq_ok_iff] at h
    obtain ⟨s, -, rfl⟩ := h
    exact ⟨.text s, rfl, rfl⟩
  | bigint =>
    simp only [Param.ofKey, map_eq_ok_iff] at h
    obtain ⟨n, -, rfl⟩ := h
    exact ⟨.int n, rfl, rfl⟩
  | uuid =>
    simp only [Param.ofKey, map_eq_ok_iff] at h
    obtain ⟨u, -, rfl⟩ := h
    exact ⟨.uuid u, rfl, rfl⟩

/-- A key of the stored form is bound as it is. -/
theorem ofCell_key (h : type.HoldsKeys) (hk : k.kind = kind) :
    Param.ofCell kind type (.key k) = .ok (keyParam k) := by
  rw [ofCell_of_holdsKeys h, ← hk]
  exact ofKey_eq_keyParam k

theorem keyParam_inj : keyParam j = keyParam k ↔ j = k := by
  cases j <;> cases k <;> simp [keyParam]

/-! ## 2. Both ways of comparing -/

/-- Keys of the stored form are compared in memory as their parameters are. -/
theorem holds_eq_key_iff (h : type.HoldsKeys) (hk : k.kind = kind) :
    (Predicate.eq (.key j)).holds (.key k) = true ↔
      Param.ofCell kind type (.key k) = .ok (keyParam j) := by
  rw [Predicate.holds_eq_iff_named, ofCell_key h hk, Except.ok.injEq, keyParam_inj, Cell.named,
    Option.some.injEq, eq_comm]

/-- **Filters by keys, exactly.**  In a column of keys that are stored in a form, take any value
that can be bound to a statement.

* In memory it equals a stored key exactly if the parameters are equal and it names a key of this
  form.
* Unless it is NULL, there is a key of this form such that the filter by this key compares in
  memory as the parameter does. -/
theorem key_filters_exact (htype : type.HoldsKeys) (hv : Param.ofCell kind type v = .ok p) :
    (∀ k : Key, k.kind = kind → ((Predicate.eq v).holds (.key k) = true ↔
      Param.ofCell kind type (.key k) = .ok p ∧ ∃ j, v.named = some j ∧ j.kind = kind)) ∧
    (v ≠ .null → ∃ j : Key, j.kind = kind ∧ ∀ k : Key, k.kind = kind →
      ((Predicate.eq (.key j)).holds (.key k) = true ↔
        Param.ofCell kind type (.key k) = .ok p)) := by
  rw [ofCell_of_holdsKeys htype] at hv
  refine ⟨?_, ?_⟩
  · intro k hk
    rw [Predicate.holds_eq_iff_named]
    constructor
    · intro hnamed
      rw [ofKeyCell_of_named hnamed, ← hk, ofKey_eq_keyParam] at hv
      rw [ofCell_key htype hk, ← hv]
      exact ⟨rfl, k, hnamed, hk⟩
    · rintro ⟨hparam, j, hnamed, hj⟩
      rw [ofKeyCell_of_named hnamed, ← hj, ofKey_eq_keyParam] at hv
      rw [ofCell_key htype hk, ← hv, Except.ok.injEq, keyParam_inj] at hparam
      rw [hnamed, hparam]
  · intro hnull
    -- only NULL and points in time name no key, and the latter cannot be bound
    obtain ⟨j, hnamed⟩ : ∃ j, v.named = some j := by
      cases v with
      | null => exact absurd rfl hnull
      | key j => exact ⟨j, rfl⟩
      | text s => exact ⟨.text s, rfl⟩
      | timestamp t => cases hv
    rw [ofKeyCell_of_named hnamed] at hv
    obtain ⟨i, hi, rfl⟩ := exists_of_ofKey hv
    refine ⟨i, hi, ?_⟩
    intro k hk
    exact holds_eq_key_iff htype hk

/-- References to authorizations with numbers: a number is compared in memory as in a statement, and
for a numeral there is a number that is. -/
theorem key_filters_exact_typed :
    (ColumnType.reference .authorization).HoldsKeys ∧
      Param.ofCell .bigint (.reference .authorization) (.key (.int 42)) = .ok (.int (some 42)) ∧
      (Predicate.eq (.key (.int 42))).holds (.key (.int 42)) = true ∧
      Param.ofCell .bigint (.reference .authorization) (.text "42") = .ok (.int (some 42)) ∧
      ∃ j : Key, j.kind = .bigint ∧ (Predicate.eq (.key j)).holds (.key (.int 42)) = true := by
  have htype : (ColumnType.reference .authorization).HoldsKeys := trivial
  have hparam : Param.ofCell .bigint (.reference .authorization) (.key (.int 42)) =
    .ok (.int (some 42)) := rfl
  have hnumeral : Param.ofCell .bigint (.reference .authorization) (.text "42") =
    .ok (.int (some 42)) := by decide +kernel
  refine ⟨htype, hparam, ?_, hnumeral, ?_⟩
  · exact ((key_filters_exact htype hparam).1 (.int 42) rfl).mpr ⟨hparam, .int 42, rfl, rfl⟩
  · obtain ⟨j, hj, halike⟩ := (key_filters_exact htype hnumeral).2 (by decide)
    exact ⟨j, hj, (halike (.int 42) rfl).mpr hparam⟩

/-- A numeral, a number and a UUID without hyphens: each is bound as the stored key, and no
comparison in memory finds it. -/
theorem numeral_not_matched :
    (Param.ofCell .bigint (.reference .authorization) (.text "42") = .ok (.int (some 42)) ∧
      Param.ofCell .bigint (.reference .authorization) (.key (.int 42)) = .ok (.int (some 42)) ∧
      (Predicate.eq (.text "42")).holds (.key (.int 42)) = false) ∧
    (Param.ofCell .text (.reference .authorization) (.key (.int 3)) = .ok (.text (some "3")) ∧
      Param.ofCell .text (.reference .authorization) (.key (.text "3")) = .ok (.text (some "3")) ∧
      (Predicate.eq (.key (.int 3))).holds (.key (.text "3")) = false) ∧
    Param.ofCell .uuid .key (.text "00000000000000000000000000000001") = .ok (.uuid (some ⟨1⟩)) ∧
      Param.ofCell .uuid .key (.key (.uuid ⟨1⟩)) = .ok (.uuid (some ⟨1⟩)) ∧
      (Predicate.eq (.text "00000000000000000000000000000001")).holds (.key (.uuid ⟨1⟩)) =
        false := by
  decide +kernel

end Sql

end

end GrantLedger
