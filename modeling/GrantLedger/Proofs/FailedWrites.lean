import GrantLedger.Proofs.Writing
import Mathlib.Control.Monad.Basic

/-!
# What a failed write leaves behind

A write that answers with an error should have changed no row.  Updates and deletes keep to this
without exception: nothing that may fail comes after their session call.  A create still reads back
the row that it stored, and this can fail once the row is there.

`failed_write_exact` says exactly when, over every record type, key type, entity and state of the
tables: the identifiers are 32-bit integers, the entity leaves its identifier to the tables, their
identity counter is out of the 32-bit range, and the row is accepted.  `create_strands_scope` is
such a create; the row that it leaves behind cannot be read by any store of its key type.
-/

namespace GrantLedger.Store

/-- A failed request leaves changed rows behind. -/
def Strands {α : Type} (r : Request α) (t : Tables) : Prop :=
  ∃ err u, r.run t = (.error err, u) ∧ ¬ Tables.SameRows u t

/-- The tables store a row. -/
def Accepts (t : Tables) (kind : EntityKind) (row : Row) : Prop :=
  ∃ stored u, t.insert kind row = (.ok stored, u)

/-! ## 1. Reading back a stored record -/

section

variable {R K : Type} [EntityKey K] [Record R K] [LawfulRecord R]

/-- A record is stored under its own identifier or under the next identity. -/
theorem insertedKey_toRow (t : Tables) (kind : EntityKind) (r : R) :
    t.insertedKey kind (Record.toRow r) =
      (Record.id r).elim (.int (t.get kind).nextIdentity) EntityKey.toKey := by
  rw [Tables.insertedKey, Tables.Table.identify, LawfulRecord.cell_id]
  cases Record.id r <;> rfl

/-- **A stored record is not read back exactly if the tables assigned it an identity that is no
identifier of the key type.** -/
theorem ofRow_insertedRow_fails_iff [LawfulEntityKey K] (t : Tables) (kind : EntityKind) (r : R) :
    (∃ err, (Record.ofRow (t.insertedRow kind (Record.toRow r)) : Except StoreError R) =
        .error err) ↔
      Record.id r = none ∧
        ∃ err, (EntityKey.ofKey (.int (t.get kind).nextIdentity) : Except StoreError K) =
          .error err := by
  rw [Tables.insertedRow, LawfulRecord.ofRow_set_id, insertedKey_toRow]
  cases Record.id r with
  | some k => simp [LawfulEntityKey.ofKey_toKey, Except.map]
  | none =>
    cases h : (EntityKey.ofKey (.int (t.get kind).nextIdentity) : Except StoreError K) <;>
      simp [h, Except.map]

/-- Only 32-bit integers are both assigned by the tables and refused by the key type, out of their
range. -/
theorem identity_unreadable_iff (key : KeyType) (id : Uuid) (n : Int64) :
    (EntityKey.generate? id : Option key.type) = none ∧
        (∃ err, (EntityKey.ofKey (.int n) : Except StoreError key.type) = .error err) ↔
      key = .int32 ∧ (n.toInt < -2_147_483_648 ∨ 2_147_483_648 ≤ n.toInt) := by
  cases key with
  | string => exact iff_of_false (fun h => by cases h.1) (fun h => by cases h.1)
  | uuid => exact iff_of_false (fun h => by cases h.1) (fun h => by cases h.1)
  | int64 => exact iff_of_false (fun ⟨_, _, h⟩ => by cases h) (fun h => by cases h.1)
  | int32 =>
    rw [← narrow_eq_error_iff]
    exact and_congr (iff_of_true rfl rfl) Iff.rfl

end

/-! ## 2. Failed writes -/

section

variable {M R K : Type} [EntityKey K] [Record R K] [Model M R K]

/-- A create answers with what it reads back from the row that the tables stored. -/
theorem create_run_of_insert (hplain : Model.extensionProperty M = none) {id token : Uuid} {m : M}
    {t u : Tables} {stored : Row}
    (hins : t.insert (kindOf M) (Record.toRow (Model.base (drafted id token m))) =
      (.ok stored, u)) :
    (create id token m).run t =
      (.answered ((Record.ofRow stored).map (Model.withBase (drafted id token m))), u) := by
  simp only [create, Request.run, encode_of_plain hplain, hins]

/-- A create that leaves a row behind has had it accepted. -/
theorem accepts_of_strands (hplain : Model.extensionProperty M = none) {id token : Uuid} {m : M}
    {t : Tables} (h : Strands (create id token m) t) :
    Accepts t (kindOf M) (Record.toRow (Model.base (drafted id token m))) := by
  obtain ⟨err, u, hrun, hchanged⟩ := h
  have hencode := encode_of_plain hplain (drafted id token m)
  rcases t.insert_cases (kindOf M) (Record.toRow (Model.base (drafted id token m))) with
    ⟨-, hins⟩ | ⟨fault, u, hins, hsame, -⟩ | ⟨u, hins, -⟩
  · simp only [create, Request.run, hencode, hins] at hrun
    cases hrun
  · simp only [create, Request.run, hencode, hins] at hrun
    cases hrun
    exact absurd hsame hchanged
  · exact ⟨_, u, hins⟩

/-- **A create leaves a row behind exactly if the row is accepted and not read back.** -/
theorem create_strands_iff (hplain : Model.extensionProperty M = none) (id token : Uuid) (m : M)
    (t : Tables) :
    Strands (create id token m) t ↔
      Accepts t (kindOf M) (Record.toRow (Model.base (drafted id token m))) ∧
      ∃ err, (Record.ofRow (t.insertedRow (kindOf M)
        (Record.toRow (Model.base (drafted id token m)))) : Except StoreError R) = .error err := by
  by_cases haccepts : Accepts t (kindOf M) (Record.toRow (Model.base (drafted id token m)))
  case neg => exact iff_of_false (mt (accepts_of_strands hplain) haccepts) fun h => haccepts h.1
  rw [and_iff_right haccepts]
  obtain ⟨stored, u, hins⟩ := haccepts
  rcases t.insert_cases (kindOf M) (Record.toRow (Model.base (drafted id token m))) with
    ⟨-, heq⟩ | ⟨fault, v, heq, -⟩ | ⟨v, heq, hfree, -, hu⟩
  · rw [heq] at hins
    injection hins with h
    cases h
  · rw [heq] at hins
    cases hins
  · -- the row is stored, and all that is left is to read it
    have hrun := create_run_of_insert hplain heq
    generalize drafted id token m = draft at hrun heq hfree hu ⊢
    have hchanged : ¬ Tables.SameRows v t := by
      intro hsame
      have := hsame.row? (kindOf M) (t.insertedKey (kindOf M) (Record.toRow (Model.base draft)))
      rw [hu _ _, if_pos ⟨rfl, rfl⟩, hfree] at this
      cases this
    cases hread : (Record.ofRow (t.insertedRow (kindOf M)
        (Record.toRow (Model.base draft))) : Except StoreError R) with
    | error e =>
      rw [hread] at hrun
      exact iff_of_true ⟨e, v, hrun, hchanged⟩ ⟨e, rfl⟩
    | ok r =>
      rw [hread] at hrun
      refine iff_of_false ?_ fun ⟨_, h⟩ => by cases h
      rintro ⟨err, u', h, -⟩
      rw [hrun] at h
      cases h

/-- A create that panics changes nothing. -/
theorem create_panicked {id token : Uuid} {m : M} {t u : Tables}
    (h : (create id token m).run t = (.panic, u)) : u = t := by
  rcases create_cases id token m t with hrun | ⟨err, v, hrun, -⟩ | ⟨row, v, -, hrun, -⟩
  · rw [hrun] at h
    cases h
    rfl
  · rw [hrun] at h
    cases h
  · rw [hrun] at h
    exact absurd (congrArg Prod.fst h) (Outcome.answered_ne_panic _)

/-- A failed update changes nothing. -/
theorem update_failed {token : Uuid} {m : M} {t u : Tables} {err : StoreError}
    (h : (update token m).run t = (.error err, u)) : u = t := by
  rcases update_cases token m t with ⟨e, hrun⟩ | ⟨id, expected, row, u', -, -, -, hrun, -⟩
  · rw [hrun] at h
    cases h
    rfl
  · rw [hrun] at h
    cases h

/-- A failed delete changes nothing. -/
theorem delete_failed {policy : DeletePolicy} {m : M} {t u : Tables} {err : StoreError}
    (h : (delete policy m).run t = (.error err, u)) : u = t := by
  rcases delete_cases policy m t with ⟨e, hrun⟩ | ⟨id, expected, u', -, -, hrun, -⟩
  · rw [hrun] at h
    cases h
    rfl
  · rw [hrun] at h
    cases h

end

/-- **Failed writes change no row, with one exception.**  Over the four record types and the four
key types, a failed update or delete leaves the tables as they were.  A create leaves a row behind
exactly if its entity has no identifier, identifiers are 32-bit integers, the next identity is out
of their range, and the tables accept the row; one that panics leaves the tables as they were. -/
theorem failed_write_exact (kind : EntityKind) (key : KeyType)
    (e : (ModelType.ofKind kind key).Entity) (t : Tables) :
    (∀ id token : Uuid, Strands (create id token e) t ↔
      key = .int32 ∧ Record.id (Model.base e) = none ∧
        ((t.get kind).nextIdentity.toInt < -2_147_483_648 ∨
          2_147_483_648 ≤ (t.get kind).nextIdentity.toInt) ∧
        Accepts t kind (Record.toRow (Model.base (drafted id token e)))) ∧
    (∀ id token u, (create id token e).run t = (.panic, u) → u = t) ∧
    (∀ token err u, (update token e).run t = (.error err, u) → u = t) ∧
    (∀ policy err u, (delete policy e).run t = (.error err, u) → u = t) := by
  refine ⟨fun id token => ?_, fun _ _ _ => create_panicked, fun _ _ _ => update_failed,
    fun _ _ _ => delete_failed⟩
  have hkind : kindOf (ModelType.ofKind kind key).Entity = kind := by cases kind <;> rfl
  have hplain : Model.extensionProperty (ModelType.ofKind kind key).Entity = none := by
    cases kind <;> rfl
  have hunreadable : (EntityKey.generate? id : Option (ModelType.ofKind kind key).Key) = none ∧
      (∃ err, (EntityKey.ofKey (.int (t.get kind).nextIdentity) :
        Except StoreError (ModelType.ofKind kind key).Key) = .error err) ↔
      key = .int32 ∧ ((t.get kind).nextIdentity.toInt < -2_147_483_648 ∨
        2_147_483_648 ≤ (t.get kind).nextIdentity.toInt) := by
    cases kind <;> exact identity_unreadable_iff key id _
  rw [create_strands_iff hplain, ofRow_insertedRow_fails_iff, id_drafted, Option.or_eq_none_iff,
    hkind]
  constructor
  · rintro ⟨haccepts, ⟨hid, hgenerate⟩, hread⟩
    obtain ⟨hint32, hrange⟩ := hunreadable.mp ⟨hgenerate, hread⟩
    exact ⟨hint32, hid, hrange, haccepts⟩
  · rintro ⟨hint32, hid, hrange, haccepts⟩
    obtain ⟨hgenerate, hread⟩ := hunreadable.mpr ⟨hint32, hrange⟩
    exact ⟨haccepts, ⟨hid, hgenerate⟩, hread⟩

/-- The scopes of a store of 32-bit identifiers after its largest identifier has been used. -/
def lastScope : Tables :=
  ((create ⟨1⟩ ⟨2⟩ ({ id := some 2147483647 } : Scope Int32)).run .empty).2

/-- A create that answers with an error and leaves a second scope behind. -/
theorem create_strands_scope :
    ((create ⟨3⟩ ⟨4⟩ ({} : Scope Int32)).run lastScope).1 =
        .error (.validation (.narrowKey 2147483648 .tooLarge)) ∧
      lastScope.size .scope = 1 ∧
      ((create ⟨3⟩ ⟨4⟩ ({} : Scope Int32)).run lastScope).2.size .scope = 2 := by
  decide +kernel

end GrantLedger.Store
