import GrantLedger.Proofs.Writing
import Mathlib.Data.List.Nodup

/-!
# No write is lost

Any number of clients work on the tables of one context through any number of stores, and the
tables are pruned meanwhile.  Each call is one step, and the steps come in any order: a run is a
list of calls, each with whatever entity its client holds by then.

What is remembered of a row is its history (`Clients.history`): the writes that named it and the
moments at which it appeared or went.  The invariant is `Clients.Accounted`: every row holds a
token, the token was drawn by an earlier call, and no two rows hold the same.  A token that is
overwritten or removed is never held again (`Gone`), because every later one is fresh.

* `Linked`: each write names the token that the write before it installed.
* `no_lost_update`: in every run with fresh tokens, the history of every row is linked, a token
  is spent once at most, and a conflict changes nothing.
-/

namespace GrantLedger.Clients

open Tables

/-! ## 1. Calls -/

/-- A type of entities that a store may be asked for, with its record type and key type. -/
structure StoreModel : Type 1 where
  Entity : Type
  Base : Type
  Key : Type
  [entityKey : EntityKey Key]
  [record : Record Base Key]
  [model : Model Entity Base Key]
  [lawfulRecord : LawfulRecord Base]
  [lawfulModel : LawfulModel Entity]

attribute [instance] StoreModel.entityKey StoreModel.record StoreModel.model
  StoreModel.lawfulRecord StoreModel.lawfulModel

/-- The kind of the entities. -/
def StoreModel.kind (s : StoreModel) : EntityKind := Store.kindOf s.Entity

/-- A call of a client, with the identifiers and tokens that it draws, or a batch of a sweep. -/
inductive Call : Type 1 where
  | create (s : StoreModel) (id token : Uuid) (entity : s.Entity)
  | update (s : StoreModel) (token : Uuid) (entity : s.Entity)
  | delete (s : StoreModel) (policy : DeletePolicy) (entity : s.Entity)
  | prune (kind : EntityKind) (criteria : PruneCriteria)

/-- A row with the token that a write expects it to hold. -/
structure Expectation where
  kind : EntityKind
  id : Key
  token : String
  deriving DecidableEq

/-- What an entity says of its row, where it has an identifier and a token. -/
def StoreModel.expectation? (s : StoreModel) (entity : s.Entity) : Option Expectation := do
  let id ← Record.id (Model.base entity)
  let token ← Record.token (Model.base entity)
  return ⟨s.kind, EntityKey.toKey id, token⟩

namespace Call

/-- The answer to a call, without the entity that comes with it, and the tables after it. -/
def run (call : Call) (t : Tables) : Outcome Unit × Tables :=
  match call with
  | .create _ id token entity =>
    let r := (Store.create id token entity).run t
    (r.1.map fun _ => (), r.2)
  | .update _ token entity =>
    let r := (Store.update token entity).run t
    (r.1.map fun _ => (), r.2)
  | .delete _ policy entity => (Store.delete policy entity).run t
  | .prune kind criteria => (.ok (), (t.pruneBatch kind criteria).2)

/-- The token that a call draws. -/
def drawn? : Call → Option String
  | .create _ _ token _ | .update _ token _ => some token.toText
  | .delete .. | .prune .. => none

/-- The row that a call addresses and the token that it expects there. -/
def expects? : Call → Option Expectation
  | .update s _ entity | .delete s _ entity => s.expectation? entity
  | .create .. | .prune .. => none

end Call

/-- No call draws a token that another one drew. -/
def FreshTokens (calls : List Call) : Prop := (calls.filterMap Call.drawn?).Nodup

/-! ## 2. Runs and histories -/

/-- A step of a run: a call, its answer, and the tables around it. -/
structure Step : Type 1 where
  call : Call
  before : Tables
  answer : Outcome Unit
  after : Tables

/-- The steps of a run. -/
def trace (t : Tables) : List Call → List Step
  | [] => []
  | call :: calls => ⟨call, t, (call.run t).1, (call.run t).2⟩ :: trace (call.run t).2 calls

/-- The tables after a run. -/
def final (t : Tables) (calls : List Call) : Tables := calls.foldl (fun t call => (call.run t).2) t

/-- What happens to a row. -/
inductive Event where
  /-- The row is stored with a token. -/
  | created (installed : String)
  /-- A write that expected a token installed another one. -/
  | updated (expected installed : String)
  /-- The row is deleted by a call that expected a token. -/
  | deleted (expected : String)
  /-- The row goes without being named: it is pruned, or it depended on a row that went. -/
  | removed
  deriving DecidableEq

/-- The token that an event leaves in the row. -/
def Event.installed? : Event → Option String
  | .created token | .updated _ token => some token
  | .deleted _ | .removed => none

namespace Step

/-- The expectation of an update or a delete that succeeded: it spends the token. -/
def spent? (s : Step) : Option Expectation :=
  match s.answer with
  | .ok () => s.call.expects?
  | .error _ | .panic => none

/-- What a successful update or delete does to the row that it addresses. -/
def writing (s : Step) (expected : String) : Event :=
  match s.call.drawn? with
  | some token => .updated expected token
  | none => .deleted expected

/-- What a step does to a row without addressing it. -/
def passing? (s : Step) (kind : EntityKind) (id : Key) : Option Event :=
  match s.before.row? kind id, s.after.row? kind id with
  | none, some _ => s.call.drawn?.map .created
  | some _, none => some .removed
  | _, _ => none

/-- What a step does to a row. -/
def event? (s : Step) (kind : EntityKind) (id : Key) : Option Event :=
  match s.spent? with
  | some x => if x.kind = kind ∧ x.id = id then some (s.writing x.token) else s.passing? kind id
  | none => s.passing? kind id

end Step

/-- The events of a row in a list of steps. -/
def history (steps : List Step) (kind : EntityKind) (id : Key) : List Event :=
  steps.filterMap fun s => s.event? kind id

/-- The token that a row holds. -/
def held? (t : Tables) (kind : EntityKind) (id : Key) : Option String :=
  (t.row? kind id).bind fun row => (row.cell "concurrency_token").text?

/-- **Linked events.**  They lead from the token that a row holds before them, if it is stored, to
the one that it holds after them; each write expects the token that the write before it
installed. -/
inductive Linked : Option String → List Event → Option String → Prop
  | nil (held : Option String) : Linked held [] held
  | created {x : String} {rest : List Event} {last : Option String} :
    Linked (some x) rest last → Linked none (.created x :: rest) last
  | updated {x y : String} {rest : List Event} {last : Option String} :
    Linked (some y) rest last → Linked (some x) (.updated x y :: rest) last
  | deleted {x : String} {rest : List Event} {last : Option String} :
    Linked none rest last → Linked (some x) (.deleted x :: rest) last
  | removed {x : String} {rest : List Event} {last : Option String} :
    Linked none rest last → Linked (some x) (.removed :: rest) last

theorem Linked.append {a b c : Option String} {xs ys : List Event} (h : Linked a xs b)
    (h' : Linked b ys c) : Linked a (xs ++ ys) c := by
  induction h with
  | nil => exact h'
  | created _ ih => exact .created (ih h')
  | updated _ ih => exact .updated (ih h')
  | deleted _ ih => exact .deleted (ih h')
  | removed _ ih => exact .removed (ih h')

/-! ## 3. What one call does -/

/-- What a call may do to the rows. -/
inductive Effect (t u : Tables) : Call → Outcome Unit → Prop
  /-- A failed call changes no row, and a conflict changes nothing at all. -/
  | refused {call : Call} {err : StoreError} :
    SameRows u t → (err.isRetryable = true → u = t) → Effect t u call (.error err)
  /-- A call that panics changes nothing. -/
  | panicked {call : Call} : u = t → Effect t u call .panic
  /-- A create stores a row with its token.  Its answer may still be an error, but no conflict. -/
  | stored {s : StoreModel} {id token : Uuid} {entity : s.Entity}
    {answer : Outcome Unit} {kind : EntityKind} {key : Key} {row : Row} :
    t.row? kind key = none → row.cell "concurrency_token" = .text token.toText →
    Writes t u kind key row → (∀ err, answer = .error err → err.isRetryable = false) →
    Effect t u (.create s id token entity) answer
  /-- An update replaces the row that holds the expected token by one with its own token. -/
  | replaced {s : StoreModel} {token : Uuid} {entity : s.Entity} {x : Expectation} {row : Row} :
    s.expectation? entity = some x → held? t x.kind x.id = some x.token →
    row.cell "concurrency_token" = .text token.toText → Writes t u x.kind x.id row →
    Effect t u (.update s token entity) (.ok ())
  /-- A delete takes the row that holds the expected token, and others with it. -/
  | deleted {s : StoreModel} {policy : DeletePolicy} {entity : s.Entity} {x : Expectation} :
    s.expectation? entity = some x → held? t x.kind x.id = some x.token →
    u.row? x.kind x.id = none → Drops t u → Effect t u (.delete s policy entity) (.ok ())
  /-- Pruning takes rows. -/
  | pruned {kind : EntityKind} {criteria : PruneCriteria} : Drops t u →
    Effect t u (.prune kind criteria) (.ok ())

theorem held?_of_tokenMatches {t : Tables} {kind : EntityKind} {id : Key} {expected : String}
    (h : t.tokenMatches kind id expected = true) : held? t kind id = some expected := by
  rw [tokenMatches] at h
  rw [held?]
  cases hrow : t.row? kind id with
  | none => simp [hrow] at h
  | some row => simpa [hrow] using h

theorem StoreModel.expectation?_eq {s : StoreModel} {entity : s.Entity} {id : s.Key}
    {expected : String} (hid : Record.id (Model.base entity) = some id)
    (htoken : Record.token (Model.base entity) = some expected) :
    s.expectation? entity = some ⟨s.kind, EntityKey.toKey id, expected⟩ := by
  simp [expectation?, hid, htoken]

/-- Every call does one of these. -/
theorem Call.effect (call : Call) (t : Tables) : Effect t (call.run t).2 call (call.run t).1 := by
  cases call with
  | create s id token entity =>
    rcases Store.create_cases id token entity t with
      hrun | ⟨err, u, hrun, hsame, herr⟩ | ⟨row, u, hrow, hrun, hfree, hu⟩
    · simp only [run, hrun, Outcome.map]
      exact .panicked rfl
    · simp only [run, hrun, Outcome.map]
      exact .refused hsame fun h => by rw [herr] at h; cases h
    · simp only [run, hrun]
      refine .stored hfree ?_ hu ?_
      · rw [insertedRow, Row.cell_set_of_ne _ (by decide), Store.encode_token hrow,
          Store.token_drafted]
        rfl
      -- the row is stored before it is read back, so an error comes after the row
      · intro err herr
        cases hread : (Record.ofRow (t.insertedRow (Store.kindOf s.Entity) row) :
            Except StoreError s.Base) with
        | ok r =>
          rw [hread] at herr
          cases herr
        | error e =>
          rw [hread] at herr
          cases herr
          exact Store.isRetryable_of_isValidation (LawfulRecord.isValidation_of_ofRow hread)
  | update s token entity =>
    rcases Store.update_cases token entity t with
      ⟨err, hrun⟩ | ⟨id, expected, row, u, hid, htoken, hrow, hrun, hmatch, hu⟩
    · simp only [run, hrun, Outcome.map]
      exact .refused (.refl t) fun _ => rfl
    · simp only [run, hrun, Outcome.map]
      refine .replaced (StoreModel.expectation?_eq hid htoken) (held?_of_tokenMatches hmatch) ?_ hu
      rw [Row.cell_set_of_ne _ (by decide), Store.encode_token hrow, Store.token_renewed]
      rfl
  | delete s policy entity =>
    rcases Store.delete_cases policy entity t with
      ⟨err, hrun⟩ | ⟨id, expected, u, hid, htoken, hrun, hmatch, hgone, hu⟩
    · simp only [run, hrun]
      exact .refused (.refl t) fun _ => rfl
    · simp only [run, hrun]
      exact .deleted (StoreModel.expectation?_eq hid htoken) (held?_of_tokenMatches hmatch) hgone hu
  | prune kind criteria =>
    rw [run, pruneBatch_eq]
    exact .pruned (t.drops_purge kind _)

/-! ## 4. The tokens of the rows -/

variable {t u : Tables} {call : Call} {answer : Outcome Unit} {drawn : List String}

/-- Every row holds a token that was drawn, and no two rows hold the same. -/
structure Accounted (t : Tables) (drawn : List String) : Prop where
  tokened : ∀ kind id, (t.row? kind id).isSome → (held? t kind id).isSome
  drawn : ∀ kind id x, held? t kind id = some x → x ∈ drawn
  distinct : ∀ kind id kind' id' x, held? t kind id = some x → held? t kind' id' = some x →
    kind = kind' ∧ id = id'

/-- A token was drawn, but no row holds it. -/
def Gone (t : Tables) (drawn : List String) (x : String) : Prop :=
  x ∈ drawn ∧ ∀ kind id, held? t kind id ≠ some x

theorem accounted_empty : Accounted .empty [] where
  tokened kind id h := by simp at h
  drawn kind id x h := by simp [held?] at h
  distinct kind id kind' id' x h := by simp [held?] at h

theorem held?_congr {kind : EntityKind} {id : Key} (h : u.row? kind id = t.row? kind id) :
    held? u kind id = held? t kind id := by
  rw [held?, held?, h]

/-- What a written row holds, and what the others go on to hold. -/
theorem held?_of_write {kind : EntityKind} {key : Key} {row : Row} {x : String}
    (hrow : row.cell "concurrency_token" = .text x)
    (hu : Writes t u kind key row) (other : EntityKind) (i : Key) :
    held? u other i = if other = kind ∧ i = key then some x else held? t other i := by
  rw [held?, hu other i]
  split
  · rw [Option.bind_some, hrow]
    rfl
  · rfl

/-- **One row may be written with a fresh token.** -/
theorem Accounted.write (h : Accounted t drawn) {kind : EntityKind} {key : Key} {row : Row}
    {x : String} (hrow : row.cell "concurrency_token" = .text x) (hu : Writes t u kind key row)
    (hx : x ∉ drawn) :
    Accounted u (drawn ++ [x]) where
  tokened other i hr := by
    rw [held?_of_write hrow hu]
    rw [hu other i] at hr
    split at hr
    · next heq =>
      rw [if_pos heq]
      rfl
    · next hne =>
      rw [if_neg hne]
      exact h.tokened other i hr
  drawn other i y hy := by
    rw [held?_of_write hrow hu] at hy
    split at hy
    · cases hy
      simp
    · exact List.mem_append_left _ (h.drawn other i y hy)
  -- a token that was drawn just now is in no other row
  distinct a i b j y ha hb := by
    rw [held?_of_write hrow hu] at ha hb
    split at ha <;> split at hb
    · next h₁ h₂ => exact ⟨h₁.1.trans h₂.1.symm, h₁.2.trans h₂.2.symm⟩
    · cases ha
      exact absurd (h.drawn b j x hb) hx
    · cases hb
      exact absurd (h.drawn a i x ha) hx
    · exact h.distinct a i b j y ha hb

/-- **Rows may go.** -/
theorem Accounted.restrict (h : Accounted t drawn) (hu : Drops t u) : Accounted u drawn := by
  have hheld : ∀ other i x, held? u other i = some x → held? t other i = some x := by
    intro other i x hx
    rcases hu other i with hnone | hsame
    · simp [held?, hnone] at hx
    · rwa [held?_congr hsame] at hx
  constructor
  · intro other i hr
    rcases hu other i with hnone | hsame
    · rw [hnone] at hr
      cases hr
    · rw [held?_congr hsame]
      exact h.tokened other i (hsame ▸ hr)
  · exact fun other i x hx => h.drawn other i x (hheld other i x hx)
  · exact fun a i b j x ha hb => h.distinct a i b j x (hheld a i x ha) (hheld b j x hb)

/-- The tokens that are drawn once a call is through. -/
def Call.adding (call : Call) (drawn : List String) : List String := drawn ++ call.drawn?.toList

/-- **The invariant of a run.** -/
theorem Accounted.step (h : Accounted t drawn) (hfresh : ∀ x, call.drawn? = some x → x ∉ drawn)
    (heffect : Effect t u call answer) : Accounted u (call.adding drawn) := by
  cases heffect with
  | refused hsame =>
    have hkept := h.restrict hsame.drops
    exact { hkept with
      drawn := fun other i x hx => List.mem_append_left _ (hkept.drawn other i x hx) }
  | panicked hsame =>
    obtain rfl := hsame
    exact { h with drawn := fun other i x hx => List.mem_append_left _ (h.drawn other i x hx) }
  | stored _ hrow hu => exact h.write hrow hu (hfresh _ rfl)
  | replaced _ _ hrow hu => exact h.write hrow hu (hfresh _ rfl)
  | deleted _ _ _ hu =>
    rw [Call.adding, Call.drawn?, Option.toList_none, List.append_nil]
    exact h.restrict hu
  | pruned hu =>
    rw [Call.adding, Call.drawn?, Option.toList_none, List.append_nil]
    exact h.restrict hu

/-- What a row holds after a call it held before, if the call did not draw it. -/
theorem Effect.drawn_or_held (heffect : Effect t u call answer) {kind : EntityKind} {id : Key}
    {x : String} (hx : held? u kind id = some x) :
    call.drawn? = some x ∨ held? t kind id = some x := by
  cases heffect with
  | refused hsame => exact Or.inr (held?_congr (hsame.row? kind id) ▸ hx)
  | panicked hsame => exact Or.inr (hsame ▸ hx)
  | stored _ hrow hu | replaced _ _ hrow hu =>
    rw [held?_of_write hrow hu] at hx
    split at hx
    · exact Or.inl hx
    · exact Or.inr hx
  | deleted _ _ _ hu | pruned hu =>
    rcases hu kind id with hnone | hsame
    · simp [held?, hnone] at hx
    · exact Or.inr (held?_congr hsame ▸ hx)

theorem Gone.step {x : String} (h : Gone t drawn x)
    (hfresh : ∀ x, call.drawn? = some x → x ∉ drawn) (heffect : Effect t u call answer) :
    Gone u (call.adding drawn) x := by
  refine ⟨List.mem_append_left _ h.1, fun kind id hx => ?_⟩
  rcases heffect.drawn_or_held hx with hdrawn | hheld
  · exact hfresh x hdrawn h.1
  · exact h.2 kind id hheld

/-- A successful update or delete found the token that it expected. -/
theorem Effect.held_of_spent (heffect : Effect t u call answer) {e : Expectation}
    (he : (Step.mk call t answer u).spent? = some e) : held? t e.kind e.id = some e.token := by
  cases heffect with
  | refused | panicked => cases he
  | stored =>
    cases answer <;> cases he
  | replaced hexp hheld | deleted hexp hheld =>
    cases hexp.symm.trans he
    exact hheld
  | pruned => cases he

/-- **Spending a token is for good.** -/
theorem Accounted.gone_of_spent (h : Accounted t drawn)
    (hfresh : ∀ x, call.drawn? = some x → x ∉ drawn) (heffect : Effect t u call answer)
    {e : Expectation} (he : (Step.mk call t answer u).spent? = some e) :
    Gone u (call.adding drawn) e.token := by
  have hheld := heffect.held_of_spent he
  have hdrawn := h.drawn _ _ _ hheld
  refine ⟨List.mem_append_left _ hdrawn, fun kind id hx => ?_⟩
  rcases heffect.drawn_or_held hx with hnew | hold
  · exact hfresh _ hnew hdrawn
  · obtain ⟨rfl, rfl⟩ := h.distinct _ _ _ _ _ hold hheld
    cases heffect with
    | refused | panicked => cases he
    | stored => cases answer <;> cases he
    | replaced hexp _ hrow hu =>
      cases hexp.symm.trans he
      rw [held?_of_write hrow hu, if_pos ⟨rfl, rfl⟩] at hx
      exact hfresh _ hx hdrawn
    | deleted hexp _ hgone =>
      cases hexp.symm.trans he
      simp [held?, hgone] at hx
    | pruned => cases he

/-! ## 5. The events of one step -/

/-- A row that stays as it is has no event, unless it is addressed. -/
theorem Step.passing?_of_same {s : Step} {kind : EntityKind} {id : Key}
    (h : s.after.row? kind id = s.before.row? kind id) : s.passing? kind id = none := by
  rw [passing?, h]
  cases s.before.row? kind id <;> rfl

namespace Step

variable {s : Step} {kind : EntityKind} {id : Key} {x : Expectation}

theorem event?_of_unspent (h : s.spent? = none) : s.event? kind id = s.passing? kind id := by
  rw [event?, h]

theorem event?_of_spent (h : s.spent? = some x) :
    s.event? x.kind x.id = some (s.writing x.token) := by
  simp only [event?, h, and_self, if_true]

theorem event?_of_spent_elsewhere (h : s.spent? = some x) (hne : ¬ (kind = x.kind ∧ id = x.id)) :
    s.event? kind id = s.passing? kind id := by
  have hne' : ¬ (x.kind = kind ∧ x.id = id) := fun h => hne ⟨h.1.symm, h.2.symm⟩
  simp only [event?, h, if_neg hne']

/-- A call that expects nothing spends nothing. -/
theorem spent?_of_expects_none (h : s.call.expects? = none) : s.spent? = none := by
  rw [spent?]
  split
  · exact h
  · rfl
  · rfl

/-- The row that a create stores has the event of its creation. -/
theorem event?_of_stored {token : String} (hcall : s.call.expects? = none)
    (hdrawn : s.call.drawn? = some token) (hbefore : s.before.row? kind id = none)
    (hafter : (s.after.row? kind id).isSome) : s.event? kind id = some (.created token) := by
  obtain ⟨row, hrow⟩ := Option.isSome_iff_exists.mp hafter
  rw [event?_of_unspent (spent?_of_expects_none hcall), passing?, hbefore, hrow, hdrawn]
  rfl

/-- What a step does to a row leads from the token before it to the token after it, and a row to
which it does nothing stays as it is. -/
def Explains (s : Step) (kind : EntityKind) (id : Key) : Prop :=
  Linked (held? s.before kind id) (s.event? kind id).toList (held? s.after kind id) ∧
    (s.event? kind id = none → s.after.row? kind id = s.before.row? kind id)

end Step

/-- A row that is not addressed may go, or it stays. -/
theorem Accounted.explains_passing {s : Step} (h : Accounted s.before drawn) {kind : EntityKind}
    {id : Key} (hevent : s.event? kind id = s.passing? kind id)
    (hu : s.after.row? kind id = none ∨ s.after.row? kind id = s.before.row? kind id) :
    s.Explains kind id := by
  have hstays : s.after.row? kind id = s.before.row? kind id → s.Explains kind id := by
    intro hsame
    rw [Step.Explains, hevent, Step.passing?_of_same hsame, held?_congr hsame]
    exact ⟨.nil _, fun _ => hsame⟩
  rcases hu with hnone | hsame
  · cases hrow : s.before.row? kind id with
    | none => exact hstays (hnone.trans hrow.symm)
    | some row =>
      obtain ⟨x, hx⟩ := Option.isSome_iff_exists.mp (h.tokened kind id (by rw [hrow]; rfl))
      have hpass : s.passing? kind id = some .removed := by
        rw [Step.passing?, hrow, hnone]
      have hafter : held? s.after kind id = none := by
        rw [held?, hnone]
        rfl
      rw [Step.Explains, hevent, hpass, hx, hafter]
      exact ⟨.removed (.nil none), fun h => by cases h⟩
  · exact hstays hsame

/-- A row that is addressed is written as expected. -/
theorem Accounted.explains_spent {s : Step} (h : Accounted s.before drawn) {x : Expectation}
    (hspent : s.spent? = some x) (hheld : held? s.before x.kind x.id = some x.token)
    (hwriting : Linked (some x.token) [s.writing x.token] (held? s.after x.kind x.id))
    (helse : ∀ kind id, ¬ (kind = x.kind ∧ id = x.id) →
      s.after.row? kind id = none ∨ s.after.row? kind id = s.before.row? kind id)
    (kind : EntityKind) (id : Key) : s.Explains kind id := by
  by_cases hid : kind = x.kind ∧ id = x.id
  · obtain ⟨rfl, rfl⟩ := hid
    rw [Step.Explains, Step.event?_of_spent hspent, hheld]
    exact ⟨hwriting, fun h => by cases h⟩
  · exact h.explains_passing (Step.event?_of_spent_elsewhere hspent hid) (helse kind id hid)

/-- **The events of one step explain it,** at every row. -/
theorem Accounted.explains (h : Accounted t drawn) (heffect : Effect t u call answer)
    (kind : EntityKind) (id : Key) : (Step.mk call t answer u).Explains kind id := by
  cases heffect with
  | refused hsame =>
    exact h.explains_passing (Step.event?_of_unspent rfl) (Or.inr (hsame.row? kind id))
  | panicked hsame =>
    exact h.explains_passing (Step.event?_of_unspent rfl) (Or.inr (hsame ▸ rfl))
  | @stored s new token entity _ k key row hfree hrow hu =>
    -- under the key of the new row a row appears, under any other nothing happens
    by_cases hid : kind = k ∧ id = key
    · have hevent : (Step.mk (.create s new token entity) t answer u).event? kind id =
          some (.created token.toText) :=
        Step.event?_of_stored rfl rfl (hid.1 ▸ hid.2 ▸ hfree) (by simp [hu k key, hid])
      have hbefore : held? t kind id = none := by
        rw [hid.1, hid.2, held?, hfree]
        rfl
      rw [Step.Explains, hevent, hbefore, held?_of_write hrow hu, if_pos hid]
      exact ⟨.created (.nil _), fun h => by cases h⟩
    · exact h.explains_passing (Step.event?_of_unspent (Step.spent?_of_expects_none rfl))
        (Or.inr (by rw [hu kind id, if_neg hid]))
  | @replaced s token entity x row hexp hheld hrow hu =>
    have hspent : (Step.mk (.update s token entity) t (.ok ()) u).spent? = some x := hexp
    refine h.explains_spent hspent hheld ?_ (fun k i hne => Or.inr ?_) kind id
    · rw [held?_of_write hrow hu, if_pos ⟨rfl, rfl⟩]
      exact .updated (.nil _)
    · rw [hu k i, if_neg hne]
  | @deleted s policy entity x hexp hheld hgone hu =>
    have hspent : (Step.mk (.delete s policy entity) t (.ok ()) u).spent? = some x := hexp
    refine h.explains_spent hspent hheld ?_ (fun k i _ => hu k i) kind id
    rw [held?, hgone]
    exact .deleted (.nil _)
  | pruned hu => exact h.explains_passing (Step.event?_of_unspent rfl) (hu kind id)

/-- A create or an update that succeeds leaves the token that it drew in a row. -/
theorem Effect.installs (heffect : Effect t u call (.ok ())) {x : String}
    (hx : call.drawn? = some x) : ∃ kind id event,
      (Step.mk call t (.ok ()) u).event? kind id = some event ∧ event.installed? = some x ∧
        held? u kind id = some x := by
  cases heffect with
  | @stored s new token entity _ k key row hfree hrow hu =>
    obtain rfl : token.toText = x := Option.some.inj hx
    refine ⟨k, key, .created token.toText, ?_, rfl, ?_⟩
    · exact Step.event?_of_stored rfl rfl hfree (by simp [hu k key])
    · rw [held?_of_write hrow hu, if_pos ⟨rfl, rfl⟩]
  | @replaced s token entity e row hexp _ hrow hu =>
    obtain rfl : token.toText = x := Option.some.inj hx
    have hspent : (Step.mk (.update s token entity) t (.ok ()) u).spent? = some e := hexp
    refine ⟨e.kind, e.id, .updated e.token token.toText, Step.event?_of_spent hspent, rfl, ?_⟩
    rw [held?_of_write hrow hu, if_pos ⟨rfl, rfl⟩]
  | deleted => cases hx
  | pruned => cases hx

/-! ## 6. Runs -/

/-- The token of the first call is new, and it counts as drawn for the calls after it. -/
theorem fresh_cons {drawn : List String} {call : Call} {calls : List Call}
    (h : (drawn ++ (call :: calls).filterMap Call.drawn?).Nodup) :
    (∀ x, call.drawn? = some x → x ∉ drawn) ∧
      (call.adding drawn ++ calls.filterMap Call.drawn?).Nodup := by
  have hlist : (call :: calls).filterMap Call.drawn? =
      call.drawn?.toList ++ calls.filterMap Call.drawn? := by
    rw [List.filterMap_cons]
    cases call.drawn? <;> rfl
  rw [hlist, ← List.append_assoc] at h
  refine ⟨fun x hx hmem => ?_, h⟩
  have hdisjoint := (List.nodup_append'.mp (List.nodup_append'.mp h).1).2.2
  exact hdisjoint hmem (by rw [hx]; simp)

/-- A token that is gone is not spent again. -/
theorem Gone.not_spent {x : String} {calls : List Call} (h : Accounted t drawn)
    (hfresh : (drawn ++ calls.filterMap Call.drawn?).Nodup) (hgone : Gone t drawn x) :
    ∀ s ∈ trace t calls, ∀ e, s.spent? = some e → e.token ≠ x := by
  induction calls generalizing t drawn with
  | nil => simp [trace]
  | cons call calls ih =>
    obtain ⟨hcall, hrest⟩ := fresh_cons hfresh
    have heffect := call.effect t
    intro s hs e he
    rcases List.mem_cons.mp hs with rfl | hs
    · rintro rfl
      exact hgone.2 _ _ (heffect.held_of_spent he)
    · exact ih (h.step hcall heffect) hrest (hgone.step hcall heffect) s hs e he

/-- Before and after every step of a run the tokens are accounted for. -/
theorem accounted_of_mem {calls : List Call} (h : Accounted t drawn)
    (hfresh : (drawn ++ calls.filterMap Call.drawn?).Nodup) :
    ∀ s ∈ trace t calls, ∃ drawn, Accounted s.before drawn ∧
      Accounted s.after (s.call.adding drawn) ∧ Effect s.before s.after s.call s.answer := by
  induction calls generalizing t drawn with
  | nil => simp [trace]
  | cons call calls ih =>
    obtain ⟨hcall, hrest⟩ := fresh_cons hfresh
    have heffect := call.effect t
    intro s hs
    rcases List.mem_cons.mp hs with rfl | hs
    · exact ⟨drawn, h, h.step hcall heffect, heffect⟩
    · exact ih (h.step hcall heffect) hrest s hs

/-- **The history of a row is linked** from what it holds before a run to what it holds after it. -/
theorem Accounted.linked_history {calls : List Call} (h : Accounted t drawn)
    (hfresh : (drawn ++ calls.filterMap Call.drawn?).Nodup) (kind : EntityKind) (id : Key) :
    Linked (held? t kind id) (history (trace t calls) kind id)
      (held? (final t calls) kind id) := by
  induction calls generalizing t drawn with
  | nil => exact .nil _
  | cons call calls ih =>
    obtain ⟨hcall, hrest⟩ := fresh_cons hfresh
    have heffect := call.effect t
    have hhistory : history (trace t (call :: calls)) kind id =
        ((Step.mk call t (call.run t).1 (call.run t).2).event? kind id).toList ++
          history (trace (call.run t).2 calls) kind id := by
      rw [trace, history, List.filterMap_cons]
      cases (Step.mk call t (call.run t).1 (call.run t).2).event? kind id <;> rfl
    rw [hhistory]
    exact (h.explains heffect kind id).1.append (ih (h.step hcall heffect) hrest)

/-- **A token is spent once at most.** -/
theorem Accounted.spent_once {calls : List Call} (h : Accounted t drawn)
    (hfresh : (drawn ++ calls.filterMap Call.drawn?).Nodup) :
    (trace t calls).Pairwise fun r s =>
      ∀ d e, r.spent? = some d → s.spent? = some e → e.token ≠ d.token := by
  induction calls generalizing t drawn with
  | nil => exact .nil
  | cons call calls ih =>
    obtain ⟨hcall, hrest⟩ := fresh_cons hfresh
    have heffect := call.effect t
    refine .cons (fun s hs d e hd he => ?_) (ih (h.step hcall heffect) hrest)
    have hgone := h.gone_of_spent hcall heffect hd
    exact hgone.not_spent (h.step hcall heffect) hrest s hs e he

theorem mem_of_mem_trace {calls : List Call} {s : Step} (hs : s ∈ trace t calls) :
    s.call ∈ calls := by
  induction calls generalizing t with
  | nil => cases hs
  | cons call calls ih =>
    rcases List.mem_cons.mp hs with rfl | hs
    · exact List.mem_cons_self
    · exact List.mem_cons_of_mem _ (ih hs)

/-- No row holds a token before the call that draws it. -/
theorem Accounted.not_held_before {calls : List Call} (h : Accounted t drawn)
    (hfresh : (drawn ++ calls.filterMap Call.drawn?).Nodup) {earlier later : List Step} {s : Step}
    (htrace : trace t calls = earlier ++ s :: later) {x : String} (hx : s.call.drawn? = some x) :
    ∀ r ∈ earlier ++ [s], ∀ kind id, held? r.before kind id ≠ some x := by
  induction calls generalizing t drawn earlier with
  | nil => simp [trace] at htrace
  | cons call calls ih =>
    obtain ⟨hcall, hrest⟩ := fresh_cons hfresh
    have hs : s ∈ trace t (call :: calls) := by
      rw [htrace]
      simp
    have hnew : x ∉ drawn := fun hmem =>
      (List.nodup_append'.mp hfresh).2.2 hmem
        (List.mem_filterMap.mpr ⟨s.call, mem_of_mem_trace hs, hx⟩)
    -- a token that is still to be drawn is in no row yet
    have hfirst : ∀ kind id, held? t kind id ≠ some x := fun kind id hheld =>
      hnew (h.drawn kind id x hheld)
    cases earlier with
    | nil =>
      obtain ⟨rfl, -⟩ := List.cons.inj htrace
      intro r hr
      cases List.mem_singleton.mp hr
      exact hfirst
    | cons r earlier =>
      obtain ⟨rfl, hlater⟩ := List.cons.inj htrace
      intro r hr
      rcases List.mem_cons.mp hr with rfl | hr
      · exact hfirst
      · exact ih (h.step hcall (call.effect t)) hrest hlater r hr

/-! ## 7. No lost update -/

/-- What a run owes to the clients that hold its entities. -/
structure NoLostUpdate (calls : List Call) : Prop where
  /-- Each write of a row expects the token that the write before it installed. -/
  linked : ∀ kind id, Linked none (history (trace .empty calls) kind id)
    (held? (final .empty calls) kind id)
  /-- A stored row holds a token. -/
  tokened : ∀ s ∈ trace .empty calls, ∀ kind id, (s.after.row? kind id).isSome →
    (held? s.after kind id).isSome
  /-- No row changes without an event. -/
  complete : ∀ s ∈ trace .empty calls, ∀ kind id, s.event? kind id = none →
    s.after.row? kind id = s.before.row? kind id
  /-- No two successful updates and deletes spend the same token. -/
  spentOnce : (trace .empty calls).Pairwise fun r s =>
    ∀ d e, r.spent? = some d → s.spent? = some e → e.token ≠ d.token
  /-- A successful create or update leaves a token that no row has held before. -/
  fresh : ∀ earlier s later, trace .empty calls = earlier ++ s :: later → s.answer = .ok () →
    ∀ x, s.call.drawn? = some x →
      (∃ kind id event, s.event? kind id = some event ∧ event.installed? = some x ∧
        held? s.after kind id = some x) ∧
      ∀ r ∈ earlier ++ [s], ∀ kind id, held? r.before kind id ≠ some x
  /-- A conflict changes nothing. -/
  unchanged : ∀ s ∈ trace .empty calls, ∀ kind text,
    s.answer = .error (.concurrencyConflict kind text) → s.after = s.before

/-- **No lost update.**  In every run whose calls draw fresh tokens, whoever makes the calls and in
whatever order, each write of a row expects the token that the write before it installed; so no two
writes spend one token, and a call that comes too late changes nothing. -/
theorem no_lost_update (calls : List Call) (hfresh : FreshTokens calls) : NoLostUpdate calls where
  linked kind id := by
    have h := accounted_empty.linked_history hfresh kind id
    simpa [held?] using h
  tokened s hs := by
    obtain ⟨drawn, -, h, -⟩ := accounted_of_mem accounted_empty hfresh s hs
    exact h.tokened
  complete s hs kind id hevent := by
    obtain ⟨drawn, h, -, heffect⟩ := accounted_of_mem accounted_empty hfresh s hs
    exact (h.explains heffect kind id).2 hevent
  spentOnce := accounted_empty.spent_once hfresh
  fresh earlier s later htrace hanswer x hx := by
    have hs : s ∈ trace .empty calls := by
      rw [htrace]
      simp
    obtain ⟨drawn, -, -, heffect⟩ := accounted_of_mem accounted_empty hfresh s hs
    refine ⟨?_, accounted_empty.not_held_before hfresh htrace hx⟩
    obtain ⟨call, before, answer, after⟩ := s
    cases hanswer
    exact heffect.installs hx
  unchanged s hs kind text hanswer := by
    obtain ⟨drawn, -, -, heffect⟩ := accounted_of_mem accounted_empty hfresh s hs
    obtain ⟨call, before, answer, after⟩ := s
    cases hanswer
    cases heffect with
    | refused _ hconflict => exact hconflict rfl
    | stored _ _ _ herr => cases herr _ rfl

/-- Scopes with textual identifiers. -/
def scopes : StoreModel where
  Entity := Scope String
  Base := Scope String
  Key := String

/-- The scope `read` as a client holds it that has seen a token. -/
def seen (token : Uuid) : Scope String := { id := some "read", concurrencyToken := token.toText }

/-- Two clients update what both have read, one deletes it, and it is created again. -/
def race : List Call := [
  .create scopes ⟨10⟩ ⟨1⟩ { id := some "read" },
  .update scopes ⟨2⟩ (seen ⟨1⟩),
  .update scopes ⟨3⟩ (seen ⟨1⟩),
  .delete scopes .cascade (seen ⟨2⟩),
  .create scopes ⟨11⟩ ⟨4⟩ { id := some "read" },
  .update scopes ⟨5⟩ (seen ⟨2⟩)]

theorem no_lost_update_race :
    FreshTokens race ∧ NoLostUpdate race ∧
      ((trace .empty race).map fun s => s.answer.isOk) = [true, true, false, true, true, false] ∧
      held? (final .empty race) .scope (.text "read") = some (Uuid.toText ⟨4⟩) := by
  have hfresh : FreshTokens race := by
    rw [FreshTokens]
    decide +kernel
  exact ⟨hfresh, no_lost_update race hfresh, by decide +kernel, by decide +kernel⟩

end GrantLedger.Clients
