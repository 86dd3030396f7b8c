import GrantLedger.Proofs.Publication
import GrantLedger.Services.Basic
import Mathlib.Data.List.Induction

/-!
# Resolvers over whole runs

Services are set up by any sequence of registrations and overrides, and then used: stores are asked
for, published stores are forgotten, and the services are shut down.  What a resolver answers at any
point depends on these two histories only.

A `Wiring` is one step of setting up, and `Wired` says what the resolvers keep of a sequence of
them.  A `Use` is one use of the services, and `Used` says what has become of the resolvers after a
sequence of uses.  In both histories a later step may undo an earlier one, which `Stands` is about.

* `Wired.step`, `Wired.run`: the registered types are those that some step registered, and the store
  that is set by hand for a type is the one that was set last.
* `Services.resolve_cases`: everything that asking for a store does.
* `Used.step`, `Used.run`: a cache keeps the types that were asked for since it was last cleared.
* `Wired.resolve_of_lastOverride`, `Wired.resolve_of_isRegistered`, `Wired.resolve_refused`: the
  answers at any time.

`resolvers_over_runs` puts this together.
-/

namespace GrantLedger

/-! ## 1. What stands in a history -/

/-- A step of a history that no later step undoes. -/
def Stands {α : Type} (undoes : α → Prop) (a : α) (history : List α) : Prop :=
  ∃ before after, history = before ++ a :: after ∧ ∀ b ∈ after, ¬ undoes b

theorem not_stands_nil {α : Type} {undoes : α → Prop} {a : α} : ¬ Stands undoes a [] := by
  rintro ⟨before, after, h, -⟩
  cases before <;> cases h

theorem stands_concat {α : Type} {undoes : α → Prop} {a b : α} {history : List α} :
    Stands undoes a (history ++ [b]) ↔ b = a ∨ ¬ undoes b ∧ Stands undoes a history := by
  constructor
  · rintro ⟨before, after, h, hafter⟩
    rcases List.eq_nil_or_concat after with rfl | ⟨init, c, rfl⟩
    · exact .inl (List.head_eq_of_cons_eq (List.append_inj' h rfl).2)
    · rw [List.concat_eq_append, ← List.cons_append, ← List.append_assoc] at h
      obtain ⟨rfl, hc⟩ := List.append_inj' h rfl
      cases hc
      rw [List.concat_eq_append] at hafter
      refine .inr ⟨hafter _ (by simp), before, init, rfl, fun d hd => hafter d (by simp [hd])⟩
  · rintro (rfl | ⟨hb, before, after, rfl, hafter⟩)
    · exact ⟨history, [], rfl, by simp⟩
    · refine ⟨before, after ++ [b], by simp, fun c hc => ?_⟩
      rcases List.mem_append.mp hc with hc | hc
      · exact hafter c hc
      · rw [List.mem_singleton.mp hc]
        exact hb

theorem stands_cons_of_ne {α : Type} {undoes : α → Prop} {a b : α} {history : List α} (h : b ≠ a) :
    Stands undoes a (b :: history) ↔ Stands undoes a history := by
  constructor
  · rintro ⟨_ | ⟨c, before⟩, after, heq, hafter⟩
    · exact absurd (List.head_eq_of_cons_eq heq) h
    · exact ⟨before, after, List.tail_eq_of_cons_eq heq, hafter⟩
  · rintro ⟨before, after, rfl, hafter⟩
    exact ⟨b :: before, after, rfl, hafter⟩

/-- If only steps of some sort undo one another, the last one of them stands. -/
theorem exists_stands {α : Type} (undoes : α → Prop) {history : List α} {a : α}
    (hmem : a ∈ history) (ha : undoes a) : ∃ b, undoes b ∧ Stands undoes b history := by
  induction history using List.reverseRecOn with
  | nil => cases hmem
  | append_singleton history c ih =>
    by_cases hc : undoes c
    · exact ⟨c, hc, stands_concat.mpr (.inl rfl)⟩
    · have hmem' : a ∈ history := by
        rcases List.mem_append.mp hmem with h | h
        · exact h
        · rw [List.mem_singleton.mp h] at ha
          exact absurd ha hc
      obtain ⟨b, hb, hstands⟩ := ih hmem'
      exact ⟨b, hb, stands_concat.mpr (.inr ⟨hc, hstands⟩)⟩

/-! ## 2. Setting up -/

/-- One step of setting up. -/
inductive Wiring where
  | registerContext (name : String) (factory : ContextFactory)
  | withKey (key : KeyType)
  | register {kind : EntityKind} (x : ModelOf kind)
  | replaceDefaults (application : ModelOf .application) (authorization : ModelOf .authorization)
    (scope : ModelOf .scope) (token : ModelOf .token)
  | override (kind : EntityKind) (x : EntityType) (store : StoreHandle)

namespace Wiring

/-- Carries out a step. -/
def apply (s : Setup) : Wiring → Setup
  | .registerContext name factory => s.registerContext name factory
  | .withKey key => s.withKey key
  | .register x => s.registerModel x
  | .replaceDefaults application authorization scope token =>
    s.replaceDefaults application authorization scope token
  | .override kind x store => s.overrideWith kind x store

/-- The models that a step registers. -/
def models : Wiring → List (Σ kind, ModelOf kind)
  | .withKey key => EntityKind.all.map fun kind => ⟨_, ⟨.model (.ofKind kind key), rfl⟩⟩
  | .register x => [⟨_, x⟩]
  | .replaceDefaults application authorization scope token =>
    [⟨_, application⟩, ⟨_, authorization⟩, ⟨_, scope⟩, ⟨_, token⟩]
  | .registerContext .. | .override .. => []

/-- Whether a step registers a type with the stores of a kind. -/
def Registers (w : Wiring) (kind : EntityKind) (x : EntityType) : Prop :=
  ∃ y ∈ w.models, y.1 = kind ∧ y.2.1 = x

/-- Whether a step sets the store of a kind for a type by hand. -/
def Overrides (w : Wiring) (kind : EntityKind) (x : EntityType) : Prop :=
  ∃ store, w = .override kind x store

end Wiring

/-- Whether services that are set up in these steps have a type registered with a kind.  The record
types over textual identifiers are registered to begin with. -/
def IsRegistered (ws : List Wiring) (kind : EntityKind) (x : EntityType) : Prop :=
  ∃ w ∈ .withKey .string :: ws, w.Registers kind x

/-- Whether one of these steps sets the store of a kind for a type by hand. -/
def IsOverridden (ws : List Wiring) (kind : EntityKind) (x : EntityType) : Prop :=
  ∃ w ∈ ws, w.Overrides kind x

/-- The store that these steps set by hand for a type of a kind, and that no later one replaces. -/
def LastOverride (ws : List Wiring) (kind : EntityKind) (x : EntityType) (store : StoreHandle) :
    Prop :=
  Stands (·.Overrides kind x) (.override kind x store) ws

theorem exists_lastOverride {ws : List Wiring} {kind : EntityKind} {x : EntityType} :
    IsOverridden ws kind x ↔ ∃ store, LastOverride ws kind x store := by
  constructor
  · rintro ⟨w, hw, hoverrides⟩
    obtain ⟨_, ⟨store, rfl⟩, hstands⟩ :=
      exists_stands (·.Overrides kind x) hw hoverrides
    exact ⟨store, hstands⟩
  · rintro ⟨store, before, after, rfl, -⟩
    exact ⟨_, by simp, store, rfl⟩

/-- A type that is no model of a kind is not registered with it. -/
theorem kind_of_isRegistered {ws : List Wiring} {kind : EntityKind} {x : EntityType}
    (h : IsRegistered ws kind x) : x.kind? = some kind := by
  obtain ⟨w, -, y, -, rfl, rfl⟩ := h
  exact y.2.2

/-! ## 3. What the resolvers keep of the setup -/

/-- What resolvers are after steps of setting up. -/
structure Wired (ws : List Wiring) (rs : Resolvers) : Prop where
  kind : ∀ kind, (rs.get kind).kind = kind
  registered : ∀ kind x k, (rs.get kind).registered.lookup x = some k ↔
    k = kind ∧ ∃ w ∈ ws, w.Registers kind x
  overridden : ∀ kind x store, (rs.get kind).overrides.lookup x = some store ↔
    LastOverride ws kind x store
  cache : ∀ kind, (rs.get kind).cache = []

namespace Setup

/-- Registers several models. -/
def registerAll (s : Setup) (l : List (Σ kind, ModelOf kind)) : Setup :=
  l.foldl (fun s y => s.registerModel y.2) s

variable {s : Setup}

/-- Registering a model changes the registered types of its kind only. -/
theorem get_registerModel {kind : EntityKind} (x : ModelOf kind) (other : EntityKind) :
    (s.registerModel x).resolvers.get other =
      if other = kind then (s.resolvers.get kind).register x.1 kind else s.resolvers.get other :=
  Resolvers.get_modify _ kind _ other

/-- Registering models changes nothing but the registered types. -/
theorem get_registerAll (l : List (Σ kind, ModelOf kind)) (other : EntityKind) :
    (s.registerAll l).resolvers.get other = { s.resolvers.get other with
      registered := ((s.registerAll l).resolvers.get other).registered } := by
  unfold registerAll
  induction l generalizing s with
  | nil => rfl
  | cons y rest ih =>
    rw [List.foldl_cons, ih, get_registerModel]
    split
    · next h =>
      subst h
      rfl
    · rfl

/-- The registered types after one more model. -/
theorem lookup_registerModel {R : EntityKind → EntityType → Prop}
    (h : ∀ kind x k, (s.resolvers.get kind).registered.lookup x = some k ↔ k = kind ∧ R kind x)
    (y : Σ kind, ModelOf kind) (kind : EntityKind) (x : EntityType) (k : EntityKind) :
    ((s.registerModel y.2).resolvers.get kind).registered.lookup x = some k ↔
      k = kind ∧ (R kind x ∨ y.1 = kind ∧ y.2.1 = x) := by
  rw [get_registerModel]
  by_cases hkind : kind = y.1
  · subst hkind
    rw [if_pos rfl, Resolver.register, lookup_rebind]
    by_cases hx : x = y.2.1
    · simp [hx, eq_comm]
    · simp [hx, Ne.symm hx, h]
  · simp [hkind, Ne.symm hkind, h]

theorem lookup_registerAll {R : EntityKind → EntityType → Prop}
    (h : ∀ kind x k, (s.resolvers.get kind).registered.lookup x = some k ↔ k = kind ∧ R kind x)
    (l : List (Σ kind, ModelOf kind)) (kind : EntityKind) (x : EntityType) (k : EntityKind) :
    ((s.registerAll l).resolvers.get kind).registered.lookup x = some k ↔
      k = kind ∧ (R kind x ∨ ∃ y ∈ l, y.1 = kind ∧ y.2.1 = x) := by
  unfold registerAll
  induction l generalizing s R with
  | nil => simp [h]
  | cons y rest ih =>
    rw [List.foldl_cons, ih (lookup_registerModel h y), or_assoc]
    simp

end Setup

/-- A step that sets no store by hand registers its models. -/
theorem Wiring.resolvers_apply (w : Wiring) (s : Setup)
    (h : ∀ kind x, ¬ w.Overrides kind x) :
    (w.apply s).resolvers = (s.registerAll w.models).resolvers := by
  cases w with
  | override kind x store => exact absurd ⟨store, rfl⟩ (h kind x)
  | _ => rfl

theorem wired_nil (settings : Settings.Store) (clock : Timestamp) :
    Wired [] (Setup.resolvers { settings, clock }) where
  kind kind := by cases kind <;> rfl
  registered kind x k := by cases kind <;> simp [Resolvers.get]
  overridden kind x store := by
    refine ⟨fun h => ?_, fun h => absurd h not_stands_nil⟩
    cases kind <;> cases h
  cache kind := by cases kind <;> rfl

section Step

variable {ws : List Wiring} {s : Setup} {w : Wiring}

theorem Wired.of_not_overrides (h : Wired ws s.resolvers)
    (hw : ∀ kind x, ¬ w.Overrides kind x) : Wired (ws ++ [w]) (w.apply s).resolvers := by
  rw [w.resolvers_apply s hw]
  refine ⟨fun kind => ?_, fun kind x k => ?_, fun kind x store => ?_, fun kind => ?_⟩
  · rw [Setup.get_registerAll]
    exact h.kind kind
  · rw [Setup.lookup_registerAll h.registered]
    unfold Wiring.Registers
    simp [or_and_right, exists_or]
  · rw [Setup.get_registerAll, LastOverride, stands_concat]
    have hne : w ≠ .override kind x store := by
      rintro rfl
      exact hw kind x ⟨store, rfl⟩
    rw [or_iff_right hne, and_iff_right (hw kind x)]
    exact h.overridden kind x store
  · rw [Setup.get_registerAll]
    exact h.cache kind

theorem Wired.of_overrides (h : Wired ws s.resolvers) (kind : EntityKind) (x : EntityType)
    (store : StoreHandle) :
    Wired (ws ++ [.override kind x store])
      (Wiring.apply s (.override kind x store)).resolvers := by
  have hget : ∀ other, (s.overrideWith kind x store).resolvers.get other =
      if other = kind then (s.resolvers.get kind).override x store else s.resolvers.get other :=
    Resolvers.get_modify _ kind _
  have hkeeps : ∀ other, ((s.overrideWith kind x store).resolvers.get other) =
      { s.resolvers.get other with
        overrides := ((s.overrideWith kind x store).resolvers.get other).overrides } := by
    intro other
    rw [hget]
    split
    · next heq =>
      rw [heq]
      rfl
    · rfl
  -- which store was set by hand last is all that changes, so the third part alone is new
  refine ⟨fun other => ?_, fun other y k => ?_, fun other y found => ?_, fun other => ?_⟩
  · rw [Wiring.apply, hkeeps]
    exact h.kind other
  · rw [Wiring.apply, hkeeps]
    refine (h.registered other y k).trans (and_congr_right fun _ => ?_)
    simp [Wiring.Registers, Wiring.models]
  · rw [Wiring.apply, hget, LastOverride, stands_concat]
    have hother := h.overridden other y found
    unfold LastOverride at hother
    by_cases hkind : other = kind
    · subst hkind
      rw [if_pos rfl, Resolver.override, lookup_rebind]
      by_cases hy : y = x
      · simp [hy, Wiring.Overrides]
      · simp [hy, Ne.symm hy, Wiring.Overrides, hother]
    · simp [hkind, Ne.symm hkind, Wiring.Overrides, hother]
  · rw [Wiring.apply, hkeeps]
    exact h.cache other

/-- **One step of setting up.** -/
theorem Wired.step (h : Wired ws s.resolvers) (w : Wiring) :
    Wired (ws ++ [w]) (w.apply s).resolvers := by
  by_cases hw : ∃ kind x, w.Overrides kind x
  · obtain ⟨kind, x, store, rfl⟩ := hw
    exact h.of_overrides kind x store
  · exact h.of_not_overrides fun kind x hoverrides => hw ⟨kind, x, hoverrides⟩

/-- **All steps of setting up.** -/
theorem Wired.run (h : Wired ws s.resolvers) (rest : List Wiring) :
    Wired (ws ++ rest) (rest.foldl Wiring.apply s).resolvers := by
  induction rest generalizing ws s with
  | nil => rwa [List.append_nil]
  | cons w rest ih =>
    rw [List.append_cons]
    exact ih (h.step w)

end Step

theorem resolvers_of_build {s : Setup} {services : Services} (h : s.build = .ok services) :
    services.resolvers = s.resolvers := by
  unfold Setup.build at h
  cases hcheck : s.settings.check with
  | error fault =>
    rw [hcheck] at h
    cases h
  | ok =>
    rw [hcheck] at h
    dsimp only at h
    cases hcontext : s.settings.context with
    | none =>
      rw [hcontext] at h
      cases h
      rfl
    | some name =>
      rw [hcontext] at h
      dsimp only at h
      cases hfactory : s.factories.get? name with
      | none =>
        rw [hfactory] at h
        cases h
      | some factory =>
        rw [hfactory] at h
        cases h
        rfl

/-- What built services find for a type, by the steps that set them up. -/
theorem wired_of_build {settings : Settings.Store} {clock : Timestamp} {ws : List Wiring}
    {services : Services}
    (h : (ws.foldl Wiring.apply (.ofSettings settings clock)).build = .ok services) :
    Wired (.withKey .string :: ws) services.resolvers := by
  rw [resolvers_of_build h]
  exact ((wired_nil settings clock).step (.withKey .string)).run ws

/-! ## 4. Asking for a store -/

namespace Resolver

/-- **Everything that asking for a store does.** -/
theorem resolve_cases (r : Resolver) (x : EntityType) (new : StoreHandle) :
    (∃ store, r.find? x = some store ∧ r.makes x = false ∧ r.resolve x new = (.ok store, r)) ∨
      (r.IsDerived x ∧ r.cache.lookup x = none ∧ r.makes x = true ∧
        r.resolve x new = (.ok new, r.withPublished x new)) ∨
      (r.overrides.lookup x = none ∧ r.derives x = false ∧ r.makes x = false ∧
        r.resolve x new = (.error (r.unsupported x), r)) := by
  unfold resolve makes
  cases hfind : r.find? x with
  | some store => exact .inl ⟨store, rfl, rfl, rfl⟩
  | none =>
    obtain ⟨hset, hnone⟩ := Option.or_eq_none_iff.mp hfind
    cases hderives : r.derives x with
    | false => exact .inr (.inr ⟨hset, rfl, rfl, rfl⟩)
    | true =>
      refine .inr (.inl ⟨⟨hset, hderives⟩, hnone, rfl, ?_⟩)
      rcases r.publish_cases x new with ⟨other, hother, -⟩ | ⟨-, hpublish⟩
      · rw [hnone] at hother
        cases hother
      · rw [hpublish]
        rfl

end Resolver

namespace Services

/-- Services that have made and published one more store. -/
def withPublished (s : Services) (kind : EntityKind) (x : EntityType) : Services :=
  { s with
    resolvers := s.resolvers.modify kind (·.withPublished x ⟨s.made, false⟩)
    made := s.made + 1 }

/-- **Everything that asking services for a store does.** -/
theorem resolve_cases (s : Services) (kind : EntityKind) (x : EntityType) :
    (∃ store, (s.resolvers.get kind).find? x = some store ∧ s.resolve kind x = (.ok store, s)) ∨
      ((s.resolvers.get kind).IsDerived x ∧ (s.resolvers.get kind).cache.lookup x = none ∧
        s.resolve kind x = (.ok ⟨s.made, false⟩, s.withPublished kind x)) ∨
      ((s.resolvers.get kind).overrides.lookup x = none ∧
        (s.resolvers.get kind).derives x = false ∧
        s.resolve kind x = (.error ((s.resolvers.get kind).unsupported x), s)) := by
  unfold resolve withPublished Resolvers.modify
  rcases (s.resolvers.get kind).resolve_cases x ⟨s.made, false⟩ with
    ⟨store, hfind, hmakes, h⟩ | ⟨hderived, hnone, hmakes, h⟩ | ⟨hset, hderives, hmakes, h⟩
  · refine .inl ⟨store, hfind, ?_⟩
    rw [h, hmakes]
    simp
  · refine .inr (.inl ⟨hderived, hnone, ?_⟩)
    rw [h, hmakes]
    simp
  · refine .inr (.inr ⟨hset, hderives, ?_⟩)
    rw [h, hmakes]
    simp

/-- A store that is set by hand comes first. -/
theorem resolve_of_override {s : Services} {kind : EntityKind} {x : EntityType}
    {store : StoreHandle} (h : (s.resolvers.get kind).overrides.lookup x = some store) :
    s.resolve kind x = (.ok store, s) := by
  rcases s.resolve_cases kind x with ⟨found, hfind, hs⟩ | ⟨hderived, -⟩ | ⟨hset, -⟩
  · rw [Resolver.find?, h, Option.some_or] at hfind
    rw [hs, Option.some.inj hfind]
  · rw [hderived.1] at h
    cases h
  · rw [hset] at h
    cases h

/-- A type is refused that no store is found for and none can be made for. -/
theorem resolve_of_not_found {s : Services} {kind : EntityKind} {x : EntityType}
    (hfind : (s.resolvers.get kind).find? x = none)
    (hderives : (s.resolvers.get kind).derives x = false) :
    s.resolve kind x = (.error ((s.resolvers.get kind).unsupported x), s) := by
  rcases s.resolve_cases kind x with ⟨found, hfound, -⟩ | ⟨hderived, -⟩ | ⟨-, -, hs⟩
  · rw [hfind] at hfound
    cases hfound
  · rw [hderived.2] at hderives
    cases hderives
  · exact hs

end Services

/-! ## 5. Using services -/

/-- One use of services. -/
inductive Use where
  | resolve (kind : EntityKind) (x : EntityType)
  | supports (kind : EntityKind) (x : EntityType)
  | clear (kind : EntityKind)
  | shutdown

namespace Use

/-- What becomes of services. -/
def apply (s : Services) : Use → Services
  | .resolve kind x => (s.resolve kind x).2
  | .supports _ _ => s
  | .clear kind => s.clear kind
  | .shutdown => s.shutdown

/-- The kind of the only resolver that a use is about, if there is one. -/
def kind? : Use → Option EntityKind
  | .resolve kind _ | .supports kind _ | .clear kind => some kind
  | .shutdown => none

/-- Whether a use forgets the published stores of a kind. -/
def Clears (u : Use) (kind : EntityKind) : Prop := u = .clear kind ∨ u = .shutdown

end Use

/-- Whether a type was asked for since the stores of its kind were last forgotten. -/
def ResolvedLately (us : List Use) (kind : EntityKind) (x : EntityType) : Prop :=
  Stands (·.Clears kind) (.resolve kind x) us

/-- What a use of services may come to for the resolver of a kind. -/
inductive Effect (s : Services) (u : Use) (kind : EntityKind) (t : Services) : Prop
  /-- The published stores are forgotten. -/
  | forgets (hu : u.Clears kind) (hget : t.resolvers.get kind = (s.resolvers.get kind).clear)
    (hmade : t.made = s.made)
  /-- Nothing changes.  A store that was asked for and is made for its type was published before. -/
  | keeps (hu : ¬ u.Clears kind) (hget : t.resolvers.get kind = s.resolvers.get kind)
    (hmade : s.made ≤ t.made)
    (hmem : ∀ x, u = .resolve kind x → (s.resolvers.get kind).IsDerived x →
      x ∈ (s.resolvers.get kind).published)
  /-- A store that was asked for is made and published. -/
  | publishes {x : EntityType} (hu : u = .resolve kind x)
    (hderived : (s.resolvers.get kind).IsDerived x)
    (hnone : (s.resolvers.get kind).cache.lookup x = none)
    (hget : t.resolvers.get kind = (s.resolvers.get kind).withPublished x ⟨s.made, false⟩)
    (hmade : t.made = s.made + 1)

/-- Asking for a store of a kind. -/
theorem effect_resolve (s : Services) (kind : EntityKind) (x : EntityType) (other : EntityKind) :
    Effect s (.resolve kind x) other (s.resolve kind x).2 := by
  have hclears : ¬ (Use.resolve kind x).Clears other := by simp [Use.Clears]
  rcases s.resolve_cases kind x with ⟨store, hfind, h⟩ | ⟨hderived, hnone, h⟩ |
    ⟨hset, hderives, h⟩
  · rw [h]
    refine .keeps hclears rfl (Nat.le_refl _) fun y hy hderived => ?_
    cases hy
    rw [Resolver.find?, hderived.1, Option.none_or] at hfind
    exact Resolver.mem_published_iff.mpr ⟨store, hfind⟩
  · rw [h]
    by_cases hother : other = kind
    · subst hother
      refine .publishes rfl hderived hnone ?_ rfl
      rw [Services.withPublished, Resolvers.get_modify, if_pos rfl]
    · refine .keeps hclears ?_ (Nat.le_succ _) fun y hy => ?_
      · rw [Services.withPublished, Resolvers.get_modify, if_neg hother]
      · cases hy
        exact absurd rfl hother
  · rw [h]
    refine .keeps hclears rfl (Nat.le_refl _) fun y hy hderived => ?_
    cases hy
    rw [hderived.2] at hderives
    cases hderives

/-- **Everything that a use does to one resolver.** -/
theorem effect_apply (s : Services) (u : Use) (kind : EntityKind) :
    Effect s u kind (u.apply s) := by
  cases u with
  | resolve other x => exact effect_resolve s other x kind
  | supports other x =>
    exact .keeps (by simp [Use.Clears]) rfl (Nat.le_refl _) (by simp)
  | clear other =>
    by_cases hkind : kind = other
    · subst hkind
      refine .forgets (.inl rfl) ?_ rfl
      rw [Use.apply, Services.clear, Resolvers.get_modify, if_pos rfl]
    · refine .keeps (by simpa [Use.Clears] using Ne.symm hkind) ?_ (Nat.le_refl _) (by simp)
      rw [Use.apply, Services.clear, Resolvers.get_modify, if_neg hkind]
  | shutdown => exact .forgets (.inr rfl) (Resolvers.get_clear _ _) rfl

/-! ## 6. What the caches keep -/

/-- What has become of a resolver after uses of services that started with another one. -/
structure Used (kind : EntityKind) (start : Resolver) (us : List Use) (s : Services) : Prop where
  setup : s.resolvers.get kind = { start with cache := (s.resolvers.get kind).cache }
  nodup : (s.resolvers.get kind).published.Nodup
  published : ∀ x, x ∈ (s.resolvers.get kind).published ↔
    start.IsDerived x ∧ ResolvedLately us kind x
  made : ∀ x store, (s.resolvers.get kind).cache.lookup x = some store → store.serial < s.made

namespace Used

variable {kind : EntityKind} {start : Resolver} {us : List Use} {s : Services}

theorem isDerived_iff (h : Used kind start us s) {x : EntityType} :
    (s.resolvers.get kind).IsDerived x ↔ start.IsDerived x := by
  rw [h.setup]
  rfl

theorem nil (s : Services) (h : (s.resolvers.get kind).cache = []) :
    Used kind (s.resolvers.get kind) [] s where
  setup := rfl
  nodup := by
    rw [Resolver.published, h]
    exact .nil
  published x := by
    rw [Resolver.published, h]
    simp [ResolvedLately, not_stands_nil]
  made x store hfound := by
    rw [h] at hfound
    cases hfound

/-- **One use.** -/
theorem step (h : Used kind start us s) (u : Use) : Used kind start (us ++ [u]) (u.apply s) := by
  have heffect := effect_apply s u kind
  generalize u.apply s = t at heffect ⊢
  cases heffect with
  | forgets hu hget hmade =>
    refine ⟨?_, ?_, fun x => ?_, fun x store hfound => ?_⟩
    · rw [hget, Resolver.clear, h.setup]
    · rw [hget]
      exact .nil
    -- nothing has been resolved since this use, and nothing is in the cache
    · rw [hget, ResolvedLately, stands_concat]
      have hne : u ≠ .resolve kind x := by
        rintro rfl
        simp [Use.Clears] at hu
      simp [Resolver.published, Resolver.clear, hne, hu]
    · rw [hget] at hfound
      cases hfound
  | keeps hu hget hmade hmem =>
    refine ⟨?_, ?_, fun x => ?_, fun x store hfound => ?_⟩
    · rw [hget]
      exact h.setup
    · rw [hget]
      exact h.nodup
    -- a derived type that is resolved once more was in the cache before
    · rw [hget, ResolvedLately, stands_concat, and_iff_right hu]
      constructor
      · intro hx
        obtain ⟨hderived, hlately⟩ := (h.published x).mp hx
        exact ⟨hderived, .inr hlately⟩
      · rintro ⟨hderived, rfl | hlately⟩
        · exact hmem x rfl (h.isDerived_iff.mpr hderived)
        · exact (h.published x).mpr ⟨hderived, hlately⟩
    · rw [hget] at hfound
      exact Nat.lt_of_lt_of_le (h.made x store hfound) hmade
  | @publishes x hu hderived hnone hget hmade =>
    subst hu
    have hclears : ¬ (Use.resolve kind x).Clears kind := by simp [Use.Clears]
    refine ⟨?_, ?_, fun y => ?_, fun y store hfound => ?_⟩
    · rw [hget, Resolver.withPublished, h.setup]
    -- the cache had no store of the type that is added
    · rw [hget]
      refine List.nodup_cons.mpr ⟨fun hmem => ?_, h.nodup⟩
      obtain ⟨store, hstore⟩ := Resolver.mem_published_iff.mp hmem
      rw [hnone] at hstore
      cases hstore
    · rw [hget, ResolvedLately, stands_concat, and_iff_right hclears]
      have hpublished : y ∈ ((s.resolvers.get kind).withPublished x ⟨s.made, false⟩).published ↔
          y = x ∨ y ∈ (s.resolvers.get kind).published := List.mem_cons
      rw [hpublished, h.published]
      constructor
      · rintro (rfl | ⟨hy, hlately⟩)
        · exact ⟨h.isDerived_iff.mp hderived, .inl rfl⟩
        · exact ⟨hy, .inr hlately⟩
      · rintro ⟨hy, heq | hlately⟩
        · cases heq
          exact .inl rfl
        · exact .inr ⟨hy, hlately⟩
    · rw [hget, Resolver.lookup_withPublished] at hfound
      rw [hmade]
      split at hfound
      · cases hfound
        exact Nat.lt_succ_self _
      · exact Nat.lt_succ_of_lt (h.made y store hfound)

/-- **All uses.** -/
theorem run (h : Used kind start us s) (rest : List Use) :
    Used kind start (us ++ rest) (rest.foldl Use.apply s) := by
  induction rest generalizing us s with
  | nil => rwa [List.append_nil]
  | cons u rest ih =>
    rw [List.append_cons]
    exact ih (h.step u)

end Used

/-! ## 7. Old and new stores -/

section Answers

variable {s t : Services} {kind : EntityKind} {x : EntityType} {store : StoreHandle}

/-- A published store is kept until the stores of its kind are forgotten. -/
theorem lookup_run_of_not_clears (us : List Use) (hus : ∀ u ∈ us, ¬ u.Clears kind)
    (h : (s.resolvers.get kind).cache.lookup x = some store) :
    ((us.foldl Use.apply s).resolvers.get kind).cache.lookup x = some store := by
  induction us generalizing s with
  | nil => exact h
  | cons u rest ih =>
    refine ih (fun v hv => hus v (List.mem_cons_of_mem u hv)) ?_
    cases effect_apply s u kind with
    | forgets hu => exact absurd hu (hus u List.mem_cons_self)
    | keeps hu hget =>
      rw [hget]
      exact h
    | @publishes y hu hderived hnone hget =>
      rw [hget, Resolver.lookup_withPublished]
      split
      · next hx =>
        rw [hx, hnone] at h
        cases h
      · exact h

/-- All published stores of a kind are among those that were made from some point on. -/
def FreshFrom (n : Nat) (kind : EntityKind) (s : Services) : Prop :=
  n ≤ s.made ∧ ∀ x store, (s.resolvers.get kind).cache.lookup x = some store → n ≤ store.serial

theorem FreshFrom.step {n : Nat} (h : FreshFrom n kind s) (u : Use) :
    FreshFrom n kind (u.apply s) := by
  cases effect_apply s u kind with
  | forgets hu hget hmade =>
    refine ⟨hmade ▸ h.1, fun x store hfound => ?_⟩
    rw [hget] at hfound
    cases hfound
  | keeps hu hget hmade =>
    refine ⟨Nat.le_trans h.1 hmade, fun x store hfound => ?_⟩
    rw [hget] at hfound
    exact h.2 x store hfound
  | publishes hu hderived hnone hget hmade =>
    refine ⟨hmade ▸ Nat.le_succ_of_le h.1, fun x store hfound => ?_⟩
    rw [hget, Resolver.lookup_withPublished] at hfound
    split at hfound
    · cases hfound
      exact h.1
    · exact h.2 x store hfound

theorem FreshFrom.run {n : Nat} (h : FreshFrom n kind s) (us : List Use) :
    FreshFrom n kind (us.foldl Use.apply s) := by
  induction us generalizing s with
  | nil => exact h
  | cons u rest ih => exact ih (h.step u)

/-- Stores are made in the order of their serials. -/
theorem made_le_run (s : Services) (us : List Use) : s.made ≤ (us.foldl Use.apply s).made := by
  induction us generalizing s with
  | nil => exact Nat.le_refl _
  | cons u rest ih =>
    refine Nat.le_trans ?_ (ih (u.apply s))
    cases effect_apply s u .application with
    | forgets hu hget hmade => exact Nat.le_of_eq hmade.symm
    | keeps hu hget hmade => exact hmade
    | publishes hu hderived hnone hget hmade => exact hmade ▸ Nat.le_succ _

/-- After the stores of a kind are forgotten, all that are published are made later. -/
theorem freshFrom_of_clears {us : List Use} (h : ∃ u ∈ us, u.Clears kind) :
    FreshFrom s.made kind (us.foldl Use.apply s) := by
  obtain ⟨u, hu, hclears⟩ := h
  obtain ⟨before, after, rfl⟩ := List.append_of_mem hu
  rw [List.foldl_append, List.foldl_cons]
  refine FreshFrom.run ?_ after
  have hle := made_le_run s before
  cases effect_apply (before.foldl Use.apply s) u kind with
  | forgets hu hget hmade =>
    refine ⟨hmade ▸ hle, fun x store hfound => ?_⟩
    rw [hget] at hfound
    cases hfound
  | keeps hu => exact absurd hclears hu
  | publishes hu => simp [hu, Use.Clears] at hclears

/-- A store that is made for its type is answered, and stays published. -/
theorem resolve_of_isDerived (h : (s.resolvers.get kind).IsDerived x) :
    ∃ store, (s.resolve kind x).1 = .ok store ∧
      ((s.resolve kind x).2.resolvers.get kind).cache.lookup x = some store ∧
      ∀ n, FreshFrom n kind s → n ≤ store.serial := by
  rcases s.resolve_cases kind x with ⟨store, hfind, hs⟩ | ⟨-, -, hs⟩ | ⟨-, hderives, -⟩
  · rw [Resolver.find?, h.1, Option.none_or] at hfind
    refine ⟨store, ?_, ?_, fun n hn => hn.2 x store hfind⟩
    · rw [hs]
    · rw [hs]
      exact hfind
  · refine ⟨⟨s.made, false⟩, ?_, ?_, fun n hn => hn.1⟩
    · rw [hs]
    · rw [hs, Services.withPublished, Resolvers.get_modify, if_pos rfl,
        Resolver.lookup_withPublished, if_pos rfl]
  · rw [h.2] at hderives
    cases hderives

/-- **The same store until the stores are forgotten, and a new one from then on.** -/
theorem answer_eq_iff {start : Resolver} {us : List Use} (h : Used kind start us s)
    (hderived : start.IsDerived x) (after : List Use) :
    ((after.foldl Use.apply (s.resolve kind x).2).resolve kind x).1 = (s.resolve kind x).1 ↔
      ∀ u ∈ after, ¬ u.Clears kind := by
  have hnext : Used kind start (us ++ [.resolve kind x]) (s.resolve kind x).2 :=
    h.step (.resolve kind x)
  have hlater := hnext.run after
  obtain ⟨store, hanswer, hpublished, -⟩ := resolve_of_isDerived (h.isDerived_iff.mpr hderived)
  obtain ⟨store', hanswer', hpublished', hfresh⟩ :=
    resolve_of_isDerived (hlater.isDerived_iff.mpr hderived)
  rw [hanswer, hanswer']
  constructor
  · intro heq u hu hclears
    cases heq
    have hold := hnext.made x store hpublished
    have hnew := hfresh _ (freshFrom_of_clears ⟨u, hu, hclears⟩)
    exact absurd hold (Nat.not_lt.mpr hnew)
  · intro hus
    have hkept := lookup_run_of_not_clears after hus hpublished
    -- a later call finds what is published, so that it is still published when it has answered
    have hagain := lookup_run_of_not_clears [.resolve kind x]
      (by simp [Use.Clears]) hkept
    rw [List.foldl_cons, List.foldl_nil, Use.apply, hpublished'] at hagain
    rw [Option.some.inj hagain]

end Answers

/-! ## 8. Whole runs -/

section Runs

variable {ws : List Wiring} {rs : Resolvers} {kind : EntityKind} {x : EntityType}

theorem lastOverride_withKey {key : KeyType} {store : StoreHandle} :
    LastOverride (.withKey key :: ws) kind x store ↔ LastOverride ws kind x store :=
  stands_cons_of_ne (by simp)

theorem Wired.isDerived_iff (h : Wired (.withKey .string :: ws) rs) :
    (rs.get kind).IsDerived x ↔ IsRegistered ws kind x ∧ ¬ IsOverridden ws kind x := by
  have hset : (rs.get kind).overrides.lookup x = none ↔ ¬ IsOverridden ws kind x := by
    rw [exists_lastOverride, Option.eq_none_iff_forall_ne_some, not_exists]
    simp only [ne_eq, h.overridden, lastOverride_withKey]
  have hderives : (rs.get kind).derives x = true ↔ IsRegistered ws kind x := by
    rw [Resolver.derives, beq_iff_eq, h.kind, h.registered]
    exact and_iff_right rfl
  rw [Resolver.IsDerived, hset, hderives, and_comm]

theorem Wired.supports_iff (h : Wired (.withKey .string :: ws) rs) :
    (rs.get kind).supports x = true ↔ IsRegistered ws kind x ∨ IsOverridden ws kind x := by
  rw [Resolver.supports, Bool.or_eq_true, Option.isSome_iff_exists, Resolver.isRegistered,
    Option.isSome_iff_exists, exists_lastOverride, or_comm]
  simp only [h.overridden, lastOverride_withKey, h.registered, exists_eq_left]
  rfl

section After

variable {services s : Services} {us : List Use} {store : StoreHandle}
variable (hwired : Wired (.withKey .string :: ws) services.resolvers)
  (hused : Used kind (services.resolvers.get kind) us s)
include hwired hused

theorem Wired.lookup_overrides :
    (s.resolvers.get kind).overrides.lookup x = some store ↔ LastOverride ws kind x store := by
  rw [hused.setup]
  exact (hwired.overridden kind x store).trans lastOverride_withKey

/-- The store that was set by hand last is found at any time. -/
theorem Wired.resolve_of_lastOverride (h : LastOverride ws kind x store) :
    s.resolve kind x = (.ok store, s) :=
  Services.resolve_of_override ((hwired.lookup_overrides hused).mpr h)

/-- Stores for a registered type are made, or found once they are. -/
theorem Wired.resolve_of_isRegistered (hregistered : IsRegistered ws kind x)
    (hoverridden : ¬ IsOverridden ws kind x) : ∃ store, (s.resolve kind x).1 = .ok store := by
  have hderived := hused.isDerived_iff.mpr (hwired.isDerived_iff.mpr ⟨hregistered, hoverridden⟩)
  obtain ⟨store, hanswer, -⟩ := resolve_of_isDerived hderived
  exact ⟨store, hanswer⟩

/-- Any other type is refused. -/
theorem Wired.resolve_refused (hregistered : ¬ IsRegistered ws kind x)
    (hoverridden : ¬ IsOverridden ws kind x) :
    s.resolve kind x = (.error (.unsupportedEntity x.name kind), s) := by
  have hnot : ¬ (services.resolvers.get kind).IsDerived x := fun h =>
    hregistered (hwired.isDerived_iff.mp h).1
  have hnone : (s.resolvers.get kind).overrides.lookup x = none := by
    refine Option.eq_none_iff_forall_ne_some.mpr fun store hstore => hoverridden ?_
    exact exists_lastOverride.mpr ⟨store, (hwired.lookup_overrides hused).mp hstore⟩
  have hcache : (s.resolvers.get kind).cache.lookup x = none := by
    refine Option.eq_none_iff_forall_ne_some.mpr fun store hstore => hnot ?_
    exact ((hused.published x).mp (Resolver.mem_published_iff.mpr ⟨store, hstore⟩)).1
  have hderives : (s.resolvers.get kind).derives x = false :=
    Bool.eq_false_iff.mpr fun h => hnot (hused.isDerived_iff.mp ⟨hnone, h⟩)
  have hkind : (s.resolvers.get kind).unsupported x = .unsupportedEntity x.name kind := by
    rw [hused.setup, Resolver.unsupported, hwired.kind]
  rw [← hkind]
  refine Services.resolve_of_not_found ?_ hderives
  rw [Resolver.find?, hnone, hcache, Option.or_none]

/-- **What is supported is what is found.**  The first is read off the registered types and the
stores that were set by hand, the second takes the cache into account as well. -/
theorem Wired.supports_iff_resolve :
    s.supports kind x = true ↔ ∃ store, (s.resolve kind x).1 = .ok store := by
  have hsupports : s.supports kind x = true ↔ IsRegistered ws kind x ∨ IsOverridden ws kind x := by
    rw [Services.supports, hused.setup]
    exact hwired.supports_iff
  rw [hsupports]
  by_cases hoverridden : IsOverridden ws kind x
  · obtain ⟨store, hstore⟩ := exists_lastOverride.mp hoverridden
    have hresolve := hwired.resolve_of_lastOverride hused hstore
    exact iff_of_true (.inr hoverridden) ⟨store, by rw [hresolve]⟩
  · rw [or_iff_left hoverridden]
    refine ⟨fun hregistered => hwired.resolve_of_isRegistered hused hregistered hoverridden,
      fun ⟨store, hanswer⟩ => ?_⟩
    by_contra hregistered
    rw [hwired.resolve_refused hused hregistered hoverridden] at hanswer
    cases hanswer

end After

end Runs

/-- A use that is about the resolver of another kind does not change the one of this kind. -/
theorem get_apply_of_kind_ne {s : Services} {u : Use} {kind other : EntityKind}
    (hu : u.kind? = some other) (hne : other ≠ kind) :
    (u.apply s).resolvers.get kind = s.resolvers.get kind := by
  cases effect_apply s u kind with
  | forgets hclears =>
    rcases hclears with rfl | rfl
    · exact absurd (Option.some.inj hu).symm hne
    · cases hu
  | keeps _ hget => exact hget
  | publishes hresolve =>
    subst hresolve
    exact absurd (Option.some.inj hu).symm hne

/-- **Resolvers over whole runs.**  Services are set up in any steps, built, and used in any way.

* A type is supported exactly if its store is found.
* A type whose store was set by hand has the store that was set last, and this changes nothing.
* A registered type without such a store has a store.  It is the one that an earlier call was
  answered with exactly if the stores of the kind were not forgotten in between.
* Any other type is refused, which changes nothing, and so is a model of another kind unless its
  store was set by hand.
* A cache keeps, once each, the registered types without a store that was set by hand that were
  asked for since the cache was last cleared.
* A use that is about one resolver leaves the others as they are; shutting down clears all. -/
theorem resolvers_over_runs (settings : Settings.Store) (clock : Timestamp) (ws : List Wiring)
    (services : Services)
    (hbuild : (ws.foldl Wiring.apply (.ofSettings settings clock)).build = .ok services)
    (us : List Use) (kind : EntityKind) (x : EntityType) :
    let s := us.foldl Use.apply services
    (s.supports kind x = true ↔ ∃ store, (s.resolve kind x).1 = .ok store) ∧
    (IsOverridden ws kind x → ∃ store, LastOverride ws kind x store) ∧
    (∀ store, LastOverride ws kind x store → s.resolve kind x = (.ok store, s)) ∧
    (IsRegistered ws kind x → ¬ IsOverridden ws kind x →
      (∃ store, (s.resolve kind x).1 = .ok store) ∧
      ∀ before after, us = before ++ .resolve kind x :: after →
        ((s.resolve kind x).1 = ((before.foldl Use.apply services).resolve kind x).1 ↔
          ∀ u ∈ after, ¬ u.Clears kind)) ∧
    (¬ IsRegistered ws kind x → ¬ IsOverridden ws kind x →
      s.resolve kind x = (.error (.unsupportedEntity x.name kind), s)) ∧
    (x.kind? ≠ some kind → ¬ IsRegistered ws kind x) ∧
    (s.resolvers.get kind).published.Nodup ∧
    (x ∈ (s.resolvers.get kind).published ↔
      IsRegistered ws kind x ∧ ¬ IsOverridden ws kind x ∧ ResolvedLately us kind x) ∧
    (∀ (u : Use) (other : EntityKind), u.kind? = some other → other ≠ kind →
      (u.apply s).resolvers.get kind = s.resolvers.get kind) ∧
    (s.shutdown.resolvers.get kind).published = [] := by
  intro s
  have hwired := wired_of_build hbuild
  have hstart : Used kind (services.resolvers.get kind) [] services := .nil _ (hwired.cache kind)
  have hused : Used kind (services.resolvers.get kind) us s := hstart.run us
  have hderived : ((services.resolvers.get kind).IsDerived x ↔
      IsRegistered ws kind x ∧ ¬ IsOverridden ws kind x) := hwired.isDerived_iff
  refine ⟨hwired.supports_iff_resolve hused, exists_lastOverride.mp,
    fun _ => hwired.resolve_of_lastOverride hused, fun hregistered hoverridden =>
    ⟨hwired.resolve_of_isRegistered hused hregistered hoverridden, ?_⟩,
    hwired.resolve_refused hused, fun hkind hregistered =>
    hkind (kind_of_isRegistered hregistered), hused.nodup, ?_, fun u other hu hne =>
    get_apply_of_kind_ne hu hne, ?_⟩
  · rintro before after rfl
    have hbefore := hstart.run before
    have hall := answer_eq_iff hbefore (hderived.mpr ⟨hregistered, hoverridden⟩) after
    simpa only [s, List.foldl_append, List.foldl_cons, Use.apply] using hall
  · rw [hused.published, hderived, and_assoc]
  · rw [Services.shutdown, Resolvers.get_clear]
    rfl

/-- Steps that register the tokens over numbers and a model from elsewhere, and that set the store
of one of them by hand twice. -/
def tokenWirings : List Wiring :=
  [.override .token (.model (.token .int64)) ⟨100, true⟩, .withKey .int64,
    .register (⟨.foreign .token "audited", rfl⟩ : ModelOf .token),
    .override .token (.model (.token .int64)) ⟨101, true⟩]

/-- Uses that ask for the model from elsewhere, twice before its stores are forgotten and twice
after. -/
def tokenUses : List Use :=
  [.resolve .token (.foreign .token "audited"), .resolve .token (.model (.token .int64)),
    .clear .scope, .resolve .token (.foreign .token "audited"), .clear .token,
    .resolve .token (.foreign .token "audited")]

/-- The store that was set last is found, and the model from elsewhere has another store than before
its stores were forgotten.  It is refused where scopes are asked for. -/
theorem resolvers_over_runs_of_tokens : ∃ services,
    (tokenWirings.foldl Wiring.apply (.ofSettings {} default)).build = .ok services ∧
      let s := tokenUses.foldl Use.apply services
      s.resolve .token (.model (.token .int64)) = (.ok ⟨101, true⟩, s) ∧
      (s.resolve .token (.foreign .token "audited")).1 ≠
        (services.resolve .token (.foreign .token "audited")).1 ∧
      s.resolve .scope (.foreign .token "audited") =
        (.error (.unsupportedEntity "audited" .scope), s) := by
  obtain ⟨services, hbuild⟩ : ∃ services,
      (tokenWirings.foldl Wiring.apply (.ofSettings {} default)).build = .ok services := ⟨_, rfl⟩
  refine ⟨services, hbuild, ?_⟩
  have hruns := resolvers_over_runs {} default tokenWirings services hbuild tokenUses
  obtain ⟨-, -, hlast, -⟩ := hruns .token (.model (.token .int64))
  obtain ⟨-, -, -, hderived, -⟩ := hruns .token (.foreign .token "audited")
  obtain ⟨-, -, -, -, hrefuses, hkind, -⟩ := hruns .scope (.foreign .token "audited")
  refine ⟨hlast _ ⟨tokenWirings.take 3, [], rfl, by simp⟩, fun heq => ?_, ?_⟩
  · have hregistered : IsRegistered tokenWirings .token (.foreign .token "audited") :=
      ⟨_, .tail _ (.tail _ (.tail _ (.head _))), _, List.mem_singleton_self _, rfl, rfl⟩
    have hoverridden : ¬ IsOverridden tokenWirings .token (.foreign .token "audited") := by
      rintro ⟨w, hw, store, rfl⟩
      simp [tokenWirings] at hw
    have hkept := ((hderived hregistered hoverridden).2 [] _ rfl).mp heq
    exact hkept (.clear .token) (by simp) (.inl rfl)
  · refine hrefuses (hkind (by decide)) ?_
    rintro ⟨w, hw, store, rfl⟩
    simp [tokenWirings] at hw

end GrantLedger
