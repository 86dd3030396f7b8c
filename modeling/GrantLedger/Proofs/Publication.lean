import GrantLedger.Services.Resolver
import Mathlib.Data.List.Nodup
import Mathlib.Logic.Function.Basic

/-!
# Calls that find a store at the same time share one store

A call that finds no store for its type makes one and publishes it, and between these steps other
calls may come in.  Then several calls make a store for the same type, each without knowing of the
others.  The first one that publishes its store wins; the others drop theirs and answer with the
published one.

A `Race` is a resolver together with any number of such calls, each of which has come as far as its
`Progress` says.  A schedule says which call takes the next step.

* `Steps`: everything that a step can do.
* `Consistent`: what is published is kept, no type is published twice, and every call that has been
  answered was answered with the published store.  A store that a call has made and not published is
  known to this call only.
* `one_store_is_published` puts this together for every schedule.  `run_alone` says that the steps
  are those of `Resolver.resolve`.

No step forgets a published store here.  A resolver that is cleared between the steps may publish
a second store for a type.
-/

namespace GrantLedger

namespace Resolver

variable {r : Resolver} {x y : EntityType} {store : StoreHandle}

/-! ## 1. Published stores -/

/-- The types with a published store. -/
def published (r : Resolver) : List EntityType := r.cache.map Prod.fst

theorem mem_published_iff : x ∈ r.published ↔ ∃ store, r.cache.lookup x = some store := by
  unfold published
  induction r.cache with
  | nil => simp
  | cons e rest ih =>
    rw [List.map_cons, List.mem_cons, ih, List.lookup_cons]
    by_cases h : x = e.1
    · simp [h]
    · simp [h, beq_eq_false_iff_ne.mpr h]

/-- Whether stores for a type are made by the resolver: the type is registered for its kind, and no
store was set for it by hand. -/
def IsDerived (r : Resolver) (x : EntityType) : Prop :=
  r.overrides.lookup x = none ∧ r.derives x = true

/-- A resolver with one more published store. -/
def withPublished (r : Resolver) (x : EntityType) (store : StoreHandle) : Resolver :=
  { r with cache := (x, store) :: r.cache }

theorem lookup_withPublished (r : Resolver) (x : EntityType) (store : StoreHandle)
    (y : EntityType) :
    (r.withPublished x store).cache.lookup y = if y = x then some store else r.cache.lookup y := by
  unfold withPublished
  rw [List.lookup_cons]
  by_cases h : y = x
  · simp [h]
  · simp [h, beq_eq_false_iff_ne.mpr h]

/-- **Publishing.**  A store that was published before is kept and answered. -/
theorem publish_cases (r : Resolver) (x : EntityType) (store : StoreHandle) :
    (∃ other, r.cache.lookup x = some other ∧ r.publish x store = (other, r)) ∨
      (r.cache.lookup x = none ∧ r.publish x store = (store, r.withPublished x store)) := by
  unfold publish
  cases h : r.cache.lookup x with
  | some other => exact .inl ⟨other, rfl, rfl⟩
  | none => exact .inr ⟨rfl, rfl⟩

end Resolver

/-! ## 2. Calls that take turns -/

/-- How far a call for the store of a type has come. -/
inductive Progress where
  /-- It has taken no step yet. -/
  | waiting
  /-- It has found no store. -/
  | missed
  /-- It has made a store that is not published yet. -/
  | holding (store : StoreHandle)
  /-- It has been answered. -/
  | answered (answer : Except StoreError StoreHandle)

/-- How many steps a call still has to take at most. -/
def Progress.remaining : Progress → Nat
  | .waiting => 3
  | .missed => 2
  | .holding _ => 1
  | .answered _ => 0

/-- A resolver among calls, how many stores have been made, and how far each call has come. -/
structure Race (C : Type) where
  resolver : Resolver
  made : Nat
  progress : C → Progress

namespace Race

variable {C : Type} [DecidableEq C]

/-- A call has come to a point. -/
def put (s : Race C) (c : C) (p : Progress) : Race C :=
  { s with progress := Function.update s.progress c p }

/-- A call takes its next step, where each call is for a type. -/
def step (types : C → EntityType) (s : Race C) (c : C) : Race C :=
  match s.progress c with
  | .waiting =>
    match s.resolver.find? (types c) with
    | some store => s.put c (.answered (.ok store))
    | none => s.put c .missed
  | .missed =>
    if s.resolver.derives (types c) then
      { s.put c (.holding ⟨s.made, false⟩) with made := s.made + 1 }
    else s.put c (.answered (.error (s.resolver.unsupported (types c))))
  | .holding store =>
    let (published, resolver) := s.resolver.publish (types c) store
    { s.put c (.answered (.ok published)) with resolver }
  | .answered _ => s

/-- The calls take steps in the order of a schedule. -/
def run (types : C → EntityType) (s : Race C) (schedule : List C) : Race C :=
  schedule.foldl (step types) s

/-- No call has taken a step, and no store is published. -/
def start (C : Type) (r : Resolver) (made : Nat) : Race C := ⟨r.clear, made, fun _ => .waiting⟩

variable {types : C → EntityType} {r : Resolver} {s : Race C} {c d : C} {p : Progress}

theorem progress_put_self : (s.put c p).progress c = p := Function.update_self ..

/-- What a step of a call may come to. -/
inductive Steps (types : C → EntityType) (s : Race C) (c : C) : Race C → Prop
  /-- The call is answered already. -/
  | stays {answer} (hc : s.progress c = .answered answer) : Steps types s c s
  /-- The call finds a store. -/
  | finds {store} (hc : s.progress c = .waiting)
    (hfind : s.resolver.find? (types c) = some store) :
    Steps types s c (s.put c (.answered (.ok store)))
  /-- The call finds no store. -/
  | misses (hc : s.progress c = .waiting) (hfind : s.resolver.find? (types c) = none) :
    Steps types s c (s.put c .missed)
  /-- The call makes a store. -/
  | makes (hc : s.progress c = .missed) (hderives : s.resolver.derives (types c) = true) :
    Steps types s c { s.put c (.holding ⟨s.made, false⟩) with made := s.made + 1 }
  /-- No store can be made. -/
  | fails (hc : s.progress c = .missed) (hderives : s.resolver.derives (types c) = false) :
    Steps types s c (s.put c (.answered (.error (s.resolver.unsupported (types c)))))
  /-- Another store has been published since the call looked. -/
  | yields {store other} (hc : s.progress c = .holding store)
    (hfound : s.resolver.cache.lookup (types c) = some other) :
    Steps types s c (s.put c (.answered (.ok other)))
  /-- The call publishes its store. -/
  | publishes {store} (hc : s.progress c = .holding store)
    (hnone : s.resolver.cache.lookup (types c) = none) :
    Steps types s c { s.put c (.answered (.ok store)) with
      resolver := s.resolver.withPublished (types c) store }

theorem steps_step (types : C → EntityType) (s : Race C) (c : C) :
    Steps types s c (s.step types c) := by
  unfold step
  cases hc : s.progress c with
  | waiting =>
    cases hfind : s.resolver.find? (types c) with
    | some store => exact .finds hc hfind
    | none => exact .misses hc hfind
  | missed =>
    cases hderives : s.resolver.derives (types c) with
    | true => exact .makes hc hderives
    | false => exact .fails hc hderives
  | holding store =>
    dsimp only
    rcases s.resolver.publish_cases (types c) store with ⟨other, hfound, h⟩ | ⟨hnone, h⟩
    · rw [h]
      exact .yields hc hfound
    · rw [h]
      exact .publishes hc hnone
  | answered answer => exact .stays hc

/-! ## 3. What every step keeps -/

/-- Whatever was published or made is so still. -/
structure Grows (s u : Race C) : Prop where
  published : ∀ {x store}, s.resolver.cache.lookup x = some store →
    u.resolver.cache.lookup x = some store
  made : s.made ≤ u.made

/-- What the point that a call for a type has come to says of a race over a resolver. -/
def Fits (r : Resolver) (s : Race C) (x : EntityType) : Progress → Prop
  | .waiting => True
  | .missed => r.overrides.lookup x = none
  | .holding store => r.IsDerived x ∧ store.serial < s.made
  | .answered (.ok store) => r.overrides.lookup x = some store ∨
      r.IsDerived x ∧ s.resolver.cache.lookup x = some store
  | .answered (.error e) => r.overrides.lookup x = none ∧ r.derives x = false ∧
      e = r.unsupported x

/-- **The invariant of a race over a resolver.** -/
structure Consistent (r : Resolver) (types : C → EntityType) (s : Race C) : Prop where
  /-- The resolver is the given one with stores that were published. -/
  setup : s.resolver = { r with cache := s.resolver.cache }
  nodup : s.resolver.published.Nodup
  /-- A published store was made for a type that needs one, and a call has answered with it. -/
  cached : ∀ x store, s.resolver.cache.lookup x = some store →
    r.IsDerived x ∧ ∃ c, types c = x ∧ s.progress c = .answered (.ok store)
  fits : ∀ c, Fits r s (types c) (s.progress c)
  /-- A store that is not published is known to the call that made it only. -/
  own : ∀ c d store, s.progress c = .holding store → s.progress d = .holding store → c = d

variable {u : Race C} {x : EntityType}

omit [DecidableEq C] in
theorem Grows.refl (s : Race C) : Grows s s := ⟨fun h => h, Nat.le_refl _⟩

omit [DecidableEq C] in
theorem Grows.trans {v : Race C} (h : Grows s u) (h' : Grows u v) : Grows s v :=
  ⟨fun hfound => h'.published (h.published hfound), Nat.le_trans h.made h'.made⟩

omit [DecidableEq C] in
theorem Fits.mono (h : Fits r s x p) (hgrows : Grows s u) : Fits r u x p := by
  unfold Fits at h ⊢
  cases p with
  | waiting => trivial
  | missed => exact h
  | holding store => exact ⟨h.1, Nat.lt_of_lt_of_le h.2 hgrows.made⟩
  | answered answer =>
    cases answer with
    | error e => exact h
    | ok store => exact h.imp_right fun h => ⟨h.1, hgrows.published h.2⟩

/-- A step keeps what was published. -/
theorem Steps.grows (h : Steps types s c u) : Grows s u := by
  cases h with
  | stays hc => exact .refl s
  | finds hc hfind => exact ⟨fun h => h, Nat.le_refl _⟩
  | misses hc hfind => exact ⟨fun h => h, Nat.le_refl _⟩
  | makes hc hderives => exact ⟨fun h => h, Nat.le_succ _⟩
  | fails hc hderives => exact ⟨fun h => h, Nat.le_refl _⟩
  | yields hc hfound => exact ⟨fun h => h, Nat.le_refl _⟩
  | publishes hc hnone =>
    refine ⟨fun {x store} h => ?_, Nat.le_refl _⟩
    rw [Resolver.lookup_withPublished]
    split
    · next hx =>
      rw [hx, hnone] at h
      cases h
    · exact h

theorem grows_run (types : C → EntityType) (s : Race C) (schedule : List C) :
    Grows s (s.run types schedule) := by
  unfold run
  induction schedule generalizing s with
  | nil => exact .refl s
  | cons c rest ih => exact (steps_step types s c).grows.trans (ih (s.step types c))

/-- One call comes to another point, and no more is published than the store that it is answered
with. -/
theorem Consistent.move (h : Consistent r types s) (hopen : ∀ a, s.progress c ≠ .answered a)
    (hgrows : Grows s u) (hsetup : u.resolver = { s.resolver with cache := u.resolver.cache })
    (hnodup : u.resolver.published.Nodup) (hprogress : u.progress = Function.update s.progress c p)
    (hcached : ∀ x store, u.resolver.cache.lookup x = some store →
      s.resolver.cache.lookup x = some store ∨
        x = types c ∧ r.IsDerived x ∧ p = .answered (.ok store))
    (hfits : Fits r u (types c) p)
    (hown : ∀ store, p = .holding store → ∀ d, s.progress d ≠ .holding store) :
    Consistent r types u := by
  have hself : u.progress c = p := by
    rw [hprogress, Function.update_self]
  have hother : ∀ d, d ≠ c → u.progress d = s.progress d := by
    intro d hd
    rw [hprogress, Function.update_of_ne hd]
  refine ⟨?_, hnodup, ?_, ?_, ?_⟩
  · rw [hsetup, h.setup]
  · intro x store hx
    rcases hcached x store hx with hold | ⟨rfl, hderived, hp⟩
    · obtain ⟨hderived, d, htype, hd⟩ := h.cached x store hold
      have hne : d ≠ c := by
        rintro rfl
        exact hopen _ hd
      exact ⟨hderived, d, htype, (hother d hne).trans hd⟩
    · exact ⟨hderived, c, rfl, hself.trans hp⟩
  · intro d
    by_cases hd : d = c
    · rw [hd, hself]
      exact hfits
    · rw [hother d hd]
      exact (h.fits d).mono hgrows
  -- Two calls that hold one store: neither can be the one that moves, unless both are.
  · intro d e store hd he
    by_cases hdc : d = c <;> by_cases hec : e = c
    · rw [hdc, hec]
    · rw [hdc, hself] at hd
      rw [hother e hec] at he
      exact absurd he (hown store hd e)
    · rw [hother d hdc] at hd
      rw [hec, hself] at he
      exact absurd hd (hown store he d)
    · rw [hother d hdc] at hd
      rw [hother e hec] at he
      exact h.own d e store hd he

/-- One call comes to another point, and nothing is published. -/
theorem Consistent.put (h : Consistent r types s) (hopen : ∀ a, s.progress c ≠ .answered a)
    (hfits : Fits r (s.put c p) (types c) p) (hown : ∀ store, p ≠ .holding store) :
    Consistent r types (s.put c p) :=
  h.move hopen ⟨fun h => h, Nat.le_refl _⟩ rfl h.nodup rfl (fun _ _ h => .inl h) hfits
    fun store hp => absurd hp (hown store)

/-- **The step.** -/
theorem Consistent.step (h : Consistent r types s) (hstep : Steps types s c u) :
    Consistent r types u := by
  have hoverrides : s.resolver.overrides = r.overrides := by
    rw [h.setup]
  have hderived : s.resolver.derives (types c) = r.derives (types c) := by
    rw [h.setup]
    rfl
  have hfits := h.fits c
  have hgrows := hstep.grows
  cases hstep with
  | stays hc => exact h
  | @finds store hc hfind =>
    refine h.put (by simp [hc]) ?_ (by simp)
    unfold Resolver.find? at hfind
    rw [hoverrides] at hfind
    rcases Option.or_eq_some_iff.mp hfind with hset | ⟨-, hfound⟩
    · exact .inl hset
    · exact .inr ⟨(h.cached _ _ hfound).1, hfound⟩
  | misses hc hfind =>
    refine h.put (by simp [hc]) ?_ (by simp)
    unfold Resolver.find? at hfind
    rw [hoverrides] at hfind
    exact (Option.or_eq_none_iff.mp hfind).1
  | makes hc hderives =>
    rw [hc] at hfits
    rw [hderived] at hderives
    refine h.move (by simp [hc]) hgrows rfl h.nodup rfl
      (fun _ _ h => .inl h) ⟨⟨hfits, hderives⟩, Nat.lt_succ_self _⟩ ?_
    -- the serial of the new store is greater than those of all stores that calls hold
    intro store hstore d hd
    cases hstore
    have hlt := h.fits d
    rw [hd] at hlt
    exact absurd hlt.2 (Nat.lt_irrefl _)
  | fails hc hderives =>
    rw [hc] at hfits
    rw [hderived] at hderives
    refine h.put (by simp [hc]) ⟨hfits, hderives, ?_⟩ (by simp)
    rw [h.setup]
    rfl
  | yields hc hfound =>
    refine h.put (by simp [hc]) ?_ (by simp)
    exact .inr ⟨(h.cached _ _ hfound).1, hfound⟩
  | @publishes store hc hnone =>
    rw [hc] at hfits
    have hlookup := s.resolver.lookup_withPublished (types c) store
    refine h.move (by simp [hc]) hgrows rfl ?_ rfl ?_ ?_ (by simp)
    · refine List.nodup_cons.mpr ⟨fun hmem => ?_, h.nodup⟩
      obtain ⟨other, hother⟩ := Resolver.mem_published_iff.mp hmem
      rw [hnone] at hother
      cases hother
    · intro x other hx
      rw [hlookup] at hx
      split at hx
      · next heq =>
        cases hx
        exact .inr ⟨heq, heq ▸ hfits.1, rfl⟩
      · exact .inl hx
    · refine .inr ⟨hfits.1, ?_⟩
      rw [hlookup, if_pos rfl]

omit [DecidableEq C] in
theorem consistent_start (r : Resolver) (made : Nat) (types : C → EntityType) :
    Consistent r types (start C r made) where
  setup := rfl
  nodup := .nil
  cached _ _ h := by cases h
  fits _ := trivial
  own _ _ _ h := by cases h

/-- **The run.** -/
theorem Consistent.run (h : Consistent r types s) (schedule : List C) :
    Consistent r types (s.run types schedule) := by
  unfold Race.run
  induction schedule generalizing s with
  | nil => exact h
  | cons c rest ih => exact ih (h.step (steps_step types s c))

/-! ## 4. Answers -/

omit [DecidableEq C] in
/-- **Calls for one type are answered alike,** also if one is answered later than the other. -/
theorem Consistent.answer_eq (h : Consistent r types s) (h' : Consistent r types u)
    (hgrows : Grows s u) {a b : Except StoreError StoreHandle} (htypes : types c = types d)
    (hc : s.progress c = .answered a) (hd : u.progress d = .answered b) : a = b := by
  have ha := (h.fits c).mono hgrows
  have hb := h'.fits d
  rw [hc, htypes] at ha
  rw [hd] at hb
  unfold Fits at ha hb
  -- A refused type has no store of its own and none can be made, which is as true of the other call.
  cases a with
  | error e =>
    obtain ⟨hnone, hderives, rfl⟩ := ha
    cases b with
    | error e' => rw [hb.2.2]
    | ok store =>
      rcases hb with hset | ⟨hderived, -⟩
      · rw [hnone] at hset
        cases hset
      · rw [hderived.2] at hderives
        cases hderives
  | ok store =>
    cases b with
    | error e =>
      obtain ⟨hnone, hderives, -⟩ := hb
      rcases ha with hset | ⟨hderived, -⟩
      · rw [hnone] at hset
        cases hset
      · rw [hderived.2] at hderives
        cases hderives
    | ok other =>
      rcases ha with hset | ⟨hderived, hfound⟩ <;> rcases hb with hset' | ⟨hderived', hfound'⟩
      · rw [hset] at hset'
        rw [Option.some.inj hset']
      · rw [hderived'.1] at hset
        cases hset
      · rw [hderived.1] at hset'
        cases hset'
      · rw [hfound] at hfound'
        rw [Option.some.inj hfound']

omit [DecidableEq C] in
/-- A call for a type whose stores are made was answered with the published one. -/
theorem Consistent.published_of_answered (h : Consistent r types s)
    {a : Except StoreError StoreHandle} (hderived : r.IsDerived (types c))
    (hc : s.progress c = .answered a) :
    ∃ store, a = .ok store ∧ s.resolver.cache.lookup (types c) = some store := by
  have hfits := h.fits c
  rw [hc] at hfits
  cases a with
  | error e =>
    have hderives := hfits.2.1
    rw [hderived.2] at hderives
    cases hderives
  | ok store =>
    rcases hfits with hset | ⟨-, hfound⟩
    · rw [hderived.1] at hset
      cases hset
    · exact ⟨store, rfl, hfound⟩

omit [DecidableEq C] in
/-- The published stores are those that calls were answered with. -/
theorem Consistent.mem_published_iff (h : Consistent r types s) :
    x ∈ s.resolver.published ↔
      r.IsDerived x ∧ ∃ c a, types c = x ∧ s.progress c = .answered a := by
  rw [Resolver.mem_published_iff]
  constructor
  · rintro ⟨store, hfound⟩
    obtain ⟨hderived, c, htype, hc⟩ := h.cached x store hfound
    exact ⟨hderived, c, _, htype, hc⟩
  · rintro ⟨hderived, c, a, rfl, hc⟩
    obtain ⟨store, -, hfound⟩ := h.published_of_answered hderived hc
    exact ⟨store, hfound⟩

omit [DecidableEq C] in
/-- A call for a type that no store is set or made for was refused. -/
theorem Consistent.refused_of_answered (h : Consistent r types s)
    (hnone : r.overrides.lookup (types c) = none) (hderives : r.derives (types c) = false)
    {a : Except StoreError StoreHandle} (hc : s.progress c = .answered a) :
    a = .error (r.unsupported (types c)) := by
  have hfits := h.fits c
  rw [hc] at hfits
  cases a with
  | error e => rw [hfits.2.2]
  | ok store =>
    rcases hfits with hset | ⟨hmade, -⟩
    · rw [hnone] at hset
      cases hset
    · rw [hmade.2] at hderives
      cases hderives

omit [DecidableEq C] in
/-- A published store is what every further call finds. -/
theorem Consistent.resolve_of_published (h : Consistent r types s) {store : StoreHandle}
    (hfound : s.resolver.cache.lookup x = some store) (new : StoreHandle) :
    s.resolver.resolve x new = (.ok store, s.resolver) := by
  have hnone : s.resolver.overrides.lookup x = none := by
    rw [h.setup]
    exact (h.cached x store hfound).1.1
  unfold Resolver.resolve Resolver.find?
  rw [hnone, Option.none_or, hfound]

/-- A call for a type that has no store publishes nothing. -/
theorem Consistent.resolver_step_of_not_derived (h : Consistent r types s)
    (hderived : ¬ r.IsDerived (types c)) : (s.step types c).resolver = s.resolver := by
  have hstep := steps_step types s c
  generalize s.step types c = u at hstep ⊢
  cases hstep with
  | publishes hc hnone =>
    have hfits := h.fits c
    rw [hc] at hfits
    exact absurd hfits.1 hderived
  | _ => rfl

theorem progress_step_of_ne (types : C → EntityType) (s : Race C) (h : d ≠ c) :
    (s.step types c).progress d = s.progress d := by
  have hstep := steps_step types s c
  generalize s.step types c = u at hstep ⊢
  cases hstep with
  | stays hc => rfl
  | _ => exact Function.update_of_ne h _ _

theorem remaining_step (types : C → EntityType) (s : Race C) (c : C) :
    ((s.step types c).progress c).remaining = (s.progress c).remaining - 1 ∨
      ((s.step types c).progress c).remaining = 0 := by
  have hput : ∀ p, ((s.put c p).progress c).remaining = p.remaining := by
    intro p
    rw [progress_put_self]
  have hstep := steps_step types s c
  generalize s.step types c = u at hstep ⊢
  cases hstep with
  | stays hc =>
    rw [hc]
    exact .inl rfl
  | misses hc hfind =>
    rw [hc]
    exact .inl (hput _)
  | makes hc hderives =>
    rw [hc]
    exact .inl (hput _)
  | finds hc hfind => exact .inr (hput _)
  | fails hc hderives => exact .inr (hput _)
  | yields hc hfound => exact .inr (hput _)
  | publishes hc hnone => exact .inr (hput _)

/-- **Every call comes to an answer by its own steps,** whatever the others do. -/
theorem remaining_run_le (types : C → EntityType) (s : Race C) (schedule : List C) (c : C) :
    ((s.run types schedule).progress c).remaining ≤
      (s.progress c).remaining - schedule.count c := by
  unfold run
  induction schedule generalizing s with
  | nil => exact Nat.le_refl _
  | cons d rest ih =>
    have hrest := ih (s.step types d)
    rw [List.foldl_cons]
    by_cases hd : d = c
    · subst hd
      rw [List.count_cons_self]
      have hstep := remaining_step types s d
      omega
    · rw [List.count_cons_of_ne hd]
      rw [progress_step_of_ne types s (Ne.symm hd)] at hrest
      exact hrest

theorem exists_answer_of_remaining {p : Progress} (h : p.remaining = 0) :
    ∃ a, p = .answered a := by
  cases p with
  | answered a => exact ⟨a, rfl⟩
  | waiting => cases h
  | missed => cases h
  | holding store => cases h

/-- **A call that no other one interrupts does what `Resolver.resolve` does.** -/
theorem run_alone (hc : s.progress c = .waiting) :
    (s.run types [c, c, c]).progress c =
        .answered (s.resolver.resolve (types c) ⟨s.made, false⟩).1 ∧
      (s.run types [c, c, c]).resolver =
        (s.resolver.resolve (types c) ⟨s.made, false⟩).2 := by
  unfold run Resolver.resolve
  simp only [List.foldl_cons, List.foldl_nil]
  cases hfind : s.resolver.find? (types c) with
  | some store => simp [step, hc, hfind, put]
  | none =>
    cases hderives : s.resolver.derives (types c) with
    | true => simp [step, hc, hfind, hderives, put]
    | false => simp [step, hc, hfind, hderives, put]

/-! ## 5. Every schedule -/

/-- **One store is published for a type, and every call answers with it.**  Any number of calls find
stores over a resolver without published stores, and they take their steps in any order.

* Calls for one type are answered alike, those that are answered later included.
* If stores for the type are made, the answer is the published store, and it is what every further
  call finds.
* The types with a published store are those for which a store was made and a call was answered,
  and each of them has one.
* A call for a type that is neither registered nor has a store set by hand publishes nothing and is
  refused.
* A call is answered after three steps of its own at most.
* Stores that are made for the same type meanwhile are different ones. -/
theorem one_store_is_published (r : Resolver) (made : Nat) (types : C → EntityType)
    (schedule : List C) :
    let s := (start C r made).run types schedule
    (∀ c d later a b, types c = types d → s.progress c = .answered a →
      (s.run types later).progress d = .answered b → a = b) ∧
    (∀ c a, r.IsDerived (types c) → s.progress c = .answered a →
      ∃ store, a = .ok store ∧ s.resolver.cache.lookup (types c) = some store ∧
        ∀ later new, (s.run types later).resolver.resolve (types c) new =
          (.ok store, (s.run types later).resolver)) ∧
    s.resolver.published.Nodup ∧
    (∀ x, x ∈ s.resolver.published ↔
      r.IsDerived x ∧ ∃ c a, types c = x ∧ s.progress c = .answered a) ∧
    (∀ c, r.overrides.lookup (types c) = none → r.derives (types c) = false →
      (s.step types c).resolver = s.resolver ∧
        ∀ a, s.progress c = .answered a → a = .error (r.unsupported (types c))) ∧
    (∀ c, 3 ≤ schedule.count c → ∃ a, s.progress c = .answered a) ∧
    ∀ c d store, s.progress c = .holding store → s.progress d = .holding store → c = d := by
  intro s
  have h : Consistent r types s := (consistent_start r made types).run schedule
  refine ⟨?_, ?_, h.nodup, fun x => h.mem_published_iff, fun c hnone hderives =>
    ⟨h.resolver_step_of_not_derived ?_, fun a => h.refused_of_answered hnone hderives⟩, ?_, h.own⟩
  · intro c d later a b htypes hc hd
    exact h.answer_eq (h.run later) (grows_run types s later) htypes hc hd
  · intro c a hderived hc
    obtain ⟨store, rfl, hfound⟩ := h.published_of_answered hderived hc
    refine ⟨store, rfl, hfound, fun later new => ?_⟩
    exact (h.run later).resolve_of_published ((grows_run types s later).published hfound) new
  · rintro ⟨-, htrue⟩
    rw [hderives] at htrue
    cases htrue
  · intro c hcount
    have hle : (s.progress c).remaining ≤ 3 - schedule.count c :=
      remaining_run_le types (start C r made) schedule c
    exact exists_answer_of_remaining (by omega)

/-- A resolver with one registered model of tokens, for examples. -/
def tokenResolver : Resolver :=
  { kind := .token, registered := [(.model (.token .string), .token)] }

/-- Three calls for these tokens and one for a type that is no model. -/
def fourCalls : Fin 4 → EntityType
  | 3 => .unrelated
  | _ => .model (.token .string)

/-- The first two calls both make a store, and the second one publishes its own.  The third call
looks when this is done, and the fourth is refused. -/
def overtaking : List (Fin 4) := [0, 1, 0, 1, 1, 0, 3, 3, 2]

/-- The calls that raced for a store and the one that came later share the store that was made as
the second one. -/
theorem one_store_is_published_overtaking :
    let s := (start (Fin 4) tokenResolver 0).run fourCalls overtaking
    tokenResolver.IsDerived (.model (.token .string)) ∧
      s.progress 1 = .answered (.ok ⟨1, false⟩) ∧ s.progress 0 = .answered (.ok ⟨1, false⟩) ∧
      s.progress 2 = .answered (.ok ⟨1, false⟩) ∧
      s.resolver.published = [.model (.token .string)] ∧
      s.progress 3 = .answered (.error (.unsupportedEntity "unrelated entity" .token)) := by
  intro s
  have hderived : tokenResolver.IsDerived (.model (.token .string)) := ⟨rfl, rfl⟩
  obtain ⟨halike, -, -, -, hrefused, hanswered, -⟩ :=
    one_store_is_published tokenResolver 0 fourCalls overtaking
  have hpublished : s.progress 1 = .answered (.ok ⟨1, false⟩) := rfl
  obtain ⟨a, ha⟩ := hanswered 0 (by decide)
  obtain ⟨b, hb⟩ : ∃ b, s.progress 2 = .answered b := ⟨_, rfl⟩
  obtain ⟨e, he⟩ : ∃ e, s.progress 3 = .answered e := ⟨_, rfl⟩
  refine ⟨hderived, hpublished, ?_, ?_, rfl, ?_⟩
  · rw [ha, ← halike 1 0 [] _ a rfl hpublished ha]
  · rw [hb, ← halike 1 2 [] _ b rfl hpublished hb]
  · rw [he, (hrefused 3 rfl rfl).2 e he]
    rfl

end Race

end GrantLedger
