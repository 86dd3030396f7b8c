/-!
# Finite maps in key order

`OrdMap α β` is a finite map from `α` to `β` whose entries stand in strictly ascending key order.
The order is part of the type, so a map has one representation only: two maps with the same
`get?` are equal (`OrdMap.ext_get?`), and every listing of a map is deterministic.

One lemma per operation says what it does to `get?`; nothing else needs to look at `entries`.
-/

namespace GrantLedger

universe u v

/-- A finite map whose entries stand in strictly ascending key order. -/
structure OrdMap (α : Type u) (β : Type v) [Ord α] where
  /-- The entries, smallest key first. -/
  entries : List (α × β)
  /-- Keys strictly ascend, so no key occurs twice. -/
  ascending : entries.Pairwise fun a b => compare a.1 b.1 = .lt

namespace OrdMap

variable {α : Type u} {β : Type v} [Ord α]

/-! ## 1. Operations -/

/-- The map without entries. -/
def empty : OrdMap α β := ⟨[], List.Pairwise.nil⟩

instance : EmptyCollection (OrdMap α β) := ⟨empty⟩

instance : Inhabited (OrdMap α β) := ⟨empty⟩

/-- Equality of maps is equality of their entries. -/
theorem ext_entries {m n : OrdMap α β} (h : m.entries = n.entries) : m = n := by
  cases m; cases n; cases h; rfl

instance [DecidableEq α] [DecidableEq β] : DecidableEq (OrdMap α β) := fun m n =>
  if h : m.entries = n.entries then isTrue (ext_entries h)
  else isFalse fun e => h (e ▸ rfl)

/-- The value at a key. -/
def get? (m : OrdMap α β) (k : α) : Option β :=
  (m.entries.find? fun e => compare k e.1 == .eq).map Prod.snd

/-- Whether a key has a value. -/
def contains (m : OrdMap α β) (k : α) : Bool := (m.get? k).isSome

/-- How many entries the map has. -/
def size (m : OrdMap α β) : Nat := m.entries.length

/-- Whether the map has no entry. -/
def isEmpty (m : OrdMap α β) : Bool := m.entries.isEmpty

/-- The keys, smallest first. -/
def keys (m : OrdMap α β) : List α := m.entries.map Prod.fst

/-- The values, in the order of their keys. -/
def values (m : OrdMap α β) : List β := m.entries.map Prod.snd

/-- Places one entry into an ascending list, replacing an entry of the same key. -/
def insertEntry (k : α) (v : β) : List (α × β) → List (α × β)
  | [] => [(k, v)]
  | e :: rest =>
    match compare k e.1 with
    | .lt => (k, v) :: e :: rest
    | .eq => (k, v) :: rest
    | .gt => e :: insertEntry k v rest

/-- An entry of the new list is the new entry or an old one. -/
theorem mem_insertEntry {k : α} {v : β} {e : α × β} {l : List (α × β)}
    (h : e ∈ insertEntry k v l) : e = (k, v) ∨ e ∈ l := by
  induction l with
  | nil => simpa [insertEntry] using h
  | cons a rest ih =>
    simp only [insertEntry] at h
    split at h <;> simp only [List.mem_cons] at h ⊢ <;> grind

section Lawful

variable [Std.TransOrd α] [Std.LawfulEqOrd α]

/-- Placing an entry keeps the order strict. -/
theorem insertEntry_ascending {k : α} {v : β} {l : List (α × β)}
    (h : l.Pairwise fun a b => compare a.1 b.1 = .lt) :
    (insertEntry k v l).Pairwise fun a b => compare a.1 b.1 = .lt := by
  induction l with
  | nil => simp [insertEntry]
  | cons a rest ih =>
    rw [List.pairwise_cons] at h
    simp only [insertEntry]
    split
    · next hlt =>
      refine List.pairwise_cons.2 ⟨?_, List.pairwise_cons.2 h⟩
      intro b hb
      rcases List.mem_cons.1 hb with rfl | hb
      · exact hlt
      · exact Std.TransCmp.lt_trans hlt (h.1 b hb)
    · next heq =>
      refine List.pairwise_cons.2 ⟨?_, h.2⟩
      intro b hb
      rw [Std.LawfulEqOrd.eq_of_compare heq]
      exact h.1 b hb
    · next hgt =>
      refine List.pairwise_cons.2 ⟨?_, ih h.2⟩
      intro b hb
      rcases mem_insertEntry hb with rfl | hb
      · exact Std.OrientedCmp.gt_iff_lt.1 hgt
      · exact h.1 b hb

/-- Binds a key, replacing what it was bound to. -/
def insert (m : OrdMap α β) (k : α) (v : β) : OrdMap α β :=
  ⟨insertEntry k v m.entries, insertEntry_ascending m.ascending⟩

/-- The map of a list of bindings, where a later binding of a key replaces an earlier one. -/
def ofList (l : List (α × β)) : OrdMap α β :=
  l.foldl (fun m e => m.insert e.1 e.2) empty

end Lawful

/-- Keeps the entries that satisfy a test. -/
def filter (p : α → β → Bool) (m : OrdMap α β) : OrdMap α β :=
  ⟨m.entries.filter fun e => p e.1 e.2, m.ascending.filter _⟩

/-- Removes a key. -/
def erase (m : OrdMap α β) (k : α) : OrdMap α β :=
  m.filter fun k' _ => compare k k' != .eq

/-! ## 2. What each operation does to `get?` -/

@[simp] theorem get?_empty (k : α) : (empty : OrdMap α β).get? k = none := rfl

section Lawful

variable [Std.TransOrd α] [Std.LawfulEqOrd α]

omit [Std.TransOrd α] in
/-- A key is bound to a value exactly when the pair is an entry. -/
theorem get?_eq_some_iff {m : OrdMap α β} {k : α} {v : β} :
    m.get? k = some v ↔ (k, v) ∈ m.entries := by
  obtain ⟨l, hl⟩ := m
  simp only [get?]
  induction l with
  | nil => simp
  | cons a rest ih =>
    rw [List.pairwise_cons] at hl
    have ih := ih hl.2
    by_cases h : compare k a.1 = .eq
    · have hk : k = a.1 := Std.LawfulEqOrd.eq_of_compare h
      subst hk
      simp only [List.find?_cons, Std.ReflOrd.compare_self, beq_self_eq_true, Option.map_some,
        Option.some.injEq, List.mem_cons]
      constructor
      · intro h; subst h; exact Or.inl rfl
      · rintro (h | h)
        · rw [← h]
        · have := hl.1 _ h
          simp [Std.ReflOrd.compare_self] at this
    · have hne : k ≠ a.1 := fun e => h (e ▸ Std.ReflOrd.compare_self)
      have hb : (compare k a.1 == .eq) = false := by simpa using h
      simp only [List.find?_cons, hb, List.mem_cons]
      rw [ih]
      constructor
      · exact Or.inr
      · rintro (h | h)
        · exact absurd (congrArg Prod.fst h) hne
        · exact h

/-- Two maps that bind the same keys to the same values are equal. -/
theorem ext_get? {m n : OrdMap α β} (h : ∀ k, m.get? k = n.get? k) : m = n := by
  apply ext_entries
  have hmem : ∀ e : α × β, e ∈ m.entries ↔ e ∈ n.entries := fun e => by
    rw [← get?_eq_some_iff (k := e.1) (v := e.2), ← get?_eq_some_iff (k := e.1) (v := e.2), h]
  obtain ⟨l, hl⟩ := m
  obtain ⟨r, hr⟩ := n
  clear h
  simp only at hmem ⊢
  induction l generalizing r with
  | nil =>
    cases r with
    | nil => rfl
    | cons b r => exact absurd ((hmem b).2 List.mem_cons_self) List.not_mem_nil
  | cons a l ih =>
    cases r with
    | nil => exact absurd ((hmem a).1 List.mem_cons_self) List.not_mem_nil
    | cons b r =>
      rw [List.pairwise_cons] at hl hr
      -- Were they different, each would stand behind the other in one of the maps.
      have hab : a = b := by
        rcases List.mem_cons.1 ((hmem a).1 List.mem_cons_self) with e | ha
        · exact e
        · rcases List.mem_cons.1 ((hmem b).2 List.mem_cons_self) with e | hb
          · exact e.symm
          · have h := Std.TransCmp.lt_trans (hl.1 b hb) (hr.1 a ha)
            simp [Std.ReflOrd.compare_self] at h
      subst hab
      congr 1
      refine ih hl.2 r hr.2 fun e => ?_
      have hne : ∀ s : List (α × β), (∀ x ∈ s, compare a.1 x.1 = .lt) → e ∈ s → e ≠ a := by
        rintro s hs he rfl
        simpa [Std.ReflOrd.compare_self] using hs e he
      constructor
      · intro he
        exact (List.mem_cons.1 ((hmem e).1 (List.mem_cons_of_mem _ he))).resolve_left
          (hne l hl.1 he)
      · intro he
        exact (List.mem_cons.1 ((hmem e).2 (List.mem_cons_of_mem _ he))).resolve_left
          (hne r hr.1 he)

/-- After a binding, a lookup sees the new value at its key and the old map elsewhere. -/
theorem get?_insert [DecidableEq α] (m : OrdMap α β) (k k' : α) (v : β) :
    (m.insert k v).get? k' = if k' = k then some v else m.get? k' := by
  obtain ⟨l, hl⟩ := m
  simp only [get?, insert]
  clear hl
  induction l with
  | nil => by_cases h : k' = k <;> simp [insertEntry, h]
  | cons a rest ih =>
    simp only [insertEntry]
    split
    · next hlt =>
      by_cases h : k' = k
      · simp [h]
      · have : (compare k' k == .eq) = false := by simpa using h
        simp [List.find?_cons, this, h]
    · next heq =>
      have hk : k = a.1 := Std.LawfulEqOrd.eq_of_compare heq
      by_cases h : k' = k
      · simp [h]
      · have h1 : (compare k' k == .eq) = false := by simpa using h
        have h2 : (compare k' a.1 == .eq) = false := by simpa [← hk] using h
        simp [h1, h2, h]
    · next hgt =>
      simp only [List.find?_cons]
      by_cases h : compare k' a.1 = .eq
      · have hk : k' = a.1 := Std.LawfulEqOrd.eq_of_compare h
        have hne : ¬ k' = k := by
          rintro rfl
          rw [h] at hgt
          cases hgt
        simp [h, hne]
      · have hb : (compare k' a.1 == .eq) = false := by simpa using h
        simp only [hb]
        exact ih

@[simp] theorem get?_insert_self (m : OrdMap α β) (k : α) (v : β) :
    (m.insert k v).get? k = some v := by
  classical rw [get?_insert, if_pos rfl]

theorem get?_insert_of_ne (m : OrdMap α β) {k k' : α} (h : k' ≠ k) (v : β) :
    (m.insert k v).get? k' = m.get? k' := by
  classical rw [get?_insert, if_neg h]

/-- A binding that a map has already changes nothing. -/
theorem insert_eq_self_iff {m : OrdMap α β} {k : α} {v : β} :
    m.insert k v = m ↔ m.get? k = some v := by
  constructor
  · intro h
    rw [← h, get?_insert_self]
  · intro h
    refine ext_get? fun i => ?_
    by_cases hi : i = k
    · rw [hi, get?_insert_self, h]
    · rw [get?_insert_of_ne m hi]

omit [Std.TransOrd α] in
/-- A filtered map keeps the values that pass the test. -/
theorem get?_filter (p : α → β → Bool) (m : OrdMap α β) (k : α) :
    (m.filter p).get? k = (m.get? k).filter (p k) := by
  apply Option.ext
  intro v
  rw [get?_eq_some_iff, Option.filter_eq_some_iff, get?_eq_some_iff]
  simp [filter, List.mem_filter]

omit [Std.TransOrd α] in
@[simp] theorem get?_erase_self (m : OrdMap α β) (k : α) : (m.erase k).get? k = none := by
  rw [erase, get?_filter]
  simp [Std.ReflOrd.compare_self]

omit [Std.TransOrd α] in
theorem get?_erase_of_ne (m : OrdMap α β) {k k' : α} (h : k' ≠ k) :
    (m.erase k).get? k' = m.get? k' := by
  rw [erase, get?_filter]
  have : (compare k k' != .eq) = true := by
    simpa using fun e => h e.symm
  cases m.get? k' <;> simp [this]

end Lawful

end OrdMap

end GrantLedger
