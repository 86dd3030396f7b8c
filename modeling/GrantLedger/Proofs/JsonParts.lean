import GrantLedger.Json.Basic

/-!
# The parts of a JSON value

Values nest through lists, so what holds of a value and of everything inside it is said once, by
`Json.Everywhere`, and argued by one induction over the parts (`Json.partsInduction`).

A value is `Regular` if it could be one of a program: its integers have 64 bits, and the members of
its objects are in order.  `canonical` makes a value regular whose integers have 64 bits
(`regular_canonical`), and it leaves regular values alone (`canonical_eq_self`).
-/

namespace GrantLedger

/-! ## 1. Maps of lists -/

namespace OrdMap

variable {α β : Type} [Ord α] [Std.TransOrd α] [Std.LawfulEqOrd α]

theorem mem_foldl_insert {l : List (α × β)} {m : OrdMap α β} {e : α × β}
    (h : e ∈ (l.foldl (fun m e => m.insert e.1 e.2) m).entries) : e ∈ l ∨ e ∈ m.entries := by
  induction l generalizing m with
  | nil => exact Or.inr h
  | cons b l ih =>
    rcases ih h with hl | hm
    · exact Or.inl (List.mem_cons_of_mem b hl)
    · rcases mem_insertEntry hm with rfl | hm
      · exact Or.inl List.mem_cons_self
      · exact Or.inr hm

/-- The entries of a map come from the list of its bindings. -/
theorem mem_ofList {l : List (α × β)} {e : α × β} (h : e ∈ (ofList l).entries) : e ∈ l :=
  (mem_foldl_insert h).resolve_right List.not_mem_nil

omit [Std.TransOrd α] [Std.LawfulEqOrd α] in
/-- An entry behind all others is placed at the end. -/
theorem insertEntry_of_last [Std.OrientedOrd α] {k : α} {v : β} {l : List (α × β)}
    (h : ∀ e ∈ l, compare e.1 k = .lt) : insertEntry k v l = l ++ [(k, v)] := by
  induction l with
  | nil => rfl
  | cons e l ih =>
    rw [List.forall_mem_cons] at h
    have hgt : compare k e.1 = .gt := Std.OrientedCmp.gt_iff_lt.mpr h.1
    rw [insertEntry, hgt, ih h.2, List.cons_append]

/-- Bindings in ascending order are the entries of their map. -/
theorem entries_ofList {l : List (α × β)}
    (h : l.Pairwise fun a b => compare a.1 b.1 = .lt) : (ofList l).entries = l := by
  suffices hfold : ∀ m : OrdMap α β, (m.entries ++ l).Pairwise (fun a b => compare a.1 b.1 = .lt) →
      (l.foldl (fun m e => m.insert e.1 e.2) m).entries = m.entries ++ l from hfold empty h
  clear h
  induction l with
  | nil => exact fun m _ => (List.append_nil _).symm
  | cons e l ih =>
    intro m h
    have hlast : (m.insert e.1 e.2).entries = m.entries ++ [e] :=
      insertEntry_of_last fun a ha => (List.pairwise_append.mp h).2.2 a ha e List.mem_cons_self
    rw [List.append_cons] at h
    rw [List.foldl_cons, ih _ (by rw [hlast]; exact h), hlast, ← List.append_cons]

theorem ofList_entries (m : OrdMap α β) : ofList m.entries = m :=
  ext_entries (entries_ofList m.ascending)

omit [Std.TransOrd α] [Std.LawfulEqOrd α] in
theorem isEmpty_iff {m : OrdMap α β} : m.isEmpty = true ↔ m = empty := by
  constructor
  · intro h
    exact ext_entries (List.isEmpty_iff.mp h)
  · rintro rfl
    rfl

end OrdMap

namespace Json

/-! ## 2. Induction over the parts -/

/-- What holds of a value if it holds of its items and of its members' values holds of all
values. -/
@[elab_as_elim]
theorem partsInduction {P : Json → Prop} (null : P .null) (bool : ∀ b, P (.bool b))
    (int : ∀ n, P (.int n)) (float : ∀ x, P (.float x)) (str : ∀ s, P (.str s))
    (arr : ∀ items, (∀ item ∈ items, P item) → P (.arr items))
    (obj : ∀ members, (∀ m ∈ members, P m.2) → P (.obj members)) : ∀ j, P j
  | .null => null
  | .bool b => bool b
  | .int n => int n
  | .float x => float x
  | .str s => str s
  | .arr items => arr items fun item _ => partsInduction null bool int float str arr obj item
  | .obj members => obj members fun m _ => partsInduction null bool int float str arr obj m.2
termination_by j => sizeOf j
decreasing_by
  · rename_i hitem
    have := List.sizeOf_lt_of_mem hitem
    simp only [Json.arr.sizeOf_spec]
    omega
  · rename_i hm
    have := List.sizeOf_lt_of_mem hm
    obtain ⟨name, value⟩ := m
    simp only [Json.obj.sizeOf_spec, Prod.mk.sizeOf_spec] at *
    omega

/-! ## 3. What holds of all parts -/

mutual

/-- A property of a value and of everything inside it. -/
def Everywhere (p : Json → Prop) : Json → Prop
  | .arr items => p (.arr items) ∧ EverywhereInItems p items
  | .obj members => p (.obj members) ∧ EverywhereInMembers p members
  | .null => p .null
  | .bool b => p (.bool b)
  | .int n => p (.int n)
  | .float x => p (.float x)
  | .str s => p (.str s)

/-- A property of everything inside items. -/
def EverywhereInItems (p : Json → Prop) : List Json → Prop
  | [] => True
  | item :: rest => Everywhere p item ∧ EverywhereInItems p rest

/-- A property of everything inside members. -/
def EverywhereInMembers (p : Json → Prop) : List (String × Json) → Prop
  | [] => True
  | (_, value) :: rest => Everywhere p value ∧ EverywhereInMembers p rest

end

variable {p q : Json → Prop} {items : List Json} {members : List (String × Json)}

theorem everywhereInItems_iff :
    EverywhereInItems p items ↔ ∀ item ∈ items, item.Everywhere p := by
  induction items with
  | nil => exact iff_of_true trivial (List.forall_mem_nil _)
  | cons item rest ih => rw [EverywhereInItems, List.forall_mem_cons, ih]

theorem everywhereInMembers_iff :
    EverywhereInMembers p members ↔ ∀ m ∈ members, m.2.Everywhere p := by
  induction members with
  | nil => exact iff_of_true trivial (List.forall_mem_nil _)
  | cons m rest ih => rw [EverywhereInMembers, List.forall_mem_cons, ih]

theorem everywhere_arr_iff :
    (arr items).Everywhere p ↔ p (.arr items) ∧ ∀ item ∈ items, item.Everywhere p := by
  rw [Everywhere, everywhereInItems_iff]

theorem everywhere_obj_iff :
    (obj members).Everywhere p ↔ p (.obj members) ∧ ∀ m ∈ members, m.2.Everywhere p := by
  rw [Everywhere, everywhereInMembers_iff]

theorem Everywhere.self {j : Json} (h : j.Everywhere p) : p j := by
  cases j with
  | null | bool | int | float | str => exact h
  | arr items => exact h.1
  | obj members => exact h.1

theorem Everywhere.mono (h : ∀ j, p j → q j) {j : Json} : j.Everywhere p → j.Everywhere q := by
  induction j using partsInduction with
  | null | bool | int | float | str => exact h _
  | arr items ih =>
    rw [everywhere_arr_iff, everywhere_arr_iff]
    exact fun hp => ⟨h _ hp.1, fun item hi => ih item hi (hp.2 item hi)⟩
  | obj members ih =>
    rw [everywhere_obj_iff, everywhere_obj_iff]
    exact fun hp => ⟨h _ hp.1, fun m hm => ih m hm (hp.2 m hm)⟩

/-! ## 4. Nesting -/

mutual

/-- How many arrays and objects of a value stand inside one another. -/
def depth : Json → Nat
  | .arr items => depthOfItems items + 1
  | .obj members => depthOfMembers members + 1
  | .null => 0
  | .bool _ => 0
  | .int _ => 0
  | .float _ => 0
  | .str _ => 0

/-- The greatest depth of an item. -/
def depthOfItems : List Json → Nat
  | [] => 0
  | item :: rest => max (depth item) (depthOfItems rest)

/-- The greatest depth of a member's value. -/
def depthOfMembers : List (String × Json) → Nat
  | [] => 0
  | (_, value) :: rest => max (depth value) (depthOfMembers rest)

end

theorem depthOfItems_le_iff {n : Nat} :
    depthOfItems items ≤ n ↔ ∀ item ∈ items, item.depth ≤ n := by
  induction items with
  | nil => exact iff_of_true (Nat.zero_le n) (List.forall_mem_nil _)
  | cons item rest ih => rw [depthOfItems, List.forall_mem_cons, Nat.max_le, ih]

theorem depthOfMembers_le_iff {n : Nat} :
    depthOfMembers members ≤ n ↔ ∀ m ∈ members, m.2.depth ≤ n := by
  induction members with
  | nil => exact iff_of_true (Nat.zero_le n) (List.forall_mem_nil _)
  | cons m rest ih => rw [depthOfMembers, List.forall_mem_cons, Nat.max_le, ih]

/-! ## 5. Regular values -/

/-- A value that is no floating-point number. -/
def IsExact : Json → Prop
  | .float _ => False
  | _ => True

/-- An integer of 64 bits, with or without a sign, or no integer. -/
def InRange : Json → Prop
  | .int n => -9_223_372_036_854_775_808 ≤ n ∧ n < 18_446_744_073_709_551_616
  | _ => True

/-- An object whose members are in order, or no object. -/
def Ascends : Json → Prop
  | .obj members => members.Pairwise fun a b => compare a.1 b.1 = .lt
  | _ => True

/-- Without floating-point numbers anywhere. -/
abbrev FloatFree (j : Json) : Prop := j.Everywhere IsExact

/-- With integers of 64 bits only, and with the members of all objects in order. -/
abbrev Regular (j : Json) : Prop := j.Everywhere fun part => part.InRange ∧ part.Ascends

theorem canonicalItems_eq_map : canonicalItems items = items.map canonical := by
  induction items with
  | nil => rfl
  | cons item rest ih => rw [canonicalItems, ih, List.map_cons]

theorem canonicalMembers_eq_map :
    canonicalMembers members = members.map fun m => (m.1, m.2.canonical) := by
  induction members with
  | nil => rfl
  | cons m rest ih => rw [canonicalMembers, ih, List.map_cons]

/-- **A value whose members are in order is canonical.** -/
theorem canonical_eq_self {j : Json} (h : j.Everywhere Ascends) : j.canonical = j := by
  induction j using partsInduction with
  | null | bool | int | float | str => rw [canonical]
  | arr items ih =>
    rw [everywhere_arr_iff] at h
    have hitems : items.map canonical = items :=
      (List.map_congr_left fun item hi => ih item hi (h.2 item hi)).trans (List.map_id items)
    rw [canonical, canonicalItems_eq_map, hitems]
  | obj members ih =>
    rw [everywhere_obj_iff] at h
    have hvalues : members.map (fun m => (m.1, m.2.canonical)) = members :=
      (List.map_congr_left fun m hm => by rw [ih m hm (h.2 m hm), id_eq]).trans
        (List.map_id members)
    rw [canonical, object, canonicalMembers_eq_map, hvalues, OrdMap.entries_ofList h.1]

/-- **The canonical form is regular,** if the integers have 64 bits. -/
theorem regular_canonical {j : Json} (h : j.Everywhere InRange) : j.canonical.Regular := by
  induction j using partsInduction with
  | null | bool | float | str => exact ⟨trivial, trivial⟩
  | int n => exact ⟨h, trivial⟩
  | arr items ih =>
    rw [everywhere_arr_iff] at h
    rw [canonical, Regular, everywhere_arr_iff, canonicalItems_eq_map, List.forall_mem_map]
    exact ⟨⟨trivial, trivial⟩, fun item hi => ih item hi (h.2 item hi)⟩
  | obj members ih =>
    rw [everywhere_obj_iff] at h
    rw [canonical, object, Regular, everywhere_obj_iff, canonicalMembers_eq_map]
    refine ⟨⟨trivial, OrdMap.ascending _⟩, fun m hm => ?_⟩
    obtain ⟨m', hm', rfl⟩ := List.mem_map.mp (OrdMap.mem_ofList hm)
    exact ih m' hm' (h.2 m' hm')

end Json

end GrantLedger
