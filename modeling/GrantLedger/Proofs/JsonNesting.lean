import GrantLedger.Proofs.JsonText

/-!
# Values that are nested too deeply

The reader counts the arrays and objects that it is inside of, and it refuses to enter one more than
its bound.  That a deep value is refused is no matter of its text alone, since the reader could come
to another value by another way.  It does not: whatever is read within a bound is within the bound,
and is also what is read within any greater one (`bounded_read`).  With a bound that is great enough
a written value is read as itself, so with a smaller one it is not read at all
(`readAsWritten?_render_of_deep`).
-/

namespace GrantLedger.Json

variable {α β : Type} {size : α → Nat} {size' : β → Nat} {depth depth' more : Nat}
variable {x y : Option (α × List Char)}

/-! ## 1. What a bound does to a reading -/

/-- What the first reading comes to is within a bound, and the second reading comes to it too. -/
def Bounded (size : α → Nat) (depth : Nat) (x y : Option (α × List Char)) : Prop :=
  ∀ r, x = some r → size r.1 ≤ depth ∧ y = some r

theorem bounded_none : Bounded size depth none y := by
  intro r h
  cases h

theorem bounded_self (h : ∀ r, x = some r → size r.1 ≤ depth) : Bounded size depth x x := by
  intro r hr
  exact ⟨h r hr, hr⟩

theorem bounded_some {a : α} {rest : List Char} (h : size a ≤ depth) :
    Bounded size depth (some (a, rest)) (some (a, rest)) := by
  intro r hr
  cases hr
  exact ⟨h, rfl⟩

theorem Bounded.map (hxy : Bounded size depth x y) {f : α → β}
    (hf : ∀ a, size a ≤ depth → size' (f a) ≤ depth') :
    Bounded size' depth' (x.map fun r => (f r.1, r.2)) (y.map fun r => (f r.1, r.2)) := by
  intro r hr
  obtain ⟨a, ha, rfl⟩ := Option.map_eq_some_iff.mp hr
  obtain ⟨hsize, hy⟩ := hxy a ha
  exact ⟨hf a.1 hsize, by rw [hy]; rfl⟩

/-- An array or an object is entered only where the bound is left some room. -/
theorem bounded_enter (hle : depth ≤ more) (h : depth ≠ 0 → Bounded size depth x y) :
    Bounded size depth (if depth = 0 then none else x) (if more = 0 then none else y) := by
  by_cases hzero : depth = 0
  · rw [if_pos hzero]
    exact bounded_none
  · rw [if_neg hzero, if_neg (by omega)]
    exact h hzero

/-! ## 2. The reader -/

/-- **What is read within a bound is within the bound, and a greater bound does not change it.**  By
induction on the number of steps, for values, items and members together. -/
theorem bounded_read (fuel : Nat) : ∀ {depth more : Nat}, depth ≤ more →
    (∀ cs, Bounded Json.depth depth (readValue fuel depth cs) (readValue fuel more cs)) ∧
    (∀ cs, Bounded depthOfItems depth (readItems fuel depth cs) (readItems fuel more cs)) ∧
    ∀ cs, Bounded depthOfMembers depth (readMembers fuel depth cs) (readMembers fuel more cs) := by
  induction fuel with
  | zero =>
    intro depth more _
    exact ⟨fun _ => bounded_none, fun _ => bounded_none, fun _ => bounded_none⟩
  | succ fuel ih =>
    intro depth more hle
    obtain ⟨hvalue, hitems, hmembers⟩ := ih hle
    refine ⟨fun cs => ?_, fun cs => ?_, fun cs => ?_⟩
    · rw [readValue.eq_2, readValue.eq_2]
      -- both sides look at the same text, so they take the same branch
      split
      · exact bounded_some (Nat.zero_le _)
      · exact bounded_some (Nat.zero_le _)
      · exact bounded_some (Nat.zero_le _)
      · refine bounded_self fun r hr => ?_
        obtain ⟨s, -, rfl⟩ := Option.map_eq_some_iff.mp hr
        exact Nat.zero_le _
      · refine bounded_enter hle fun hzero => ?_
        split
        · exact bounded_some (Nat.pos_of_ne_zero hzero)
        · refine ((ih (Nat.sub_le_sub_right hle 1)).2.1 _).map fun items hdepth => ?_
          rw [Json.depth]
          omega
      · refine bounded_enter hle fun hzero => ?_
        split
        · exact bounded_some (Nat.pos_of_ne_zero hzero)
        · refine ((ih (Nat.sub_le_sub_right hle 1)).2.2 _).map fun members hdepth => ?_
          rw [Json.depth]
          omega
      · refine bounded_self fun r hr => ?_
        rw [(yields_readNumber _ r hr).depth_eq]
        exact Nat.zero_le _
    · rw [readItems, readItems]
      cases hread : readValue fuel depth cs with
      | none => exact bounded_none
      | some r =>
        obtain ⟨hitem, hmore⟩ := hvalue cs r hread
        rw [hmore]
        dsimp only
        split
        · exact (hitems _).map fun items hdepth => Nat.max_le.mpr ⟨hitem, hdepth⟩
        · exact bounded_some (Nat.max_le.mpr ⟨hitem, Nat.zero_le _⟩)
        · exact bounded_none
    · rw [readMembers, readMembers]
      split
      · split
        · exact bounded_none
        · split
          · next rest _ =>
            cases hread : readValue fuel depth rest with
            | none => exact bounded_none
            | some r =>
              obtain ⟨hmember, hmore⟩ := hvalue _ r hread
              rw [hmore]
              dsimp only
              split
              · exact (hmembers _).map fun members hdepth => Nat.max_le.mpr ⟨hmember, hdepth⟩
              · exact bounded_some (Nat.max_le.mpr ⟨hmember, Nat.zero_le _⟩)
              · exact bounded_none
          · exact bounded_none
      · exact bounded_none

/-- **A value without floating-point numbers that is nested too deeply is refused,** if its integers
have 64 bits. -/
theorem readAsWritten?_render_of_deep {j : Json} (hfloat : j.FloatFree)
    (hrange : j.Everywhere InRange) (hdepth : nestingLimit < j.depth) :
    readAsWritten? j.render = none := by
  have hself : readValue (2 * j.renderChars.length + 2) j.depth (j.renderChars ++ []) =
      some (j, []) := reads_of_floatFree hfloat hrange (Nat.le_add_right _ 2) (Nat.le_refl _) trivial
  rw [List.append_nil] at hself
  simp only [readAsWritten?, render, String.toList_ofList]
  cases hread : readValue (2 * j.renderChars.length + 2) nestingLimit j.renderChars with
  | none => rfl
  | some r =>
    obtain ⟨hbound, hmore⟩ := (bounded_read _ (Nat.le_of_lt hdepth)).1 _ r hread
    rw [hself] at hmore
    cases hmore
    exact absurd hbound (Nat.not_le_of_lt hdepth)

/-! ## 3. Values of any depth -/

/-- A value inside a number of arrays. -/
def nested : Nat → Json → Json
  | 0, j => j
  | n + 1, j => .arr [nested n j]

theorem depth_nested (n : Nat) (j : Json) : (nested n j).depth = n + j.depth := by
  induction n with
  | zero => simp [nested]
  | succ n ih =>
    simp only [nested, Json.depth, depthOfItems, ih]
    omega

/-- What holds of all arrays and of a value inside them holds of the whole. -/
theorem everywhere_nested {p : Json → Prop} (harr : ∀ items, p (.arr items)) (n : Nat) {j : Json}
    (h : j.Everywhere p) : (nested n j).Everywhere p := by
  induction n with
  | zero => exact h
  | succ n ih => exact ⟨harr _, ih, trivial⟩

end GrantLedger.Json
