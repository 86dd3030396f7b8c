import GrantLedger.Proofs.SqlConditions

/-!
# Patterns

What a pattern matches is said here by rules, one for each thing that a pattern can hold
(`Matches`).  The function that the meaning of statements looks at, `likes`, follows these rules,
as long as no backslash ends the pattern with nothing to take (`likes_iff_matches`).  The database
refuses such a pattern, and by the rules it matches nothing.

A search for a part of a text binds the part between percent signs, with every character that has a
meaning in a pattern escaped.  `contains_pattern_exact` is the main result: this pattern matches a
text exactly if the text has the part, wherever percent signs, underscores and backslashes stand in
either of them.
-/

namespace GrantLedger

namespace Sql

/-! ## 1. Matching by rules -/

/-- The texts that a pattern matches. -/
inductive Matches : List Char → List Char → Prop
  | nil : Matches [] []
  /-- A percent sign stands for any text. -/
  | any {pattern rest : List Char} (part : List Char) (tail : Matches pattern rest) :
      Matches ('%' :: pattern) (part ++ rest)
  /-- An underscore stands for any character. -/
  | one {pattern rest : List Char} (c : Char) (tail : Matches pattern rest) :
      Matches ('_' :: pattern) (c :: rest)
  /-- A backslash takes the character after it literally. -/
  | escaped {pattern rest : List Char} (c : Char) (tail : Matches pattern rest) :
      Matches ('\\' :: c :: pattern) (c :: rest)
  /-- Every other character stands for itself. -/
  | literal {pattern rest : List Char} (c : Char) (plain : c ≠ '%' ∧ c ≠ '_' ∧ c ≠ '\\')
      (tail : Matches pattern rest) : Matches (c :: pattern) (c :: rest)

/-- Whether every backslash of a pattern that takes a character literally has one to take. -/
def closed : List Char → Bool
  | [] => true
  | ['\\'] => false
  | '\\' :: _ :: pattern => closed pattern
  | _ :: pattern => closed pattern

/-- What the rules allow is found. -/
theorem likes_of_matches {pattern text : List Char} (h : Matches pattern text) :
    likes pattern text = true := by
  induction h with
  | nil => rfl
  | any part _ ih => exact (likes_percent _ _).mpr ⟨_, List.suffix_append part _, ih⟩
  | one c _ ih => simpa [likes] using ih
  | escaped c _ ih => simpa [likes] using ih
  | literal c plain _ ih => simpa [likes, plain] using ih

/-- What is found is allowed by the rules. -/
theorem matches_of_likes {pattern text : List Char} (hclosed : closed pattern = true)
    (h : likes pattern text = true) : Matches pattern text := by
  -- along the pattern alone: a percent sign leaves open how much of the text it takes
  fun_induction closed pattern generalizing text with
  | case1 =>
    rw [likes, List.isEmpty_iff] at h
    rw [h]
    exact .nil
  | case2 => cases hclosed
  | case3 c pattern ih =>
    cases text with
    | nil => simp [likes] at h
    | cons d rest =>
      simp only [likes, Bool.and_eq_true, beq_iff_eq] at h
      obtain ⟨rfl, hrest⟩ := h
      exact .escaped _ (ih hclosed hrest)
  | case4 c pattern halone hescapes ih =>
    have hslash : c ≠ '\\' := by
      rintro rfl
      cases pattern with
      | nil => exact halone rfl rfl
      | cons d rest => exact hescapes d rest rfl rfl
    by_cases hpercent : c = '%'
    · subst hpercent
      obtain ⟨rest, ⟨part, rfl⟩, hrest⟩ := (likes_percent _ _).mp h
      exact .any part (ih hclosed hrest)
    by_cases hunderscore : c = '_'
    · subst hunderscore
      cases text with
      | nil => simp [likes] at h
      | cons d rest => exact .one d (ih hclosed (by simpa [likes] using h))
    have hplain : c ≠ '%' ∧ c ≠ '_' ∧ c ≠ '\\' := ⟨hpercent, hunderscore, hslash⟩
    cases text with
    | nil => simp [likes] at h
    | cons d rest =>
      simp only [likes, Bool.and_eq_true, beq_iff_eq] at h
      obtain ⟨rfl, hrest⟩ := h
      exact .literal c hplain (ih hclosed hrest)

/-- **The function follows the rules.** -/
theorem likes_iff_matches {pattern : List Char} (h : closed pattern = true) (text : List Char) :
    likes pattern text = true ↔ Matches pattern text :=
  ⟨matches_of_likes h, likes_of_matches⟩

/-! ## 2. Parts of texts -/

theorem closed_cons {c : Char} (h : c ≠ '\\') (pattern : List Char) :
    closed (c :: pattern) = closed pattern := by
  cases pattern <;> simp [closed, h]

/-- Escaping leaves no backslash without a character to take. -/
theorem closed_escapeLike_append (needle : List Char) {pattern : List Char}
    (h : closed pattern = true) : closed (escapeLike needle ++ pattern) = true := by
  induction needle with
  | nil => exact h
  | cons c needle ih =>
    rw [escapeLike]
    split
    · exact ih
    · next hplain => rwa [List.cons_append, closed_cons fun h => hplain (.inl h)]

/-- A text that has another one as a part, as a sum of texts. -/
theorem containsText_iff_exists_append (needle text : String) :
    containsText needle text = true ↔ ∃ before after, text = before ++ needle ++ after := by
  rw [containsText_iff]
  constructor
  · rintro ⟨before, after, h⟩
    refine ⟨.ofList before, .ofList after, String.toList_injective ?_⟩
    simp [← h]
  · rintro ⟨before, after, rfl⟩
    exact ⟨before.toList, after.toList, by simp⟩

/-- **Searching for a part is exact.**  The test for a part is bound as the part between percent
signs, escaped.  This pattern matches a text exactly if the text is the part with something before
and something after it, and exactly if the test holds of the text in memory. -/
theorem contains_pattern_exact (needle text : String) :
    let pattern := '%' :: escapeLike needle.toList ++ ['%']
    (∀ key column slot, bindPredicate key column slot (.contains needle) =
      .ok (.like (Sql.column column.name) slot, [.text (some (String.ofList pattern))])) ∧
    (Matches pattern text.toList ↔ ∃ before after, text = before ++ needle ++ after) ∧
    (Matches pattern text.toList ↔ (Predicate.contains needle).holds (.text text) = true) := by
  intro pattern
  have hclosed : closed pattern = true := closed_escapeLike_append needle.toList rfl
  have hlikes : likes pattern text.toList = containsText needle text := by
    have := likes_containsPattern needle text
    rwa [containsPattern, String.toList_ofList] at this
  have hmatches : Matches pattern text.toList ↔ containsText needle text = true := by
    rw [← likes_iff_matches hclosed, hlikes]
  exact ⟨fun _ _ _ => rfl, hmatches.trans (containsText_iff_exists_append needle text), hmatches⟩

end Sql

end GrantLedger
