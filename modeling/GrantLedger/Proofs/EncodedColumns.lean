import GrantLedger.Proofs.ExtendedModels
import Mathlib.Logic.Function.Basic

/-!
# Encoded columns hold what was put into them

Lists of texts, localized texts and property bags stand in one text column each.  All three are JSON
without blanks, in which a text is written as it is but for the quote, the backslash and the
characters below U+0020 (section 1).

* Lists and localized texts always come back as they were (`texts_and_localized_round_trip`).
* Property bags come back without floating-point numbers, up to the limit of the nesting
  (`bags_round_trip`).
* Beyond this limit a bag is accepted and stored, but never shown again
  (`properties_of_setProperties`, `deep_bag_not_shown`).  The writer has no limit of its own.
-/

namespace GrantLedger

/-! ## 1. The written form -/

namespace Json

/-- The quote, the backslash and the characters below U+0020 are escaped, and no others. -/
theorem escapeChar_eq_self_iff (c : Char) :
    escapeChar c = [c] ↔ c ≠ '"' ∧ c ≠ '\\' ∧ 32 ≤ c.toNat := by
  unfold escapeChar
  split
  · next h => simp [h]
  split
  · next h => simp [h]
  split
  · next h => simp [h]
  split
  · next h => simp [h]
  split
  · next h => simp [h]
  split
  · next h => simp [h]
  split
  · next h => simp [h]
  split
  · next h => simp [h]
  · next hquote hbackslash _ _ _ _ _ hcontrol => simp [hquote, hbackslash, Nat.le_of_not_lt hcontrol]

/-- A member as it is written. -/
def renderMember (m : String × Json) : List Char := renderString m.1 ++ ':' :: renderChars m.2

theorem renderItems_eq (item : Json) (rest : List Json) :
    renderChars item ++ renderItems rest =
      [','].intercalate ((item :: rest).map renderChars) ++ [']'] := by
  induction rest generalizing item with
  | nil => simp [renderItems]
  | cons next rest ih =>
    rw [renderItems, ih]
    simp [List.intercalate_cons_cons]

theorem renderMembers_eq (m : String × Json) (rest : List (String × Json)) :
    renderMember m ++ renderMembers rest =
      [','].intercalate ((m :: rest).map renderMember) ++ ['\x7d'] := by
  induction rest generalizing m with
  | nil => simp [renderMembers]
  | cons next rest ih =>
    have hnext : renderMembers (next :: rest) = ',' :: (renderMember next ++ renderMembers rest) := by
      obtain ⟨name, value⟩ := next
      simp [renderMembers, renderMember]
    rw [hnext, ih]
    simp [List.intercalate_cons_cons]

/-- An array is its items between brackets, with commas and no blanks. -/
theorem renderChars_arr (items : List Json) :
    (arr items).renderChars = '[' :: ([','].intercalate (items.map renderChars) ++ [']']) := by
  cases items with
  | nil => rfl
  | cons item rest => rw [renderChars, renderItems_eq]

/-- An object is its members between braces, with commas and no blanks. -/
theorem renderChars_obj (members : List (String × Json)) :
    (obj members).renderChars =
      '\x7b' :: ([','].intercalate (members.map renderMember) ++ ['\x7d']) := by
  cases members with
  | nil => rfl
  | cons m rest =>
    rw [← renderMembers_eq]
    obtain ⟨name, value⟩ := m
    simp [renderChars, renderMember]

end Json

namespace Codec

open Json

/-! ## 2. Lists and localized texts -/

/-- Values that are written and read one by one. -/
theorem mapM_map_eq_some {α β : Type} {f : α → β} {g : β → Option α} (h : ∀ a, g (f a) = some a)
    (l : List α) : (l.map f).mapM g = some l := by
  induction l with
  | nil => rfl
  | cons a l ih => simp [List.mapM_cons, h, ih]

/-- Texts are no containers, so a list of them is read as it was written. -/
theorem readAsWritten?_ofTexts (values : List String) :
    readAsWritten? (ofTexts values).render = some (ofTexts values) := by
  refine readAsWritten?_render ?_ ?_ ?_
  · rw [ofTexts, FloatFree, everywhere_arr_iff, List.forall_mem_map]
    exact ⟨trivial, fun _ _ => trivial⟩
  · rw [ofTexts, everywhere_arr_iff, List.forall_mem_map]
    exact ⟨trivial, fun _ _ => trivial⟩
  · refine Nat.succ_le_succ (depthOfItems_le_iff.mpr ?_)
    rw [List.forall_mem_map]
    exact fun _ _ => Nat.zero_le _

theorem readAsWritten?_localizedJson (values : Localized) :
    readAsWritten? (localizedJson values).render = some (localizedJson values) := by
  refine readAsWritten?_render ?_ ?_ ?_
  · rw [localizedJson, FloatFree, everywhere_obj_iff, List.forall_mem_map]
    exact ⟨trivial, fun _ _ => trivial⟩
  · rw [localizedJson, everywhere_obj_iff, List.forall_mem_map]
    exact ⟨trivial, fun _ _ => trivial⟩
  · refine Nat.succ_le_succ (depthOfMembers_le_iff.mpr ?_)
    rw [List.forall_mem_map]
    exact fun _ _ => Nat.zero_le _

theorem decodeList_encodeList (values : List String) :
    decodeList (encodeList values) = .ok values := by
  unfold encodeList
  split
  · next hempty =>
    rw [List.isEmpty_iff.mp hempty]
    rfl
  · have htexts : (ofTexts values).texts? = some values := by
      refine mapM_map_eq_some (g := text?) ?_ values
      exact fun _ => rfl
    simp only [decodeList, readAsWritten?_ofTexts, Option.bind_some, htexts]

theorem decodeLocalized_encodeLocalized (values : Localized) :
    decodeLocalized (encodeLocalized values) = .ok values := by
  unfold encodeLocalized
  split
  · next hempty =>
    rw [OrdMap.isEmpty_iff.mp hempty]
    rfl
  · have hmembers : (values.entries.map fun e => (e.1, str e.2)).mapM
        (fun m => m.2.text?.map fun s => (m.1, s)) = some values.entries := by
      refine mapM_map_eq_some ?_ values.entries
      exact fun _ => rfl
    have hlocalized : localized? (localizedJson values) = some values := by
      rw [localizedJson, localized?, hmembers, Option.map_some, OrdMap.ofList_entries]
    simp only [decodeLocalized, readAsWritten?_localizedJson, Option.bind_some, hlocalized]

/-- The text of a list. -/
theorem encodeList_eq (values : List String) :
    encodeList values = if values = [] then none else some (String.ofList
      ('[' :: ([','].intercalate (values.map renderString) ++ [']']))) := by
  have hitems : (values.map str).map renderChars = values.map renderString := by
    simp [renderChars]
  rw [encodeList, render, ofTexts, renderChars_arr, hitems]
  simp only [List.isEmpty_iff]

/-- The text of localized texts. -/
theorem encodeLocalized_eq (values : Localized) :
    encodeLocalized values = if values = .empty then none else some (String.ofList
      ('\x7b' :: ([','].intercalate (values.entries.map fun e =>
        renderString e.1 ++ ':' :: renderString e.2) ++ ['\x7d']))) := by
  have hmembers : (values.entries.map fun e => (e.1, str e.2)).map renderMember =
      values.entries.map fun e => renderString e.1 ++ ':' :: renderString e.2 := by
    simp [renderMember, renderChars]
  rw [encodeLocalized, render, localizedJson, renderChars_obj, hmembers]
  simp only [OrdMap.isEmpty_iff]

/-- **Lists and localized texts come back as they were,** whatever the texts are.  Nothing but what
is empty is encoded as no text, and different values are encoded differently.  The text is JSON
without blanks, in which only the quote, the backslash and the characters below U+0020 are
escaped. -/
theorem texts_and_localized_round_trip :
    (∀ values : List String, decodeList (encodeList values) = .ok values ∧
      encodeList values = if values = [] then none else some (String.ofList
        ('[' :: ([','].intercalate (values.map renderString) ++ [']'])))) ∧
    (∀ values : Localized, decodeLocalized (encodeLocalized values) = .ok values ∧
      encodeLocalized values = if values = .empty then none else some (String.ofList
        ('\x7b' :: ([','].intercalate (values.entries.map fun e =>
          renderString e.1 ++ ':' :: renderString e.2) ++ ['\x7d'])))) ∧
    Function.Injective encodeList ∧ Function.Injective encodeLocalized ∧
    (∀ s : String, renderString s = '"' :: (s.toList.flatMap escapeChar ++ ['"'])) ∧
    ∀ c : Char, escapeChar c = [c] ↔ c ≠ '"' ∧ c ≠ '\\' ∧ 32 ≤ c.toNat := by
  refine ⟨fun values => ⟨decodeList_encodeList values, encodeList_eq values⟩,
    fun values => ⟨decodeLocalized_encodeLocalized values, encodeLocalized_eq values⟩, ?_, ?_,
    fun _ => rfl, escapeChar_eq_self_iff⟩
  · intro values values' h
    have hdecoded := congrArg decodeList h
    rw [decodeList_encodeList, decodeList_encodeList] at hdecoded
    exact Except.ok.inj hdecoded
  · intro values values' h
    have hdecoded := congrArg decodeLocalized h
    rw [decodeLocalized_encodeLocalized, decodeLocalized_encodeLocalized] at hdecoded
    exact Except.ok.inj hdecoded

example : encodeList ["", "a\"b\\c\n\x01😀"] = some "[\"\",\"a\\\"b\\\\c\\n\\u0001😀\"]" := by
  decide +kernel

/-! ## 3. Property bags -/

/-- The text of a property bag. -/
theorem encodeProperties_eq (bag : Properties) :
    encodeProperties bag = if bag.isEmpty then none else some (String.ofList
      ('\x7b' :: ([','].intercalate (bag.entries.map renderMember) ++ ['\x7d']))) := by
  rw [encodeProperties, render, propertiesJson, renderChars_obj]

/-- **Property bags come back as they were,** if they hold no floating-point numbers, their integers
have 64 bits with or without a sign, and at most 127 arrays and objects stand inside one another,
the bag itself included.  Nothing but the empty bag is encoded as no text. -/
theorem bags_round_trip {bag : Properties} (hregular : (propertiesJson bag).Regular)
    (hfloat : (propertiesJson bag).FloatFree) (hdepth : (propertiesJson bag).depth ≤ 127) :
    decodeProperties (encodeProperties bag) = .ok bag ∧
      (encodeProperties bag = none ↔ bag = .empty) ∧
      encodeProperties bag = if bag.isEmpty then none else some (String.ofList
        ('\x7b' :: ([','].intercalate (bag.entries.map renderMember) ++ ['\x7d']))) :=
  ⟨decodeProperties_encodeProperties hregular hfloat hdepth, encodeProperties_eq_none_iff,
    encodeProperties_eq bag⟩

/-- A bag with the greatest and the least integer and an object, for examples.  As many arrays stand
around them as there may be. -/
def brimfulBag : Properties :=
  (OrdMap.empty.insert "deep" (nested 124 (.arr [.int 18446744073709551615,
    .int (-9223372036854775808), .obj [("", .bool true)]]))).insert "text" (.str "\"\\\n\x01😀")

/-- A bag that uses up the nesting and the range of integers. -/
theorem bags_round_trip_brimful :
    (propertiesJson brimfulBag).Regular ∧ (propertiesJson brimfulBag).FloatFree ∧
      (propertiesJson brimfulBag).depth = 127 ∧
      decodeProperties (encodeProperties brimfulBag) = .ok brimfulBag := by
  have hregular : (propertiesJson brimfulBag).Regular := by
    refine regular_insert (regular_insert regular_empty ?_) ⟨trivial, trivial⟩
    refine everywhere_nested (fun _ => ⟨trivial, trivial⟩) _ ⟨⟨trivial, trivial⟩, ?_⟩
    exact ⟨⟨⟨by decide, by decide⟩, trivial⟩, ⟨⟨by decide, by decide⟩, trivial⟩,
      ⟨⟨trivial, List.pairwise_singleton _ _⟩, ⟨trivial, trivial⟩, trivial⟩, trivial⟩
  have hfloat : (propertiesJson brimfulBag).FloatFree := by
    refine floatFree_insert (floatFree_insert floatFree_empty ?_) trivial
    exact everywhere_nested (fun _ => trivial) _
      ⟨trivial, trivial, trivial, ⟨trivial, trivial, trivial⟩, trivial⟩
  have hdepth : (propertiesJson brimfulBag).depth = 127 := by decide +kernel
  exact ⟨hregular, hfloat, hdepth, (bags_round_trip hregular hfloat (Nat.le_of_eq hdepth)).1⟩

end Codec

namespace Store

open Json

variable {M R K : Type} [Record R K] [Model M R K] [PropertyColumn R K] [LawfulModel M]

/-! ## 4. The bag of an entity -/

/-- **The bag of an entity is shown as it was set exactly up to the limit of the nesting.**  Beyond
it the entity holds a text of the bag all the same, and showing it fails. -/
theorem properties_of_setProperties (m : M) {values : Properties}
    (hregular : (Codec.propertiesJson values).Regular)
    (hfloat : (Codec.propertiesJson values).FloatFree) :
    properties (PropertyColumn.field : TextField R)
        (setProperties (PropertyColumn.field : TextField R) m values) =
      if (Codec.propertiesJson values).depth ≤ 127 then .ok values
      else .error (Codec.malformed "property" (Codec.propertiesJson values).render) := by
  refine (bag?_setProperties m values).trans ?_
  split
  · next hdepth => exact Codec.decodeProperties_encodeProperties hregular hfloat hdepth
  · next hdepth =>
    exact (Codec.decodeProperties_encodeProperties_of_deep hregular hfloat
      (Nat.lt_of_not_le hdepth)).2

/-- A bag with a value inside a number of arrays, for examples. -/
def deepBag (n : Nat) : Properties := OrdMap.empty.insert "a" (nested n .null)

theorem regular_deepBag (n : Nat) : (Codec.propertiesJson (deepBag n)).Regular :=
  Codec.regular_insert Codec.regular_empty
    (everywhere_nested (fun _ => ⟨trivial, trivial⟩) n ⟨trivial, trivial⟩)

theorem floatFree_deepBag (n : Nat) : (Codec.propertiesJson (deepBag n)).FloatFree :=
  Codec.floatFree_insert Codec.floatFree_empty (everywhere_nested (fun _ => trivial) n trivial)

theorem depth_deepBag (n : Nat) : (Codec.propertiesJson (deepBag n)).depth = n + 1 := by
  change max (nested n .null).depth 0 + 1 = n + 1
  rw [depth_nested]
  simp [Json.depth]

/-- The deepest bag that a token shows. -/
theorem properties_of_setProperties_deepest :
    (Codec.propertiesJson (deepBag 126)).Regular ∧ (Codec.propertiesJson (deepBag 126)).FloatFree ∧
      properties Token.propertiesField
        (setProperties Token.propertiesField ({} : Token Int64) (deepBag 126)) =
        .ok (deepBag 126) := by
  refine ⟨regular_deepBag 126, floatFree_deepBag 126, ?_⟩
  refine (properties_of_setProperties ({} : Token Int64) (regular_deepBag 126)
    (floatFree_deepBag 126)).trans ?_
  rw [depth_deepBag, if_pos (Nat.le_refl 127)]

/-- With one array more, a scope takes the bag and does not show it. -/
theorem deep_bag_not_shown :
    (setProperties Scope.propertiesField ({} : Scope String) (deepBag 127)).properties =
        some (Codec.propertiesJson (deepBag 127)).render ∧
      properties Scope.propertiesField
        (setProperties Scope.propertiesField ({} : Scope String) (deepBag 127)) =
        .error (Codec.malformed "property" (Codec.propertiesJson (deepBag 127)).render) :=
  Codec.decodeProperties_encodeProperties_of_deep (regular_deepBag 127) (floatFree_deepBag 127)
    (by rw [depth_deepBag]; decide)

end Store

end GrantLedger
