import GrantLedger.Codec
import GrantLedger.Proofs.JsonNesting

/-!
# Property bags are decoded as they were encoded

A property bag is stored as the text of a JSON object.  Without floating-point numbers it comes back
from its text (`decodeProperties_encodeProperties`), if its values are regular and not nested too
deeply.  A bag that is nested too deeply is encoded all the same, and its text is refused
(`decodeProperties_encodeProperties_of_deep`).  The values of a bag that was decoded are always
regular (`regular_of_decodeProperties`).
-/

namespace GrantLedger.Codec

open Json

variable {bag : Properties}

theorem regular_propertiesJson_iff :
    (propertiesJson bag).Regular ↔ ∀ m ∈ bag.entries, m.2.Regular := by
  rw [propertiesJson, Regular, everywhere_obj_iff]
  exact and_iff_right ⟨trivial, bag.ascending⟩

theorem floatFree_propertiesJson_iff :
    (propertiesJson bag).FloatFree ↔ ∀ m ∈ bag.entries, m.2.FloatFree := by
  rw [propertiesJson, FloatFree, everywhere_obj_iff]
  exact and_iff_right trivial

theorem regular_empty : (propertiesJson .empty).Regular :=
  regular_propertiesJson_iff.mpr (List.forall_mem_nil _)

theorem floatFree_empty : (propertiesJson .empty).FloatFree :=
  floatFree_propertiesJson_iff.mpr (List.forall_mem_nil _)

/-- A regular bag with a regular value more is regular. -/
theorem regular_insert {name : String} {value : Json} (hbag : (propertiesJson bag).Regular)
    (hvalue : value.Regular) : (propertiesJson (bag.insert name value)).Regular := by
  rw [regular_propertiesJson_iff] at hbag ⊢
  intro m hm
  rcases OrdMap.mem_insertEntry hm with rfl | hm
  · exact hvalue
  · exact hbag m hm

theorem floatFree_insert {name : String} {value : Json} (hbag : (propertiesJson bag).FloatFree)
    (hvalue : value.FloatFree) : (propertiesJson (bag.insert name value)).FloatFree := by
  rw [floatFree_propertiesJson_iff] at hbag ⊢
  intro m hm
  rcases OrdMap.mem_insertEntry hm with rfl | hm
  · exact hvalue
  · exact hbag m hm

/-- **A bag that was decoded is regular.** -/
theorem regular_of_decodeProperties {encoded : Option String}
    (h : decodeProperties encoded = .ok bag) : (propertiesJson bag).Regular := by
  rw [regular_propertiesJson_iff]
  cases encoded with
  | none =>
    cases h
    exact List.forall_mem_nil _
  | some text =>
    simp only [decodeProperties] at h
    split at h
    · next values hread =>
      cases h
      obtain ⟨j, hj, hmembers⟩ := Option.bind_eq_some_iff.mp hread
      have hrange := inRange_of_readAsWritten? hj
      cases j with
      | null | bool | int | float | str | arr => cases hmembers
      | obj members =>
        cases hmembers
        rw [everywhere_obj_iff] at hrange
        intro m hm
        rw [canonicalMembers_eq_map] at hm
        obtain ⟨m', hm', rfl⟩ := List.mem_map.mp (OrdMap.mem_ofList hm)
        exact regular_canonical (hrange.2 m' hm')
    · cases h

/-- Members in order, with regular values, are the entries of their map. -/
theorem properties?_propertiesJson (h : (propertiesJson bag).Regular) :
    properties? (propertiesJson bag) = some bag := by
  rw [regular_propertiesJson_iff] at h
  have hvalues : bag.entries.map (fun m => (m.1, m.2.canonical)) = bag.entries :=
    (List.map_congr_left fun m hm => by
      rw [canonical_eq_self ((h m hm).mono fun _ => And.right), id_eq]).trans (List.map_id _)
  rw [propertiesJson, properties?, canonicalMembers_eq_map, hvalues, OrdMap.ofList_entries]

/-- Nothing but an empty bag is encoded as no text. -/
theorem encodeProperties_eq_none_iff : encodeProperties bag = none ↔ bag = .empty := by
  unfold encodeProperties
  split
  · next h => exact iff_of_true rfl (OrdMap.isEmpty_iff.mp h)
  · next h => exact iff_of_false (fun hnone => by cases hnone) fun he => h (OrdMap.isEmpty_iff.mpr he)

/-- **A bag without floating-point numbers is decoded as it was encoded.** -/
theorem decodeProperties_encodeProperties (hregular : (propertiesJson bag).Regular)
    (hfloat : (propertiesJson bag).FloatFree) (hdepth : (propertiesJson bag).depth ≤ nestingLimit) :
    decodeProperties (encodeProperties bag) = .ok bag := by
  rw [encodeProperties]
  split
  · next hempty =>
    rw [OrdMap.isEmpty_iff.mp hempty]
    rfl
  · have hread := readAsWritten?_render hfloat (hregular.mono fun _ => And.left) hdepth
    simp only [decodeProperties, hread, Option.bind_some, properties?_propertiesJson hregular]

/-- **A bag that is nested too deeply is encoded, but it is not decoded.** -/
theorem decodeProperties_encodeProperties_of_deep (hregular : (propertiesJson bag).Regular)
    (hfloat : (propertiesJson bag).FloatFree) (hdepth : nestingLimit < (propertiesJson bag).depth) :
    encodeProperties bag = some (propertiesJson bag).render ∧
      decodeProperties (encodeProperties bag) =
        .error (malformed "property" (propertiesJson bag).render) := by
  have hne : bag ≠ .empty := by
    rintro rfl
    exact absurd hdepth (by decide)
  have htext : encodeProperties bag = some (propertiesJson bag).render := by
    rw [encodeProperties, if_neg fun h => hne (OrdMap.isEmpty_iff.mp h)]
  have hread := readAsWritten?_render_of_deep hfloat (hregular.mono fun _ => And.left) hdepth
  refine ⟨htext, ?_⟩
  rw [htext]
  simp only [decodeProperties, hread, Option.bind_none]

end GrantLedger.Codec
